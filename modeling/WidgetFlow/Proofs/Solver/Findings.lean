import WidgetFlow.Solver.Solution

/-!
# What is found and what is kept of it

A relation is looked up by key in rows that ascend, so a pair is found again exactly if it was
inserted, as long as the rows are kept in order (`Relation.Ordered`, which inserting preserves). The
ten maps of a solve are such relations; `Findings.Holds` says which pairs they have, and freezing
them into a solution keeps those pairs.
-/

namespace WidgetFlow

namespace Relation

variable {r : Relation} {key k x i : NodeId}

/-- Rows ascend by key, and the set of each row ascends. -/
structure Ordered (r : Relation) : Prop where
  keys : (r.rows.map (·.1)).Pairwise (· < ·)
  sets : ∀ row ∈ r.rows, row.2.ids.Pairwise (· < ·)

theorem ordered_empty : Ordered {} := ⟨.nil, by simp⟩

theorem mem_keys_insertRow {rows : List (NodeId × NodeSet)} :
    key ∈ (insertRow k i rows).map (·.1) ↔ key = k ∨ key ∈ rows.map (·.1) := by
  induction rows with
  | nil => simp [insertRow]
  | cons row rest ih =>
    obtain ⟨k', set⟩ := row
    unfold insertRow
    split
    case isTrue => simp
    case isFalse =>
      split
      case isTrue same => simp [same]
      case isFalse =>
        rw [List.map_cons, List.mem_cons, ih]
        grind

theorem pairwise_keys_insertRow {rows : List (NodeId × NodeSet)}
    (keys : (rows.map (·.1)).Pairwise (· < ·)) :
    ((insertRow k i rows).map (·.1)).Pairwise (· < ·) := by
  induction rows with
  | nil => simp [insertRow]
  | cons row rest ih =>
    obtain ⟨k', set⟩ := row
    obtain ⟨below, ascending⟩ := List.pairwise_cons.1 keys
    unfold insertRow
    split
    case isTrue less =>
      refine List.pairwise_cons.2 ⟨fun a there => ?_, keys⟩
      rcases List.mem_cons.1 there with rfl | later
      · exact less
      · exact Int.lt_trans less (below a later)
    case isFalse notLess =>
      split
      case isTrue => exact keys
      case isFalse other =>
        refine List.pairwise_cons.2 ⟨fun a there => ?_, ih ascending⟩
        rcases mem_keys_insertRow.1 there with rfl | later
        · exact Int.lt_iff_le_and_ne.2 ⟨Int.not_lt.1 notLess, Ne.symm other⟩
        · exact below a later

theorem sets_insertRow {rows : List (NodeId × NodeSet)}
    (sets : ∀ row ∈ rows, row.2.ids.Pairwise (· < ·)) :
    ∀ row ∈ insertRow k i rows, row.2.ids.Pairwise (· < ·) := by
  have single : (NodeSet.empty.insert i).ids.Pairwise (· < ·) :=
    NodeSet.pairwise_insertAscending .nil
  induction rows with
  | nil => simpa [insertRow] using single
  | cons row rest ih =>
    obtain ⟨k', set⟩ := row
    have here := sets (k', set) (by simp)
    have later := fun row there => sets row (List.mem_cons_of_mem _ there)
    unfold insertRow
    split
    case isTrue => exact List.forall_mem_cons.2 ⟨single, sets⟩
    case isFalse =>
      split
      case isTrue => exact List.forall_mem_cons.2 ⟨NodeSet.pairwise_insertAscending here, later⟩
      case isFalse => exact List.forall_mem_cons.2 ⟨here, ih later⟩

/-- Inserting a pair keeps a relation in order. -/
theorem Ordered.insert (ok : r.Ordered) (k i : NodeId) : (r.insert k i).Ordered :=
  ⟨pairwise_keys_insertRow ok.keys, sets_insertRow ok.sets⟩

theorem lookup_cons_ite {β : Type} {rows : List (NodeId × β)} {v : β} :
    ((k, v) :: rows).lookup key = if key = k then some v else rows.lookup key := by
  rw [List.lookup_cons]
  by_cases same : key = k
  · simp [same]
  · rw [if_neg same, beq_eq_false_iff_ne.2 same]

/-- In rows that ascend, a key below the first has no row. -/
theorem lookup_eq_none_of_lt {rows : List (NodeId × NodeSet)}
    (above : ∀ a ∈ rows.map (·.1), key < a) : rows.lookup key = none := by
  rw [List.lookup_eq_none_iff]
  rintro ⟨a, set⟩ there
  have less := above a (List.mem_map.2 ⟨(a, set), there, rfl⟩)
  simpa using Int.ne_of_lt less

theorem lookup_insertRow {rows : List (NodeId × NodeSet)}
    (keys : (rows.map (·.1)).Pairwise (· < ·)) :
    (insertRow k i rows).lookup key =
      if key = k then some (((rows.lookup k).getD .empty).insert i) else rows.lookup key := by
  induction rows with
  | nil => rw [insertRow, lookup_cons_ite]; rfl
  | cons row rest ih =>
    obtain ⟨k', set⟩ := row
    obtain ⟨below, ascending⟩ := List.pairwise_cons.1 keys
    unfold insertRow
    split
    case isTrue less =>
      have absent : ((k', set) :: rest).lookup k = none := by
        refine lookup_eq_none_of_lt fun a there => ?_
        rcases List.mem_cons.1 there with rfl | later
        · exact less
        · exact Int.lt_trans less (below a later)
      rw [absent, lookup_cons_ite]
      rfl
    case isFalse =>
      split
      case isTrue same =>
        subst same
        simp only [lookup_cons_ite, if_true, Option.getD_some]
        split <;> rfl
      case isFalse other =>
        simp only [lookup_cons_ite, ih ascending, if_neg other]
        by_cases here : key = k'
        · subst here
          rw [if_pos rfl, if_pos rfl, if_neg (Ne.symm other)]
        · rw [if_neg here, if_neg here]

/-- A pair is found exactly if it was there or has been inserted. -/
theorem Ordered.mem_find_insert (ok : r.Ordered) :
    x ∈ ((r.insert k i).find key).ids ↔ x ∈ (r.find key).ids ∨ (key = k ∧ x = i) := by
  rw [find, Relation.insert, lookup_insertRow ok.keys]
  by_cases same : key = k
  · subst same
    simp [find, or_comm]
  · simp [find, same]

/-- In rows that ascend, every row is the one that is found under its key. -/
theorem lookup_of_mem {rows : List (NodeId × NodeSet)} {set : NodeSet}
    (keys : (rows.map (·.1)).Pairwise (· < ·)) (there : (k, set) ∈ rows) :
    rows.lookup k = some set := by
  induction rows with
  | nil => cases there
  | cons row rest ih =>
    obtain ⟨k', set'⟩ := row
    obtain ⟨below, ascending⟩ := List.pairwise_cons.1 keys
    rw [lookup_cons_ite]
    rcases List.mem_cons.1 there with here | later
    · rw [if_pos (Prod.mk.inj here).1, (Prod.mk.inj here).2]
    · have above : k' < k := below k (List.mem_map.2 ⟨(k, set), later, rfl⟩)
      rw [if_neg (Int.ne_of_gt above), ih ascending later]

/-- A pair is found exactly if a row has it. -/
theorem Ordered.mem_rows_iff (ok : r.Ordered) :
    (∃ set, (key, set) ∈ r.rows ∧ x ∈ set.ids) ↔ x ∈ (r.find key).ids := by
  unfold find
  constructor
  · rintro ⟨set, row, there⟩
    rwa [lookup_of_mem ok.keys row]
  · intro there
    cases found : r.rows.lookup key with
    | none => simp [found] at there
    | some set =>
      obtain ⟨before, after, split, -⟩ := List.lookup_eq_some_iff.1 found
      exact ⟨set, by simp [split], by simpa [found] using there⟩

theorem ids_freeze (r : Relation) (key : NodeId) : r.freeze.ids key = (r.find key).ids.toArray := by
  have frozen (rows : List (NodeId × NodeSet)) :
      (rows.map fun row => (row.1, row.2.ids.toArray)).lookup key =
        (rows.lookup key).map (·.ids.toArray) := by
    induction rows with
    | nil => rfl
    | cons row rest ih =>
      obtain ⟨k', set⟩ := row
      simp only [List.map_cons, List.lookup_cons]
      cases key == k' with
      | true => rfl
      | false => exact ih
  simp only [Bindings.ids, freeze, frozen, find]
  cases r.rows.lookup key <;> rfl

end Relation

/-! ### The ten maps -/

theorem Maps.get_update {α : Type} (m : Maps α) (n n' : MapName) (f : α → α) :
    (m.update n f).get n' = if n' = n then f (m.get n) else m.get n' := by
  cases n <;> cases n' <;> rfl

theorem Maps.get_map {α β : Type} (f : α → β) (m : Maps α) (n : MapName) :
    (m.map f).get n = f (m.get n) := by
  cases n <;> rfl

@[simp] theorem Maps.get_replicate {α : Type} (a : α) (n : MapName) :
    (Maps.replicate a).get n = a := by
  cases n <;> rfl

namespace Findings

variable {f : Findings} {n m : MapName} {k i key x : NodeId}

/-- The pair has been found for the map. -/
def Holds (f : Findings) (m : MapName) (key x : NodeId) : Prop := x ∈ ((f.get m).find key).ids

/-- All maps are in order. -/
def Ordered (f : Findings) : Prop := ∀ m, (f.get m).Ordered

theorem ordered_empty : empty.Ordered := by
  intro m
  rw [empty, Maps.get_replicate]
  exact Relation.ordered_empty

theorem not_holds_empty : ¬ empty.Holds m key x := by
  simp [Holds, empty, Relation.find]

theorem Ordered.insert (ok : f.Ordered) (n : MapName) (k i : NodeId) :
    (f.insert n k i).Ordered := by
  intro m
  rw [Findings.insert, Maps.get_update]
  split
  · exact (ok n).insert k i
  · exact ok m

theorem Ordered.holds_insert (ok : f.Ordered) :
    (f.insert n k i).Holds m key x ↔ f.Holds m key x ∨ (m = n ∧ key = k ∧ x = i) := by
  unfold Holds
  rw [Findings.insert, Maps.get_update]
  by_cases same : m = n
  · subst same
    simp [(ok m).mem_find_insert]
  · simp [same]

/-- A solution has the pairs that were found. -/
theorem mem_ids_freeze : x ∈ (f.freeze.get m).ids key ↔ f.Holds m key x := by
  rw [freeze, Maps.get_map, Relation.ids_freeze, List.mem_toArray]
  rfl

end Findings

end WidgetFlow
