import Mathlib.Data.Finset.Card
import WidgetFlow.Proofs.Solver.Findings

/-!
# Relations are frozen and looked up exactly

Pairs are added to a relation one at a time. `MadeOf` says that a relation has been made of certain
pairs: it is in order, and it has these pairs and no others. Adding a pair keeps that up and tells
whether the pair is new (`MadeOf.add`), so it holds along every run (`MadeOf.addAll`).

A frozen relation is searched by halving. The search keeps the place of the id between two bounds
(`Bounds`) until they meet, which must be where the id stands if it is there at all.
-/

namespace WidgetFlow

/-! ### Search by halving -/

namespace Bindings

variable {a : Array NodeId} {id : NodeId} {low high : Nat}

/-- What is below `low` in an array is less than `id`, and what is from `high` on is not. -/
structure Bounds (a : Array NodeId) (id : NodeId) (low high : Nat) : Prop where
  ordered : low ≤ high
  inside : high ≤ a.size
  below : ∀ i (_ : i < a.size), i < low → a[i] < id
  above : ∀ i (_ : i < a.size), high ≤ i → id ≤ a[i]

theorem bounds_all (a : Array NodeId) (id : NodeId) : Bounds a id 0 a.size where
  ordered := Nat.zero_le _
  inside := Nat.le_refl _
  below _ _ less := absurd less (Nat.not_lt_zero _)
  above _ inside outside := absurd inside (Nat.not_lt.2 outside)

theorem getElem_lt_of_lt (ascends : a.toList.Pairwise (· < ·)) {i j : Nat} (less : i < j)
    (inside : j < a.size) : a[i] < a[j] :=
  List.pairwise_iff_getElem.1 ascends i j (Nat.lt_trans less inside) inside less

theorem getElem_le_of_le (ascends : a.toList.Pairwise (· < ·)) {i j : Nat} (le : i ≤ j)
    (inside : j < a.size) : a[i] ≤ a[j] := by
  rcases Nat.eq_or_lt_of_le le with rfl | less
  · exact Int.le_refl _
  · exact Int.le_of_lt (getElem_lt_of_lt ascends less inside)

/-- Halfway between the bounds there is an element. -/
theorem Bounds.halfway (bounds : Bounds a id low high) (more : low < high) :
    ∃ inside : (low + high) / 2 < a.size,
      a.getD ((low + high) / 2) 0 = a[(low + high) / 2] := by
  have limit := bounds.inside
  have inside : (low + high) / 2 < a.size := by omega
  refine ⟨inside, ?_⟩
  rw [Array.getD_eq_getD_getElem?, Array.getElem?_eq_getElem inside, Option.getD_some]

/-- In an ascending array the search ends where its bounds meet. -/
theorem Bounds.lowerBound (ascends : a.toList.Pairwise (· < ·)) (bounds : Bounds a id low high) :
    Bounds a id (lowerBound a id low high) (lowerBound a id low high) := by
  fun_induction Bindings.lowerBound a id low high with
  | case1 low high more mid less ih =>
    obtain ⟨inside, here⟩ := bounds.halfway more
    rw [here] at less
    refine ih ⟨by omega, bounds.inside, fun i known before => ?_, bounds.above⟩
    exact Int.lt_of_le_of_lt (getElem_le_of_le ascends (by omega) inside) less
  | case2 low high more mid notLess ih =>
    obtain ⟨inside, here⟩ := bounds.halfway more
    rw [here] at notLess
    refine ih ⟨by omega, by omega, bounds.below, fun i known after => ?_⟩
    exact Int.le_trans (Int.not_lt.1 notLess) (getElem_le_of_le ascends after known)
  | case3 low high done =>
    obtain rfl : low = high := Nat.le_antisymm bounds.ordered (Nat.not_lt.1 done)
    exact bounds

/-- Where the bounds meet is the only place where the id can be. -/
theorem Bounds.getElem?_eq_iff (ascends : a.toList.Pairwise (· < ·)) {i : Nat}
    (met : Bounds a id i i) : a[i]? = some id ↔ id ∈ a := by
  constructor
  · exact Array.mem_of_getElem?
  · intro there
    obtain ⟨j, inside, rfl⟩ := Array.mem_iff_getElem.1 there
    have notBelow : i ≤ j := by
      by_contra before
      exact Int.lt_irrefl _ (met.below j inside (Nat.not_le.1 before))
    have notAbove : j ≤ i := by
      by_contra after
      have less : a[i] < a[j] := getElem_lt_of_lt ascends (Nat.not_le.1 after) inside
      exact Int.lt_irrefl _ (Int.lt_of_lt_of_le less (met.above i (by omega) (Nat.le_refl i)))
    obtain rfl := Nat.le_antisymm notBelow notAbove
    exact Array.getElem?_eq_getElem inside

/-- The search finds what is there. -/
theorem contains_iff {b : Bindings} {key : NodeId} (ascends : (b.ids key).toList.Pairwise (· < ·)) :
    b.contains key id = true ↔ id ∈ b.ids key := by
  rw [contains, beq_iff_eq]
  exact ((bounds_all _ id).lowerBound ascends).getElem?_eq_iff ascends

/-- All pairs, row by row. -/
def all (b : Bindings) : List (NodeId × NodeId) :=
  b.rows.flatMap fun (key, ids) => ids.toList.map (key, ·)

theorem length_all (b : Bindings) : b.all.length = b.pairs := by
  obtain ⟨rows⟩ := b
  induction rows with
  | nil => rfl
  | cons row rest ih =>
    have later : (rest.flatMap fun row => row.2.toList.map (row.1, ·)).length =
        rest.foldr (fun r n => r.2.size + n) 0 := ih
    simp only [all, pairs, List.flatMap_cons, List.length_append, List.length_map,
      Array.length_toList, List.foldr_cons, later]

end Bindings

namespace Relation

variable {r : Relation} {before calls : List (NodeId × NodeId)} {key id k i : NodeId}

/-! ### Frozen relations -/

theorem keys_freeze (r : Relation) : r.freeze.keys = r.rows.map (·.1) := by
  simp [Bindings.keys, freeze]

/-- What is looked up is in the rows. -/
theorem mem_of_lookup {α : Type} {rows : List (NodeId × α)} {a : α}
    (found : rows.lookup key = some a) : (key, a) ∈ rows := by
  obtain ⟨earlier, later, split, -⟩ := List.lookup_eq_some_iff.1 found
  simp [split]

theorem Ordered.ascends_find (ok : r.Ordered) (key : NodeId) :
    (r.find key).ids.Pairwise (· < ·) := by
  unfold find
  cases found : r.rows.lookup key with
  | none => exact .nil
  | some set => exact ok.sets (key, set) (mem_of_lookup found)

theorem Ordered.ascends_ids (ok : r.Ordered) (key : NodeId) :
    (r.freeze.ids key).toList.Pairwise (· < ·) := by
  rw [ids_freeze]
  exact ok.ascends_find key

theorem Ordered.mem_rows_freeze (ok : r.Ordered) {ids : Array NodeId}
    (there : (key, ids) ∈ r.freeze.rows) : r.freeze.ids key = ids := by
  obtain ⟨⟨k, set⟩, row, same⟩ := List.mem_map.1 there
  cases same
  rw [ids_freeze, find, lookup_of_mem ok.keys row]
  rfl

theorem Ordered.mem_all_iff (ok : r.Ordered) :
    (key, id) ∈ r.freeze.all ↔ id ∈ (r.find key).ids := by
  rw [← ok.mem_rows_iff]
  simp only [Bindings.all, freeze, List.mem_flatMap, List.mem_map, Prod.exists, Prod.mk.injEq]
  constructor
  · rintro ⟨k, ids, ⟨k', set, row, rfl, rfl⟩, i, there, rfl, rfl⟩
    exact ⟨set, row, there⟩
  · rintro ⟨set, row, there⟩
    exact ⟨key, set.ids.toArray, ⟨key, set, row, rfl, rfl⟩, id, there, rfl, rfl⟩

/-- No pair is listed twice: the keys of the rows ascend, and so do the ids of each row. -/
theorem Ordered.nodup_all (ok : r.Ordered) : r.freeze.all.Nodup := by
  refine List.nodup_flatMap.2 ⟨?_, ?_⟩
  · rintro ⟨k, ids⟩ there
    obtain rfl := ok.mem_rows_freeze there
    have once := (ok.ascends_ids k).imp fun less => Int.ne_of_lt less
    exact List.Nodup.map (fun _ _ same => (Prod.mk.inj same).2) once
  · have ascends : r.freeze.keys.Pairwise (· < ·) := keys_freeze r ▸ ok.keys
    refine (List.pairwise_map.1 ascends).imp ?_
    rintro ⟨k, ids⟩ ⟨k', ids'⟩ less ⟨key, id⟩ one other
    obtain ⟨_, _, same⟩ := List.mem_map.1 one
    obtain ⟨_, _, same'⟩ := List.mem_map.1 other
    have equal : k = k' := (Prod.mk.inj same).1.trans (Prod.mk.inj same').1.symm
    exact Int.ne_of_lt less equal

/-! ### Adding pairs -/

/-- Adds pairs in turn. The answers tell which of them were absent. -/
def addAll (r : Relation) : List (NodeId × NodeId) → List Bool × Relation
  | [] => ([], r)
  | (key, id) :: rest =>
    let (absent, r) := r.add key id
    let (answers, r) := r.addAll rest
    (absent :: answers, r)

/-- The relation is in order, and has these pairs and no others. -/
structure MadeOf (r : Relation) (pairs : List (NodeId × NodeId)) : Prop extends Ordered r where
  named : ∀ key, key ∈ r.rows.map (·.1) ↔ ∃ id, (key, id) ∈ pairs
  found : ∀ key id, id ∈ (r.find key).ids ↔ (key, id) ∈ pairs

theorem madeOf_empty : MadeOf {} [] where
  toOrdered := ordered_empty
  named key := by simp
  found key id := by simp [find]

/-- Adding a pair adds that pair, and tells whether it is new. -/
theorem MadeOf.add (made : r.MadeOf before) (k i : NodeId) :
    (r.add k i).1 = decide ((k, i) ∉ before) ∧ (r.add k i).2.MadeOf (before ++ [(k, i)]) := by
  constructor
  · have absent : r.has k i = decide ((k, i) ∈ before) := by
      rw [Bool.eq_iff_iff, has, NodeSet.has_iff, made.found, decide_eq_true_iff]
    rw [Relation.add, absent, decide_not]
  · constructor
    · exact made.toOrdered.insert k i
    · intro key
      have keys : key ∈ (r.insert k i).rows.map (·.1) ↔ _ := mem_keys_insertRow
      rw [Relation.add, keys, made.named]
      simp [exists_or, or_comm]
    · intro key id
      rw [Relation.add, made.toOrdered.mem_find_insert, made.found]
      simp

/-- A run adds its pairs, and each answer tells whether the pair had been there or been added
before. -/
theorem MadeOf.addAll (made : r.MadeOf before) (calls : List (NodeId × NodeId)) :
    (r.addAll calls).2.MadeOf (before ++ calls) ∧ (r.addAll calls).1.length = calls.length ∧
      ∀ earlier p later, calls = earlier ++ p :: later →
        (r.addAll calls).1[earlier.length]? = some (decide (p ∉ before ++ earlier)) := by
  induction calls generalizing r before with
  | nil =>
    refine ⟨?_, rfl, fun earlier p later split => ?_⟩
    · rw [List.append_nil]
      exact made
    · simp at split
  | cons call rest ih =>
    obtain ⟨answer, made'⟩ := made.add call.1 call.2
    obtain ⟨made'', length, answers⟩ := ih made'
    rw [List.append_assoc] at made''
    refine ⟨made'', congrArg (· + 1) length, fun earlier p later split => ?_⟩
    cases earlier with
    | nil =>
      obtain ⟨rfl, rfl⟩ := List.cons.inj split
      rw [List.append_nil]
      exact congrArg some answer
    | cons first earlier =>
      obtain ⟨rfl, rfl⟩ := List.cons.inj split
      have told := answers earlier p later rfl
      rwa [List.append_assoc] at told

/-- A relation that is made by adding pairs and then frozen has a row for every key that was added,
with the ids that were added under it, all in strictly ascending order. Looking up a pair, before or
after, tells whether it was added; as many pairs are counted as were different; and adding a pair
tells whether it was the first time. -/
theorem freeze_exact (calls : List (NodeId × NodeId)) :
    let made := addAll {} calls
    let b := made.2.freeze
    (b.keys.Pairwise (· < ·) ∧ ∀ key, key ∈ b.keys ↔ ∃ id, (key, id) ∈ calls) ∧
    (∀ key ids, (key, ids) ∈ b.rows → b.ids key = ids) ∧
    (∀ key, (b.ids key).toList.Pairwise (· < ·) ∧ ∀ id, id ∈ b.ids key ↔ (key, id) ∈ calls) ∧
    (∀ key id, b.contains key id = true ↔ (key, id) ∈ calls) ∧
    (∀ key id, made.2.has key id = true ↔ (key, id) ∈ calls) ∧
    b.pairs = calls.toFinset.card ∧
    made.1.length = calls.length ∧
    ∀ earlier p later, calls = earlier ++ p :: later →
      made.1[earlier.length]? = some (decide (p ∉ earlier)) := by
  intro made b
  obtain ⟨ok, length, answers⟩ := madeOf_empty.addAll calls
  have ordered : made.2.Ordered := ok.toOrdered
  have members (key id : NodeId) : id ∈ b.ids key ↔ (key, id) ∈ calls := by
    rw [ids_freeze, List.mem_toArray]
    exact ok.found key id
  refine ⟨⟨?_, fun key => ?_⟩, fun key ids there => ordered.mem_rows_freeze there, fun key => ?_,
    fun key id => ?_, fun key id => ?_, ?_, length, answers⟩
  · rw [keys_freeze]
    exact ordered.keys
  · rw [keys_freeze]
    exact ok.named key
  · exact ⟨ordered.ascends_ids key, members key⟩
  · rw [Bindings.contains_iff (ordered.ascends_ids key)]
    exact members key id
  · rw [has, NodeSet.has_iff]
    exact ok.found key id
  · have same : b.all.toFinset = calls.toFinset := by
      ext ⟨key, id⟩
      rw [List.mem_toFinset, List.mem_toFinset, ordered.mem_all_iff]
      exact ok.found key id
    rw [← Bindings.length_all, ← same, List.toFinset_card_of_nodup ordered.nodup_all]

/-- A pair that is added again is not new, wherever it stands. -/
example : (addAll {} [(2, 9), (1, 4), (2, 9), (2, 3)]).1 = [true, true, false, true] := by decide

end Relation

end WidgetFlow
