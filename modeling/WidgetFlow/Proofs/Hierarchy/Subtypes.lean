import Mathlib.Data.List.Induction
import WidgetFlow.Hierarchy
import WidgetFlow.Proofs.Ascending
import WidgetFlow.Proofs.Component

/-!
# Subtypes in any class table

A class table may be broken: names repeat, superclasses are missing, links run in circles. What it
says is read off its last entry for a name (`Lists`), and a class extends what that entry names as its
superclass or interfaces (`Extends`). A class is a subtype of itself and of all that such links lead to
(`isSubtype_iff`), and the concrete subtypes of a type are those that are listed as concrete, in
strictly ascending order (`mem_concreteSubtypes_iff_lists`, `sortedLT_concreteSubtypes`).

The same question can be answered by a recursive search that marks what it visits and shares its marks
among all branches (`visit`). A mark never hides the type: whatever a visit that fails has marked is
closed under links and does not hold the type (`Barren`). Nested visits are as many as there are names at
most, so the search ends, and it answers alike (`visit_eq`).
-/

namespace WidgetFlow.Hierarchy

variable {h : Hierarchy} {a b c name super : String} {info : ClassInfo}

/-! ### What a table says of a name -/

/-- The table has the entry for a name, and no later one for it. -/
def Lists (h : Hierarchy) (name : String) (info : ClassInfo) : Prop :=
  info.name = name ∧ ∃ earlier later, h.classes = earlier ++ info :: later ∧
    ∀ other ∈ later, other.name ≠ name

/-- A class of the table that has a name extends its superclass and implements its interfaces. The
superclass of a class that has none is the empty name. -/
def Extends (h : Hierarchy) (a b : String) : Prop :=
  a ≠ "" ∧ ∃ info, h.Lists a info ∧ (b = info.super ∨ b ∈ info.interfaces)

theorem class?_eq_find? (h : Hierarchy) (name : String) :
    h.class? name = h.classes.reverse.find? (·.name = name) := by
  rw [class?]
  induction h.classes using List.reverseRecOn with
  | nil => rfl
  | append_singleton earlier last ih =>
    rw [List.foldl_append, List.reverse_append, ih]
    by_cases same : last.name = name
    · simp [same]
    · simp [same]

theorem class?_eq_some_iff : h.class? name = some info ↔ h.Lists name info := by
  rw [class?_eq_find?, List.find?_eq_some_iff_append, Lists]
  simp only [decide_eq_true_eq, Bool.not_eq_true', decide_eq_false_iff_not]
  constructor
  · rintro ⟨same, later, earlier, classes, other⟩
    refine ⟨same, earlier.reverse, later.reverse, ?_, fun c there => other c (List.mem_reverse.1 there)⟩
    rw [← List.reverse_reverse h.classes, classes]
    simp
  · rintro ⟨same, earlier, later, classes, other⟩
    refine ⟨same, later.reverse, earlier.reverse, ?_, fun c there => other c (List.mem_reverse.1 there)⟩
    rw [classes]
    simp

/-- A name has one entry that counts. -/
theorem Lists.unique {info' : ClassInfo} (one : h.Lists name info) (other : h.Lists name info') :
    info = info' :=
  Option.some.inj ((class?_eq_some_iff.2 one).symm.trans (class?_eq_some_iff.2 other))

theorem mem_names_iff : name ∈ h.names ↔ ∃ info, h.Lists name info := by
  simp only [← class?_eq_some_iff, ← Option.isSome_iff_exists, class?_eq_find?, List.find?_isSome,
    names, mem_distinct, List.mem_map, List.mem_reverse, decide_eq_true_eq]

theorem mem_parents_iff : b ∈ h.parents a ↔ h.Extends a b := by
  unfold parents Extends
  split
  case isTrue unnamed => simp [unnamed]
  case isFalse named =>
    split
    case h_1 unknown => simp [← class?_eq_some_iff, unknown]
    case h_2 info known => simp [← class?_eq_some_iff, known, named]

/-! ### Subtypes -/

/-- All that some class names as its superclass or interface. -/
def links (h : Hierarchy) : List String := h.classes.flatMap fun c => c.super :: c.interfaces

theorem length_links (h : Hierarchy) : h.links.length = h.linkCount := by
  rw [links, linkCount]
  induction h.classes with
  | nil => rfl
  | cons c rest ih => rw [List.flatMap_cons, List.length_append, ih, List.length_cons, List.foldr_cons]

theorem mem_links_of_mem_parents (parent : b ∈ h.parents a) : b ∈ h.links := by
  obtain ⟨-, info, ⟨-, earlier, later, classes, -⟩, named⟩ := mem_parents_iff.1 parent
  rw [links, List.mem_flatMap]
  exact ⟨info, by simp [classes], List.mem_cons.2 named⟩

theorem linked_parents_iff : Linked h.parents a b ↔ Relation.TransGen h.Extends a b := by
  constructor
  · intro linked
    induction linked with
    | step near => exact .single (mem_parents_iff.1 near)
    | trans _ near ih => exact ih.tail (mem_parents_iff.1 near)
  · intro path
    induction path with
    | single near => exact .step (mem_parents_iff.2 near)
    | tail _ near ih => exact ih.trans (mem_parents_iff.2 near)

/-- A class is a subtype of itself and of all that links lead to. -/
theorem isSubtype_iff : h.isSubtype a b = true ↔ a = b ∨ Relation.TransGen h.Extends a b := by
  have enough : h.links.length < h.linkCount + 1 := by
    rw [length_links]
    exact Nat.lt_succ_self _
  have found : b ∈ expand h.parents (h.linkCount + 1) [a] [] ↔ Linked h.parents a b :=
    mem_expand_iff (fun _ _ parent => mem_links_of_mem_parents parent) enough
  rw [isSubtype, Bool.or_eq_true, beq_iff_eq, List.contains_iff_mem, found, linked_parents_iff]

theorem isSubtype_iff_leads : h.isSubtype a b = true ↔ Leads h.parents a b := by
  rw [isSubtype_iff, leads_iff, linked_parents_iff]

theorem mem_concreteSubtypes_iff :
    c ∈ h.concreteSubtypes super ↔
      c ∈ h.names ∧ h.isConcrete c = true ∧ h.isSubtype c super = true := by
  rw [concreteSubtypes, List.mem_mergeSort, List.mem_filter, Bool.and_eq_true]

theorem sortedLT_concreteSubtypes (h : Hierarchy) (super : String) :
    (h.concreteSubtypes super).SortedLT :=
  sortedLT_mergeSort ((nodup_distinct _).filter _)

theorem isConcrete_iff : h.isConcrete c = true ↔
    ∃ info, h.Lists c info ∧ info.isAbstract = false ∧ info.isInterface = false := by
  simp [isConcrete, Option.any_eq_true, ClassInfo.isConcrete, class?_eq_some_iff]

/-- The concrete subtypes of a type are the known classes that are neither abstract nor interfaces and
are subtypes of it. -/
theorem mem_concreteSubtypes_iff_lists : c ∈ h.concreteSubtypes super ↔
    (∃ info, h.Lists c info ∧ info.isAbstract = false ∧ info.isInterface = false) ∧
      h.isSubtype c super = true := by
  rw [mem_concreteSubtypes_iff, isConcrete_iff, mem_names_iff]
  constructor
  · rintro ⟨-, concrete, fits⟩
    exact ⟨concrete, fits⟩
  · rintro ⟨⟨info, known, concrete⟩, fits⟩
    exact ⟨⟨info, known⟩, ⟨info, known, concrete⟩, fits⟩

/-- Only the empty name has no super types but itself. -/
theorem ne_of_mem_concreteSubtypes (given : super ≠ "") (there : c ∈ h.concreteSubtypes super) :
    c ≠ "" := by
  rintro rfl
  rcases isSubtype_iff.1 (mem_concreteSubtypes_iff.1 there).2.2 with same | path
  · exact given same.symm
  · obtain ⟨_, ⟨named, -⟩, -⟩ := Relation.TransGen.head'_iff.1 path
    exact named rfl

/-! ### The recursive search -/

/-- Tries branches in turn until one meets what it searches for. -/
def among (search : String → List String → Bool × List String) :
    List String → List String → Bool × List String
  | [], seen => (false, seen)
  | c :: rest, seen =>
    match search c seen with
    | (true, seen) => (true, seen)
    | (false, seen) => among search rest seen

/-- Searches for a type upwards from a name, in at most `depth` nested visits. What has been visited is
marked, for all branches alike, and not visited again. Answers whether it met the type, and the
marks. -/
def visit (h : Hierarchy) (super : String) : Nat → String → List String → Bool × List String
  | 0, _, seen => (false, seen)
  | depth + 1, c, seen =>
    if c = super then (true, seen)
    else if c = "" ∨ c ∈ seen then (false, seen)
    else among (h.visit super depth) (h.parents c) (c :: seen)

variable {seen seen' seen'' : List String} {depth : Nat}

/-- Nothing is to be found at a name any more: it is not the type, and it is empty or marked. -/
def Spent (super : String) (seen : List String) (c : String) : Prop :=
  c ≠ super ∧ (c = "" ∨ c ∈ seen)

theorem Spent.mono (spent : Spent super seen c) (more : seen ⊆ seen') : Spent super seen' c :=
  ⟨spent.1, spent.2.imp_right fun marked => more marked⟩

/-- What has been marked since `seen` leads to nothing but what is spent. -/
structure Barren (h : Hierarchy) (super : String) (seen seen' : List String) : Prop where
  more : seen ⊆ seen'
  closed : ∀ x ∈ seen', x ∉ seen → ∀ parent ∈ h.parents x, Spent super seen' parent

theorem Barren.refl : Barren h super seen seen where
  more := List.Subset.refl seen
  closed _ marked new := absurd marked new

theorem Barren.trans (first : Barren h super seen seen') (second : Barren h super seen' seen'') :
    Barren h super seen seen'' where
  more := List.Subset.trans first.more second.more
  closed x marked new parent named := by
    by_cases early : x ∈ seen'
    · exact (first.closed x early new parent named).mono second.more
    · exact second.closed x marked early parent named

/-- What comes of a search from the names `cs`: it meets the type, to which one of them leads, or it
marks names that do not lead there. -/
inductive Outcome (h : Hierarchy) (super : String) (cs seen : List String) :
    Bool × List String → Prop where
  | met {seen' : List String} {c : String} (there : c ∈ cs) (leads : Leads h.parents c super) :
      Outcome h super cs seen (true, seen')
  | missed {seen' : List String} (barren : Barren h super seen seen')
      (spent : ∀ c ∈ cs, Spent super seen' c) : Outcome h super cs seen (false, seen')

/-- If each branch has its outcome, then so have all of them together. -/
theorem among_outcome {search : String → List String → Bool × List String} {cs : List String}
    (each : ∀ c ∈ cs, ∀ seen', seen ⊆ seen' → Outcome h super [c] seen' (search c seen')) :
    Outcome h super cs seen (among search cs seen) := by
  induction cs generalizing seen with
  | nil => exact .missed .refl fun _ there => nomatch there
  | cons c rest ih =>
    have first := each c List.mem_cons_self seen (List.Subset.refl seen)
    rw [among]
    generalize search c seen = result at first
    cases first with
    | met there leads =>
      obtain rfl := List.mem_singleton.1 there
      exact .met List.mem_cons_self leads
    | missed barren spent =>
      have others := ih fun d there seen'' more =>
        each d (List.mem_cons_of_mem c there) seen'' (List.Subset.trans barren.more more)
      dsimp only
      generalize among search rest _ = result at others
      cases others with
      | met there leads => exact .met (List.mem_cons_of_mem c there) leads
      | missed barren' spent' =>
        refine .missed (barren.trans barren') fun d there => ?_
        rcases List.mem_cons.1 there with rfl | there
        · exact (spent d (List.mem_singleton_self d)).mono barren'.more
        · exact spent' d there

/-- Every visit has its outcome, if more nested visits are allowed than there are unmarked names. -/
theorem visit_outcome (enough : (unseen h.names seen).length < depth) :
    Outcome h super [c] seen (h.visit super depth c seen) := by
  induction depth generalizing c seen with
  | zero => exact absurd enough (Nat.not_lt_zero _)
  | succ depth ih =>
    rw [visit]
    split
    case isTrue same => exact .met (List.mem_singleton_self c) (same ▸ .refl)
    case isFalse other =>
      split
      case isTrue done =>
        refine .missed .refl fun d there => ?_
        obtain rfl := List.mem_singleton.1 there
        exact ⟨other, done⟩
      case isFalse fresh =>
        rw [not_or] at fresh
        have branches : Outcome h super (h.parents c) (c :: seen)
            (among (h.visit super depth) (h.parents c) (c :: seen)) := by
          apply among_outcome
          intro parent named seen' more
          -- The name has a parent, so it is a name of the table, and it is marked from now on.
          obtain ⟨-, info, known, -⟩ := mem_parents_iff.1 named
          have fewer := length_unseen_cons_lt (mem_names_iff.2 ⟨info, known⟩) fresh.2
          have fewest : (unseen h.names seen').length ≤ (unseen h.names (c :: seen)).length :=
            length_unseen_mono more
          apply ih
          omega
        generalize among _ _ _ = result at branches
        cases branches with
        | met named leads =>
          exact .met (List.mem_singleton_self c) (.head named leads)
        | missed barren spent =>
          have marked := barren.more List.mem_cons_self
          refine .missed ⟨List.Subset.trans (List.subset_cons_self c seen) barren.more, ?_⟩ ?_
          · intro x there new parent named
            by_cases same : x = c
            · exact spent parent (same ▸ named)
            · exact barren.closed x there (fun early => (List.mem_cons.1 early).elim same new) parent
                named
          · intro d there
            obtain rfl := List.mem_singleton.1 there
            exact ⟨other, .inr marked⟩

/-- The recursive search answers whether the class is a subtype, whatever links run in circles. -/
theorem visit_eq (enough : h.names.length < depth) :
    (h.visit b depth a []).1 = h.isSubtype a b := by
  have few := length_unseen_le h.names []
  have outcome : Outcome h b [a] [] (h.visit b depth a []) :=
    visit_outcome (Nat.lt_of_le_of_lt few enough)
  generalize h.visit b depth a [] = result at outcome
  cases outcome with
  | met there leads =>
    obtain rfl := List.mem_singleton.1 there
    exact (isSubtype_iff_leads.2 leads).symm
  | missed barren spent =>
    symm
    rw [Bool.eq_false_iff]
    intro fits
    have start := spent a (List.mem_singleton_self a)
    have stays := (isSubtype_iff_leads.1 fits).stays (Spent b _) (fun x inside parent named => ?_) start
    · exact stays.1 rfl
    · rcases inside.2 with rfl | marked
      · exact absurd rfl (mem_parents_iff.1 named).1
      · exact barren.closed x marked List.not_mem_nil parent named

end WidgetFlow.Hierarchy
