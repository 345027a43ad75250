import WidgetFlow.Fault

/-!
# Sets of nodes

A set of node numbers is kept as its strictly ascending list, so that equal sets are equal lists
and enumerating a set needs no sorting.
-/

namespace WidgetFlow

/-- A set of nodes, listed in ascending order. -/
structure NodeSet where
  ids : List NodeId := []
  deriving DecidableEq, Inhabited

namespace NodeSet

/-- The set without elements. -/
def empty : NodeSet := {}

/-- Membership. -/
def has (s : NodeSet) (id : NodeId) : Bool := s.ids.contains id

/-- How many elements there are. -/
def size (s : NodeSet) : Nat := s.ids.length

/-- Puts a number at its place in an ascending list. -/
def insertAscending (id : NodeId) : List NodeId → List NodeId
  | [] => [id]
  | a :: l => if id < a then id :: a :: l else if id = a then a :: l else a :: insertAscending id l

/-- The set with one more element. -/
def insert (s : NodeSet) (id : NodeId) : NodeSet := ⟨insertAscending id s.ids⟩

/-- Adds an element and tells whether it was absent. -/
def add (s : NodeSet) (id : NodeId) : Bool × NodeSet := (!s.has id, s.insert id)

/-- The set of the elements of a list. -/
def ofList (ids : List NodeId) : NodeSet := ids.foldl insert empty

/-! ### What is in a set -/

@[simp] theorem has_iff {s : NodeSet} {id : NodeId} : s.has id = true ↔ id ∈ s.ids := by
  simp [has]

/-- Putting a number at its place adds that number and keeps the others. -/
@[simp] theorem mem_insertAscending {x id : NodeId} {l : List NodeId} :
    x ∈ insertAscending id l ↔ x = id ∨ x ∈ l := by
  induction l with
  | nil => simp [insertAscending]
  | cons a l ih =>
    unfold insertAscending
    split
    · simp
    · split
      · simp_all
      · simp only [List.mem_cons, ih]
        grind

/-- A list that ascends still does with one more number at its place. -/
theorem pairwise_insertAscending {id : NodeId} {l : List NodeId} (h : l.Pairwise (· < ·)) :
    (insertAscending id l).Pairwise (· < ·) := by
  induction l with
  | nil => simp [insertAscending]
  | cons a l ih =>
    have ⟨below, rest⟩ := List.pairwise_cons.1 h
    unfold insertAscending
    split
    case isTrue lt =>
      refine List.pairwise_cons.2 ⟨fun x hx => ?_, h⟩
      rcases List.mem_cons.1 hx with rfl | hx
      · exact lt
      · exact Int.lt_trans lt (below x hx)
    case isFalse notLt =>
      split
      case isTrue => exact h
      case isFalse ne =>
        refine List.pairwise_cons.2 ⟨fun x hx => ?_, ih rest⟩
        rcases mem_insertAscending.1 hx with rfl | hx
        · exact Int.lt_iff_le_and_ne.2 ⟨Int.not_lt.1 notLt, Ne.symm ne⟩
        · exact below x hx

@[simp] theorem ids_empty : empty.ids = [] := rfl

@[simp] theorem mem_insert {s : NodeSet} {x id : NodeId} :
    x ∈ (s.insert id).ids ↔ x = id ∨ x ∈ s.ids := mem_insertAscending

/-- The set of a list has the elements of the list. -/
@[simp] theorem mem_ofList {ids : List NodeId} {x : NodeId} : x ∈ (ofList ids).ids ↔ x ∈ ids := by
  have more (l : List NodeId) (s : NodeSet) : x ∈ (l.foldl insert s).ids ↔ x ∈ s.ids ∨ x ∈ l := by
    induction l generalizing s with
    | nil => simp
    | cons a l ih => rw [List.foldl_cons, ih, mem_insert, List.mem_cons]; grind
  simpa [ofList] using more ids empty

/-- The elements of the set of a list ascend. -/
theorem pairwise_ofList (ids : List NodeId) : (ofList ids).ids.Pairwise (· < ·) := by
  have more (l : List NodeId) (s : NodeSet) (ascends : s.ids.Pairwise (· < ·)) :
      (l.foldl insert s).ids.Pairwise (· < ·) := by
    induction l generalizing s with
    | nil => exact ascends
    | cons a l ih => exact ih _ (pairwise_insertAscending ascends)
  exact more ids empty .nil

end NodeSet

end WidgetFlow
