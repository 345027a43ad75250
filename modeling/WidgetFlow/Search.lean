/-!
# Exhaustive search

Following links from a start, each thing that is met is expanded once. The same search answers what
a value may reach in the flow graph and what a class inherits from.
-/

namespace WidgetFlow

/-- The elements of a list, each at its first place only. -/
def distinct {α : Type} [DecidableEq α] : List α → List α
  | [] => []
  | a :: l => a :: (distinct l).filter (· ≠ a)

/-- Dropping repetitions keeps the elements. -/
@[simp] theorem mem_distinct {α : Type} [DecidableEq α] {x : α} {l : List α} :
    x ∈ distinct l ↔ x ∈ l := by
  induction l with
  | nil => simp [distinct]
  | cons a l ih => by_cases h : x = a <;> simp [distinct, ih, h]

/-- Nothing is repeated once repetitions are dropped. -/
theorem nodup_distinct {α : Type} [DecidableEq α] (l : List α) : (distinct l).Nodup := by
  induction l with
  | nil => simp [distinct]
  | cons a l ih =>
    have fresh : a ∉ (distinct l).filter (· ≠ a) := by simp
    exact List.nodup_cons.2 ⟨fresh, ih.filter _⟩

/-- Expands the elements of `todo` for at most `rounds` rounds, those first that were met last. What is
met for the first time is added to `seen` and waits in `todo`; the answer is what has been seen. -/
@[specialize] def expand {α : Type} [DecidableEq α] (next : α → List α) :
    Nat → List α → List α → List α
  | 0, _, seen => seen
  | _, [], seen => seen
  | rounds + 1, a :: todo, seen =>
    let fresh := (distinct (next a)).filter (!seen.contains ·)
    expand next rounds (fresh ++ todo) (fresh ++ seen)

/-- Linked by one or more steps of `next`. -/
inductive Linked {α : Type} (next : α → List α) : α → α → Prop where
  | step {a b : α} : b ∈ next a → Linked next a b
  | trans {a b c : α} : Linked next a b → c ∈ next b → Linked next a c

end WidgetFlow
