/-!
# Components by depth-first search

The strongly connected components of a graph are found in one depth-first search. Everything met is
put on a stack; an element's low link is the smallest rank that is known to be on the stack and
reachable from it. An element whose low link is its own rank is the root of a component, which is the
part of the stack from the element upwards. Only components of two or more elements are kept.
-/

namespace WidgetFlow

/-- The state of a depth-first search. -/
structure DepthFirst (α : Type) where
  /-- What has been met, newest first. -/
  met : List α := []
  /-- What has been met and is in no component yet, newest first. -/
  stack : List α := []
  /-- The components that have been closed, oldest first. -/
  found : List (List α) := []
  deriving DecidableEq, Inhabited

namespace DepthFirst

variable {α : Type} [DecidableEq α]

/-- How many were met before an element, in a list with the newest first. -/
def rank : List α → α → Nat
  | [], _ => 0
  | a :: l, x => if a = x then l.length else rank l x

/-- Meets an element for the first time. -/
def enter (st : DepthFirst α) (x : α) : DepthFirst α :=
  { st with met := x :: st.met, stack := x :: st.stack }

/-- Takes a component off the stack: an element with all that is above it. -/
def close (st : DepthFirst α) (x : α) : DepthFirst α :=
  let component := st.stack.takeWhile (· ≠ x) ++ [x]
  { st with
    stack := (st.stack.dropWhile (· ≠ x)).tail
    found := if 1 < component.length then st.found ++ [component] else st.found }

/-- Lowers a low link by one successor. What is met for the first time is visited, and its own low link
counts; of what has been met before, only what is still on the stack counts. -/
def follow (visit : α → DepthFirst α → Nat × DepthFirst α) (sofar : Nat × DepthFirst α) (y : α) :
    Nat × DepthFirst α :=
  let (low, st) := sofar
  if y ∉ st.met then
    let (low', st') := visit y st
    (min low low', st')
  else if y ∈ st.stack then (min low (rank st.met y), st)
  else (low, st)

/-- Visits an element that has not been met, and all that is met from it, for at most `depth` nested
visits. The answer tells the low link. -/
def connect (next : α → List α) : Nat → α → DepthFirst α → Nat × DepthFirst α
  | 0, _, st => (0, st)
  | depth + 1, x, st =>
    let (low, st') := (next x).foldl (follow (connect next depth)) (st.met.length, st.enter x)
    if low = st.met.length then (low, st'.close x) else (low, st')

/-- Visits an element, unless it has been met. -/
def visitOnce (next : α → List α) (depth : Nat) (st : DepthFirst α) (x : α) : DepthFirst α :=
  if x ∈ st.met then st else (connect next depth x st).2

/-- The components of two or more elements that some of `xs` lie in, or lead to. -/
def search (next : α → List α) (depth : Nat) (xs : List α) : List (List α) :=
  (xs.foldl (visitOnce next depth) {}).found

end DepthFirst

end WidgetFlow
