import WidgetFlow.Watch.Change

/-!
# Debouncing

Changes often come in bursts. A debouncer holds them back until they have been quiet for a while, or
until the first of them has waited long enough, and then passes them on, one change for each kind.
Two timers tell when: every change restarts the quiet one, while the deadline runs from the first
change that is held back. What is held back when the input ends is passed on too.
-/

namespace WidgetFlow.Watch

/-- The changes that are held back, by kind in ascending order. -/
abbrev Batch := List Change

/-- Adds paths to those of their kind. -/
def Batch.add (c : Change) : Batch → Batch
  | [] => [c]
  | d :: rest =>
    if c.type.code < d.type.code then c :: d :: rest
    else if c.type = d.type then ⟨d.type, d.paths ++ c.paths⟩ :: rest
    else d :: Batch.add c rest

/-- The state of a debouncer. -/
structure Debouncer where
  held : Batch := []
  /-- How many changes came in all. -/
  received : Nat := 0
  /-- The quiet timer, if it runs, with the change that started it. -/
  quiet : Option Nat := none
  /-- The deadline, if it runs, with the change that started it. -/
  deadline : Option Nat := none
  /-- What was passed on, one list for every flush that had something. -/
  flushed : List (List Change) := []
  closed : Bool := false
  deriving DecidableEq, Inhabited

/-- What may happen to a debouncer. -/
inductive Step where
  | change (c : Change)
  | quietElapsed
  | deadlineElapsed
  /-- The input ended, or the work was called off. -/
  | ended
  deriving DecidableEq, Inhabited

namespace Debouncer

/-- Passes on what is held back, and stops both timers. -/
def flush (d : Debouncer) : Debouncer :=
  { d with
    held := []
    quiet := none
    deadline := none
    flushed := if d.held.isEmpty then d.flushed else d.flushed ++ [d.held] }

/-- Holds back a change. -/
def accept (d : Debouncer) (c : Change) : Debouncer :=
  { d with
    held := Batch.add c d.held
    received := d.received + 1
    quiet := some d.received
    deadline := d.deadline <|> some d.received }

/-- One step. A timer that does not run cannot elapse, and nothing happens after the end. -/
def step (d : Debouncer) (s : Step) : Debouncer :=
  if d.closed then d
  else match s with
    | .change c => d.accept c
    | .quietElapsed => if d.quiet.isSome then d.flush else d
    | .deadlineElapsed => if d.deadline.isSome then d.flush else d
    | .ended => { d.flush with closed := true }

/-- All steps in turn. -/
def run (steps : List Step) : Debouncer := steps.foldl step {}

/-- What was passed on, in order. -/
def output (d : Debouncer) : List Change := d.flushed.flatten

end Debouncer

end WidgetFlow.Watch
