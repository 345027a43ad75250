import Mathlib.Data.List.Induction
import WidgetFlow.Watch.Debounce

/-!
# A debouncer loses nothing

Up to the end of the input, every step that is not a change is a flush, and what waits for it are the
changes since the last one (`waiting`). They are held back merged: one change for each of their kinds,
in ascending order, with the paths of all changes of that kind one after the other (`Merged`). Each
step keeps that up (`Tracks.accept`, `Tracks.flush`), so it holds along every run (`tracks_run`),
together with the two timers: if something waits, the quiet timer was started by the last change that
waits and the deadline by the first, and otherwise neither runs. Kind by kind, what was passed on and
what waits is what came in; after the end nothing waits, so then it is what was passed on
(`run_exact`).
-/

namespace WidgetFlow.Watch

variable {c d : Change} {t : ChangeType} {held batch out : List Change} {steps : List Step} {s : Step}

/-! ### Changes and their paths -/

/-- The change that comes in. -/
def Step.change? : Step → Option Change
  | .change c => some c
  | _ => none

/-- All changes that came in, in order. -/
def incoming (steps : List Step) : List Change := steps.filterMap Step.change?

/-- The changes that came in since the last step that is not a change. -/
def waiting (steps : List Step) : List Change :=
  steps.foldl (fun cs s => match s.change? with | some c => cs ++ [c] | none => []) []

/-- The paths of all changes of a kind, in order. -/
def pathsOf (t : ChangeType) (cs : List Change) : List String :=
  (cs.filter (·.type = t)).flatMap (·.paths)

theorem incoming_snoc : incoming (steps ++ [s]) = incoming steps ++ s.change?.toList := by
  rw [incoming, List.filterMap_append, ← incoming]
  cases h : s.change? <;> simp [h]

theorem waiting_snoc_change : waiting (steps ++ [.change c]) = waiting steps ++ [c] := by
  simp [waiting, Step.change?]

theorem waiting_snoc_eq_nil (other : s.change? = none) : waiting (steps ++ [s]) = [] := by
  simp [waiting, other]

@[simp]
theorem pathsOf_nil : pathsOf t [] = [] := rfl

theorem pathsOf_cons (t : ChangeType) (c : Change) (cs : List Change) :
    pathsOf t (c :: cs) = (if c.type = t then c.paths else []) ++ pathsOf t cs := by
  simp only [pathsOf, List.filter_cons, decide_eq_true_eq]
  split <;> simp

theorem pathsOf_append (t : ChangeType) (cs cs' : List Change) :
    pathsOf t (cs ++ cs') = pathsOf t cs ++ pathsOf t cs' := by
  simp [pathsOf]

/-- Without changes of the kind there are no paths. -/
theorem pathsOf_eq_nil (none : ∀ d ∈ held, d.type ≠ t) : pathsOf t held = [] := by
  rw [pathsOf, List.filter_eq_nil_iff.2, List.flatMap_nil]
  intro d there
  simpa using none d there

/-! ### Merging -/

theorem ChangeType.eq_of_code {t t' : ChangeType} (same : t.code = t'.code) : t = t' := by
  cases t
  cases t'
  exact congrArg ChangeType.mk same

/-- There is one change for each kind of the batch, in ascending order, with the paths of all its changes
of that kind. -/
structure Merged (batch out : List Change) : Prop where
  ascending : (out.map (·.type)).Pairwise (·.code < ·.code)
  kinds : ∀ t, t ∈ out.map (·.type) ↔ t ∈ batch.map (·.type)
  paths : ∀ t, pathsOf t out = pathsOf t batch

theorem merged_nil : Merged [] [] where
  ascending := .nil
  kinds _ := .rfl
  paths _ := rfl

/-- A batch has something to pass on exactly if it is not empty. -/
theorem Merged.eq_nil_iff (merged : Merged batch out) : out = [] ↔ batch = [] := by
  rw [← List.map_eq_nil_iff (f := Change.type) (l := out), ← List.map_eq_nil_iff (f := Change.type),
    List.eq_nil_iff_forall_not_mem, List.eq_nil_iff_forall_not_mem]
  simp only [merged.kinds]

theorem Batch.mem_kinds_add_iff :
    t ∈ (Batch.add c held).map (·.type) ↔ t ∈ held.map (·.type) ∨ t = c.type := by
  induction held with
  | nil => simp [Batch.add]
  | cons d rest ih =>
    rw [Batch.add]
    split
    case isTrue => simp [or_comm]
    case isFalse =>
      split
      case isTrue same =>
        simp only [List.map_cons, List.mem_cons, same]
        tauto
      case isFalse =>
        rw [List.map_cons, List.mem_cons, ih, List.map_cons, List.mem_cons, or_assoc]

theorem Batch.ascending_add (ascending : (held.map (·.type)).Pairwise (·.code < ·.code)) :
    ((Batch.add c held).map (·.type)).Pairwise (·.code < ·.code) := by
  induction held with
  | nil => exact List.pairwise_singleton _ _
  | cons d rest ih =>
    obtain ⟨first, others⟩ := List.pairwise_cons.1 ascending
    rw [Batch.add]
    split
    case isTrue before =>
      refine List.pairwise_cons.2 ⟨?_, ascending⟩
      intro t there
      rcases List.mem_cons.1 there with rfl | there
      · exact before
      · exact Int.lt_trans before (first t there)
    case isFalse after =>
      split
      case isTrue => exact ascending
      case isFalse other =>
        refine List.pairwise_cons.2 ⟨?_, ih others⟩
        intro t there
        rcases Batch.mem_kinds_add_iff.1 there with there | rfl
        · exact first t there
        · have apart : c.type.code ≠ d.type.code := fun same => other (ChangeType.eq_of_code same)
          exact Int.lt_iff_le_and_ne.2 ⟨Int.not_lt.1 after, apart.symm⟩

/-- A change may change places with changes of other kinds. -/
theorem pathsOf_cons_comm (apart : ∀ e ∈ held, e.type ≠ c.type) :
    pathsOf t (c :: held) = pathsOf t held ++ pathsOf t [c] := by
  by_cases same : c.type = t
  · subst same
    rw [pathsOf_cons, pathsOf_cons, pathsOf_eq_nil apart]
    simp
  · rw [pathsOf_cons, pathsOf_cons, if_neg same]
    simp

/-- In a batch in ascending order, the paths of a change that is added come last among its kind. -/
theorem Batch.pathsOf_add (ascending : (held.map (·.type)).Pairwise (·.code < ·.code)) :
    pathsOf t (Batch.add c held) = pathsOf t held ++ pathsOf t [c] := by
  induction held with
  | nil => rfl
  | cons d rest ih =>
    obtain ⟨first, others⟩ := List.pairwise_cons.1 ascending
    have later (e : Change) (there : e ∈ rest) : d.type.code < e.type.code :=
      first e.type (List.mem_map_of_mem there)
    rw [Batch.add]
    split
    case isTrue before =>
      apply pathsOf_cons_comm
      intro e there same
      rw [← same] at before
      rcases List.mem_cons.1 there with rfl | there
      · exact Int.lt_irrefl _ before
      · exact Int.lt_asymm before (later e there)
    case isFalse =>
      split
      case isTrue same =>
        have joined : pathsOf t (⟨d.type, d.paths ++ c.paths⟩ :: rest) =
            pathsOf t [d] ++ pathsOf t (c :: rest) := by
          rw [pathsOf_cons, pathsOf_cons, pathsOf_cons t c, same]
          split
          · simp
          · simp
        have apart (e : Change) (there : e ∈ rest) : e.type ≠ c.type := by
          intro equal
          have after := later e there
          rw [equal, same] at after
          exact Int.lt_irrefl _ after
        rw [joined, pathsOf_cons_comm apart, ← List.append_assoc, ← pathsOf_append,
          List.singleton_append]
      case isFalse => rw [pathsOf_cons, ih others, pathsOf_cons t d, List.append_assoc]

/-- Adding a change to the merged batch merges it. -/
theorem Merged.add (merged : Merged batch held) (c : Change) :
    Merged (batch ++ [c]) (Batch.add c held) where
  ascending := Batch.ascending_add merged.ascending
  kinds t := by
    rw [Batch.mem_kinds_add_iff, merged.kinds, List.map_append, List.mem_append, List.map_singleton,
      List.mem_singleton]
  paths t := by rw [Batch.pathsOf_add merged.ascending, merged.paths, pathsOf_append]

/-! ### Steps -/

namespace Debouncer

variable {b : Debouncer}

/-- What a debouncer is like after steps among which there is no end. The timers are told by the changes
that started them, counted from the first one that came in. -/
structure Tracks (steps : List Step) (b : Debouncer) : Prop where
  going : b.closed = false
  merged : Merged (waiting steps) b.held
  counted : b.received = (incoming steps).length
  /-- The last change that waits started the quiet timer. -/
  quiet : b.quiet = if waiting steps = [] then none else some ((incoming steps).length - 1)
  /-- The first change that waits started the deadline. -/
  deadline : b.deadline =
    if waiting steps = [] then none else some ((incoming steps).length - (waiting steps).length)
  /-- What was passed on and what waits is what came in. -/
  kept : ∀ t, pathsOf t b.output ++ pathsOf t (waiting steps) = pathsOf t (incoming steps)

theorem tracks_nil : Tracks [] {} where
  going := rfl
  merged := merged_nil
  counted := rfl
  quiet := rfl
  deadline := rfl
  kept _ := rfl

/-- A flush passes on what is held back, after what was passed on before. -/
theorem output_flush (b : Debouncer) : b.flush.output = b.output ++ b.held := by
  simp only [output, flush]
  split
  case isTrue none => rw [List.isEmpty_iff.1 none, List.append_nil]
  case isFalse => rw [List.flatten_append, List.flatten_singleton]

theorem Tracks.accept (tracks : Tracks steps b) (c : Change) :
    Tracks (steps ++ [.change c]) (b.accept c) := by
  have came : incoming (steps ++ [.change c]) = incoming steps ++ [c] := incoming_snoc
  constructor
  · exact tracks.going
  · rw [waiting_snoc_change]
    exact tracks.merged.add c
  · rw [came, List.length_append]
    exact congrArg (· + 1) tracks.counted
  · rw [came, waiting_snoc_change]
    simp [Debouncer.accept, tracks.counted]
  · rw [came, waiting_snoc_change]
    simp only [Debouncer.accept, tracks.deadline, tracks.counted]
    by_cases idle : waiting steps = []
    · simp [idle]
    · simp [idle]
  · intro t
    rw [came, waiting_snoc_change, pathsOf_append, pathsOf_append, ← tracks.kept t,
      ← List.append_assoc]
    rfl

/-- If nothing waits, a flush does nothing. -/
theorem Tracks.flush_eq (tracks : Tracks steps b) (nothing : waiting steps = []) : b.flush = b := by
  obtain ⟨held, count, quiet, deadline, flushed, closed⟩ := b
  obtain rfl : held = [] := tracks.merged.eq_nil_iff.2 nothing
  obtain rfl : quiet = none := tracks.quiet.trans (if_pos nothing)
  obtain rfl : deadline = none := tracks.deadline.trans (if_pos nothing)
  rfl

/-- Both timers run exactly while something waits, so whichever of them is said to have elapsed, it is
as good as a flush. -/
theorem Tracks.step_eq_flush (tracks : Tracks steps b) (other : s.change? = none)
    (more : s ≠ .ended) : b.step s = b.flush := by
  have elapsed {timer : Option Nat} {n : Nat}
      (runs : timer = if waiting steps = [] then none else some n) :
      (if timer.isSome then b.flush else b) = b.flush := by
    rw [runs]
    by_cases nothing : waiting steps = []
    · rw [if_pos nothing]
      exact (tracks.flush_eq nothing).symm
    · rw [if_neg nothing]
      rfl
  rw [step.eq_def, tracks.going, if_neg Bool.false_ne_true]
  cases s with
  | change c => cases other
  | quietElapsed => exact elapsed tracks.quiet
  | deadlineElapsed => exact elapsed tracks.deadline
  | ended => exact absurd rfl more

theorem Tracks.step_change (tracks : Tracks steps b) (c : Change) :
    b.step (.change c) = b.accept c := by
  rw [step, tracks.going, if_neg Bool.false_ne_true]

theorem Tracks.step_ended (tracks : Tracks steps b) :
    b.step .ended = { b.flush with closed := true } := by
  rw [step, tracks.going, if_neg Bool.false_ne_true]

/-- What is held back is passed on at every step that is not a change, and both timers stop. -/
theorem Tracks.step_other (tracks : Tracks steps b) (other : s.change? = none) :
    (b.step s).output = b.output ++ b.held ∧ (b.step s).quiet = none ∧
      (b.step s).deadline = none := by
  by_cases last : s = .ended
  · rw [last, tracks.step_ended, ← output_flush]
    exact ⟨rfl, rfl, rfl⟩
  · rw [tracks.step_eq_flush other last, output_flush]
    exact ⟨rfl, rfl, rfl⟩

theorem Tracks.flush (tracks : Tracks steps b) (other : s.change? = none) :
    Tracks (steps ++ [s]) b.flush := by
  have came : incoming (steps ++ [s]) = incoming steps := by
    rw [incoming_snoc, other]
    exact List.append_nil _
  have nothing : waiting (steps ++ [s]) = [] := waiting_snoc_eq_nil other
  constructor
  · exact tracks.going
  · rw [nothing]
    exact merged_nil
  · rw [came]
    exact tracks.counted
  · rw [nothing]
    rfl
  · rw [nothing]
    rfl
  · intro t
    rw [came, nothing, output_flush, pathsOf_append, tracks.merged.paths, tracks.kept, pathsOf_nil,
      List.append_nil]

/-! ### Runs -/

theorem run_snoc : run (steps ++ [s]) = (run steps).step s := by
  rw [run, List.foldl_append]
  rfl

theorem tracks_run (more : Step.ended ∉ steps) : Tracks steps (run steps) := by
  induction steps using List.reverseRecOn with
  | nil => exact tracks_nil
  | append_singleton steps s ih =>
    rw [List.mem_append, not_or, List.mem_singleton] at more
    have tracks := ih more.1
    rw [run_snoc]
    cases kind : s.change? with
    | some c =>
      cases s with
      | change c =>
        rw [tracks.step_change]
        exact tracks.accept c
      | _ => cases kind
    | none =>
      rw [tracks.step_eq_flush kind (Ne.symm more.2)]
      exact tracks.flush kind

/-- After the end nothing happens. -/
theorem foldl_step_of_closed (closed : b.closed = true) (steps : List Step) :
    steps.foldl step b = b := by
  induction steps with
  | nil => rfl
  | cons s rest ih =>
    have same : b.step s = b := if_pos closed
    rw [List.foldl_cons, same, ih]

/-- Up to the end, a debouncer passes nothing on when a change comes in, and at every other step it
passes on what came in since the last such step, merged, and stops both timers; nothing is passed on if
nothing came in. While something waits, the deadline is that of the first change that waits. The end is
a last flush; then the paths of every kind have been passed on as they came in, and nothing happens any
more. -/
theorem run_exact (more : Step.ended ∉ steps) :
    let b := run steps
    b.closed = false ∧
    b.quiet = (if waiting steps = [] then none else some ((incoming steps).length - 1)) ∧
    b.deadline = (if waiting steps = [] then none
      else some ((incoming steps).length - (waiting steps).length)) ∧
    (∀ c, (run (steps ++ [.change c])).output = b.output) ∧
    (∀ s, s.change? = none →
      let b' := run (steps ++ [s])
      (∃ out, Merged (waiting steps) out ∧ (out = [] ↔ waiting steps = []) ∧
        b'.output = b.output ++ out) ∧
      b'.quiet = none ∧ b'.deadline = none) ∧
    let last := run (steps ++ [.ended])
    last.closed = true ∧ (∀ t, pathsOf t last.output = pathsOf t (incoming steps)) ∧
      ∀ later, run (steps ++ .ended :: later) = last := by
  intro b
  have tracks : Tracks steps b := tracks_run more
  have last : run (steps ++ [.ended]) = { b.flush with closed := true } := by
    rw [run_snoc, tracks.step_ended]
  have closed : (run (steps ++ [.ended])).closed = true := by rw [last]
  refine ⟨tracks.going, tracks.quiet, tracks.deadline, fun c => ?_, fun s other => ?_, closed, ?_, ?_⟩
  · rw [run_snoc, tracks.step_change]
    rfl
  · obtain ⟨passed, stopped⟩ := tracks.step_other other
    rw [run_snoc]
    exact ⟨⟨b.held, tracks.merged, tracks.merged.eq_nil_iff, passed⟩, stopped⟩
  · intro t
    obtain ⟨passed, -⟩ := tracks.step_other (s := .ended) rfl
    rw [run_snoc, passed, pathsOf_append, tracks.merged.paths, tracks.kept]
  · intro later
    rw [List.append_cons, run, List.foldl_append]
    exact foldl_step_of_closed closed later

/-- Changes of two kinds, with a flush in between. -/
def burst : List Step :=
  [.change ⟨.facts, ["a"]⟩, .quietElapsed, .change ⟨.config, ["b"]⟩, .change ⟨.facts, ["c"]⟩,
    .change ⟨.config, ["d"]⟩]

/-- The deadline is that of the change after the flush, and the end passes on what waits. -/
theorem run_exact_burst : (run burst).deadline = some 1 ∧ (run (burst ++ [.ended])).closed = true ∧
    ∀ t, pathsOf t (run (burst ++ [.ended])).output = pathsOf t (incoming burst) := by
  have more : Step.ended ∉ burst := by decide
  obtain ⟨-, -, deadline, -, -, closed, kept, -⟩ := run_exact more
  have first : waiting burst ≠ [] := by decide
  rw [if_neg first] at deadline
  exact ⟨deadline, closed, kept⟩

end Debouncer

end WidgetFlow.Watch
