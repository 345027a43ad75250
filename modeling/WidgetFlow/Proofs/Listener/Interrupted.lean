import WidgetFlow.Proofs.Listener.Deferred
import WidgetFlow.Proofs.Listener.Paced
import WidgetFlow.Proofs.Workspace.Serving

/-!
# Flushes that fail

A flush takes all that waits out of the queues before it does the first job. If it is called off
before that, nothing has changed. If a job fails, the flush breaks off: the job that failed and those
after it are in nobody's hands any more, since nothing is put back. The bindings among them are still
in the memo, so they are not accepted again either (`flush_breaks_off`). So a flush that fails does
lose work (`not_forall_flush_keeps_jobs`).
-/

namespace WidgetFlow

open Work

variable {r : Resolver} {w w' : Workspace} {done rest : List QueuedJob} {job : QueuedJob}
  {e : Fault}

/-- A round does the jobs `done` one after the other, fails at `job` and never comes to `rest`. -/
def BreaksOff (r : Resolver) (w : Workspace) (done : List QueuedJob) (job : QueuedJob)
    (rest : List QueuedJob) (e : Fault) (w' : Workspace) : Prop :=
  ∃ w₀ v, Dispatch.beginRound 1 w = .ok (done ++ job :: rest) w₀ ∧
    done.forM (QueuedJob.resolve r) w₀ = .ok () v ∧ job.resolve r v = .error e w'

/-- A flush fails if it is called off or breaks off. -/
theorem flush_eq_error {canceled : Bool} (failed : Dispatch.flush r canceled w = .error e w') :
    (canceled = true ∧ e = .canceled ∧ w' = w) ∨
      ∃ done job rest, BreaksOff r w done job rest e w' := by
  cases canceled with
  | true =>
    cases failed
    exact .inl ⟨rfl, rfl, rfl⟩
  | false =>
    rw [Dispatch.flush_eq] at failed
    rcases bind_eq_error failed with began | ⟨jobs, w₀, began, broke⟩
    · have never := Dispatch.beginRound_takes w.dispatcher.ledger 1 w rfl
      rw [began] at never
      exact never.elim
    · obtain ⟨done, job, rest, v, rfl, before, last⟩ := forM_eq_error broke
      exact .inr ⟨done, job, rest, w₀, v, began, before, last⟩

namespace BreaksOff

/-- The jobs of the round are those that waited. -/
theorem jobs_eq (broke : BreaksOff r w done job rest e w') :
    w.dispatcher.ledger.jobs = done ++ job :: rest := by
  obtain ⟨w₀, v, began, -, -⟩ := broke
  exact ((Dispatch.beginRound_takes _ _).of_ok rfl began).1.symm

/-- Both queues are empty, the memo is as it was, and only the jobs that were done are counted. -/
theorem ledger_eq (broke : BreaksOff r w done job rest e w') :
    w'.dispatcher.ledger =
      Ledger.close { w.dispatcher.ledger with pending := [], wires := [] } done := by
  obtain ⟨w₀, v, began, before, last⟩ := broke
  have taken := ((Dispatch.beginRound_takes _ _).of_ok rfl began).2
  have closed := (QueuedJob.resolves_all r _ _).of_ok taken before
  have failed := job.resolves r _ v closed
  rwa [last] at failed

end BreaksOff

/-- A binding of the memo is never accepted again. -/
theorem requestWire_of_mem_memo {k : Wire} (known : k ∈ w.dispatcher.memo) :
    ∃ v, Dispatch.requestWire k w = .ok false v := by
  have asked : Triple (· = w) (Dispatch.requestWire k) (fun answer _ => answer = false)
      fun _ _ => False := by
    refine Triple.bind Triple.get fun v => Triple.ite (fun _ _ _ => rfl) fun _ => ?_
    refine Triple.ite (fun _ _ _ => rfl) fun fresh => ?_
    rintro _ ⟨rfl, rfl⟩
    exact absurd known fresh
  obtain ⟨answer, v, done, rfl⟩ := asked.exists_ok rfl
  exact ⟨v, done⟩

/-- A flush that fails was called off before it began, or has broken off. Then only the jobs before
the one that failed were done, and nothing waits: another flush does nothing, the bindings that were
not wired are in the memo as before, and nobody can ask for them again. -/
theorem flush_breaks_off {canceled : Bool} (failed : Dispatch.flush r canceled w = .error e w') :
    (canceled = true ∧ e = .canceled ∧ w' = w) ∨
    ∃ done job rest, BreaksOff r w done job rest e w' ∧
      w.dispatcher.ledger.jobs = done ++ job :: rest ∧
      w'.dispatcher.stats.wired = w.dispatcher.stats.wired + done.countP QueuedJob.isWire ∧
      w'.dispatcher.backlog = 0 ∧ Dispatch.flush r false w' = .ok () w' ∧
      w'.dispatcher.memo = w.dispatcher.memo ∧
      ∀ k ∈ w.dispatcher.memo, ∃ v, Dispatch.requestWire k w' = .ok false v := by
  rcases flush_eq_error failed with called | ⟨done, job, rest, broke⟩
  · exact .inl called
  · have after := broke.ledger_eq
    have memo : w'.dispatcher.memo = w.dispatcher.memo := congrArg Ledger.memo after
    have pending : w'.dispatcher.pending = [] := congrArg Ledger.pending after
    have wires : w'.dispatcher.wires = [] := congrArg Ledger.wires after
    refine .inr ⟨done, job, rest, broke, broke.jobs_eq, congrArg Ledger.wired after, ?_, ?_, memo, ?_⟩
    · simp [Dispatcher.backlog, pending, wires]
    · exact Dispatch.flush_idle r (congrArg Ledger.jobs after)
    · intro k known
      exact requestWire_of_mem_memo (memo ▸ known)

/-! ### A registration of an interface that the table does not know -/

def strayTask : DispatchTask := { listenerClass := "J", listener := 2, view := 3, op := 5 }

def strandedTask : DispatchTask := { listenerClass := "I", listener := 2, view := 3, op := 4 }

def strandedBinding : Wire := ⟨4, 3, 1⟩

/-- Two operations register a value that holds an object of the class `C`, the second one for an
interface without a table entry. Its task comes first; the other task and a binding wait behind it. -/
def strayFirst : Workspace :=
  Workspace.run { resolver := implementors ["C"] } {}
    [.request (.internAlloc ⟨"new C", "C", .listener⟩),
     .request (.internLocal ⟨"m", "l"⟩),
     .request (.internLocal ⟨"m", "v"⟩),
     .request (.addEdge 1 2 {}),
     .request (.createOperation { kind := "set-listener", operands := ⟨3, 2, 0⟩, listener := "I" }),
     .request (.createOperation { kind := "set-listener", operands := ⟨3, 2, 0⟩, listener := "J" }),
     .register strayTask, .register strandedTask, .requestWire strandedBinding]

theorem exists_failed_strayFirst :
    ∃ e w', Dispatch.flush (implementors ["C"]) false strayFirst = .error e w' := by
  have ran : (match Dispatch.flush (implementors ["C"]) false strayFirst with
      | .error _ _ => true
      | .ok _ _ => false) = true := by decide +kernel
  split at ran
  case h_1 e w' failed => exact ⟨e, w', failed⟩
  case h_2 => cases ran

/-- The flush breaks off at the first task, and nothing is left of what waited but the memo. -/
theorem flush_breaks_off_strayFirst :
    ∃ e w', Dispatch.flush (implementors ["C"]) false strayFirst = .error e w' ∧
      strayFirst.dispatcher.backlog = 3 ∧ w'.dispatcher.backlog = 0 ∧
      w'.dispatcher.memo = [strandedBinding] ∧
      Dispatch.flush (implementors ["C"]) false w' = .ok () w' ∧
      ∃ v, Dispatch.requestWire strandedBinding w' = .ok false v := by
  obtain ⟨e, w', failed⟩ := exists_failed_strayFirst
  have memo : strayFirst.dispatcher.memo = [strandedBinding] := by decide +kernel
  rcases flush_breaks_off failed with ⟨called, -⟩ | ⟨_, _, _, -, -, -, idle, again, same, refused⟩
  · cases called
  · refine ⟨e, w', failed, by decide +kernel, idle, same.trans memo, again, refused _ ?_⟩
    simp [memo]

/-- So it is not so that a flush that fails leaves the jobs that were not done in the queues. -/
theorem not_forall_flush_keeps_jobs :
    ¬ ∀ (r : Resolver) (canceled : Bool) (w w' : Workspace) (e : Fault),
      Dispatch.flush r canceled w = .error e w' →
      ∀ done job rest, BreaksOff r w done job rest e w' →
      ∀ j ∈ job :: rest, j ∈ w'.dispatcher.ledger.jobs := by
  intro claim
  obtain ⟨e, w', failed⟩ := exists_failed_strayFirst
  rcases flush_eq_error failed with ⟨called, -⟩ | ⟨done, job, rest, broke⟩
  · cases called
  · have there := claim _ _ _ _ _ failed done job rest broke job List.mem_cons_self
    rw [broke.ledger_eq] at there
    cases there

end WidgetFlow
