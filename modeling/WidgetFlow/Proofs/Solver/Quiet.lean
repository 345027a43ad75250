import WidgetFlow.Proofs.Workspace.Triple
import WidgetFlow.Solver.Passes

/-!
# Steps that only take notes

Looking at the graph leaves nothing behind but notes. So a step of the solver that looks keeps every
fact of the workspace in which the journal has no part (`IgnoresJournal`), whatever the graph is. The
steps that confirm listeners also ask for wires, and keep such a fact if asking does.
-/

namespace WidgetFlow

open Work

variable {α : Type} {inv : Workspace → Prop}

/-- The fact does not depend on the journal. -/
def IgnoresJournal (inv : Workspace → Prop) : Prop :=
  ∀ w journal, inv w → inv { w with journal }

/-! ### Looking -/

namespace Keeps

theorem operandOf (op : NodeId) (role : Role) : Keeps inv (Solve.operandOf op role) := by
  refine .bind .store fun graph => ?_
  split
  · exact .pure
  · exact .throw

theorem recordListener (p : Node) (closure : NodeSet) (op : Solve.OpNode) (f : Findings) :
    Keeps inv (Solve.recordListener p closure op f) :=
  .bind (operandOf _ _) fun _ => .ite .pure .pure

end Keeps

namespace IgnoresJournal

open Solve

theorem note (quiet : IgnoresJournal inv) (n : Notice) : Keeps inv (note n) :=
  Keeps.modify fun w holds => quiet w _ holds

theorem judge (quiet : IgnoresJournal inv) (rules : Rules) (p : NodeId) (object : ObjectKind)
    (op : NodeId) (kind : String) (role : Role) : Keeps inv (rules.judge p object op kind role) := by
  unfold Rules.judge
  split
  · exact .pure
  · exact .bind (quiet.note _) fun _ => .ite .throw .pure

theorem record (quiet : IgnoresJournal inv) (rules : Rules) (p : Node) (closure : NodeSet)
    (op : OpNode) (m : RoleMaps) (f : Findings) : Keeps inv (record rules p closure op m f) :=
  .bind (.operandOf _ _) fun _ => .ite .pure
    (.ite .pure (.bind (quiet.judge _ _ _ _ _ _) fun _ => .pure))

theorem producerReaches (quiet : IgnoresJournal inv) (rules : Rules) (p : Node) (closure : NodeSet)
    (f : Findings) (op : OpNode) : Keeps inv (producerReaches rules p closure f op) := by
  have receiver (f : Findings) : Keeps inv (if takesReceiver p op.op.kind then
      Solve.record rules p closure op receiverMaps f else pure f) :=
    .ite (quiet.record _ _ _ _ _ _) .pure
  exact .ite (.bind (.recordListener _ _ _ _) receiver)
    (.ite (.bind (quiet.record _ _ _ _ _ _) receiver) (.bind .pure receiver))

theorem reachableCached (quiet : IgnoresJournal inv) (c : ClosureCache) (id : NodeId) :
    Keeps inv (reachableCached c id) := by
  have answer : Keeps inv (do return c.reachable (← Work.store) id : Work _) :=
    .bind .store fun _ => .pure
  exact .ite (.bind (quiet.note _) fun _ => answer) answer

theorem precompute (quiet : IgnoresJournal inv) (c : ClosureCache) (ids : List NodeId) :
    Keeps inv (precompute c ids) := by
  induction ids generalizing c with
  | nil => exact .pure
  | cons id ids ih => exact .bind (quiet.reachableCached c id) fun _ => ih _

/-- A pass visits nodes and the operations of their closures. -/
theorem visitClosures (quiet : IgnoresJournal inv)
    {reach : Node → NodeSet → Findings → OpNode → Work Findings}
    (each : ∀ n closure f op, Keeps inv (reach n closure f op)) (nodes : List Node)
    (st : SolveState) :
    Keeps inv (visitClosures (fun n closure f => do
      (operationsIn (← Work.store) closure).foldlM (reach n closure) f) nodes st) := by
  induction nodes generalizing st with
  | nil => exact .pure
  | cons n nodes ih =>
    refine .bind (quiet.reachableCached _ _) fun _ => .bind ?_ fun _ => ih _
    exact .bind .store fun _ => .foldlM (fun f op => each n _ f op) _

theorem producerPass (quiet : IgnoresJournal inv) (rules : Rules) (st : SolveState) :
    Keeps inv (producerPass rules st) :=
  .bind .store fun _ => .bind (quiet.precompute _ _) fun _ => .bind (quiet.note _) fun _ =>
    quiet.visitClosures (quiet.producerReaches rules) _ _

theorem pass (quiet : IgnoresJournal inv) {index : Nat} {name : String} {step : Work α}
    (keeps : Keeps inv step) : Keeps inv (pass index name step) := by
  refine .bind (quiet.note _) fun _ => .bind (.attempt keeps) fun outcome => ?_
  refine .bind (quiet.note _) fun _ => ?_
  split
  · exact .throw
  · exact .bind (quiet.note _) fun _ => .pure

end IgnoresJournal

/-- What a pass does beside its step is to take notes. -/
theorem Triple.pass {pre : Workspace → Prop} {post : α → Workspace → Prop}
    {fail : Fault → Workspace → Prop} (before : IgnoresJournal pre)
    (after : ∀ a, IgnoresJournal (post a)) {index : Nat} {name : String} {step : Work α}
    (triple : Triple pre step post fail) :
    Triple pre (Solve.pass index name step) post fun _ _ => True := by
  refine Triple.bind (before.note _).relax fun _ => ?_
  refine Triple.bind (Triple.attempt triple) fun outcome => ?_
  cases outcome with
  | error e => exact Triple.bind (M := fun _ _ => True) (fun _ _ => trivial) fun _ _ _ => trivial
  | ok a =>
    refine Triple.bind ((after a).note _).relax fun _ => ?_
    exact Triple.bind ((after a).note _).relax fun _ => Triple.pure fun _ holds => holds

/-! ### Confirming listeners -/

section Confirming

variable (asks : ∀ k, Keeps inv (Dispatch.requestWire k))

include asks

theorem Keeps.requestWires (f : Findings) (op listener : NodeId) :
    Keeps inv (Solve.requestWires f op listener) := by
  unfold Solve.requestWires
  split
  · exact .bind (asks _) fun _ => .pure
  · exact .forM fun v _ => .bind (asks _) fun _ => .pure

theorem Keeps.confirmListener (f : Findings) (op listener : NodeId) :
    Keeps inv (Solve.confirmListener f op listener) :=
  .bind (.requestWires asks _ _ _) fun _ => .pure

theorem Keeps.listenerReaches (r : Resolver) (l : Node) (closure : NodeSet) (f : Findings)
    (op : Solve.OpNode) : Keeps inv (Solve.listenerReaches r l closure f op) :=
  .ite .pure (.bind (.operandOf _ _) fun _ => .ite .pure (.ite (.confirmListener asks _ _ _) .pure))

variable (quiet : IgnoresJournal inv)

include quiet

theorem Keeps.windowReaches (rules : Rules) (r : Resolver) (w : Node) (closure : NodeSet)
    (f : Findings) (op : Solve.OpNode) :
    Keeps inv (Solve.windowReaches rules r w closure f op) := by
  refine .bind .store fun graph => .ite ?_ (.ite ?_ ?_)
  · exact .bind (.operandOf _ _) fun v => .ite .pure (.bind (quiet.note _) fun _ => .pure)
  · exact .ite (.confirmListener asks _ _ _) .pure
  · exact .bind (quiet.note _) fun _ => .pure

theorem Keeps.windowPass (rules : Rules) (r : Resolver) (st : SolveState) :
    Keeps inv (Solve.windowPass rules r st) :=
  .bind .store fun _ => .bind (quiet.precompute _ _) fun _ =>
    quiet.visitClosures (.windowReaches asks quiet rules r) _ _

theorem Keeps.listenerPass (r : Resolver) (st : SolveState) :
    Keeps inv (Solve.listenerPass r st) :=
  .bind .store fun _ => .bind (quiet.precompute _ _) fun _ => .bind (quiet.note _) fun _ =>
    quiet.visitClosures (.listenerReaches asks r) _ _

end Confirming

end WidgetFlow
