import WidgetFlow.Proofs.Solver.Quiet
import WidgetFlow.Proofs.Workspace.Lasting

/-!
# All work on the graph is done by requests

Intake, dispatch and the solver change the graph only by requests on the store. So wherever a step of
theirs ends or fails, the graph it leaves is one that a run of requests leads to (`Served`), and what
holds of runs holds of every analysis (`served_run`).

An `Activity` is what a client may have a workspace do; `Workspace.run` does a list of them, and an
activity that fails leaves what it had done before it failed.
-/

namespace WidgetFlow

open Work

variable {α β : Type} {s : Store}

/-- The graph of the workspace is one that requests on the store `s` lead to. -/
def Served (s : Store) (w : Workspace) : Prop := ∃ qs, w.store = s.run qs

namespace Served

/-- Requests on a graph that requests lead to. -/
theorem trans {w w' : Workspace} (first : Served s w) (second : Served w.store w') :
    Served s w' := by
  obtain ⟨qs, graph⟩ := first
  obtain ⟨more, graph'⟩ := second
  exact ⟨qs ++ more, by rw [graph', graph, Store.run_append]⟩

/-! ### Steps on the store and steps beside it -/

/-- A request that is granted leads one step on; one that is refused changes nothing. -/
theorem onStore {f : Store → Except Fault (α × Store)} {q : StoreRequest}
    (asks : ∀ s, (f s).map (·.2) = s.answer q) : Keeps (Served s) (onStore f) := by
  rintro w ⟨qs, graph⟩
  unfold Work.onStore
  cases granted : f w.store with
  | error e => exact ⟨qs, graph⟩
  | ok p =>
    have answer := asks w.store
    rw [granted] at answer
    refine ⟨qs ++ [q], ?_⟩
    rw [Store.run_append, ← graph, Store.run_cons, Store.run_nil, Store.serve, ← answer]
    rfl

/-- Plain work is done by requests. -/
theorem lasting : Lasting (Served s) where
  request := by
    rintro w q ⟨qs, graph⟩ -
    refine ⟨qs ++ [q], ?_⟩
    rw [Store.run_append, ← graph]
    rfl
  beside := by
    rintro w w' ⟨qs, graph⟩ same - -
    exact ⟨qs, same.trans graph⟩

theorem modify {change : Workspace → Workspace} (spares : ∀ w, (change w).store = w.store) :
    Keeps (Served s) (modify change) := by
  refine .modify fun w served => ?_
  obtain ⟨qs, graph⟩ := served
  exact ⟨qs, (spares w).trans graph⟩

theorem checkCanceled (canceled : Bool) : Keeps (Served s) (checkCanceled canceled) :=
  .ite .throw .pure

/-! ### Dispatch -/

open Dispatch

theorem register (r : Resolver) (task : DispatchTask) : Keeps (Served s) (register r task) :=
  lasting.register (fun _ => modify fun _ => rfl) r task

theorem requestWire (k : Wire) : Keeps (Served s) (requestWire k) := by
  refine Triple.bind Triple.get fun w => ?_
  have refused (change : DispatchStats → DispatchStats) (n : Notice) :
      Triple (fun w' => w = w' ∧ Served s w')
        (do Work.countDispatch change; Work.note n; return false : Work Bool)
        (fun _ => Served s) fun _ => Served s :=
    Triple.conseq
      (Keeps.bind (lasting.countDispatch _) fun _ => Keeps.bind (lasting.note _) fun _ => Keeps.pure)
      (fun _ holds => holds.2) (fun _ _ holds => holds) fun _ _ holds => holds
  refine Triple.ite (fun _ => refused _ _) fun _ => Triple.ite (fun _ => refused _ _) fun _ => ?_
  refine Triple.bind (M := fun _ => Served s) (Triple.set ?_) fun _ => Keeps.pure
  rintro w' ⟨rfl, holds⟩
  exact holds

theorem takeQueues : Keeps (Served s) takeQueues := fun _ served => served

theorem flush (r : Resolver) (canceled : Bool) : Keeps (Served s) (flush r canceled) :=
  lasting.flush takeQueues r canceled

/-! ### Intake -/

open Intake

theorem registerListener (p : Program) (ev : OpEvent) (i : Operands) (op : NodeId)
    (reg : Registration) : Keeps (Served s) (registerListener p ev i op reg) :=
  lasting.registerListener (fun _ => modify fun _ => rfl) (fun _ => rfl) ev i op reg

theorem createOperation (p : Program) (ev : OpEvent) (i : Operands) (reg? : Option Registration) :
    Keeps (Served s) (Intake.createOperation p ev i reg?) :=
  lasting.createOperation (fun _ => modify fun _ => rfl) (fun _ => rfl)
    (fun r => onStore (q := .createOperation r) fun _ => rfl) (fun _ => rfl) ev i reg?

theorem recognize (p : Program) (ev : OpEvent) : Keeps (Served s) (recognize p ev) :=
  lasting.recognize (fun _ h => h) (fun _ h => h) fun _ i reg? _ _ => createOperation p ev i reg?

theorem tabHost (p : Program) (host : Ref) (part : String) (target : Ref) (site : Site) :
    Keeps (Served s) (tabHost p host part target site) :=
  lasting.tabHost (recognize p) host part target site

theorem complete (p : Program) (canceled : Bool) : Keeps (Served s) (complete p canceled) :=
  lasting.complete takeQueues p canceled

/-! ### The solver -/

open Solve

/-- Notes do not touch the graph. -/
theorem ignoresJournal : IgnoresJournal (Served s) := fun _ _ served => served

theorem prewire : Keeps (Served s) prewire :=
  .bind .store fun _ => .bind (.mapM fun _ => .within (lasting.addEdge _ _ _)) fun _ =>
    lasting.note _

theorem finalize (r : Resolver) (f : Findings) : Keeps (Served s) (finalize r f) :=
  .bind (.forM fun _ _ => .forM fun _ _ => Keeps.requestWires requestWire _ _ _) fun _ =>
    .bind (flush _ _) fun _ => .bind .get fun _ => lasting.note _

theorem solve (rules : Rules) (r : Resolver) (canceled : Bool) :
    Keeps (Served s) (Solve.run rules r canceled) := by
  have quiet : IgnoresJournal (Served s) := ignoresJournal
  refine .bind (checkCanceled _) fun _ => .bind (quiet.pass prewire) fun _ => ?_
  refine .bind (quiet.pass (quiet.producerPass _ _)) fun _ => ?_
  refine .bind (quiet.pass (.windowPass requestWire quiet _ _ _)) fun _ => ?_
  refine .bind (quiet.pass (.listenerPass requestWire quiet _ _)) fun _ => ?_
  refine .bind (quiet.pass (finalize _ _)) fun _ => .bind (.forM fun _ _ => lasting.note _) fun _ => ?_
  exact .bind .store fun _ => .bind (lasting.note _) fun _ => .bind (lasting.note _) fun _ => .pure

end Served

/-! ### Activities -/

/-- What a client may have a workspace do. -/
inductive Activity where
  | request (q : StoreRequest)
  | assign (target source : Ref) (site : Site)
  | bindParameter (formal actual : Ref) (site : Site)
  | bindReturn (target returned : Ref) (site : Site)
  | recognize (ev : OpEvent)
  | tabHost (host : Ref) (part : String) (target : Ref) (site : Site)
  | bindViews (window root : Ref)
  | windowRoot (window producer : Ref)
  | complete (canceled : Bool)
  | register (task : DispatchTask)
  | requestWire (k : Wire)
  | flush (canceled : Bool)
  | solve (rules : Rules) (canceled : Bool)

/-- The step of an activity; its answer does not matter. -/
def Activity.work (p : Program) : Activity → Work Unit
  | .request q => onStore fun s => (s.answer q).map ((), ·)
  | .assign target source site => Intake.assign p target source site
  | .bindParameter formal actual site => Intake.bindParameter p formal actual site
  | .bindReturn target returned site => Intake.bindReturn p target returned site
  | .recognize ev => do let _ ← Intake.recognize p ev
  | .tabHost host part target site => do let _ ← Intake.tabHost p host part target site
  | .bindViews window root => Intake.bindViews window root
  | .windowRoot window producer => Intake.windowRoot window producer
  | .complete canceled => Intake.complete p canceled
  | .register task => Dispatch.register p.resolver task
  | .requestWire k => do let _ ← Dispatch.requestWire k
  | .flush canceled => Dispatch.flush p.resolver canceled
  | .solve rules canceled => do let _ ← Solve.run rules p.resolver canceled

/-- The activity is the intake of a flow event. -/
def Activity.isEvent : Activity → Bool
  | .assign .. | .bindParameter .. | .bindReturn .. | .recognize _ | .tabHost .. | .bindViews ..
  | .windowRoot .. => true
  | _ => false

/-- The activity is the intake of a flow event, or ends construction. -/
def Activity.builds : Activity → Bool
  | .complete _ => true
  | a => a.isEvent

namespace Workspace

/-- The workspace after an activity, ended or failed. -/
def perform (p : Program) (w : Workspace) (a : Activity) : Workspace :=
  match a.work p w with
  | .ok _ w' => w'
  | .error _ w' => w'

/-- The workspace after a list of activities. -/
def run (p : Program) (w : Workspace) (acts : List Activity) : Workspace := acts.foldl (perform p) w

end Workspace

theorem Activity.serves (p : Program) (a : Activity) : Keeps (Served s) (a.work p) := by
  cases a with
  | request q =>
    show Keeps (Served s) (onStore fun s => (s.answer q).map ((), ·))
    refine Served.onStore (q := q) fun s => ?_
    cases s.answer q <;> rfl
  | assign => exact Served.lasting.flow _ _ _ _ _
  | bindParameter => exact Served.lasting.flow _ _ _ _ _
  | bindReturn => exact Served.lasting.flow _ _ _ _ _
  | recognize ev => exact .bind (Served.recognize p ev) fun _ => .pure
  | tabHost => exact .bind (Served.tabHost _ _ _ _ _) fun _ => .pure
  | bindViews window root => exact Served.lasting.bindViews window root
  | windowRoot window producer => exact Served.lasting.windowRoot window producer
  | complete canceled => exact Served.complete p canceled
  | register task => exact Served.register p.resolver task
  | requestWire k => exact .bind (Served.requestWire k) fun _ => .pure
  | flush canceled => exact Served.flush p.resolver canceled
  | solve rules canceled => exact .bind (Served.solve rules p.resolver canceled) fun _ => .pure

/-- What the step of an activity leads to holds afterwards, whether it has ended or failed. -/
theorem Workspace.perform_of_triple {p : Program} {a : Activity} {pre post : Workspace → Prop}
    (triple : Triple pre (a.work p) (fun _ => post) fun _ => post) {w : Workspace} (start : pre w) :
    post (w.perform p a) := by
  have step := triple w start
  unfold Workspace.perform
  split
  case h_1 done => rwa [done] at step
  case h_2 failed => rwa [failed] at step

theorem served_perform (p : Program) {w : Workspace} (served : Served s w) (a : Activity) :
    Served s (w.perform p a) :=
  Workspace.perform_of_triple (a.serves p) served

/-- Whatever is done, the graph is one that requests lead to. -/
theorem served_run (p : Program) (w : Workspace) (acts : List Activity) :
    Served w.store (w.run p acts) := by
  have later (acts : List Activity) : ∀ w', Served w.store w' → Served w.store (w'.run p acts) := by
    induction acts with
    | nil => exact fun _ served => served
    | cons a acts ih => exact fun w' served => ih _ (served_perform p served a)
  exact later acts w ⟨[], rfl⟩

end WidgetFlow
