import WidgetFlow.Listener.Dispatch
import WidgetFlow.Proofs.Workspace.Triple

/-!
# Dispatch in parts

Dispatch takes its lock for one moment at a time: other callers may have their turn between any two
requests on the graph and any two changes of the counts. A `Paced` step is a step cut into such
parts. What lies between two parts is open; if nothing comes between, a paced step does what the step
does that it was cut from (`run_connect`, ..., `QueuedJob.resolve_eq`).

The queues, the bindings accepted so far and the counts of what became of requests are the `Ledger`
of dispatch. Resolving work is `Calm`: none of its parts touches the ledger. All that the ledger sees
of a job is its close, the count of a binding that has been wired.
-/

namespace WidgetFlow

open Work

variable {α β : Type}

/-- A step cut into parts. -/
inductive Paced (α : Type) : Type 1 where
  | done (a : α)
  | part {β : Type} (step : Work β) (next : β → Paced α)

namespace Paced

def bind : Paced α → (α → Paced β) → Paced β
  | done a, f => f a
  | part step next, f => part step fun b => (next b).bind f

instance : Monad Paced where
  pure := done
  bind := bind

/-- A step that is not cut. -/
def whole (step : Work α) : Paced α := part step done

/-- All parts of a step, one after the other and with nothing between. -/
def run : Paced α → Work α
  | done a => pure a
  | part step next => do (next (← step)).run

@[simp] theorem run_pure (a : α) : (pure a : Paced α).run = pure a := rfl

@[simp] theorem run_whole (step : Work α) : (whole step).run = step := bind_pure step

@[simp] theorem run_bind (p : Paced α) (f : α → Paced β) :
    (p >>= f).run = p.run >>= fun a => (f a).run := by
  induction p with
  | done a => exact (pure_bind a fun a => (f a).run).symm
  | part step next ih =>
    have later (b) : ((next b).bind f).run = (next b).run >>= fun a => (f a).run := ih b
    show (step >>= fun b => ((next b).bind f).run) =
      (step >>= fun b => (next b).run) >>= fun a => (f a).run
    rw [bind_assoc]
    simp only [later]

theorem run_ite {c : Prop} [Decidable c] (p q : Paced α) :
    (if c then p else q).run = if c then p.run else q.run := by
  split <;> rfl

@[simp] theorem run_forM (l : List α) (f : α → Paced PUnit) :
    (forM l f).run = forM l fun a => (f a).run := by
  induction l with
  | nil => rfl
  | cons a l ih =>
    rw [List.forM_cons, List.forM_cons, run_bind]
    simp only [ih]

/-! ### The steps of dispatch, cut into parts -/

def edgeToLocal (src : NodeId) (l : Local) (site : Site) : Paced Unit := do
  let dst ← whole (onStore (·.internLocal l))
  let added ← whole (within (.wiring l.method) (onStore (·.addEdge src dst site)))
  if added then whole (countDispatch fun t => { t with edges := t.edges + 1 })

def connect (t : Target) (listener view : NodeId) (site : Site) : Paced Unit := do
  if listener ≠ 0 then edgeToLocal listener (.this t.method) site
  match t.handler.viewParam? with
  | some i => if view ≠ 0 then edgeToLocal view (.param t.method i) site
  | none => pure ()

def giveMenu (t : Target) (site : Site) : Paced Unit := do
  match t.handler.menuParam? with
  | some i =>
    let menu ← whole (onStore' (·.newAllocation contextMenuClass .contextMenu))
    edgeToLocal menu (.param t.method i) site
  | none => pure ()

def resolveContextMenu (r : Resolver) (task : DispatchTask) : Paced Unit := do
  let reg ← whole (Dispatch.registration r task.op)
  whole (Dispatch.reportUnresolved task.listenerClass (r.unresolved reg task.listenerClass))
  (r.targets reg task.listenerClass).forM fun t => do
    connect t task.listener task.view task.site
    giveMenu t task.site

def listenerClasses (r : Resolver) (listener : NodeId) (interface bound : String) :
    Paced (List String) := do
  if listener = 0 then return []
  let flowing ← whole (reaching listener)
  let s ← whole store
  let found := Dispatch.objectClasses s flowing.ids fun c =>
    r.implements c interface && r.implements c bound
  let own := Dispatch.objectClasses s [listener] fun c => r.implements c interface
  return (distinct (found ++ own)).mergeSort fun a b => decide (a ≤ b)

def wireClass (r : Resolver) (reg : Registration) (listener view : NodeId) (site : Site)
    (className : String) : Paced Unit := do
  whole (Dispatch.reportUnresolved className (r.unresolved reg className))
  (r.targets reg className).forM fun t => connect t listener view site

def resolveDeferred (r : Resolver) (task : DispatchTask) : Paced Unit := do
  let reg ← whole (Dispatch.registration r task.op)
  let interface := if task.listenerClass = "" then reg.interface else task.listenerClass
  let bound := if task.parameterType = "" then interface else task.parameterType
  let found ← listenerClasses r task.listener interface bound
  let classes :=
    if found = [] then (r.hierarchy.concreteSubtypes bound).filter (r.implements · interface)
    else found
  if classes = [] then whole (Dispatch.reportUnresolved interface ["no implementing class"])
  else
    classes.forM (wireClass r reg task.listener task.view task.site)
    whole (countDispatch fun t => { t with resolved := t.resolved + 1 })

/-- The wiring of a confirmed binding, up to the count of it. -/
def wireHandlers (r : Resolver) (k : Wire) : Paced Unit := do
  let reg ← whole (Dispatch.registration r k.op)
  let s ← whole store
  match s.node? k.listener with
  | none => whole (throw (.unknownListener k.op k.listener))
  | some l =>
    let site := (((s.node? k.op).bind (·.operation?)).map (·.site)).getD {}
    wireClass r reg k.listener k.view site l.className

/-! ### Without interruption -/

@[simp] theorem run_edgeToLocal (src : NodeId) (l : Local) (site : Site) :
    (edgeToLocal src l site).run = Dispatch.edgeToLocal src l site := by
  simp only [edgeToLocal, Dispatch.edgeToLocal, run_bind, run_whole, run_ite, run_pure]

@[simp] theorem run_connect (t : Target) (listener view : NodeId) (site : Site) :
    (connect t listener view site).run = Dispatch.connect t listener view site := by
  unfold connect Dispatch.connect
  cases t.handler.viewParam? <;> simp [run_ite]

@[simp] theorem run_giveMenu (t : Target) (site : Site) :
    (giveMenu t site).run = Dispatch.giveMenu t site := by
  unfold giveMenu Dispatch.giveMenu
  cases t.handler.menuParam? <;> simp

theorem run_resolveContextMenu (r : Resolver) (task : DispatchTask) :
    (resolveContextMenu r task).run = Dispatch.resolveContextMenu r task := by
  simp [resolveContextMenu, Dispatch.resolveContextMenu]

@[simp] theorem run_listenerClasses (r : Resolver) (listener : NodeId) (interface bound : String) :
    (listenerClasses r listener interface bound).run =
      Dispatch.listenerClasses r listener interface bound := by
  simp [listenerClasses, Dispatch.listenerClasses, run_ite]

@[simp] theorem run_wireClass (r : Resolver) (reg : Registration) (listener view : NodeId)
    (site : Site) (c : String) :
    (wireClass r reg listener view site c).run = Dispatch.wireClass r reg listener view site c := by
  simp [wireClass, Dispatch.wireClass]

theorem run_resolveDeferred (r : Resolver) (task : DispatchTask) :
    (resolveDeferred r task).run = Dispatch.resolveDeferred r task := by
  simp [resolveDeferred, Dispatch.resolveDeferred, run_ite]

end Paced

/-! ### The ledger -/

/-- What dispatch answers for: what waits, which bindings were ever accepted, and what became of the
requests to wire a binding. -/
structure Ledger where
  pending : List DispatchTask
  wires : List Wire
  memo : List Wire
  wired : Nat
  memoHits : Nat
  skipped : Nat

def Dispatcher.ledger (d : Dispatcher) : Ledger :=
  ⟨d.pending, d.wires, d.memo, d.stats.wired, d.stats.memoHits, d.stats.skipped⟩

/-- The step does not touch the ledger. -/
def Calm (step : Work α) : Prop := ∀ L, Keeps (fun w => w.dispatcher.ledger = L) step

namespace Calm

theorem modify {change : Workspace → Workspace}
    (same : ∀ w, (change w).dispatcher.ledger = w.dispatcher.ledger) : Calm (modify change) :=
  fun _ => Keeps.modify fun w holds => (same w).trans holds

theorem onStore {f : Store → Except Fault (α × Store)} : Calm (onStore f) :=
  fun _ => Triple.onStore (fun _ _ _ holds _ => holds) fun _ _ holds _ => holds

theorem onStore' {f : Store → α × Store} : Calm (onStore' f) := fun _ _ holds => holds

theorem bind {step : Work α} {next : α → Work β} (first : Calm step) (rest : ∀ a, Calm (next a)) :
    Calm (step >>= next) := fun L => Keeps.bind (first L) fun a => rest a L

theorem store : Calm store := fun _ => Keeps.store

theorem note (n : Notice) : Calm (note n) := modify fun _ => rfl

theorem registration (r : Resolver) (op : NodeId) : Calm (Dispatch.registration r op) := by
  refine bind store fun graph => ?_
  split
  · exact fun _ => Keeps.throw
  · split
    · exact fun _ => Keeps.pure
    · exact fun _ => Keeps.throw

theorem reportUnresolved (c : String) (methods : List String) :
    Calm (Dispatch.reportUnresolved c methods) := by
  unfold Dispatch.reportUnresolved
  split
  · exact bind (modify fun _ => rfl) fun _ => note _
  · exact fun _ => Keeps.pure

end Calm

namespace Paced

/-- No part of the step touches the ledger. -/
def Calm : Paced α → Prop
  | done _ => True
  | part step next => WidgetFlow.Calm step ∧ ∀ b, (next b).Calm

namespace Calm

theorem pure {a : α} : Calm (Pure.pure a) := trivial

theorem whole {step : Work α} (calm : WidgetFlow.Calm step) : Calm (whole step) :=
  ⟨calm, fun _ => trivial⟩

theorem bind {p : Paced α} {f : α → Paced β} (first : p.Calm) (rest : ∀ a, (f a).Calm) :
    Calm (p >>= f) := by
  induction p with
  | done a => exact rest a
  | part step next ih => exact ⟨first.1, fun b => ih b (first.2 b)⟩

theorem ite {c : Prop} [Decidable c] {p q : Paced α} (yes : p.Calm) (no : q.Calm) :
    Calm (if c then p else q) := by
  split
  · exact yes
  · exact no

theorem forM {l : List α} {f : α → Paced PUnit} (each : ∀ a, (f a).Calm) : Calm (l.forM f) := by
  induction l with
  | nil => exact pure
  | cons a l ih => exact bind (each a) fun _ => ih

/-- What is done in calm parts is calm as a whole. -/
theorem run {p : Paced α} (calm : p.Calm) : WidgetFlow.Calm p.run := by
  induction p with
  | done a => exact fun _ => Keeps.pure
  | part step next ih => exact .bind calm.1 fun b => ih b (calm.2 b)

theorem edgeToLocal (src : NodeId) (l : Local) (site : Site) : (edgeToLocal src l site).Calm := by
  have added (stage : Stage) (f : Store → Except Fault (Bool × Store)) :
      WidgetFlow.Calm (within stage (onStore f)) :=
      fun L => Keeps.within (WidgetFlow.Calm.onStore L)
  refine bind (whole .onStore) fun dst => bind (whole (added _ _)) fun added => ?_
  exact ite (whole (.modify fun _ => rfl)) pure

theorem connect (t : Target) (listener view : NodeId) (site : Site) :
    (connect t listener view site).Calm := by
  have viewed : Calm (match t.handler.viewParam? with
      | some i => if view ≠ 0 then Paced.edgeToLocal view (.param t.method i) site else Pure.pure ()
      | none => Pure.pure ()) := by
    split
    · exact ite (edgeToLocal _ _ _) pure
    · exact pure
  exact ite (bind (edgeToLocal _ _ _) fun _ => viewed) viewed

theorem giveMenu (t : Target) (site : Site) : (giveMenu t site).Calm := by
  unfold Paced.giveMenu
  split
  · exact bind (whole .onStore') fun _ => edgeToLocal _ _ _
  · exact pure

theorem resolveContextMenu (r : Resolver) (task : DispatchTask) :
    (resolveContextMenu r task).Calm := by
  refine bind (whole (.registration r task.op)) fun reg => ?_
  refine bind (whole (.reportUnresolved _ _)) fun _ => forM fun t => ?_
  exact bind (connect _ _ _ _) fun _ => giveMenu _ _

theorem listenerClasses (r : Resolver) (listener : NodeId) (interface bound : String) :
    (listenerClasses r listener interface bound).Calm := by
  have flowing : WidgetFlow.Calm (reaching listener) :=
    .bind (.note _) fun _ => .bind .store fun _ _ => Keeps.pure
  refine ite pure ?_
  exact bind (whole flowing) fun _ => bind (whole .store) fun _ => pure

theorem wireClass (r : Resolver) (reg : Registration) (listener view : NodeId) (site : Site)
    (c : String) : (wireClass r reg listener view site c).Calm :=
  bind (whole (.reportUnresolved _ _)) fun _ => forM fun _ => connect _ _ _ _

theorem resolveDeferred (r : Resolver) (task : DispatchTask) : (resolveDeferred r task).Calm := by
  refine bind (whole (.registration r task.op)) fun reg => ?_
  refine bind (listenerClasses _ _ _ _) fun found => ?_
  refine ite (whole (.reportUnresolved _ _)) ?_
  exact bind (forM fun c => wireClass _ _ _ _ _ c) fun _ => whole (.modify fun _ => rfl)

theorem wireHandlers (r : Resolver) (k : Wire) : (wireHandlers r k).Calm := by
  refine bind (whole (.registration r k.op)) fun reg => bind (whole .store) fun s => ?_
  split
  · exact whole fun _ => Keeps.throw
  · exact wireClass _ _ _ _ _ _

end Calm

end Paced

/-! ### Jobs -/

/-- Work that waits in a queue. -/
inductive QueuedJob where
  | task (t : DispatchTask)
  | wire (k : Wire)
  deriving DecidableEq

namespace QueuedJob

/-- Does a job. -/
def resolve (r : Resolver) : QueuedJob → Work Unit
  | task t => Dispatch.resolveDeferred r t
  | wire k => Dispatch.wire r k

/-- A job in parts, up to its close. -/
def body (r : Resolver) : QueuedJob → Paced Unit
  | task t => .resolveDeferred r t
  | wire k => .wireHandlers r k

/-- The close of a job: a binding that has been wired is counted. -/
def close : QueuedJob → Work Unit
  | task _ => pure ()
  | wire _ => do
    countDispatch fun t => { t with wired := t.wired + 1 }
    note (.wiring .wired)

theorem calm_body (r : Resolver) (j : QueuedJob) : (j.body r).Calm := by
  cases j with
  | task t => exact .resolveDeferred r t
  | wire k => exact .wireHandlers r k

/-- A job is its body and its close. -/
theorem resolve_eq (r : Resolver) (j : QueuedJob) :
    j.resolve r = (j.body r).run >>= fun _ => j.close := by
  cases j with
  | task t =>
    show Dispatch.resolveDeferred r t = (Paced.resolveDeferred r t).run >>= fun _ => pure ()
    rw [Paced.run_resolveDeferred]
    exact (bind_pure _).symm
  | wire k =>
    simp only [resolve, body, close, Paced.wireHandlers, Dispatch.wire, Paced.run_bind,
      Paced.run_whole, bind_assoc]
    congr 1
    funext reg
    congr 1
    funext s
    cases s.node? k.listener with
    | none => rfl
    | some l => simp only [Paced.run_wireClass]

def isWire : QueuedJob → Bool
  | wire _ => true
  | task _ => false

end QueuedJob

namespace Ledger

/-- The ledger after the close of jobs: those that were bindings have been wired. -/
def close (L : Ledger) (js : List QueuedJob) : Ledger :=
  { L with wired := L.wired + js.countP QueuedJob.isWire }

/-- All that waits. -/
def jobs (L : Ledger) : List QueuedJob := L.pending.map .task ++ L.wires.map .wire

end Ledger

theorem QueuedJob.closes (L : Ledger) (j : QueuedJob) :
    Triple (fun w => w.dispatcher.ledger = L) j.close (fun _ w => w.dispatcher.ledger = L.close [j])
      fun _ _ => False := by
  rintro w rfl
  cases j with
  | task t => rfl
  | wire k => rfl

/-- All that the ledger sees of a job is its close, and nothing if the job fails. -/
theorem QueuedJob.resolves (r : Resolver) (L : Ledger) (j : QueuedJob) :
    Triple (fun w => w.dispatcher.ledger = L) (j.resolve r)
      (fun _ w => w.dispatcher.ledger = L.close [j]) fun _ w => w.dispatcher.ledger = L := by
  rw [resolve_eq]
  refine Triple.bind ((j.calm_body r).run L) fun _ => ?_
  exact (j.closes L).conseq (fun _ same => same) (fun _ _ same => same) fun _ _ never => never.elim

/-- Nor does it see more of many jobs. -/
theorem QueuedJob.resolves_all (r : Resolver) (L : Ledger) (js : List QueuedJob) :
    Triple (fun w => w.dispatcher.ledger = L) (js.forM (QueuedJob.resolve r))
      (fun _ w => w.dispatcher.ledger = L.close js) fun _ _ => True := by
  refine Triple.forM (I := fun done w => w.dispatcher.ledger = L.close done) ?_
  intro done j rest _
  have closed : (L.close done).close [j] = L.close (done ++ [j]) := by
    simp [Ledger.close, Nat.add_assoc]
  rw [← closed]
  exact (j.resolves r _).relax

/-! ### Rounds -/

namespace Dispatch

/-- The start of a round: all that waits is taken out of the queues. -/
def beginRound (n : Nat) : Work (List QueuedJob) := do
  let (pending, wires) ← takeQueues
  if pending.length + wires.length ≠ 0 then note (.flushing n pending.length wires.length)
  return pending.map .task ++ wires.map .wire

/-- What waited is in the hands of the flush. -/
theorem beginRound_takes (L : Ledger) (n : Nat) :
    Triple (fun w => w.dispatcher.ledger = L) (beginRound n)
      (fun jobs w => jobs = L.jobs ∧ w.dispatcher.ledger = { L with pending := [], wires := [] })
      fun _ _ => False := by
  refine Triple.bind (M := fun queues w => queues = (L.pending, L.wires) ∧
    w.dispatcher.ledger = { L with pending := [], wires := [] }) ?_ fun queues => ?_
  · rintro w rfl
    exact ⟨rfl, rfl⟩
  · refine Triple.assuming fun taken => ?_
    subst taken
    refine Triple.ite (fun _ => ?_) fun _ => Triple.pure fun _ same => ⟨rfl, same⟩
    exact Triple.bind (Triple.modify fun _ same => same) fun _ => Triple.pure fun _ same => ⟨rfl, same⟩

/-- A flush does the jobs that wait, in one round. -/
theorem flush_eq (r : Resolver) :
    Dispatch.flush r false =
      Dispatch.beginRound 1 >>= fun jobs => jobs.forM (QueuedJob.resolve r) := by
  have none : (checkCanceled false : Work Unit) = pure () := rfl
  simp only [Dispatch.flush, Dispatch.beginRound, none, pure_bind, bind_assoc]
  congr 1
  funext ⟨pending, wires⟩
  by_cases idle : pending.length + wires.length = 0
  · obtain ⟨rfl, rfl⟩ : pending = [] ∧ wires = [] := by simpa using idle
    rfl
  · rw [if_pos idle, if_pos idle]
    simp only [pure_bind, bind_assoc]
    congr 1
    funext _
    simp only [List.forM_eq_forM, List.forM_append, List.forM_map]
    rfl

/-- After a flush nothing waits, and nobody has touched the memo. -/
theorem flush_closes (r : Resolver) (L : Ledger) :
    Triple (fun w => w.dispatcher.ledger = L) (Dispatch.flush r false)
      (fun _ w => w.dispatcher.ledger = Ledger.close { L with pending := [], wires := [] } L.jobs)
      fun _ _ => True := by
  rw [flush_eq]
  refine Triple.bind (beginRound_takes L 1).relax fun jobs => Triple.assuming fun taken => ?_
  subst taken
  exact QueuedJob.resolves_all r _ _

/-- If nothing waits, a round does not even begin. -/
theorem beginRound_idle {n : Nat} {w : Workspace} (idle : w.dispatcher.ledger.jobs = []) :
    beginRound n w = .ok [] w := by
  obtain ⟨store, ⟨pending, wires, memo, stats⟩, intake, journal⟩ := w
  obtain ⟨rfl, rfl⟩ : pending = [] ∧ wires = [] := by
    simpa [Ledger.jobs, Dispatcher.ledger] using idle
  rfl

theorem flush_idle (r : Resolver) {w : Workspace} (idle : w.dispatcher.ledger.jobs = []) :
    flush r false w = .ok () w := by
  rw [flush_eq]
  exact bind_of_ok (beginRound_idle idle)

end Dispatch

end WidgetFlow
