import WidgetFlow.Proofs.Graph.Requests
import WidgetFlow.Proofs.Listener.Deferred
import WidgetFlow.Proofs.Listener.Paced

/-!
# Calls of dispatch that overlap

Registrations, requests to wire a binding and flushes may come from several callers at once. A
`Scene` is a workspace with the calls that are under way, and a `Move` starts a call or lets one call
take its next step: its next part on the graph, or its next moment with the lock. A flush goes from
round to round until it finds both queues empty; the work that it takes out of the queues is in its
hands alone. A run is a list of moves, in any order, in which no job fails. A call that is left alone
does what the step of dispatch does (`reaches_register`, `reaches_requestWire`, `reaches_flush`).

What a step of a call does to the ledger is one of nine turns (`Turn`), and each keeps the books
`Balanced`: no job is lost, none is done twice, and every request to wire is accounted for
(`wired_exactly_once`).
-/

namespace WidgetFlow

open Work

/-! ### Calls -/

namespace Dispatch

/-- The end of a request to wire a binding, once the graph has told whether it is wirable. -/
def offer (k : Wire) (wirable : Bool) : Work Bool := do
  let w ← get
  if !wirable then
    countDispatch fun t => { t with skipped := t.skipped + 1 }
    note (.wiring .skipped)
    return false
  else if k ∈ w.dispatcher.memo then
    countDispatch fun t => { t with memoHits := t.memoHits + 1 }
    note (.wiring .repeated)
    return false
  else
    set { w with dispatcher := { w.dispatcher with
      memo := k :: w.dispatcher.memo
      wires := w.dispatcher.wires ++ [k] } }
    return true

theorem requestWire_eq (k : Wire) (w : Workspace) :
    requestWire k w = offer k (isWirable w.store k) w := rfl

end Dispatch

/-- What a caller or a reader of the queues can see happen. -/
inductive Event where
  /-- A binding is offered for wiring. -/
  | asked (k : Wire)
  /-- A registration is deferred, or a binding is accepted. -/
  | queued (j : QueuedJob)
  /-- A job is handed to resolution. -/
  | handed (j : QueuedJob)
  /-- A flush finds both queues empty, and succeeds. -/
  | drained
  deriving DecidableEq

/-- A call that is under way. -/
inductive Call : Type 1 where
  | register (t : DispatchTask)
  /-- A registration that is wired at once. -/
  | resolve (rest : Paced Unit)
  | wire (k : Wire)
  /-- A request to wire that has looked at the graph. -/
  | offer (k : Wire) (wirable : Bool)
  /-- A flush between its rounds. -/
  | flush (round : Nat)
  /-- A flush with work in its hands, between two jobs. -/
  | round (n : Nat) (held : List QueuedJob)
  /-- A flush that is doing a job. -/
  | job (n : Nat) (j : QueuedJob) (rest : Paced Unit) (held : List QueuedJob)

namespace Call

/-- A step that does not fail is told and goes on. -/
def proceed {α : Type} (outcome : EStateM.Result Fault Workspace α)
    (next : α → List Event × Option Call) : Option (Workspace × List Event × Option Call) :=
  match outcome with
  | .ok a w => some (w, next a)
  | .error _ _ => none

/-- The next step of a call: the workspace after it, what is told, and what is left of the call. -/
def step (r : Resolver) (w : Workspace) : Call → Option (Workspace × List Event × Option Call)
  | register t =>
    if t.contextMenu then
      proceed (countDispatch (fun t => { t with immediate := t.immediate + 1 }) w)
        fun _ => ([], some (resolve (.resolveContextMenu r t)))
    else proceed (Dispatch.register r t w) fun _ => ([.queued (.task t)], none)
  | resolve (.part s next) => proceed (s w) fun b => ([], some (resolve (next b)))
  | resolve (.done _) => some (w, [], none)
  | wire k => some (w, [], some (offer k (Dispatch.isWirable w.store k)))
  | offer k wirable => proceed (Dispatch.offer k wirable w) fun accepted =>
      (if accepted then [.queued (.wire k)] else [], none)
  | flush n => proceed (Dispatch.beginRound (n + 1) w) fun jobs =>
      if jobs = [] then ([.drained], none) else ([], some (round (n + 1) jobs))
  | round n [] => some (w, [], some (flush n))
  | round n (j :: held) => some (w, [.handed j], some (job n j (j.body r) held))
  | job n j (.part s next) held => proceed (s w) fun b => ([], some (job n j (next b) held))
  | job n j (.done _) held => proceed (j.close w) fun _ => ([], some (round n held))

/-- No part that is left of a resolution touches the ledger. -/
def Calm : Call → Prop
  | resolve rest => rest.Calm
  | job _ _ rest _ => rest.Calm
  | _ => True

end Call

/-- A workspace and the calls that are under way on it. -/
structure Scene : Type 1 where
  work : Workspace
  calls : List Call := []
  /-- What happened, oldest first. -/
  trace : List Event := []

/-- What may happen next. -/
inductive Move where
  | register (t : DispatchTask)
  | wire (k : Wire)
  | flush
  /-- A call takes its next step. -/
  | step (i : Nat)
  /-- A flush that is between its rounds is called off. -/
  | cancel (i : Nat)
  /-- Somebody else changes the graph. -/
  | request (q : StoreRequest)

namespace Scene

/-- The scene after a move, unless the move is not possible or a job fails. -/
def move (r : Resolver) (x : Scene) : Move → Option Scene
  | .register t => some { x with calls := x.calls ++ [.register t] }
  | .wire k => some { x with calls := x.calls ++ [.wire k], trace := x.trace ++ [.asked k] }
  | .flush => some { x with calls := x.calls ++ [.flush 0] }
  | .step i =>
    x.calls[i]?.bind fun c => (c.step r x.work).map fun (w, told, rest) =>
      { work := w
        calls := x.calls.take i ++ (rest.toList ++ x.calls.drop (i + 1))
        trace := x.trace ++ told }
  | .cancel i =>
    match x.calls[i]? with
    | some (.flush _) => some { x with calls := x.calls.take i ++ x.calls.drop (i + 1) }
    | _ => none
  | .request q => some { x with work := { x.work with store := x.work.store.serve q } }

/-- The scene after a list of moves. -/
def run (r : Resolver) (x : Scene) (moves : List Move) : Option Scene := moves.foldlM (move r) x

end Scene

/-! ### Turns -/

/-- What a call has in its hands. -/
structure Stake where
  /-- Jobs taken out of the queues that nobody has begun. -/
  held : List QueuedJob := []
  /-- The job that is being done. -/
  inHand : List QueuedJob := []
  /-- The binding that is being offered. -/
  asking : List Wire := []

namespace Stake

instance : Append Stake where
  append a b := ⟨a.held ++ b.held, a.inHand ++ b.inHand, a.asking ++ b.asking⟩

@[simp] theorem held_append (a b : Stake) : (a ++ b).held = a.held ++ b.held := rfl

@[simp] theorem inHand_append (a b : Stake) : (a ++ b).inHand = a.inHand ++ b.inHand := rfl

@[simp] theorem asking_append (a b : Stake) : (a ++ b).asking = a.asking ++ b.asking := rfl

theorem append_assoc (a b c : Stake) : a ++ b ++ c = a ++ (b ++ c) := by
  show Stake.mk _ _ _ = Stake.mk _ _ _
  simp

theorem append_empty (a : Stake) : a ++ ({} : Stake) = a := by
  show Stake.mk _ _ _ = a
  simp

end Stake

def Call.stake : Call → Stake
  | wire k => { asking := [k] }
  | offer k _ => { asking := [k] }
  | round _ held => { held }
  | job _ j _ held => { held, inHand := [j] }
  | _ => {}

/-- What all calls have in their hands. -/
def stakes : List Call → Stake
  | [] => {}
  | c :: calls => c.stake ++ stakes calls

theorem stakes_singleton (c : Call) : stakes [c] = c.stake := c.stake.append_empty

theorem stakes_append (l l' : List Call) : stakes (l ++ l') = stakes l ++ stakes l' := by
  induction l with
  | nil => rfl
  | cons c l ih =>
    rw [List.cons_append, stakes, stakes, ih, Stake.append_assoc]

/-- What a step of a call can do to the ledger and to what the call has in its hands, and what it
tells. -/
inductive Turn : Ledger → Stake → List Event → Ledger → Stake → Prop where
  | calm (L : Ledger) (s : Stake) : Turn L s [] L s
  | deferred (L : Ledger) (t : DispatchTask) :
    Turn L {} [.queued (.task t)] { L with pending := L.pending ++ [t] } {}
  | accepted (L : Ledger) (k : Wire) (fresh : k ∉ L.memo) :
    Turn L { asking := [k] } [.queued (.wire k)]
      { L with memo := k :: L.memo, wires := L.wires ++ [k] } {}
  | repeated (L : Ledger) (k : Wire) :
    Turn L { asking := [k] } [] { L with memoHits := L.memoHits + 1 } {}
  | skipped (L : Ledger) (k : Wire) :
    Turn L { asking := [k] } [] { L with skipped := L.skipped + 1 } {}
  | taken (L : Ledger) : Turn L {} [] { L with pending := [], wires := [] } { held := L.jobs }
  | drained (L : Ledger) (idle : L.jobs = []) : Turn L {} [.drained] L {}
  | handed (L : Ledger) (j : QueuedJob) (held : List QueuedJob) :
    Turn L { held := j :: held } [.handed j] L { held, inHand := [j] }
  | closed (L : Ledger) (j : QueuedJob) (held : List QueuedJob) :
    Turn L { held, inHand := [j] } [] (L.close [j]) { held }

namespace Call

theorem proceed_eq_some {α : Type} {outcome : EStateM.Result Fault Workspace α}
    {next : α → List Event × Option Call} {w : Workspace} {told : List Event} {rest : Option Call}
    (done : proceed outcome next = some (w, told, rest)) :
    ∃ a, outcome = .ok a w ∧ next a = (told, rest) := by
  cases outcome with
  | ok a w' =>
    obtain ⟨rfl, same⟩ := Prod.mk.inj (Option.some.inj done)
    exact ⟨a, rfl, same⟩
  | error e w' => cases done

/-- A part of a resolution leaves the ledger as it was. -/
theorem ledger_of_part {β : Type} {s : Work β} {w w' : Workspace} {b : β} (calm : WidgetFlow.Calm s)
    (done : s w = .ok b w') : w'.dispatcher.ledger = w.dispatcher.ledger :=
  (calm w.dispatcher.ledger).of_ok rfl done

theorem turn_offer (L : Ledger) (k : Wire) (wirable : Bool) :
    Triple (fun w => w.dispatcher.ledger = L) (Dispatch.offer k wirable)
      (fun accepted w => Turn L { asking := [k] } (if accepted then [.queued (.wire k)] else [])
        w.dispatcher.ledger {}) fun _ _ => True := by
  refine Triple.bind Triple.get fun w => Triple.ite (fun _ => ?_) fun _ => Triple.ite (fun _ => ?_) ?_
  · rintro _ ⟨rfl, rfl⟩
    exact .skipped _ k
  · rintro _ ⟨rfl, rfl⟩
    exact .repeated _ k
  · rintro fresh _ ⟨rfl, rfl⟩
    exact .accepted _ k fresh

theorem turn_register (r : Resolver) (L : Ledger) {t : DispatchTask}
    (deferred : ¬ t.contextMenu = true) :
    Triple (fun w => w.dispatcher.ledger = L) (Dispatch.register r t)
      (fun _ w => Turn L {} [.queued (.task t)] w.dispatcher.ledger {}) fun _ _ => False := by
  rw [Dispatch.register, if_neg deferred]
  rintro w rfl
  exact .deferred _ t

/-- What a round takes out of the queues is in the hands of the flush. If that is nothing, the flush is
over. -/
theorem turn_beginRound (L : Ledger) (n : Nat) :
    Triple (fun w => w.dispatcher.ledger = L) (Dispatch.beginRound n)
      (fun jobs w => Turn L {} (if jobs = [] then [.drained] else []) w.dispatcher.ledger
        { held := jobs }) fun _ _ => False := by
  refine (Dispatch.beginRound_takes L n).conseq (fun _ same => same) ?_ fun _ _ never => never
  rintro jobs w ⟨rfl, after⟩
  rw [after]
  split
  case isTrue idle =>
    have none : L.pending = [] ∧ L.wires = [] := by simpa [Ledger.jobs] using idle
    have same : { L with pending := [], wires := [] } = L := by rw [← none.1, ← none.2]
    rw [same, idle]
    exact .drained L idle
  case isFalse => exact .taken L

/-- A step of a call is one of the turns. -/
theorem turn_step {r : Resolver} {w w' : Workspace} {c : Call} {told : List Event}
    {rest : Option Call} (calm : c.Calm) (done : c.step r w = some (w', told, rest)) :
    Turn w.dispatcher.ledger c.stake told w'.dispatcher.ledger (stakes rest.toList) ∧
      ∀ c' ∈ rest.toList, c'.Calm := by
  cases c with
  | register t =>
    rw [step] at done
    split at done
    case isTrue =>
      obtain ⟨⟨⟩, counted, next⟩ := proceed_eq_some done
      cases counted
      cases next
      exact ⟨.calm _ _, List.forall_mem_singleton.2 (.resolveContextMenu r t)⟩
    case isFalse deferred =>
      obtain ⟨⟨⟩, registered, next⟩ := proceed_eq_some done
      cases next
      exact ⟨(turn_register r _ deferred).of_ok rfl registered, List.forall_mem_nil _⟩
  | resolve p =>
    cases p with
    | done =>
      cases done
      exact ⟨.calm _ _, List.forall_mem_nil _⟩
    | part s next =>
      obtain ⟨b, went, next⟩ := proceed_eq_some done
      cases next
      rw [ledger_of_part calm.1 went]
      exact ⟨.calm _ _, List.forall_mem_singleton.2 (calm.2 b)⟩
  | wire k =>
    cases done
    exact ⟨.calm _ _, List.forall_mem_singleton.2 trivial⟩
  | offer k wirable =>
    obtain ⟨accepted, offered, next⟩ := proceed_eq_some done
    cases next
    exact ⟨(turn_offer _ k wirable).of_ok rfl offered, List.forall_mem_nil _⟩
  | flush n =>
    obtain ⟨jobs, began, next⟩ := proceed_eq_some done
    have turn := (turn_beginRound _ _).of_ok rfl began
    split at next
    case isTrue idle =>
      cases next
      rw [if_pos idle, idle] at turn
      exact ⟨turn, List.forall_mem_nil _⟩
    case isFalse busy =>
      cases next
      rw [if_neg busy] at turn
      rw [Option.toList_some, stakes_singleton]
      exact ⟨turn, List.forall_mem_singleton.2 trivial⟩
  | round n held =>
    cases held with
    | nil =>
      cases done
      exact ⟨.calm _ _, List.forall_mem_singleton.2 trivial⟩
    | cons j held =>
      cases done
      rw [Option.toList_some, stakes_singleton]
      exact ⟨.handed _ j held, List.forall_mem_singleton.2 (j.calm_body r)⟩
  | job n j p held =>
    cases p with
    | done =>
      obtain ⟨⟨⟩, closed, next⟩ := proceed_eq_some done
      cases next
      rw [(j.closes _).of_ok rfl closed, Option.toList_some, stakes_singleton]
      exact ⟨.closed _ j held, List.forall_mem_singleton.2 trivial⟩
    | part s next =>
      obtain ⟨b, went, next⟩ := proceed_eq_some done
      cases next
      rw [ledger_of_part calm.1 went, Option.toList_some, stakes_singleton]
      exact ⟨.calm _ _, List.forall_mem_singleton.2 (calm.2 b)⟩

end Call

/-! ### The books -/

def Event.isAsked : Event → Bool
  | asked _ => true
  | _ => false

/-- A flush has succeeded, and nothing was queued since. -/
def Settled (trace : List Event) : Prop :=
  ∃ before after, trace = before ++ .drained :: after ∧ ∀ j, .queued j ∉ after

/-- Unless a flush succeeds just now, one has before. -/
theorem settled_append {trace told : List Event} (quiet : .drained ∉ told)
    (settled : Settled (trace ++ told)) : Settled trace ∧ ∀ j, .queued j ∉ told := by
  obtain ⟨before, after, split, still⟩ := settled
  rcases List.append_eq_append_iff.1 split with ⟨more, rfl, rest⟩ | ⟨more, same, rest⟩
  · refine absurd ?_ quiet
    rw [rest]
    simp
  · cases more with
    | nil =>
      refine absurd ?_ quiet
      rw [← show Event.drained :: after = told from rest]
      exact List.mem_cons_self
    | cons e more =>
      obtain ⟨rfl, rfl⟩ := List.cons.inj rest
      refine ⟨⟨before, more, same, fun j there => still j ?_⟩, fun j there => still j ?_⟩
      · exact List.mem_append_left _ there
      · exact List.mem_append_right _ there

namespace Turn

variable {L L' : Ledger} {s s' : Stake} {told trace : List Event}

/-- What is accepted goes into the memo, and nothing else does. -/
theorem memo (turn : Turn L s told L' s') (k : Wire) :
    L'.memo.count k = L.memo.count k + told.count (.queued (.wire k)) := by
  cases turn with
  | accepted k' fresh => simp [List.count_cons]
  | _ => simp [Ledger.close]

theorem nodup (turn : Turn L s told L' s') (nodup : L.memo.Nodup) : L'.memo.Nodup := by
  cases turn with
  | accepted k fresh => exact List.nodup_cons.2 ⟨fresh, nodup⟩
  | _ => exact nodup

/-- A job that is queued waits, until it is held, until it is handed on. -/
theorem jobs (turn : Turn L s told L' s') (j : QueuedJob) :
    told.count (.handed j) + L'.jobs.count j + s'.held.count j =
      told.count (.queued j) + L.jobs.count j + s.held.count j := by
  cases turn with
  | deferred t =>
    simp [Ledger.jobs, List.count_cons]
    omega
  | accepted k fresh =>
    simp [Ledger.jobs, List.count_cons]
    omega
  | handed j' held =>
    simp [List.count_cons]
    omega
  | _ => simp [Ledger.jobs, Ledger.close]

/-- A binding that is accepted waits, until it is in the hands of a flush, until it is wired. -/
theorem wired (turn : Turn L s told L' s') :
    L'.wired + L'.wires.length +
        (s'.held.countP QueuedJob.isWire + s'.inHand.countP QueuedJob.isWire) + L.memo.length =
      L.wired + L.wires.length +
        (s.held.countP QueuedJob.isWire + s.inHand.countP QueuedJob.isWire) + L'.memo.length := by
  cases turn with
  | accepted k fresh =>
    simp
    omega
  | taken =>
    have waiting : L.jobs.countP QueuedJob.isWire = L.wires.length := by
      simp [Ledger.jobs, QueuedJob.isWire, Function.comp_def]
    simp [waiting]
  | handed j held => simp [List.countP_cons]
  | closed j held =>
    simp [Ledger.close]
    omega
  | _ => simp

/-- A request to wire is under way, until it is accepted or turned down. -/
theorem asked (turn : Turn L s told L' s') :
    L'.memo.length + L'.memoHits + L'.skipped + s'.asking.length =
      L.memo.length + L.memoHits + L.skipped + s.asking.length + told.countP Event.isAsked := by
  cases turn with
  | accepted k fresh =>
    simp [Event.isAsked]
    omega
  | repeated k | skipped k =>
    simp
    omega
  | _ => simp [Event.isAsked, Ledger.close]

/-- Once a flush has succeeded, nothing waits until something is queued. -/
theorem idle (turn : Turn L s told L' s') (idle : Settled trace → L.jobs = [])
    (settled : Settled (trace ++ told)) : L'.jobs = [] := by
  cases turn with
  | deferred t =>
    have never := (settled_append (by simp) settled).2 (.task t)
    exact absurd (List.mem_singleton.2 rfl) never
  | accepted k fresh =>
    have never := (settled_append (by simp) settled).2 (.wire k)
    exact absurd (List.mem_singleton.2 rfl) never
  | taken => rfl
  | drained nothing => exact nothing
  | _ => exact idle (settled_append (by simp) settled).1

end Turn

/-- The ledger, what calls have in their hands, and what happened fit together. -/
structure Balanced (L : Ledger) (s : Stake) (trace : List Event) : Prop where
  memo : ∀ k, trace.count (.queued (.wire k)) = L.memo.count k
  nodup : L.memo.Nodup
  jobs : ∀ j, trace.count (.queued j) = trace.count (.handed j) + L.jobs.count j + s.held.count j
  wired : L.memo.length =
    L.wired + L.wires.length + (s.held.countP QueuedJob.isWire + s.inHand.countP QueuedJob.isWire)
  asked : trace.countP Event.isAsked =
    L.memo.length + L.memoHits + L.skipped + s.asking.length
  idle : Settled trace → L.jobs = []

namespace Balanced

variable {L L' : Ledger} {s s' a b : Stake} {trace told : List Event}

/-- A turn of one call keeps the books, whatever the others have in their hands. -/
theorem turn (turn : Turn L s told L' s') (books : Balanced L (a ++ (s ++ b)) trace) :
    Balanced L' (a ++ (s' ++ b)) (trace ++ told) where
  memo k := by
    have before := books.memo k
    have step := turn.memo k
    rw [List.count_append]
    omega
  nodup := turn.nodup books.nodup
  jobs j := by
    have before := books.jobs j
    have step := turn.jobs j
    simp only [Stake.held_append, List.count_append] at before ⊢
    omega
  wired := by
    have before := books.wired
    have step := turn.wired
    simp only [Stake.held_append, Stake.inHand_append, List.countP_append] at before ⊢
    omega
  asked := by
    have before := books.asked
    have step := turn.asked
    simp only [Stake.asking_append, List.length_append, List.countP_append] at before ⊢
    omega
  idle := turn.idle books.idle

/-- Somebody offers a binding. -/
theorem ask (books : Balanced L s trace) (k : Wire) :
    Balanced L (s ++ { asking := [k] }) (trace ++ [Event.asked k]) where
  memo k' := by simpa using books.memo k'
  nodup := books.nodup
  jobs j := by simpa using books.jobs j
  wired := by simpa using books.wired
  asked := by
    have before := books.asked
    simp only [Stake.asking_append, List.length_append, List.countP_append] at before ⊢
    simp [before, Event.isAsked]
    omega
  idle settled := books.idle (settled_append (by simp) settled).1

end Balanced

/-! ### Runs -/

namespace Scene

/-- The books of a scene are balanced, and no call will touch the ledger in passing. -/
structure InOrder (x : Scene) : Prop where
  calm : ∀ c ∈ x.calls, c.Calm
  books : Balanced x.work.dispatcher.ledger (stakes x.calls) x.trace

variable {r : Resolver} {x y : Scene}

theorem inOrder_fresh {w : Workspace} (fresh : w.dispatcher = {}) : InOrder { work := w } where
  calm := List.forall_mem_nil _
  books := by
    have empty : w.dispatcher.ledger = ({} : Dispatcher).ledger := by rw [fresh]
    rw [empty]
    refine ⟨fun _ => rfl, List.nodup_nil, fun _ => rfl, rfl, rfl, fun _ => rfl⟩

/-- A call that has nothing in its hands may join or leave. -/
theorem stakes_idle {l l' : List Call} {c : Call} (idle : c.stake = {}) :
    stakes (l ++ c :: l') = stakes (l ++ l') := by
  rw [stakes_append, stakes_append, stakes, idle]
  rfl

theorem split_at {i : Nat} {c : Call} (there : x.calls[i]? = some c) :
    x.calls = x.calls.take i ++ c :: x.calls.drop (i + 1) := by
  obtain ⟨bound, rfl⟩ := List.getElem?_eq_some_iff.1 there
  simp

/-- A call that has nothing in its hands may join. -/
theorem InOrder.join (order : x.InOrder) {c : Call} (calm : c.Calm) (idle : c.stake = {}) :
    InOrder { x with calls := x.calls ++ [c] } where
  calm := List.forall_mem_append.2 ⟨order.calm, List.forall_mem_singleton.2 calm⟩
  books := by
    show Balanced _ (stakes (x.calls ++ [c])) _
    rw [stakes_idle idle, List.append_nil]
    exact order.books

/-- After a turn of a call, what the turn has left of the call takes its place. -/
theorem InOrder.turn {i : Nat} {c : Call} {w : Workspace} {told : List Event} {rest : List Call}
    (order : x.InOrder) (there : x.calls[i]? = some c)
    (turn : Turn x.work.dispatcher.ledger c.stake told w.dispatcher.ledger (stakes rest))
    (calm : ∀ c' ∈ rest, c'.Calm) :
    InOrder ⟨w, x.calls.take i ++ (rest ++ x.calls.drop (i + 1)), x.trace ++ told⟩ where
  calm c' listed := by
    simp only [List.mem_append] at listed
    rcases listed with early | new | late
    · exact order.calm c' (List.mem_of_mem_take early)
    · exact calm c' new
    · exact order.calm c' (List.mem_of_mem_drop late)
  books := by
    have books := order.books
    rw [split_at there, stakes_append, stakes] at books
    simp only [stakes_append]
    exact books.turn turn

/-- Every move keeps the books in order. -/
theorem InOrder.move {m : Move} (order : x.InOrder) (done : x.move r m = some y) : y.InOrder := by
  cases m with
  | register t =>
    cases done
    exact order.join trivial rfl
  | flush =>
    cases done
    exact order.join trivial rfl
  | wire k =>
    cases done
    refine ⟨List.forall_mem_append.2 ⟨order.calm, List.forall_mem_singleton.2 trivial⟩, ?_⟩
    rw [stakes_append, stakes_singleton]
    exact order.books.ask k
  | step i =>
    obtain ⟨c, there, went⟩ := Option.bind_eq_some_iff.1 done
    obtain ⟨⟨w, told, rest⟩, stepped, rfl⟩ := Option.map_eq_some_iff.1 went
    have calm : c.Calm := order.calm c (List.mem_of_getElem? there)
    obtain ⟨turn, calms⟩ := Call.turn_step calm stepped
    exact order.turn there turn calms
  | cancel i =>
    simp only [Scene.move] at done
    split at done
    case h_1 n there =>
      -- A flush between its rounds has nothing in its hands.
      cases done
      have nobody : ∀ c ∈ ([] : List Call), c.Calm := List.forall_mem_nil _
      have left := order.turn there (.calm _ _) nobody
      rwa [List.append_nil] at left
    case h_2 => cases done
  | request q =>
    cases done
    exact ⟨order.calm, order.books⟩

/-- So does every run. -/
theorem InOrder.run {moves : List Move} (order : x.InOrder) (done : x.run r moves = some y) :
    y.InOrder := by
  induction moves generalizing x with
  | nil =>
    cases done
    exact order
  | cons m moves ih =>
    rw [Scene.run, List.foldlM_cons] at done
    obtain ⟨z, first, rest⟩ := Option.bind_eq_some_iff.1 done
    exact ih (order.move first) rest

/-! ### Calls that are left alone -/

/-- The only call that is under way takes some steps. -/
def Reaches (r : Resolver) (x y : Scene) : Prop :=
  ∃ n, x.run r (List.replicate n (.step 0)) = some y

namespace Reaches

theorem refl : Reaches r x x := ⟨0, rfl⟩

theorem trans {z : Scene} (first : Reaches r x y) (second : Reaches r y z) : Reaches r x z := by
  obtain ⟨n, first⟩ := first
  obtain ⟨n', second⟩ := second
  refine ⟨n + n', ?_⟩
  rw [← List.replicate_append_replicate, Scene.run, List.foldlM_append]
  exact Option.bind_eq_some_iff.2 ⟨y, first, second⟩

theorem step {w w' : Workspace} {c : Call} {trace told : List Event} {rest : Option Call}
    (stepped : c.step r w = some (w', told, rest)) :
    Reaches r ⟨w, [c], trace⟩ ⟨w', rest.toList, trace ++ told⟩ := by
  refine ⟨1, ?_⟩
  have moved : Scene.move r ⟨w, [c], trace⟩ (.step 0) = some ⟨w', rest.toList, trace ++ told⟩ := by
    simp [Scene.move, stepped]
  exact Option.bind_eq_some_iff.2 ⟨_, moved, rfl⟩

/-- A step of which nothing is told. -/
theorem silent {w w' : Workspace} {c c' : Call} {trace : List Event}
    (stepped : c.step r w = some (w', [], some c')) :
    Reaches r ⟨w, [c], trace⟩ ⟨w', [c'], trace⟩ := by
  have went : Reaches r ⟨w, [c], trace⟩ ⟨w', [c'], trace ++ []⟩ := step stepped
  rwa [List.append_nil] at went

/-- The parts of a resolution, one after the other. -/
theorem parts (call : Paced Unit → Call) {trace : List Event}
    (goes : ∀ {β : Type} (w : Workspace) (s : Work β) (next : β → Paced Unit),
      (call (.part s next)).step r w = Call.proceed (s w) fun b => ([], some (call (next b))))
    (p : Paced Unit) {w w' : Workspace} (done : p.run w = .ok () w') :
    Reaches r ⟨w, [call p], trace⟩ ⟨w', [call (.done ())], trace⟩ := by
  induction p generalizing w with
  | done a =>
    cases done
    exact refl
  | part s next ih =>
    obtain ⟨b, v, first, rest⟩ := bind_eq_ok done
    have stepped : (call (.part s next)).step r w = some (v, [], some (call (next b))) := by
      rw [goes, first]
      rfl
    exact (silent stepped).trans (ih b rest)

/-- A job from beginning to end. -/
theorem job {n : Nat} {j : QueuedJob} {held : List QueuedJob} {trace : List Event}
    {w w' : Workspace} (done : j.resolve r w = .ok () w') :
    Reaches r ⟨w, [.round n (j :: held)], trace⟩
      ⟨w', [.round n held], trace ++ [Event.handed j]⟩ := by
  rw [QueuedJob.resolve_eq] at done
  obtain ⟨⟨⟩, v, body, closed⟩ := bind_eq_ok done
  have began : (Call.round n (j :: held)).step r w =
      some (w, [.handed j], some (.job n j (j.body r) held)) := rfl
  have went : Reaches r ⟨w, [.job n j (j.body r) held], trace ++ [Event.handed j]⟩
      ⟨v, [.job n j (.done ()) held], trace ++ [Event.handed j]⟩ :=
    parts (.job n j · held) (fun _ _ _ => rfl) _ body
  have finish : (Call.job n j (.done ()) held).step r v = some (w', [], some (.round n held)) := by
    rw [Call.step, closed]
    rfl
  exact (step began).trans (went.trans (silent finish))

/-- A round, job by job. -/
theorem jobs {n : Nat} {trace : List Event} (js : List QueuedJob) {w w' : Workspace}
    (done : js.forM (QueuedJob.resolve r) w = .ok () w') :
    Reaches r ⟨w, [.round n js], trace⟩ ⟨w', [.round n []], trace ++ js.map Event.handed⟩ := by
  induction js generalizing w trace with
  | nil =>
    cases done
    rw [List.map_nil, List.append_nil]
    exact refl
  | cons j js ih =>
    obtain ⟨⟨⟩, v, first, rest⟩ := bind_eq_ok done
    have later : Reaches r ⟨v, [.round n js], trace ++ [Event.handed j]⟩
        ⟨w', [.round n []], trace ++ [Event.handed j] ++ js.map Event.handed⟩ := ih rest
    rw [List.append_assoc] at later
    exact (job first).trans later

end Reaches

variable {w w' : Workspace} {trace : List Event}

/-- A registration that is left alone is a registration. -/
theorem reaches_register {t : DispatchTask} (done : Dispatch.register r t w = .ok () w') :
    Reaches r ⟨w, [.register t], trace⟩
      ⟨w', [], trace ++ if t.contextMenu then [] else [Event.queued (.task t)]⟩ := by
  by_cases menu : t.contextMenu = true
  · rw [Dispatch.register, if_pos menu] at done
    obtain ⟨⟨⟩, v, counted, resolved⟩ := bind_eq_ok done
    rw [← Paced.run_resolveContextMenu] at resolved
    have began : (Call.register t).step r w =
        some (v, [], some (.resolve (.resolveContextMenu r t))) := by
      rw [Call.step, if_pos menu, counted]
      rfl
    have went : Reaches r ⟨v, [.resolve (.resolveContextMenu r t)], trace⟩
        ⟨w', [.resolve (.done ())], trace⟩ := .parts .resolve (fun _ _ _ => rfl) _ resolved
    have finish : (Call.resolve (.done ())).step r w' = some (w', [], none) := rfl
    rw [if_pos menu]
    exact (Reaches.silent began).trans (went.trans (.step finish))
  · rw [if_neg menu]
    have stepped : (Call.register t).step r w = some (w', [.queued (.task t)], none) := by
      rw [Call.step, if_neg menu, done]
      rfl
    exact .step stepped

/-- A request to wire that is left alone is a request to wire, and is told if it is accepted. -/
theorem reaches_requestWire {k : Wire} {accepted : Bool}
    (done : Dispatch.requestWire k w = .ok accepted w') :
    Reaches r ⟨w, [.wire k], trace⟩
      ⟨w', [], trace ++ if accepted then [Event.queued (.wire k)] else []⟩ := by
  have looked : Reaches r ⟨w, [.wire k], trace⟩
      ⟨w, [.offer k (Dispatch.isWirable w.store k)], trace⟩ := .silent rfl
  have offered : (Call.offer k (Dispatch.isWirable w.store k)).step r w =
      some (w', if accepted then [.queued (.wire k)] else [], none) := by
    rw [Dispatch.requestWire_eq] at done
    rw [Call.step, done]
    rfl
  exact looked.trans (.step offered)

/-- A flush that is left alone is a flush: after one round, nothing waits. -/
theorem reaches_flush (done : Dispatch.flush r false w = .ok () w') :
    Reaches r ⟨w, [.flush 0], trace⟩
      ⟨w', [], trace ++ w.dispatcher.ledger.jobs.map Event.handed ++ [Event.drained]⟩ := by
  rw [Dispatch.flush_eq] at done
  obtain ⟨jobs, v, began, rounds⟩ := bind_eq_ok done
  obtain ⟨rfl, after⟩ := (Dispatch.beginRound_takes _ _).of_ok rfl began
  by_cases idle : w.dispatcher.ledger.jobs = []
  · have finish : (Call.flush 0).step r w = some (v, [.drained], none) := by
      rw [Call.step, began]
      simp only [Call.proceed, if_pos idle]
    rw [idle] at rounds ⊢
    cases rounds
    rw [List.map_nil, List.append_nil]
    exact .step finish
  · have first : (Call.flush 0).step r w =
        some (v, [], some (.round 1 w.dispatcher.ledger.jobs)) := by
      rw [Call.step, began]
      simp only [Call.proceed, if_neg idle]
    have turned : Reaches r ⟨w', [.round 1 []], trace ++ w.dispatcher.ledger.jobs.map .handed⟩
        ⟨w', [.flush 1], trace ++ w.dispatcher.ledger.jobs.map .handed⟩ := .silent rfl
    have closed := (QueuedJob.resolves_all r _ _).of_ok after rounds
    have empty : w'.dispatcher.ledger.jobs = [] := by
      rw [closed]
      rfl
    have finish : (Call.flush 1).step r w' = some (w', [.drained], none) := by
      rw [Call.step, Dispatch.beginRound_idle empty]
      rfl
    exact (Reaches.silent first).trans ((Reaches.jobs _ rounds).trans (turned.trans (.step finish)))

end Scene

/-- Whatever calls overlap and however: the memo is what was ever accepted, each binding once; each
job that was queued waits, is held by a flush or was handed to resolution, and only once any of these;
every accepted binding was wired, waits or is in the hands of a flush; every request to wire was
accepted, turned down or is under way. After a flush that succeeded, nothing waits until more is
queued, and another flush changes nothing. -/
theorem wired_exactly_once {r : Resolver} {w : Workspace} {moves : List Move} {x : Scene}
    (fresh : w.dispatcher = {}) (done : Scene.run r { work := w } moves = some x) :
    (∀ k, k ∈ x.work.dispatcher.memo ↔ .queued (.wire k) ∈ x.trace) ∧
    x.work.dispatcher.memo.Nodup ∧
    (∀ k ∈ x.work.dispatcher.memo, x.trace.count (.queued (.wire k)) = 1) ∧
    (∀ j, x.trace.count (.queued j) = x.trace.count (.handed j) +
      x.work.dispatcher.ledger.jobs.count j + (stakes x.calls).held.count j) ∧
    x.work.dispatcher.memo.length = x.work.dispatcher.stats.wired +
      x.work.dispatcher.wires.length +
      ((stakes x.calls).held.countP QueuedJob.isWire +
        (stakes x.calls).inHand.countP QueuedJob.isWire) ∧
    x.trace.countP Event.isAsked = x.work.dispatcher.memo.length +
      x.work.dispatcher.stats.memoHits + x.work.dispatcher.stats.skipped +
      (stakes x.calls).asking.length ∧
    (Settled x.trace →
      x.work.dispatcher.backlog = 0 ∧ Dispatch.flush r false x.work = .ok () x.work) := by
  have books := ((Scene.inOrder_fresh fresh).run done).books
  refine ⟨fun k => ?_, books.nodup, fun k there => ?_, books.jobs, books.wired, books.asked,
    fun settled => ?_⟩
  · have known := books.memo k
    rw [← List.count_pos_iff, ← List.count_pos_iff, known]
    exact Iff.rfl
  · have known := books.memo k
    rw [known]
    exact books.nodup.count.trans (if_pos there)
  · have idle := books.idle settled
    refine ⟨?_, Dispatch.flush_idle r idle⟩
    simpa [Ledger.jobs, Dispatcher.ledger, Dispatcher.backlog] using idle

/-! ### A binding that is offered twice while a flush is under way -/

def offeredBinding : Wire := ⟨8, 3, 1⟩

/-- A registration is deferred and a flush begins. While it resolves the registration, two callers
offer the same binding: both look at the graph, then both take their turn. The flush goes on, and
finds the binding in its second round. -/
def offeredTwice : List Move :=
  ([.register valueTask, .step 0, .wire offeredBinding, .wire offeredBinding, .flush, .step 2,
    .step 2, .step 0, .step 1, .step 1, .step 0] : List Move) ++ List.replicate 26 (.step 0)

theorem wired_exactly_once_offeredTwice :
    ∃ x, Scene.run (implementors ["C"]) { work := waiting receiverListens [] } offeredTwice = some x ∧
      x.trace = [.queued (.task valueTask), .asked offeredBinding, .asked offeredBinding,
        .handed (.task valueTask), .queued (.wire offeredBinding), .handed (.wire offeredBinding),
        .drained] ∧
      offeredBinding ∈ x.work.dispatcher.memo ∧ x.work.dispatcher.backlog = 0 ∧
      Dispatch.flush (implementors ["C"]) false x.work = .ok () x.work := by
  have ran : (match Scene.run (implementors ["C"]) { work := waiting receiverListens [] }
        offeredTwice with
      | some x => decide (x.trace = [.queued (.task valueTask), .asked offeredBinding,
          .asked offeredBinding, .handed (.task valueTask), .queued (.wire offeredBinding),
          .handed (.wire offeredBinding), .drained])
      | none => false) = true := by decide +kernel
  split at ran
  case h_2 => cases ran
  case h_1 x done =>
    have trace := of_decide_eq_true ran
    obtain ⟨memo, -, -, -, -, -, still⟩ := wired_exactly_once rfl done
    have settled : Settled x.trace := by
      rw [trace]
      exact ⟨[_, _, _, _, _, _], [], rfl, by simp⟩
    exact ⟨x, done, trace, (memo _).2 (by simp [trace]), still settled⟩

end WidgetFlow
