import WidgetFlow.Facts.Document

/-!
# Replay of facts

The events of a fact document are fed to intake in order, then the window bindings. Malformed events
and bindings are skipped; only a broken operation contract or cancellation ends the replay.
-/

namespace WidgetFlow.Facts

open Work

/-- The operation of an event; if it has no site of its own, it is where the event is. -/
def operationAt (op : OpEvent) (site : Site) : OpEvent :=
  if op.site.isNone then { op with site := site } else op

/-- Feeds one event to intake. -/
def replayEvent (p : Program) (ev : FlowEvent) : Work Unit := do
  match ev.kind with
  | "assign" => Intake.assign p ev.target ev.source ev.site
  | "param" => Intake.bindParameter p ev.target ev.source ev.site
  | "return" => Intake.bindReturn p ev.target ev.source ev.site
  | "op" =>
    match ev.op with
    | none => note (.operationMissing ev.site)
    | some op => let _ ← Intake.recognize p (operationAt op ev.site)
  | "tabhost" => let _ ← Intake.tabHost p ev.host ev.part ev.target ev.site
  | _ => note (.eventUnknown ev.kind ev.site)

/-- Feeds events to intake, the first of them being the event number `index`. -/
def replayEvents (p : Program) : Nat → List FlowEvent → Work Unit
  | _, [] => pure ()
  | index, ev :: rest => do
    within (.replay index ev.kind) (replayEvent p ev)
    replayEvents p (index + 1) rest

/-- Binds a window; a binding or a root that is refused is skipped. -/
def replayBinding (b : BindingFact) : Work Unit := do
  match ← attempt (Intake.bindViews b.window b.root) with
  | .error e => note (.bindingSkipped b.window.window.className e)
  | .ok () => b.producers.forM fun r => do
    match ← attempt (Intake.windowRoot b.window r) with
    | .error e => note (.rootSkipped b.window.window.className e)
    | .ok () => pure ()

/-- Feeds a whole document to intake. Cancellation is noticed at the first event. -/
def replay (p : Program) (canceled : Bool) (f : Facts) : Work Unit := do
  if !f.events.isEmpty then checkCanceled canceled
  replayEvents p 0 f.events
  f.bindings.forM replayBinding
  note (.factsReplayed f.events.length f.bindings.length)

end WidgetFlow.Facts
