import WidgetFlow.Search

/-!
# Listener registrations

The table of recognized registration methods. Each entry says which listener interface the method
registers and which handlers of that interface the framework will call, with the handler's
parameters that receive the view and a fresh context menu. A table is accepted only if every entry
is named, has handlers, and is the only one for its method.
-/

namespace WidgetFlow

/-- One callback method of a listener interface. -/
structure Handler where
  /-- The subsignature of the callback. -/
  method : String := ""
  /-- The parameter that receives the view, if it is not negative. -/
  view : Option Int := none
  /-- The parameter that receives a context menu, if it is not negative. -/
  menu : Option Int := none
  deriving DecidableEq, Inhabited

/-- The index of the view parameter. -/
def Handler.viewParam? (h : Handler) : Option Int := h.view.filter (0 ≤ ·)

/-- The index of the context-menu parameter. -/
def Handler.menuParam? (h : Handler) : Option Int := h.menu.filter (0 ≤ ·)

/-- A registration method, its interface, and the callbacks it leads to. -/
structure Registration where
  method : String := ""
  interface : String := ""
  event : String := ""
  contextMenu : Bool := false
  handlers : List Handler := []
  deriving DecidableEq, Inhabited

/-- The table of recognized registrations. -/
structure ListenerTable where
  registrations : List Registration := []
  deriving DecidableEq, Inhabited

/-- Why a table is refused. -/
inductive TableFault where
  | unnamed (index : Nat)
  | noHandlers (method : String)
  | duplicate (method : String)
  deriving DecidableEq, Inhabited

/-- The wording of a refusal. -/
def TableFault.message : TableFault → String
  | unnamed i => "listener spec entry " ++ toString i ++ ": method and interface are required"
  | noHandlers m => "listener spec " ++ m ++ ": no handlers"
  | duplicate m => "listener spec " ++ m ++ ": duplicate registration"

namespace ListenerTable

/-- What is wrong with the entry at `index`, given the entries before it. -/
def entryFault? (before : List Registration) (index : Nat) (r : Registration) : Option TableFault :=
  if r.method = "" ∨ r.interface = "" then some (.unnamed index)
  else if r.handlers.isEmpty then some (.noHandlers r.method)
  else if before.any (·.method = r.method) then some (.duplicate r.method)
  else none

/-- The first fault of the entries that follow those in `before`. -/
def firstFault? (before : List Registration) : List Registration → Option TableFault
  | [] => none
  | r :: rest => (entryFault? before before.length r).or (firstFault? (before ++ [r]) rest)

/-- The table of a list of registrations, if each is in order. -/
def ofRegistrations (rs : List Registration) : Except TableFault ListenerTable :=
  match firstFault? [] rs with
  | some fault => .error fault
  | none => .ok ⟨rs⟩

/-- The entry of a registration method. -/
def byMethod? (t : ListenerTable) (method : String) : Option Registration :=
  t.registrations.find? (·.method = method)

/-- The first entry of a listener interface. -/
def byInterface? (t : ListenerTable) (interface : String) : Option Registration :=
  t.registrations.find? (·.interface = interface)

/-- The listener interfaces, in ascending order. -/
def interfaces (t : ListenerTable) : List String :=
  (distinct (t.registrations.map (·.interface))).mergeSort fun a b => decide (a ≤ b)

end ListenerTable

end WidgetFlow
