import WidgetFlow.Facts.Document
import WidgetFlow.Listener.Table
import WidgetFlow.Yaml.Decode

/-!
# Reading documents

How fact documents and listener tables are read from YAML text. A fact document must have no fields
but its own, at any depth; a listener table may have others.
-/

namespace WidgetFlow

open Yaml

/-- Why a document cannot be read. -/
inductive DocumentFault where
  | malformed (fault : SyntaxFault)
  /-- Some nodes do not fit, in the order of the document. -/
  | unfit (misfits : List Misfit)
  deriving DecidableEq, Inhabited

/-- The wording of a fault. -/
def DocumentFault.message : DocumentFault → String
  | malformed fault => "yaml: " ++ fault.message
  | unfit misfits => "yaml: unmarshal errors:" ++ String.join (misfits.map ("\n  " ++ ·.text))

/-- Reads a text with a reader of nodes; no document reads like null. -/
def readText {α : Type} (read : Tree → Reading α) (text : String) : Except DocumentFault α :=
  match Yaml.parse text with
  | .error e => .error (.malformed e)
  | .ok node? =>
    let (a, misfits) := (read (node?.getD (.leftOut 0))).run []
    if misfits.isEmpty then .ok a else .error (.unfit misfits.reverse)

namespace Facts

/-- A record of a fact document. -/
def record {α : Type} (type : String) (start : α) (set? : String → Option (α → Tree → Reading α)) :
    Tree → Reading α :=
  Tree.asRecord type true start set?

/-- A site. -/
def readSite : Tree → Reading Site :=
  record "model.Site" {} fun
    | "method" => some fun s n => return { s with method := ← n.asText "string" }
    | "stmt" => some fun s n => return { s with stmt := ← n.asInt "int" }
    | _ => none

/-- A value slot. -/
def readLocal : Tree → Reading Local :=
  record "model.Local" {} fun
    | "method" => some fun l n => return { l with method := ← n.asText "string" }
    | "name" => some fun l n => return { l with name := ← n.asText "string" }
    | _ => none

/-- An allocation. -/
def readAlloc : Tree → Reading AllocSite :=
  record "model.AllocSite" {} fun
    | "expr" => some fun a n => return { a with expr := ← n.asText "string" }
    | "class" => some fun a n => return { a with className := ← n.asText "string" }
    | "kind" => some fun a n => return { a with kind := .ofName (← n.asText "model.ObjectKind") }
    | _ => none

/-- A field of a class. -/
def readField : Tree → Reading FieldRef :=
  record "model.FieldRef" {} fun
    | "class" => some fun f n => return { f with className := ← n.asText "string" }
    | "name" => some fun f n => return { f with name := ← n.asText "string" }
    | _ => none

/-- A literal. -/
def readConstant : Tree → Reading ConstantRef :=
  record "model.Constant" {} fun
    | "kind" => some fun c n => return { c with kind := ← n.asText "model.ConstantKind" }
    | "int" => some fun c n => return { c with int := ← n.asInt "int64" }
    | "str" => some fun c n => return { c with str := ← n.asText "string" }
    | _ => none

/-- A resource id. -/
def readResource : Tree → Reading ResourceId :=
  record "model.ResourceID" {} fun
    | "kind" => some fun r n => return { r with kind := ← n.asText "model.ResourceKind" }
    | "value" => some fun r n => return { r with value := ← n.asInt "int" }
    | _ => none

/-- A window. -/
def readWindow : Tree → Reading WindowRef :=
  record "model.WindowRef" {} fun
    | "kind" => some fun w n => return { w with kind := .ofName (← n.asText "model.WindowKind") }
    | "class" => some fun w n => return { w with className := ← n.asText "string" }
    | "site" => some fun w n => return { w with site := ← n.asText "string" }
    | _ => none

/-- A reference. -/
def readRef : Tree → Reading Ref :=
  record "model.Ref" {} fun
    | "kind" => some fun r n => return { r with kind := .ofName (← n.asText "model.NodeKind") }
    | "local" => some fun r n => return { r with slot := ← readLocal n }
    | "alloc" => some fun r n => return { r with alloc := ← readAlloc n }
    | "field" => some fun r n => return { r with field := ← readField n }
    | "constant" => some fun r n => return { r with constant := ← readConstant n }
    | "resource" => some fun r n => return { r with resource := ← readResource n }
    | "window" => some fun r n => return { r with window := ← readWindow n }
    | _ => none

/-- A recognized operation. -/
def readOpEvent : Tree → Reading OpEvent :=
  record "builder.OpEvent" {} fun
    | "kind" => some fun e n => return { e with kind := ← n.asText "model.OpKind" }
    | "receiver" => some fun e n => return { e with receiver := ← readRef n }
    | "parameter" => some fun e n => return { e with parameter := ← readRef n }
    | "result" => some fun e n => return { e with result := ← readRef n }
    | "site" => some fun e n => return { e with site := ← readSite n }
    | "artificial" => some fun e n => return { e with artificial := ← n.asBool }
    | "listener" => some fun e n => return { e with listener := ← n.asText "string" }
    | "listener_class" => some fun e n => return { e with listenerClass := ← n.asText "string" }
    | "parameter_type" => some fun e n => return { e with parameterType := ← n.asText "string" }
    | _ => none

/-- An operation event, unless it is null. -/
def readOpEvent? (n : Tree) : Reading (Option OpEvent) :=
  if n.isNull then return none else return some (← readOpEvent n)

/-- A flow event. -/
def readEvent : Tree → Reading FlowEvent :=
  record "facts.Event" {} fun
    | "kind" => some fun e n => return { e with kind := ← n.asText "facts.EventKind" }
    | "target" => some fun e n => return { e with target := ← readRef n }
    | "source" => some fun e n => return { e with source := ← readRef n }
    | "op" => some fun e n => return { e with op := ← readOpEvent? n }
    | "host" => some fun e n => return { e with host := ← readRef n }
    | "part" => some fun e n => return { e with part := ← n.asText "builder.TabPart" }
    | "site" => some fun e n => return { e with site := ← readSite n }
    | _ => none

/-- A window binding. -/
def readBinding : Tree → Reading BindingFact :=
  record "facts.Binding" {} fun
    | "window" => some fun b n => return { b with window := ← readRef n }
    | "root" => some fun b n => return { b with root := ← readRef n }
    | "producers" => some fun b n => return { b with producers := ← n.asList "[]model.Ref" readRef }
    | _ => none

/-- A list of texts. -/
def readTexts (n : Tree) : Reading (List String) := n.asList "[]string" (·.asText "string")

/-- A class. -/
def readClass : Tree → Reading ClassInfo :=
  record "hierarchy.Class" {} fun
    | "name" => some fun c n => return { c with name := ← n.asText "string" }
    | "super" => some fun c n => return { c with super := ← n.asText "string" }
    | "interfaces" => some fun c n => return { c with interfaces := ← readTexts n }
    | "abstract" => some fun c n => return { c with isAbstract := ← n.asBool }
    | "interface" => some fun c n => return { c with isInterface := ← n.asBool }
    | "methods" => some fun c n => return { c with methods := ← readTexts n }
    | _ => none

/-- A whole document. A resource without an id has the id zero. -/
def readTree : Tree → Reading Facts :=
  record "facts.Facts" {} fun
    | "classes" => some fun f n => return { f with classes := ← n.asList "[]hierarchy.Class" readClass }
    | "resources" => some fun f n => return { f with resources := ← n.asNumbers "map[string]int" }
    | "events" => some fun f n => return { f with events := ← n.asList "[]facts.Event" readEvent }
    | "bindings" => some fun f n => return { f with bindings := ← n.asList "[]facts.Binding" readBinding }
    | _ => none

/-- Reads a fact document. -/
def read (text : String) : Except DocumentFault Facts := readText readTree text

end Facts

namespace ListenerTable

/-- A callback. -/
def readHandler : Tree → Reading Handler :=
  Tree.asRecord "listener.Handler" false {} fun
    | "method" => some fun h n => return { h with method := ← n.asText "string" }
    | "view" => some fun h n => return { h with view := ← n.asIntOpt "int" }
    | "menu" => some fun h n => return { h with menu := ← n.asIntOpt "int" }
    | _ => none

/-- A registration. -/
def readRegistration : Tree → Reading Registration :=
  Tree.asRecord "listener.Registration" false {} fun
    | "method" => some fun r n => return { r with method := ← n.asText "string" }
    | "interface" => some fun r n => return { r with interface := ← n.asText "string" }
    | "event" => some fun r n => return { r with event := ← n.asText "string" }
    | "context_menu" => some fun r n => return { r with contextMenu := ← n.asBool }
    | "handlers" => some fun r n =>
      return { r with handlers := ← n.asList "[]listener.Handler" readHandler }
    | _ => none

/-- A whole table. -/
def readTree : Tree → Reading (List Registration) :=
  Tree.asRecord "listener.Spec" false [] fun
    | "registrations" => some fun _ n => n.asList "[]listener.Registration" readRegistration
    | _ => none

/-- Why a listener table cannot be used. -/
inductive Fault where
  | document (fault : DocumentFault)
  | table (fault : TableFault)
  deriving DecidableEq, Inhabited

/-- The wording of a fault. -/
def Fault.message : ListenerTable.Fault → String
  | document fault => "parse listener spec: " ++ fault.message
  | table fault => fault.message

/-- Reads and checks a listener table. -/
def read (text : String) : Except ListenerTable.Fault ListenerTable :=
  match readText readTree text with
  | .error e => .error (.document e)
  | .ok rs =>
    match ofRegistrations rs with
    | .ok t => .ok t
    | .error e => .error (.table e)

end ListenerTable

end WidgetFlow
