import WidgetFlow.Program.Site
import WidgetFlow.Program.Kind

/-!
# References to program entities

A `Ref` is what a front end writes when it names something that holds or makes a value. It is a
record with one part for each kind of entity; its kind says which part counts. An `Entity` is what
a reference resolves to, in canonical form, and its `key` is what tells entities apart: an
allocation is known by its expression alone, whatever class it is given later.
-/

namespace WidgetFlow

/-- A value slot of a method: a local variable, a formal parameter or the returned value. -/
structure Local where
  method : String := ""
  name : String := ""
  deriving DecidableEq, Inhabited

namespace Local

/-- The receiver slot of a method. -/
def this (method : String) : Local := ⟨method, "this"⟩

/-- The slot of the `i`-th formal parameter. -/
def param (method : String) (i : Int) : Local := ⟨method, "@param" ++ toString i⟩

/-- The slot that holds what a method returns. -/
def result (method : String) : Local := ⟨method, "@return"⟩

/-- Both parts are named. -/
def isNamed (l : Local) : Bool := l.method != "" && l.name != ""

/-- The slot with every part spelt out. -/
def describe (l : Local) : String :=
  "\x7bMethod:" ++ l.method ++ " Name:" ++ l.name ++ "\x7d"

end Local

/-- An allocation expression and the object it creates. -/
structure AllocSite where
  expr : String := ""
  className : String := ""
  kind : ObjectKind := .other ""
  deriving DecidableEq, Inhabited

namespace AllocSite

/-- The expression and the class are named. -/
def isNamed (a : AllocSite) : Bool := a.expr != "" && a.className != ""

/-- The allocation with every part spelt out. -/
def describe (a : AllocSite) : String :=
  "\x7bExpr:" ++ a.expr ++ " Class:" ++ a.className ++ " Kind:" ++ a.kind.name ++ "\x7d"

end AllocSite

/-- A declared field. -/
structure FieldRef where
  className : String := ""
  name : String := ""
  deriving DecidableEq, Inhabited

namespace FieldRef

/-- Both parts are named. -/
def isNamed (f : FieldRef) : Bool := f.className != "" && f.name != ""

/-- The field with every part spelt out. -/
def describe (f : FieldRef) : String :=
  "\x7bClass:" ++ f.className ++ " Name:" ++ f.name ++ "\x7d"

end FieldRef

/-- A literal value in its canonical form. -/
inductive Literal where
  | int (value : Int)
  | long (value : Int)
  | string (value : String)
  deriving DecidableEq, Inhabited

/-- A literal as a front end writes it, with room for both payloads. -/
structure ConstantRef where
  kind : String := ""
  int : Int := 0
  str : String := ""
  deriving DecidableEq, Inhabited

namespace ConstantRef

/-- The literal a constant stands for: the payload that does not belong to its kind is dropped. -/
def literal? (c : ConstantRef) : Option Literal :=
  match c.kind with
  | "int" => some (.int c.int)
  | "long" => some (.long c.int)
  | "string" => some (.string c.str)
  | _ => none

/-- The constant with every part spelt out. -/
def describe (c : ConstantRef) : String :=
  "\x7bKind:" ++ c.kind ++ " Int:" ++ toString c.int ++ " Str:" ++ c.str ++ "\x7d"

end ConstantRef

/-- An integer id from one of the application's resource tables. -/
structure ResourceId where
  kind : String := ""
  value : Int := 0
  deriving DecidableEq, Inhabited

namespace ResourceId

/-- The table of widget ids. -/
def widget (value : Int) : ResourceId := ⟨"widget", value⟩

/-- The resource id with every part spelt out. -/
def describe (r : ResourceId) : String :=
  "\x7bKind:" ++ r.kind ++ " Value:" ++ toString r.value ++ "\x7d"

end ResourceId

/-- A window, by its container kind and class, and by where it is created if that matters. -/
structure WindowRef where
  kind : WindowKind := .other ""
  className : String := ""
  site : String := ""
  deriving DecidableEq, Inhabited

namespace WindowRef

/-- Drops the creation site of a window that is unique for its class. -/
def canonical (w : WindowRef) : WindowRef :=
  if w.kind.isPerSite then w else { w with site := "" }

/-- The window with every part spelt out. -/
def describe (w : WindowRef) : String :=
  "\x7bKind:" ++ w.kind.name ++ " Class:" ++ w.className ++ " Site:" ++ w.site ++ "\x7d"

end WindowRef

/-- A reference to an entity of the program; the kind selects the part that counts. -/
structure Ref where
  kind : NodeKind := .other ""
  slot : Local := {}
  alloc : AllocSite := {}
  field : FieldRef := {}
  constant : ConstantRef := {}
  resource : ResourceId := {}
  window : WindowRef := {}
  deriving DecidableEq, Inhabited

namespace Ref

/-- A reference to a value slot. -/
def ofSlot (l : Local) : Ref := { kind := .slot, slot := l }

/-- A reference to an allocation. -/
def ofAlloc (a : AllocSite) : Ref := { kind := .allocation, alloc := a }

/-- A reference to a resource id. -/
def ofResource (r : ResourceId) : Ref := { kind := .resource, resource := r }

/-- A reference to a window. -/
def ofWindow (w : WindowRef) : Ref := { kind := .window, window := w }

/-- The reference names nothing. -/
def isNone (r : Ref) : Bool := r.kind.name == ""

/-- The part that counts can identify an entity. -/
def isValid (r : Ref) : Bool :=
  match r.kind with
  | .slot => r.slot.isNamed
  | .allocation => r.alloc.isNamed
  | .field => r.field.isNamed
  | .constant => r.constant.literal?.isSome
  | .resource => r.resource.kind != ""
  | .window => r.window.kind.name != "" && r.window.className != ""
  | .null => true
  | .operation | .other _ => false

/-- The reference with every part spelt out. -/
def describe (r : Ref) : String :=
  "\x7bKind:" ++ r.kind.name ++ " Local:" ++ r.slot.describe ++ " Alloc:" ++ r.alloc.describe
    ++ " Field:" ++ r.field.describe ++ " Constant:" ++ r.constant.describe
    ++ " Resource:" ++ r.resource.describe ++ " Window:" ++ r.window.describe ++ "\x7d"

end Ref

/-- What a reference resolves to. -/
inductive Entity where
  | slot (l : Local)
  | allocation (a : AllocSite)
  | field (f : FieldRef)
  | constant (c : Literal)
  | resource (r : ResourceId)
  | window (w : WindowRef)
  | null
  deriving DecidableEq, Inhabited

/-- What tells entities apart. -/
inductive Entity.Key where
  | slot (l : Local)
  | allocation (expr : String)
  | field (f : FieldRef)
  | constant (c : Literal)
  | resource (r : ResourceId)
  | window (w : WindowRef)
  | null
  deriving DecidableEq, Inhabited

namespace Entity

/-- The identity of an entity: all of it, but for an allocation its expression alone. -/
def key : Entity → Key
  | slot l => .slot l
  | allocation a => .allocation a.expr
  | field f => .field f
  | constant c => .constant c
  | resource r => .resource r
  | window w => .window w
  | null => .null

/-- The entity of a value slot, if both its parts are named. -/
def ofLocal? (l : Local) : Option Entity :=
  if l.isNamed then some (.slot l) else none

/-- The entity of an allocation; an allocation that leaves its kind open is a plain object. -/
def ofAlloc? (a : AllocSite) : Option Entity :=
  if a.isNamed then some (.allocation { a with kind := a.kind.orPlain }) else none

/-- The entity of a field. -/
def ofField? (f : FieldRef) : Option Entity :=
  if f.isNamed then some (.field f) else none

/-- The entity of a literal value. -/
def ofConstant? (c : ConstantRef) : Option Entity :=
  c.literal?.map .constant

/-- The entity of a resource id. -/
def ofResource? (r : ResourceId) : Option Entity :=
  if r.kind != "" then some (.resource r) else none

/-- The entity of a window of a known container kind. -/
def ofWindow? (w : WindowRef) : Option Entity :=
  if w.className != "" && w.kind.object?.isSome then some (.window w.canonical) else none

end Entity

end WidgetFlow
