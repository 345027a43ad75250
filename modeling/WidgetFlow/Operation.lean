/-!
# Framework operations

The framework calls that an operation node models, and the roles of their operands. Every kind
has a fixed `Signature`: which roles its predecessors fill, in which order, whether it yields a
result, and which family of objects it is called on.
-/

namespace WidgetFlow

/-- A named operand position of an operation. Any other word is a role no operation has. -/
inductive Role where
  | receiver
  | parameter
  | result
  | other (name : String)
  deriving DecidableEq, Inhabited

namespace Role

/-- The word for a role. -/
def name : Role → String
  | receiver => "receiver"
  | parameter => "parameter"
  | result => "result"
  | other s => s

/-- The role a word stands for. -/
def ofName : String → Role
  | "receiver" => receiver
  | "parameter" => parameter
  | "result" => result
  | s => other s

end Role

/-- The family of objects an operation is called on. -/
inductive Scope where
  | none
  | view
  | window
  | menu
  deriving DecidableEq, Inhabited

/-- The word for a scope. -/
def Scope.name : Scope → String
  | .none => "none"
  | .view => "view"
  | .window => "window"
  | .menu => "menu"

/-- What every operation of one kind has in common. -/
structure Signature where
  /-- The roles that predecessors fill, in slot order. -/
  layout : List Role
  /-- The operation may yield a value. -/
  yields : Bool := false
  scope : Scope
  /-- What it yields is itself a GUI object. -/
  producer : Bool := false
  /-- Its parameter is a listener object. -/
  listener : Bool := false
  deriving DecidableEq, Inhabited

namespace Signature

/-- The slot of a declared role: its place in the layout, and the first place for the result. -/
def slot? (s : Signature) (role : Role) : Option Nat :=
  if role = .result then (if s.yields then some 0 else none)
  else s.layout.findIdx? (· = role)

/-- The operation declares the role. -/
def has (s : Signature) (role : Role) : Bool := (s.slot? role).isSome

end Signature

/-- The kinds of recognized framework calls. -/
inductive OpKind where
  | inflate
  | setContentView
  | findView
  | windowFindView
  | viewTraverse
  | windowAddView
  | addChildView
  | setId
  | setListener
  | setText
  | menuInflate
  | addFragment
  | replaceFragment
  deriving DecidableEq, Inhabited

namespace OpKind

/-- The word for an operation kind. -/
def name : OpKind → String
  | inflate => "inflate"
  | setContentView => "set-content-view"
  | findView => "find-view"
  | windowFindView => "window-find-view"
  | viewTraverse => "view-traverse"
  | windowAddView => "window-add-view"
  | addChildView => "add-child-view"
  | setId => "set-id"
  | setListener => "set-listener"
  | setText => "set-text"
  | menuInflate => "menu-inflate"
  | addFragment => "add-fragment"
  | replaceFragment => "replace-fragment"

/-- Every operation kind, in the order of their words. -/
def all : List OpKind :=
  [addChildView, addFragment, findView, inflate, menuInflate, replaceFragment, setContentView,
   setId, setListener, setText, viewTraverse, windowAddView, windowFindView]

/-- The operation kind a word stands for. -/
def ofName? (word : String) : Option OpKind := all.find? (·.name = word)

/-- The signature of a kind. -/
def signature : OpKind → Signature
  | inflate => { layout := [.parameter], yields := true, scope := .none, producer := true }
  | setContentView => { layout := [.parameter, .receiver], scope := .window }
  | findView => { layout := [.receiver, .parameter], yields := true, scope := .view, producer := true }
  | windowFindView =>
    { layout := [.receiver, .parameter], yields := true, scope := .window, producer := true }
  | viewTraverse => { layout := [.receiver], yields := true, scope := .view, producer := true }
  | windowAddView => { layout := [.receiver, .parameter], scope := .window }
  | addChildView => { layout := [.receiver, .parameter], scope := .view }
  | setId => { layout := [.receiver, .parameter], scope := .view }
  | setListener => { layout := [.receiver, .parameter], scope := .view, listener := true }
  | setText => { layout := [.receiver, .parameter], scope := .view }
  | menuInflate => { layout := [.parameter, .receiver], scope := .menu }
  | addFragment => { layout := [.receiver, .parameter], scope := .window }
  | replaceFragment => { layout := [.receiver, .parameter], scope := .window }

/-- Operations that yield GUI objects. -/
def isProducer (k : OpKind) : Bool := k.signature.producer

/-- Listener registrations. -/
def isListener (k : OpKind) : Bool := k.signature.listener

/-- The kind of a word is the kind that has this word as its name. -/
theorem ofName?_name (k : OpKind) : ofName? k.name = some k := by
  cases k <;> rfl

end OpKind

end WidgetFlow
