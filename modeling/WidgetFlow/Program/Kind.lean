/-!
# Kinds of program objects

The vocabularies by which a front end describes what flows through a program: what a node stands
for, what an allocated object is, which container a window is. Each vocabulary is open: a name
that is not one of the known words is kept as `other`, because a reference may carry any text.
-/

namespace WidgetFlow

/-- What a node of the flow graph stands for. -/
inductive NodeKind where
  | slot
  | allocation
  | field
  | constant
  | resource
  | window
  | operation
  | null
  | other (name : String)
  deriving DecidableEq, Inhabited

namespace NodeKind

/-- The word for a node kind in fact files and answers. -/
def name : NodeKind → String
  | slot => "variable"
  | allocation => "allocation"
  | field => "field"
  | constant => "constant"
  | resource => "resource"
  | window => "window"
  | operation => "operation"
  | null => "null"
  | other s => s

/-- The node kind a word stands for. -/
def ofName : String → NodeKind
  | "variable" => slot
  | "allocation" => allocation
  | "field" => field
  | "constant" => constant
  | "resource" => resource
  | "window" => window
  | "operation" => operation
  | "null" => null
  | s => other s

/-- Nodes that stand for one concrete object at run time. -/
def isObject : NodeKind → Bool
  | allocation | window => true
  | _ => false

end NodeKind

/-- What an allocated object or a window is. -/
inductive ObjectKind where
  | view
  | inflation
  | optionsMenu
  | contextMenu
  | listener
  | fragment
  | plain
  | activity
  | fragmentWindow
  | dialog
  | tabSpec
  | other (name : String)
  deriving DecidableEq, Inhabited

namespace ObjectKind

/-- The word for an object kind. -/
def name : ObjectKind → String
  | view => "view"
  | inflation => "inflation"
  | optionsMenu => "options-menu"
  | contextMenu => "context-menu"
  | listener => "listener"
  | fragment => "fragment"
  | plain => "plain"
  | activity => "activity"
  | fragmentWindow => "fragment-window"
  | dialog => "dialog"
  | tabSpec => "tabspec"
  | other s => s

/-- The object kind a word stands for. -/
def ofName : String → ObjectKind
  | "view" => view
  | "inflation" => inflation
  | "options-menu" => optionsMenu
  | "context-menu" => contextMenu
  | "listener" => listener
  | "fragment" => fragment
  | "plain" => plain
  | "activity" => activity
  | "fragment-window" => fragmentWindow
  | "dialog" => dialog
  | "tabspec" => tabSpec
  | s => other s

/-- Options and context menus. -/
def isMenu : ObjectKind → Bool
  | optionsMenu | contextMenu => true
  | _ => false

/-- The object kinds of windows. -/
def isWindow : ObjectKind → Bool
  | activity | fragmentWindow | dialog | tabSpec => true
  | _ => false

/-- Allocated objects that are themselves GUI objects. -/
def isProducer : ObjectKind → Bool
  | view | inflation | optionsMenu | contextMenu | fragment => true
  | _ => false

/-- Views, whether constructed or inflated from a layout. -/
def isView : ObjectKind → Bool
  | view | inflation => true
  | _ => false

/-- The kinds an allocation may be given. -/
def isAllocatable : ObjectKind → Bool
  | view | inflation | optionsMenu | contextMenu | listener | fragment | plain => true
  | _ => false

/-- The kind of an allocation that leaves it open. -/
def orPlain (k : ObjectKind) : ObjectKind :=
  if k.name = "" then plain else k

/-- Reads the kind of an allocation: no word means a plain object. -/
def parseAllocation? (word : String) : Option ObjectKind :=
  let k := (ofName word).orPlain
  if k.isAllocatable then some k else none

end ObjectKind

/-- The framework container a window is. -/
inductive WindowKind where
  | activity
  | fragment
  | dialog
  | tabSpec
  | other (name : String)
  deriving DecidableEq, Inhabited

namespace WindowKind

/-- The word for a window kind. -/
def name : WindowKind → String
  | activity => "activity"
  | fragment => "fragment"
  | dialog => "dialog"
  | tabSpec => "tabspec"
  | other s => s

/-- The window kind a word stands for. -/
def ofName : String → WindowKind
  | "activity" => activity
  | "fragment" => fragment
  | "dialog" => dialog
  | "tabspec" => tabSpec
  | s => other s

/-- The kind of object a window is; an unknown container has none. -/
def object? : WindowKind → Option ObjectKind
  | activity => some .activity
  | fragment => some .fragmentWindow
  | dialog => some .dialog
  | tabSpec => some .tabSpec
  | other _ => none

/-- Dialogs and tab specs are told apart by where they are created, the others by class alone. -/
def isPerSite : WindowKind → Bool
  | dialog | tabSpec => true
  | _ => false

end WindowKind

end WidgetFlow
