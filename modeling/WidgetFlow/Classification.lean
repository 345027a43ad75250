import WidgetFlow.Operation
import WidgetFlow.Program.Kind

/-!
# Classification of object flows

Which kinds of objects may occupy which roles of which operations. A combination that the table
does not list is unclassified, which is not the same as rejected.
-/

namespace WidgetFlow

/-- Whether a listed combination is a valid flow. -/
inductive Verdict where
  | accept
  | reject
  deriving DecidableEq, Inhabited

/-- The word for a verdict. -/
def Verdict.name : Verdict → String
  | accept => "accept"
  | reject => "reject"

/-- The verdict a word stands for: anything but "accept" rejects. -/
def Verdict.ofName (word : String) : Verdict := if word = "accept" then accept else reject

/-- An object kind at a role of an operation kind, the latter given by its word. -/
structure FlowKey where
  object : ObjectKind
  op : String
  role : Role
  deriving DecidableEq, Inhabited

/-- The listed combinations, newest first: a later row overrides an earlier one. -/
structure Classification where
  rows : List (FlowKey × Verdict) := []
  deriving DecidableEq, Inhabited

namespace Classification

/-- The verdict on a combination, if it is listed. -/
def lookup? (t : Classification) (object : ObjectKind) (op : String) (role : Role) :
    Option Verdict :=
  t.rows.lookup ⟨object, op, role⟩

/-- The table with one more row. -/
def add (t : Classification) (k : FlowKey) (v : Verdict) : Classification := ⟨(k, v) :: t.rows⟩

/-- The table of a list of rows. -/
def ofRows (rows : List (FlowKey × Verdict)) : Classification :=
  rows.foldl (fun t r => t.add r.1 r.2) {}

/-- One verdict for every combination of the given objects and operations at a role. -/
def block (v : Verdict) (role : Role) (objects : List ObjectKind) (ops : List OpKind) :
    List (FlowKey × Verdict) :=
  objects.flatMap fun o => ops.map fun op => (⟨o, op.name, role⟩, v)

/-- Views. -/
def viewObjects : List ObjectKind := [.view, .inflation]

/-- Menus. -/
def menuObjects : List ObjectKind := [.optionsMenu, .contextMenu]

/-- Windows. -/
def windowObjects : List ObjectKind := [.activity, .fragmentWindow, .dialog, .tabSpec]

/-- Operations called on views. -/
def viewOps : List OpKind := [.findView, .viewTraverse, .setId, .setText, .setListener, .addChildView]

/-- Operations called on windows. -/
def windowOps : List OpKind :=
  [.setContentView, .windowFindView, .windowAddView, .addFragment, .replaceFragment]

/-- Operations whose parameter is an id or a text. -/
def idOps : List OpKind :=
  [.inflate, .setContentView, .findView, .windowFindView, .setId, .setText, .menuInflate]

/-- The rows of the default table. View operations are called on views and menus, window
operations on windows; parameters that hold ids or text hold no objects; windows are never
parameters. -/
def defaultRows : List (FlowKey × Verdict) :=
  block .accept .receiver viewObjects viewOps
    ++ block .accept .receiver menuObjects viewOps
    ++ block .accept .receiver menuObjects [.menuInflate]
    ++ block .reject .receiver viewObjects [.menuInflate]
    ++ block .accept .receiver windowObjects windowOps
    ++ block .reject .receiver viewObjects windowOps
    ++ block .reject .receiver windowObjects viewOps
    ++ block .accept .parameter viewObjects [.addChildView, .windowAddView]
    ++ block .accept .parameter [.fragment] [.addFragment, .replaceFragment]
    ++ block .reject .parameter viewObjects idOps
    ++ block .reject .parameter menuObjects idOps
    ++ block .reject .parameter windowObjects OpKind.all

/-- The classification used when no other is given. -/
def default : Classification := ofRows defaultRows

end Classification

end WidgetFlow
