/-!
# Changes of inputs

What kind of input of an analysis changed, and where. Kinds are ordered by their number; facts come
first.
-/

namespace WidgetFlow.Watch

/-- A kind of input. -/
structure ChangeType where
  code : Int
  deriving DecidableEq, Inhabited

namespace ChangeType

/-- The fact document. -/
def facts : ChangeType := ⟨0⟩

/-- The listener table. -/
def listeners : ChangeType := ⟨1⟩

/-- The configuration file. -/
def config : ChangeType := ⟨2⟩

/-- The name of a kind; one that has none is shown by its number. -/
def name (t : ChangeType) : String :=
  if t = facts then "facts"
  else if t = listeners then "listeners"
  else if t = config then "config"
  else "ChangeType(" ++ toString t.code ++ ")"

end ChangeType

/-- Changes of one kind of input. -/
structure Change where
  type : ChangeType
  paths : List String := []
  deriving DecidableEq, Inhabited

/-- Why an analysis is run again after a change, for the log. -/
def Change.reason (c : Change) : String := "watch:" ++ c.type.name

end WidgetFlow.Watch
