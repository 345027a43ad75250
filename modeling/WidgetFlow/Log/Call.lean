import WidgetFlow.Log.Line

/-!
# Log calls

A log call gives a message and a loose list of arguments, in which keys and values alternate. A
value where a key is expected, and a key without a value, are kept under a key that says so. The call
may come from a component, which names itself, and may belong to a run, whose id is then added.
-/

namespace WidgetFlow.Log

/-- An argument of a log call. -/
inductive Arg where
  | text (s : String)
  | value (v : Value)
  | attr (a : Attr)
  deriving Inhabited

/-- An argument as a value. -/
def Arg.toValue : Arg → Value
  | text s => .string s
  | value v => v
  | attr a => .word (a.key ++ "=" ++ a.value.text)

/-- The key of what has none. -/
def badKey : String := "!BADKEY"

/-- The attributes of a list of arguments. -/
def attrsOfArgs : List Arg → List Attr
  | [] => []
  | .text k :: v :: rest => ⟨k, v.toValue⟩ :: attrsOfArgs rest
  | [.text k] => [⟨badKey, .string k⟩]
  | .attr a :: rest => a :: attrsOfArgs rest
  | .value v :: rest => ⟨badKey, v⟩ :: attrsOfArgs rest

/-- Who makes a log call. -/
inductive Caller where
  /-- No one in particular, outside any run. -/
  | plain
  /-- No one in particular, in the current run. -/
  | inRun
  /-- A component in the current run. -/
  | component (name : String)
  deriving DecidableEq, Inhabited

/-- The attribute that names the run, if there is one. -/
def runAttrs (runId : String) : List Attr :=
  if runId = "" then [] else [⟨"runID", .string runId⟩]

/-- What the caller adds before the attributes of a call. -/
def Caller.attrs (runId : String) : Caller → List Attr
  | plain => []
  | inRun => runAttrs runId
  | component name => ⟨"component", .string name⟩ :: runAttrs runId

/-- The record of a log call. -/
def callRecord (runId : String) (caller : Caller) (level : Level) (message : String)
    (args : List Arg) : Record :=
  ⟨level, message, caller.attrs runId ++ attrsOfArgs args⟩

/-- What a handler writes for a record: nothing if its level is not shown. -/
def Handler.write (h : Handler) (clock : String) (r : Record) : String :=
  if h.isEnabled r.level then h.line clock r else ""

end WidgetFlow.Log
