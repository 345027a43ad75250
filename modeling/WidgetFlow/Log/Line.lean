import WidgetFlow.Log.Level
import WidgetFlow.Log.Value
import WidgetFlow.Text.Cut

/-!
# Log lines

A record is written on one line: its level, the time of day, the message, and after a bar its
attributes. A handler may add attributes of its own before those of the record, and may put a group
name before all keys.
-/

namespace WidgetFlow.Log

/-- Something worth telling. -/
structure Record where
  level : Level
  message : String
  attrs : List Attr := []
  deriving Inhabited

/-- What is added to every record of a handler. -/
structure Handler where
  /-- The least level that is shown. -/
  least : Level := Level.info
  attrs : List Attr := []
  group : String := ""
  deriving Inhabited

/-- A handler shows a level. -/
def Handler.isEnabled (h : Handler) (l : Level) : Bool := h.least ≤ l

/-- A handler with more attributes after those it has. -/
def Handler.withAttrs (h : Handler) (attrs : List Attr) : Handler :=
  { h with attrs := h.attrs ++ attrs }

/-- A handler with a group name in place of the one it has. -/
def Handler.withGroup (h : Handler) (group : String) : Handler := { h with group := group }

/-- One attribute in a log line. Run ids are cut to eight bytes, `durationMs` is shown with its
unit, errors are always quoted. -/
def Attr.text (a : Attr) : String :=
  let plain := a.key ++ "=" ++ a.value.fieldText
  match a.key, a.value with
  | "runID", .string s =>
    if 8 < s.utf8ByteSize then "run=" ++ String.ofList (Text.cutBytes 8 s.toList) else plain
  | "durationMs", v => "duration=" ++ v.text ++ "ms"
  | "error", v => "error=" ++ v.quotedText
  | _, _ => plain

/-- The attribute with a group name before its key. -/
def Attr.inGroup (group : String) (a : Attr) : Attr :=
  if group = "" then a else { a with key := group ++ "." ++ a.key }

/-- The attributes of a line, those of the handler first. -/
def Handler.shown (h : Handler) (r : Record) : List Attr :=
  ((h.attrs ++ r.attrs).filter (!·.isNone)).map (Attr.inGroup h.group)

/-- The text of the attributes of a line. -/
def attrsText : List Attr → String
  | [] => ""
  | attrs => " |" ++ String.join (attrs.map fun a => " " ++ a.text)

/-- The line of a record, with the time of day `clock`. -/
def Handler.line (h : Handler) (clock : String) (r : Record) : String :=
  Level.tag r.level ++ clock ++ " " ++ r.message ++ attrsText (h.shown r) ++ "\n"

end WidgetFlow.Log
