import WidgetFlow.Decimal.Shortest
import WidgetFlow.Program.Site
import WidgetFlow.Text.Quoted
import WidgetFlow.Time.Duration
import WidgetFlow.Time.Stamp

/-!
# Values of log attributes

What an attribute of a log record may hold, and the three ways it is written: as a field of a log
line, as bare text, and quoted. Texts consist of characters, so a value never holds bytes that encode
none.
-/

namespace WidgetFlow.Log

/-- The value of an attribute. -/
inductive Value where
  | string (s : String)
  /-- A word of some vocabulary, shown as it is. -/
  | word (s : String)
  | int (n : Int)
  | float (x : Float)
  | bool (b : Bool)
  | duration (n : Int)
  | time (t : Stamp)
  | failure (message : String)
  | list (items : List String)
  | map (items : List (String × String))
  | site (s : Site)
  | null
  deriving Inhabited

namespace Value

/-- The entries of a map in the order of their keys. -/
def sortedItems (items : List (String × String)) : List (String × String) :=
  items.mergeSort fun a b => decide (a.1 ≤ b.1)

/-- Bare text: strings as they are, everything else in its usual form. -/
def text : Value → String
  | string s | word s | failure s => s
  | int n => toString n
  | float x => Decimal.generalText x
  | bool b => if b then "true" else "false"
  | duration n => Duration.text n
  | time t => t.kept.longText
  | list items => "[" ++ " ".intercalate items ++ "]"
  | map items =>
    "map[" ++ " ".intercalate ((sortedItems items).map fun (k, v) => k ++ ":" ++ v) ++ "]"
  | site s => s.text
  | null => "<nil>"

/-- Quoted text. Numbers are quoted as characters; what cannot be quoted is marked. -/
def quotedText : Value → String
  | string s | word s | failure s => Text.quoted s
  | int n => Text.quotedCode n
  | float x => "%!q(float64=" ++ Decimal.generalText x ++ ")"
  | bool b => "%!q(bool=" ++ (if b then "true" else "false") ++ ")"
  | duration n => Text.quoted (Duration.text n)
  | time t => Text.quoted t.kept.longText
  | list items => "[" ++ " ".intercalate (items.map Text.quoted) ++ "]"
  | map items =>
    "map[" ++ " ".intercalate
      ((sortedItems items).map fun (k, v) => Text.quoted k ++ ":" ++ Text.quoted v) ++ "]"
  | site s => Text.quoted s.text
  | null => "%!q(<nil>)"

/-- A string that cannot stand in a line as it is, because it has a separator or a quote in it. -/
def needsQuoting (s : String) : Bool :=
  s.toList.any fun c => c = ' ' || c = '\t' || c = '\n' || c = '"' || c = '='

/-- The value in a log line: strings are quoted if they have to be. -/
def fieldText : Value → String
  | string s => if needsQuoting s then Text.quoted s else s
  | time t => t.kept.text
  | v => v.text

end Value

/-- A named value. -/
structure Attr where
  key : String
  value : Value
  deriving Inhabited

/-- An attribute with neither name nor value is left out of lines. -/
def Attr.isNone (a : Attr) : Bool :=
  a.key == "" && match a.value with
    | .null => true
    | _ => false

end WidgetFlow.Log
