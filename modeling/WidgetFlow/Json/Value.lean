import WidgetFlow.Text.Quoted

/-!
# JSON documents

Documents as they are written for other programs: indented by two blanks a level, fields in the order
of the document, and texts free of characters that could end a script or a line elsewhere.
-/

namespace WidgetFlow

/-- A JSON document. -/
inductive Json where
  | text (s : String)
  | int (n : Int)
  | array (items : List Json)
  | object (fields : List (String × Json))
  deriving Inhabited

namespace Json

/-- How one character of a text is written. -/
def escapeChar (c : Char) : List Char :=
  let unicode := '\\' :: 'u' :: Text.hexDigits 4 c.toNat
  match c with
  | '"' => ['\\', '"']
  | '\\' => ['\\', '\\']
  | '\n' => ['\\', 'n']
  | '\r' => ['\\', 'r']
  | '\t' => ['\\', 't']
  | '<' | '>' | '&' => unicode
  | _ =>
    if c.toNat = 0x08 then ['\\', 'b']
    else if c.toNat = 0x0C then ['\\', 'f']
    else if c.toNat < 0x20 ∨ c.toNat = 0x2028 ∨ c.toNat = 0x2029 then unicode
    else [c]

/-- A text in quotes. -/
def quote (s : String) : String :=
  String.ofList ('"' :: s.toList.flatMap escapeChar ++ ['"'])

/-- The beginning of a line at a depth. -/
def newline (depth : Nat) : String := "\n" ++ String.ofList (List.replicate (2 * depth) ' ')

/-- Parts between brackets, each on a line of its own; none leave the brackets together. -/
def block (opening closing : String) (depth : Nat) (parts : List String) : String :=
  if parts.isEmpty then opening ++ closing
  else opening ++ newline (depth + 1) ++ ("," ++ newline (depth + 1)).intercalate parts
    ++ newline depth ++ closing

mutual

/-- A document at a depth. -/
def render (depth : Nat) : Json → String
  | text s => quote s
  | int n => toString n
  | array items => block "[" "]" depth (renderItems (depth + 1) items)
  | object fields => block "\x7b" "\x7d" depth (renderFields (depth + 1) fields)

/-- The items of a list. -/
def renderItems (depth : Nat) : List Json → List String
  | [] => []
  | j :: rest => render depth j :: renderItems depth rest

/-- The fields of an object. -/
def renderFields (depth : Nat) : List (String × Json) → List String
  | [] => []
  | (k, j) :: rest => (quote k ++ ": " ++ render depth j) :: renderFields depth rest

end

/-- A whole document, which ends its last line. -/
def document (j : Json) : String := j.render 0 ++ "\n"

/-- An object whose fields are in the order of their names. -/
def sorted (fields : List (String × Json)) : Json :=
  object (fields.mergeSort fun a b => decide (a.1 ≤ b.1))

end Json

end WidgetFlow
