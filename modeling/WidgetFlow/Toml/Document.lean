import WidgetFlow.Toml.Names
import WidgetFlow.Toml.Scalar

/-!
# TOML documents

A document is a sequence of lines: an empty line or comment, the header of a table, or a key with its
value. Keys may have several parts. Values may be lists, which can span lines, and tables between
braces, which cannot. Only the names at the top matter to a reader of settings, so that lists and
tables are just something compound.
-/

namespace WidgetFlow.Toml

open Settings (Value)

/-! ### Keys -/

/-- A character of a key without quotes. -/
def isKeyChar (c : Char) : Bool :=
  ('a' ≤ c && c ≤ 'z') || ('A' ≤ c && c ≤ 'Z') || c.isDigit || c = '_' || c = '-'

/-- Reads one part of a key. -/
def keyPart : Reader String := do
  let cs ← get
  if cs.head? = some '"' || cs.head? = some '\'' then shortString
  else
    let part := cs.takeWhile isKeyChar
    if part.isEmpty then failure
    set (cs.drop part.length)
    return String.ofList part

/-- Reads a key of one or more parts, and the blanks after it. -/
def key : Nat → Reader (List String)
  | 0 => failure
  | fuel + 1 => do
    let part ← keyPart
    skipBlanks
    if (← next?) = some '.' then
      expect '.'
      skipBlanks
      return part :: (← key fuel)
    else return [part]

/-! ### Values -/

mutual

/-- Reads a value. -/
def value : Nat → Reader Value
  | 0 => failure
  | fuel + 1 => do
    let cs ← get
    match cs with
    | [] => failure
    | '"' :: _ | '\'' :: _ => return .text (← string)
    | 't' :: 'r' :: 'u' :: 'e' :: rest =>
      set rest
      return .bool true
    | 'f' :: 'a' :: 'l' :: 's' :: 'e' :: rest =>
      set rest
      return .bool false
    | '[' :: rest =>
      set rest
      items true fuel
      return .compound
    | '\x7b' :: rest =>
      set rest
      pairs true {} fuel
      return .compound
    | _ => if beginsMoment cs then moment else number

/-- Reads the items of a list and its closing bracket; `first` before the first item. A comma may
stand after the last item. -/
def items (first : Bool) : Nat → Reader Unit
  | 0 => failure
  | fuel + 1 => do
    skipLines (← get).length
    if (← next?) ≠ some ']' && !first then
      expect ','
      skipLines (← get).length
    if (← next?) = some ']' then expect ']'
    else
      let _ ← value fuel
      items false fuel

/-- Reads the pairs of a table between braces and its closing brace; `first` before the first pair. No
comma may stand after the last pair. -/
def pairs (first : Bool) (names : Names) : Nat → Reader Unit
  | 0 => failure
  | fuel + 1 => do
    skipBlanks
    if (← next?) = some '\x7d' then expect '\x7d'
    else
      unless first do
        expect ','
        skipBlanks
      let (path, _) ← pair fuel
      pairs false (← names.define path) fuel

/-- Reads a key and its value. -/
def pair : Nat → Reader (List String × Value)
  | 0 => failure
  | fuel + 1 => do
    let path ← key (← get).length
    expect '='
    skipBlanks
    return (path, ← value fuel)

end

/-! ### Lines -/

/-- What has been read of a document. -/
structure Draft where
  names : Names := {}
  /-- The values of names at the top, newest first. -/
  entries : List (String × Value) := []
  deriving Inhabited

/-- The draft with a name at the top: that of a value, or that of the table which holds it. -/
def Draft.enter (d : Draft) (names : Names) (path : List String) (v : Value) : Draft :=
  match path with
  | [] => { d with names := names }
  | [name] => ⟨names, (name, v) :: d.entries⟩
  | name :: _ => ⟨names, (name, .compound) :: d.entries⟩

/-- Reads the header of a table or, with two brackets, of the next table of a list. -/
def header (d : Draft) : Reader Draft := do
  expect '['
  let listed := (← next?) = some '['
  if listed then expect '['
  skipBlanks
  let path ← key (← get).length
  expect ']'
  if listed then expect ']'
  let names ← if listed then d.names.beginListed path else d.names.beginTable path
  return d.enter names path .compound

/-- Reads a key with its value. -/
def definition (d : Draft) : Reader Draft := do
  let (path, v) ← pair (2 * (← get).length + 4)
  return d.enter (← d.names.define path) (d.names.current ++ path) v

/-- Reads a line up to its end. -/
def line (d : Draft) : Reader Draft := do
  skipBlanks
  let c? ← next?
  if c?.all fun c => c = '#' || c = '\n' || c = '\r' then
    skipComment
    return d
  else
    let d ← if c? = some '[' then header d else definition d
    skipBlanks
    skipComment
    return d

/-- Reads lines to the end of the document. -/
def lines : Nat → Draft → Reader Draft
  | 0, _ => failure
  | fuel + 1, d => do
    let d ← line d
    if (← next?).isNone then return d
    newline
    lines fuel d

/-- The names at the top of a document with their values; nothing if it is malformed. -/
def parse (text : String) : Option (List (String × Value)) :=
  let cs := text.toList
  ((lines (cs.length + 1) {}).run cs).map fun (d, _) => d.entries

end WidgetFlow.Toml
