import WidgetFlow.Decimal.Fraction

/-!
# The text of TOML documents

Blanks, line ends and comments, and strings. Strings between double quotes may have escapes; strings
between single quotes are taken as they are. Three quotes of a kind make a string that may span
lines.
-/

namespace WidgetFlow.Toml

/-- A step that reads a part of a document and leaves the rest; it fails if there is no such part. -/
abbrev Reader := StateT (List Char) Option

/-! ### Blanks, line ends and comments -/

/-- A control character that may stand nowhere but at the end of a line. -/
def isControl (c : Char) : Bool := (c.toNat < 0x20 && c ≠ '\t') || c.toNat = 0x7F

/-- A space or a tab. -/
def isBlank (c : Char) : Bool := c = ' ' || c = '\t'

/-- Passes over blanks. -/
def skipBlanks : Reader Unit := modify (·.dropWhile isBlank)

/-- The next character. -/
def next? : Reader (Option Char) := return (← get).head?

/-- Reads one character. -/
def expect (c : Char) : Reader Unit := do
  match ← get with
  | d :: cs => if d = c then set cs else failure
  | [] => failure

/-- Reads the end of a line. -/
def newline : Reader Unit := do
  match ← get with
  | '\n' :: cs => set cs
  | '\r' :: '\n' :: cs => set cs
  | _ => failure

/-- What follows a comment, from the end of its line on. -/
def afterComment? : List Char → Option (List Char)
  | [] => some []
  | '\n' :: cs => some ('\n' :: cs)
  | '\r' :: '\n' :: cs => some ('\r' :: '\n' :: cs)
  | c :: cs => if isControl c then none else afterComment? cs

/-- Passes over a comment, if there is one. -/
def skipComment : Reader Unit := do
  if (← next?) = some '#' then set (← afterComment? (← get))

/-- Passes over blanks, comments and line ends. -/
def skipLines : Nat → Reader Unit
  | 0 => pure ()
  | fuel + 1 => do
    skipBlanks
    skipComment
    let c? ← next?
    if c? = some '\n' || c? = some '\r' then
      newline
      skipLines fuel

/-! ### Escapes -/

/-- The character with a code of hexadecimal digits. -/
def codePoint? (ds : List Char) : Option Char :=
  match Decimal.digits? 16 ds with
  | some n => if n.isValidChar then some (Char.ofNat n) else none
  | none => none

/-- The character of an escape without digits. -/
def escapeLetter? : Char → Option Char
  | 'b' => some (Char.ofNat 8)
  | 't' => some '\t'
  | 'n' => some '\n'
  | 'f' => some (Char.ofNat 12)
  | 'r' => some '\r'
  | 'e' => some (Char.ofNat 27)
  | '"' => some '"'
  | '\\' => some '\\'
  | _ => none

/-- How many digits an escape has. -/
def escapeWidth : Char → Nat
  | 'u' => 4
  | 'U' => 8
  | _ => 0

/-- The character of an escape whose backslash has been read, and what follows it. -/
def escape? : List Char → Option (Char × List Char)
  | [] => none
  | e :: cs =>
    let width := escapeWidth e
    if width = 0 then (escapeLetter? e).map (·, cs)
    else if cs.length < width then none
    else (codePoint? (cs.take width)).map (·, cs.drop width)

/-! ### Strings on one line -/

/-- The rest of a string between double quotes, and what follows it. -/
def basicString? : Nat → List Char → Option (List Char × List Char)
  | 0, _ => none
  | _, [] => none
  | fuel + 1, c :: cs =>
    if c = '"' then some ([], cs)
    else if c = '\\' then
      (escape? cs).bind fun (x, rest) =>
        (basicString? fuel rest).map fun (s, after) => (x :: s, after)
    else if isControl c then none
    else (basicString? fuel cs).map fun (s, after) => (c :: s, after)

/-- The rest of a string between single quotes, and what follows it. -/
def literalString? : List Char → Option (List Char × List Char)
  | [] => none
  | c :: cs =>
    if c = '\'' then some ([], cs)
    else if isControl c then none
    else (literalString? cs).map fun (s, after) => (c :: s, after)

/-! ### Strings over several lines -/

/-- Where at least three quotes stand, the string ends with the last three of them; two more may
belong to it. The answer is what belongs to the string, and what follows it. -/
def closing? (quote : Char) (cs : List Char) : Option (Option (List Char × List Char)) :=
  let n := (cs.takeWhile (· = quote)).length
  if n < 3 then none
  else if 5 < n then some none
  else some (some (List.replicate (n - 3) quote, cs.drop n))

/-- What follows white space and line ends. -/
def afterSpace : List Char → List Char
  | '\r' :: '\n' :: cs => afterSpace cs
  | c :: cs => if isBlank c || c = '\n' then afterSpace cs else c :: cs
  | [] => []

/-- What follows a backslash that stands last on its line, and the white space after it. -/
def afterJoin? (cs : List Char) : Option (List Char) :=
  match cs.dropWhile isBlank with
  | '\n' :: cs => some (afterSpace cs)
  | '\r' :: '\n' :: cs => some (afterSpace cs)
  | _ => none

/-- The rest of a string between three quotes, and what follows it. Only between double quotes are
there escapes. -/
def longString? (quote : Char) : Nat → List Char → Option (List Char × List Char)
  | 0, _ => none
  | fuel + 1, cs =>
    match closing? quote cs with
    | some answer => answer
    | none =>
      match cs with
      | [] => none
      | '\r' :: '\n' :: cs =>
        (longString? quote fuel cs).map fun (s, after) => ('\r' :: '\n' :: s, after)
      | c :: cs =>
        if c = '\\' && quote = '"' then
          match afterJoin? cs with
          | some rest => longString? quote fuel rest
          | none =>
            (escape? cs).bind fun (x, rest) =>
              (longString? quote fuel rest).map fun (s, after) => (x :: s, after)
        else if isControl c && c ≠ '\n' then none
        else (longString? quote fuel cs).map fun (s, after) => (c :: s, after)

/-- A string between three quotes may begin on the line after them. -/
def dropNewline : List Char → List Char
  | '\n' :: cs => cs
  | '\r' :: '\n' :: cs => cs
  | cs => cs

/-- Reads a string on one line. -/
def shortString : Reader String := do
  match ← get with
  | '"' :: cs =>
    let (s, after) ← basicString? (cs.length + 1) cs
    set after
    return String.ofList s
  | '\'' :: cs =>
    let (s, after) ← literalString? cs
    set after
    return String.ofList s
  | _ => failure

/-- Reads a string of any kind. -/
def string : Reader String := do
  let cs ← get
  match cs with
  | a :: b :: c :: rest =>
    if a = b && b = c && (a = '"' || a = '\'') then
      let (s, after) ← longString? a (rest.length + 1) (dropNewline rest)
      set after
      return String.ofList s
    else shortString
  | _ => shortString

end WidgetFlow.Toml
