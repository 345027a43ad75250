import WidgetFlow.Yaml.Cursor

/-!
# Scalars in YAML text

Plain scalars run until something that cannot belong to them; quoted scalars until the closing
quote. Both may span lines, which are joined.
-/

namespace WidgetFlow.Yaml

/-! ### Plain scalars -/

/-- A plain scalar ends before a colon that a gap follows, and inside brackets also before the
characters that structure them. -/
def endsPlain (flow : Bool) (c : Char) (after : Option Char) : Bool :=
  (c = ':' && isGap after)
    || (flow && (c = ',' || c = '?' || c = '[' || c = ']' || c = '\x7b' || c = '\x7d'))

/-- The characters of a plain scalar up to a gap or its end. -/
def plainWord (flow : Bool) : List Char → List Char
  | [] => []
  | c :: rest =>
    if isBlank c || isBreak c || endsPlain flow c rest.head? then [] else c :: plainWord flow rest

/-- Reads on in a plain scalar that starts at a line and whose words so far are `words`, the last one
first, each with the white space before it. The answer also tells whether the scalar was left at the
start of a line. -/
def scanPlainFrom (flow : Bool) (start : Nat) (indent : Int) :
    Nat → List (List Char) → Gap → Scan (List (List Char) × Bool)
  | 0, words, g => pure (words, g.first.isSome)
  | fuel + 1, words, g => do
    need 4
    let c ← get
    if c.isDocumentMarker || c.next? = some '#' then return (words, g.first.isSome)
    let word := plainWord flow c.rest
    skipAll 2 word
    let words := if word.isEmpty then words else (g.text ++ word) :: words
    let g : Gap := if word.isEmpty then g else {}
    let c ← get
    if c.next?.any fun b => isBlank b || isBreak b then
      let g ← scanGap start indent c.size g
      if !flow && ((← get).column : Int) < indent then return (words, g.first.isSome)
      else scanPlainFrom flow start indent fuel words g
    else return (words, g.first.isSome)

/-- Reads a plain scalar; `indent` is the column that its later lines must reach. -/
def scanPlain (flow : Bool) (indent : Int) : Scan (String × Bool) := do
  let c ← get
  let (words, atLineStart) ← scanPlainFrom flow c.line indent (c.size + 1) [] {}
  return (String.ofList words.reverse.flatten, atLineStart)

/-! ### Quoted scalars -/

/-- The value of a hexadecimal digit. -/
def hexValue? (c : Char) : Option Nat :=
  if c.isDigit then some (c.toNat - 48)
  else if 'a' ≤ c && c ≤ 'f' then some (c.toNat - 87)
  else if 'A' ≤ c && c ≤ 'F' then some (c.toNat - 55)
  else none

/-- The value of hexadecimal digits. -/
def hexNumber? (ds : List Char) : Option Nat :=
  ds.foldl (fun v? d => v?.bind fun v => (hexValue? d).map (16 * v + ·)) (some 0)

/-- How many digits an escape by code point has. -/
def escapeWidth? : Char → Option Nat
  | 'x' => some 2
  | 'u' => some 4
  | 'U' => some 8
  | _ => none

/-- The code point of an escape by letter. -/
def escapeLetter? : Char → Option Nat
  | '0' => some 0x00
  | 'a' => some 0x07
  | 'b' => some 0x08
  | 't' | '\t' => some 0x09
  | 'n' => some 0x0A
  | 'v' => some 0x0B
  | 'f' => some 0x0C
  | 'r' => some 0x0D
  | 'e' => some 0x1B
  | ' ' => some 0x20
  | '"' => some 0x22
  | '\'' => some 0x27
  | '/' => some 0x2F
  | '\\' => some 0x5C
  | 'N' => some 0x85
  | '_' => some 0xA0
  | 'L' => some 0x2028
  | 'P' => some 0x2029
  | _ => none

/-- Reads an escape whose backslash has been read: the character and how many digits give it. -/
def escape (rest : List Char) : Except Problem (Char × Nat) :=
  match rest with
  | [] => .error .unknownEscape
  | e :: rest =>
    match escapeWidth? e with
    | some width =>
      let ds := rest.take width
      match if ds.length < width then none else hexNumber? ds with
      | none => .error .badEscapeDigits
      | some v => if v.isValidChar then .ok (Char.ofNat v, width) else .error .badEscapeCode
    | none =>
      match escapeLetter? e with
      | some v => .ok (Char.ofNat v, 0)
      | none => .error .unknownEscape

/-- The characters of a quoted scalar that starts at a line, up to a gap or the closing quote, put in
front of `text`, the last one first. The answer also tells whether an escaped line end was met, which
joins lines without a space. -/
def quotedWord (single : Bool) (start : Nat) : Nat → List Char → Scan (List Char × Bool)
  | 0, text => pure (text, false)
  | fuel + 1, text => do
    match (← get).rest with
    | [] => return (text, false)
    | a :: rest =>
      if isBlank a || isBreak a then return (text, false)
      else if single && a = '\'' then
        if rest.head? = some '\'' then
          skip
          skip
          need 2
          quotedWord single start fuel ('\'' :: text)
        else return (text, false)
      else if !single && a = '"' then return (text, false)
      else if !single && a = '\\' then
        if rest.head?.any isBreak then
          need 3
          skip
          let _ ← skipBreak
          return (text, true)
        else match escape rest with
          | .error problem => refuse problem start
          | .ok (e, width) =>
            skip
            skip
            need width
            (List.range width).forM fun _ => skip
            need 2
            quotedWord single start fuel (e :: text)
      else
        skip
        need 2
        quotedWord single start fuel (a :: text)

/-- What a gap of a quoted scalar stands for. After an escaped line end blanks vanish, and line ends
that follow stay. -/
def quotedGap (joined : Bool) (g : Gap) : List Char :=
  if joined then g.first.toList ++ g.more else g.text

/-- Reads on in a quoted scalar that starts at a line and whose characters so far are `text`, the last
one first. -/
def scanQuotedFrom (single : Bool) (start : Nat) : Nat → List Char → Scan (List Char)
  | 0, _ => refuse .endInQuotes start
  | fuel + 1, text => do
    need 4
    let c ← get
    if c.isDocumentMarker then refuse .markerInQuotes start
    if c.rest.isEmpty then refuse .endInQuotes start
    let (text, joined) ← quotedWord single start c.size text
    need 1
    if (← get).next? = some (if single then '\'' else '"') then return text
    else
      let g ← scanGap start (-1) c.size {}
      scanQuotedFrom single start fuel ((quotedGap joined g).reverse ++ text)

/-- Reads a quoted scalar with its quotes. -/
def scanQuoted (single : Bool) : Scan String := do
  skip
  let c ← get
  let text ← scanQuotedFrom single c.line (c.size + 1) []
  skip
  return String.ofList text.reverse

end WidgetFlow.Yaml
