/-!
# Reading YAML text

A cursor stands between two characters of a text and knows its line and column. Texts may hold
printable characters, tabs and line ends only. A carriage return, with or without a line feed, and
the next-line character end a line like a line feed does; the line and paragraph separators end a
line too, but are kept when lines are joined.

A text is taken in block by block, as far as the reader needs to look ahead, and a block is checked
when it is taken in. So a character that may not stand in a text is a fault only if the reader comes
near it.
-/

namespace WidgetFlow.Yaml

/-! ### Faults -/

/-- What is wrong with a text. -/
inductive Problem where
  | badCharacter
  | colonMissing
  | dashMisplaced
  | keyMisplaced
  | valueMisplaced
  | noToken
  | markerInQuotes
  | endInQuotes
  | unknownEscape
  | badEscapeDigits
  | badEscapeCode
  | tabInIndentation
  | tooDeep (limit : Nat)
  | contentMissing
  | dashMissing
  | keyMissing
  | bracketOpen
  | braceOpen
  deriving DecidableEq, Inhabited

/-- The wording of a problem. -/
def Problem.text : Problem → String
  | badCharacter => "control characters are not allowed"
  | colonMissing => "could not find expected ':'"
  | dashMisplaced => "block sequence entries are not allowed in this context"
  | keyMisplaced => "mapping keys are not allowed in this context"
  | valueMisplaced => "mapping values are not allowed in this context"
  | noToken => "found character that cannot start any token"
  | markerInQuotes => "found unexpected document indicator"
  | endInQuotes => "found unexpected end of stream"
  | unknownEscape => "found unknown escape character"
  | badEscapeDigits => "did not find expected hexdecimal number"
  | badEscapeCode => "found invalid Unicode character escape code"
  | tabInIndentation => "found a tab character that violates indentation"
  | tooDeep limit => "exceeded max depth of " ++ toString limit
  | contentMissing => "did not find expected node content"
  | dashMissing => "did not find expected '-' indicator"
  | keyMissing => "did not find expected key"
  | bracketOpen => "did not find expected ',' or ']'"
  | braceOpen => "did not find expected ',' or '\x7d'"

/-- The text is not well formed. -/
structure SyntaxFault where
  problem : Problem
  /-- The line that the message names. -/
  line? : Option Nat := none
  deriving DecidableEq, Inhabited

namespace SyntaxFault

/-- The first of some lines that is not the first of the text, which messages do not name. Lines are
counted from zero. -/
def laterLine? (lines : List Nat) : Option Nat := lines.find? (0 < ·)

/-- A fault in a token: the message names the line where the token or its context starts, or else the
line where the fault was noticed, counted from one. -/
def ofToken (problem : Problem) (start noticed : Nat) : SyntaxFault :=
  ⟨problem, (laterLine? [start, noticed]).map (· + 1)⟩

/-- A fault in the order of tokens: the message names the line where the collection starts, or else
that of the token, by how many lines come before it. -/
def ofOrder (problem : Problem) (start noticed : Nat) : SyntaxFault :=
  ⟨problem, laterLine? [start, noticed]⟩

/-- The wording of a fault. -/
def message (f : SyntaxFault) : String :=
  (f.line?.elim "" fun n => "line " ++ toString n ++ ": ") ++ f.problem.text

end SyntaxFault

/-! ### Characters -/

/-- A character that may stand in a text. -/
def isAllowed (c : Char) : Bool :=
  let n := c.toNat
  n = 0x09 || n = 0x0A || n = 0x0D || (0x20 ≤ n && n ≤ 0x7E) || n = 0x85
    || (0xA0 ≤ n && n ≤ 0xD7FF) || (0xE000 ≤ n && n ≤ 0xFFFD) || 0x10000 ≤ n

/-- A space or a tab. -/
def isBlank (c : Char) : Bool := c = ' ' || c = '\t'

/-- A character that ends a line. -/
def isBreak (c : Char) : Bool :=
  let n := c.toNat
  n = 0x0A || n = 0x0D || n = 0x85 || n = 0x2028 || n = 0x2029

/-- A blank, the end of a line or the end of the text. -/
def isGap : Option Char → Bool
  | none => true
  | some c => isBlank c || isBreak c

/-- The mark that may stand in front of a text. -/
def byteOrderMark : Char := Char.ofNat 0xFEFF

/-! ### Blocks -/

/-- A part of a text that is taken in at once. -/
structure Block where
  /-- How many characters it holds. -/
  length : Nat := 0
  /-- They are all allowed. -/
  sound : Bool := true
  deriving DecidableEq, Inhabited

/-- How many bytes a block may have. -/
def blockSize : Nat := 512

/-- Cuts a text into blocks, never within a character; `block` is the one being filled, with room for
so many bytes. -/
def blocksFrom (room : Nat) (block : Block) : List Char → List Block
  | [] => [block]
  | c :: rest =>
    if c.utf8Size ≤ room then
      blocksFrom (room - c.utf8Size) ⟨block.length + 1, block.sound && isAllowed c⟩ rest
    else block :: blocksFrom (blockSize - c.utf8Size) ⟨1, isAllowed c⟩ rest

/-! ### Cursors -/

/-- A place in a text. -/
structure Cursor where
  rest : List Char
  line : Nat := 0
  column : Nat := 0
  index : Nat := 0
  /-- The line ends since the last character that is no white space. -/
  breaks : Nat := 0
  /-- How many characters the whole text has. -/
  size : Nat := 0
  /-- How many characters have been taken in; the end of the text counts each time it is looked at. -/
  loaded : Nat := 0
  /-- The character at which the text was last taken in. -/
  front : Option Char := none
  /-- What has not been taken in. -/
  blocks : List Block := []
  deriving DecidableEq, Inhabited

namespace Cursor

/-- The start of a text. A byte order mark in front of it does not count. -/
def ofText (text : String) : Cursor :=
  match text.toList with
  | [] => { rest := [] }
  | c :: cs =>
    if c = byteOrderMark then
      { rest := cs, size := cs.length, blocks := blocksFrom (blockSize - c.utf8Size) {} cs }
    else { rest := c :: cs, size := cs.length + 1, blocks := blocksFrom blockSize {} (c :: cs) }

/-- The next character. -/
def next? (c : Cursor) : Option Char := c.rest.head?

/-- The character after `k` others. -/
def ahead? (c : Cursor) (k : Nat) : Option Char := c.rest[k]?

/-- Three equal characters and then a gap, at the start of a line. -/
def isMarker (c : Cursor) (m : Char) : Bool :=
  c.column = 0 && c.rest.take 3 = [m, m, m] && isGap (c.ahead? 3)

/-- The start or the end of a document is marked here. -/
def isDocumentMarker (c : Cursor) : Bool := c.isMarker '-' || c.isMarker '.'

end Cursor

/-! ### Steps of a reader -/

/-- A step that moves a cursor. -/
abbrev Scan := EStateM SyntaxFault Cursor

/-- Takes in blocks until `target` characters are there or the text has ended. -/
def takeIn (target : Nat) : Nat → List Block → Except SyntaxFault (Nat × List Block)
  | loaded, [] => .ok (if loaded < target then loaded + 1 else loaded, [])
  | loaded, block :: blocks =>
    if target ≤ loaded then .ok (loaded, block :: blocks)
    else if block.sound then takeIn target (loaded + block.length) blocks
    else .error ⟨.badCharacter, none⟩

/-- Makes sure that the next `k` characters have been taken in. -/
def need (k : Nat) : Scan Unit := do
  let c ← get
  if c.loaded < c.index + k then
    match takeIn (c.index + k) c.loaded c.blocks with
    | .ok (loaded, blocks) => set { c with front := c.next?, loaded := loaded, blocks := blocks }
    | .error fault => throw fault

/-- Refuses the text because of a token that starts at a line. -/
def refuse {α : Type} (problem : Problem) (start : Nat) : Scan α := do
  throw (.ofToken problem start (← get).line)

/-- Moves over one character of a line. -/
def skip : Scan Unit :=
  modify fun c =>
    { c with
      rest := c.rest.drop 1
      column := c.column + 1
      index := c.index + 1
      breaks := if c.next?.any isBlank then c.breaks else 0 }

/-- Moves over a line end, and tells what it is when lines are joined. -/
def skipBreak : Scan Char := do
  let c ← get
  let pass (rest : List Char) (k : Nat) : Cursor :=
    { c with
      rest := rest, line := c.line + 1, column := 0, index := c.index + k, breaks := c.breaks + 1 }
  match c.rest with
  | '\r' :: '\n' :: rest => set (pass rest 2); return '\n'
  | b :: rest =>
    set (pass rest 1)
    return if b.toNat = 0x2028 || b.toNat = 0x2029 then b else '\n'
  | [] => return '\n'

/-- Moves over characters of a line; after each one, the next `k` are needed. -/
def skipAll (k : Nat) (word : List Char) : Scan Unit :=
  word.forM fun _ => do skip; need k

/-! ### White space in scalars -/

/-- White space between two words of a scalar. -/
structure Gap where
  /-- The blanks, if the gap stays in its line. -/
  blanks : List Char := []
  /-- The first line end. -/
  first : Option Char := none
  /-- The line ends after the first. -/
  more : List Char := []
  deriving DecidableEq, Inhabited

/-- What a gap stands for when lines are joined: blanks within a line stay; one line feed becomes a
space and further ones stay. -/
def Gap.text (g : Gap) : List Char :=
  match g.first with
  | none => g.blanks
  | some '\n' => if g.more.isEmpty then [' '] else g.more
  | some b => b :: g.more

/-- Reads white space in a scalar that starts at a line. In a plain scalar a tab may not stand before
the column `indent` of a later line. -/
def scanGap (start : Nat) (indent : Int) : Nat → Gap → Scan Gap
  | 0, g => pure g
  | fuel + 1, g => do
    let c ← get
    match c.next? with
    | none => return g
    | some b =>
      if isBlank b then
        if g.first.isSome && b = '\t' && (c.column : Int) < indent then
          refuse .tabInIndentation start
        skip
        need 1
        scanGap start indent fuel (if g.first.isNone then { g with blanks := g.blanks ++ [b] } else g)
      else if isBreak b then
        need 2
        let e ← skipBreak
        need 1
        scanGap start indent fuel
          (if g.first.isNone then { g with blanks := [], first := some e }
           else { g with more := g.more ++ [e] })
      else return g

/-! ### Comments -/

/-- How far ahead a comment is looked for. -/
def commentReach : Nat := 512

/-- Looks for a comment from the `k`-th character ahead on, over blanks and, with `acrossLines`, line
ends: how far away it is, and how many characters had to be seen to tell. The search ends with a line
end of more than one byte. -/
def commentAhead (acrossLines : Bool) (k : Nat) : List Char → Option Nat × Nat
  | [] => (none, if k < commentReach then k + 1 else k)
  | c :: rest =>
    if commentReach ≤ k then (none, k)
    else if c = '#' then (some k, k + 1)
    else if isBlank c then commentAhead acrossLines (k + 1) rest
    else if acrossLines && isBreak c then
      if c.utf8Size = 1 then commentAhead acrossLines (k + 1) rest
      else (none, if k + 1 < commentReach then k + 2 else k + 1)
    else (none, k + 1)

/-- Looks for a comment. -/
def findComment (acrossLines : Bool) : Scan (Option Nat) := do
  let (distance?, seen) := commentAhead acrossLines 0 (← get).rest
  (List.range seen).forM fun i => need (i + 1)
  return distance?

/-- Moves over white space up to a place of the text. -/
def skipSpaceTo (index : Nat) : Nat → Scan Unit
  | 0 => pure ()
  | fuel + 1 => do
    need 1
    let c ← get
    if c.index < index then
      if c.next?.any isBreak then
        need 2
        let _ ← skipBreak
      else skip
      skipSpaceTo index fuel

/-- Moves over the `distance` characters before a comment, and over the comment to the end of its
line. -/
def skipComment (distance : Nat) : Scan Unit := do
  skipSpaceTo ((← get).index + distance) (distance + 1)
  skipAll 1 ((← get).rest.takeWhile (!isBreak ·))

/-- Moves over further comments, which may stand on later lines after any white space. -/
def skipComments : Nat → Scan Unit
  | 0 => pure ()
  | fuel + 1 => do
    need 2
    match ← findComment true with
    | some distance =>
      skipComment distance
      skipComments fuel
    | none => pure ()

/-- Moves over a comment that follows something on the same line. -/
def skipLineComment : Scan Unit := do
  if (← get).breaks = 0 then
    match ← findComment false with
    | some distance => skipComment distance
    | none => pure ()

end WidgetFlow.Yaml
