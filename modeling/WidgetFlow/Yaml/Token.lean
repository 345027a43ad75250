import WidgetFlow.Yaml.Scalar

/-!
# Tokens of YAML text

Block structure is given by indentation, so the tokens include the starts and ends of block
collections. A scalar or a bracket may turn out to be a key when a colon follows it on the same line;
the key token is then put in front of it.

Tokens are read as they are asked for and wait in a queue. The first one of the queue is handed out
when it is settled: at least two more stand behind it, and it does not wait for a colon.
-/

namespace WidgetFlow.Yaml

/-- A piece of structure or a scalar. -/
inductive Token where
  | documentStart
  | documentEnd
  | blockSeqStart
  | blockMapStart
  | blockEnd
  | blockEntry
  | flowSeqStart
  | flowSeqEnd
  | flowMapStart
  | flowMapEnd
  | flowEntry
  | key
  | value
  | scalar (text : String) (isQuoted : Bool)
  | streamEnd
  deriving DecidableEq, Inhabited

/-- A token and the line where it starts, counted from zero. -/
structure Lexeme where
  token : Token
  line : Nat
  deriving DecidableEq, Inhabited

/-- A token that becomes a key if a colon follows. -/
structure KeyCandidate where
  /-- How many tokens come before it in the text. -/
  number : Nat
  line : Nat
  column : Nat
  index : Nat
  /-- It can be nothing else, because it stands where a key of the current block mapping does. -/
  required : Bool
  /-- It is not handed out while a colon may follow. -/
  awaited : Bool := true
  deriving DecidableEq, Inhabited

/-- The inside of a bracket, or what is outside all of them. -/
structure Level where
  /-- The number of its last candidate, or of the bracket if there was none. -/
  mark : Nat := 0
  /-- The line of that token. -/
  line : Nat := 0
  candidate : Option KeyCandidate := none
  deriving DecidableEq, Inhabited

/-- A candidate no longer awaits its colon, if it has the number. -/
def Level.release (v : Level) (number : Nat) : Level :=
  { v with candidate := v.candidate.map fun k =>
      if k.number = number then { k with awaited := false } else k }

/-- How many collections of one kind may be open at a time. -/
def greatestDepth : Nat := 10000

/-- A reader of tokens in the middle of a text. -/
structure Lexer where
  cursor : Cursor
  /-- The tokens that have been read and not handed out. -/
  queue : List Lexeme := []
  /-- How many tokens have been handed out. -/
  taken : Nat := 0
  /-- The column of the current block collection. -/
  indent : Int := -1
  /-- The columns of the block collections around it. -/
  outer : List Int := []
  /-- How many block collections are open. -/
  blocks : Nat := 0
  /-- The current depth of brackets. -/
  level : Level := {}
  /-- What is outside each open bracket. -/
  outerLevels : List Level := []
  /-- How many brackets are open. -/
  brackets : Nat := 0
  /-- A key may start here. -/
  keyAllowed : Bool := true
  deriving Inhabited

/-- A step of a reader of tokens. -/
abbrev Lexing := EStateM SyntaxFault Lexer

namespace Lexer

/-- Inside brackets. -/
def inFlow (l : Lexer) : Bool := 0 < l.brackets

/-- The number of the token that is read next. -/
def nextNumber (l : Lexer) : Nat := l.taken + l.queue.length

/-- Appends a token that starts at a line. -/
def append (l : Lexer) (x : Lexeme) : Lexer := { l with queue := l.queue ++ [x] }

/-- Appends a token that starts at the line of the cursor. -/
def emit (l : Lexer) (t : Token) : Lexer := l.append ⟨t, l.cursor.line⟩

/-- Puts a token in front of the one with a number; at the end if that one has been handed out. -/
def insertBefore (l : Lexer) (number : Nat) (x : Lexeme) : Lexer :=
  if l.taken ≤ number then
    { l with
      queue := l.queue.take (number - l.taken) ++ x :: l.queue.drop (number - l.taken) }
  else l.append x

/-- Closes the block collections that start right of a column. -/
def closeBlocks (column : Int) : List Int → Lexer → Lexer
  | [], l => l
  | i :: outer, l =>
    if !l.inFlow && column < l.indent then
      closeBlocks column outer
        { l.emit .blockEnd with indent := i, outer := outer, blocks := l.blocks - 1 }
    else l

/-- Closes the block collections that start right of a column. -/
def closeTo (l : Lexer) (column : Int) : Lexer := closeBlocks column l.outer l

/-- The candidate among the levels, the innermost first, that has a number and is awaited. Levels
further out have lower marks. -/
def awaitedAt? (number : Nat) : List Level → Option KeyCandidate
  | [] => none
  | v :: outer =>
    if v.mark < number then none
    else match v.candidate with
      | some k => if k.number = number && k.awaited then some k else awaitedAt? number outer
      | none => awaitedAt? number outer

end Lexer

open Lexer (awaitedAt?)

/-- A step on the text. -/
def onText {α : Type} (step : Scan α) : Lexing α := fun l =>
  match step l.cursor with
  | .ok a c => .ok a { l with cursor := c }
  | .error fault c => .error fault { l with cursor := c }

/-- Refuses the text because of what starts at a line. -/
def refuseAt {α : Type} (problem : Problem) (start : Nat) : Lexing α := do
  throw (.ofToken problem start (← get).cursor.line)

/-- Refuses the text because of what stands here. -/
def refuseHere {α : Type} (problem : Problem) : Lexing α := do
  refuseAt problem (← get).cursor.line

/-! ### Block collections -/

/-- Opens a block collection at a column that is further right than the current one; its start token
goes in front of the token with a number. -/
def openBlock (column number : Nat) (x : Lexeme) : Lexing Unit := do
  let l ← get
  if !l.inFlow && l.indent < (column : Int) then
    if greatestDepth ≤ l.blocks then refuseAt (.tooDeep greatestDepth) l.level.line
    set { l.insertBefore number x with
      outer := l.indent :: l.outer, indent := column, blocks := l.blocks + 1 }

/-- Opens a block collection at the cursor. -/
def openBlockHere (t : Token) : Lexing Unit := do
  let l ← get
  openBlock l.cursor.column l.nextNumber ⟨t, l.cursor.line⟩

/-! ### Candidates for keys -/

/-- Gives up the candidate, which must not have been required. -/
def dropCandidate : Lexing Unit := do
  let l ← get
  match l.level.candidate with
  | some k => if k.required then refuseAt .colonMissing k.line
  | none => pure ()
  set { l with level := { l.level with candidate := none } }

/-- Makes what starts here the candidate, if a key may start here. -/
def saveCandidate : Lexing Unit := do
  if (← get).keyAllowed then
    dropCandidate
    modify fun l =>
      let c := l.cursor
      let required := !l.inFlow && l.indent = (c.column : Int)
      { l with
        level := ⟨l.nextNumber, c.line,
          some ⟨l.nextNumber, c.line, c.column, c.index, required, true⟩⟩ }

/-- A candidate can still be a key: it is on this line and not too far back. One that is required may
not be lost. -/
def isLive (k : KeyCandidate) : Lexing Bool := do
  let c := (← get).cursor
  if k.line < c.line || k.index + 1024 < c.index then
    if k.required then refuseAt .colonMissing k.line
    return false
  else return true

/-! ### Between tokens -/

/-- Moves over white space and comments before a token. Tabs do not count as indentation. Where the
text was last taken in at a byte order mark, the first character of a line does not count. -/
def skipSpace : Nat → Lexing Unit
  | 0 => pure ()
  | fuel + 1 => do
    onText (need 1)
    let l ← get
    if l.cursor.column = 0 && l.cursor.front = some byteOrderMark then
      onText do skip; need 1
    skipBlanks fuel
    if (← get).cursor.next? = some '#' then
      onText do
        skipComment 0
        skipComments fuel
    if (← get).cursor.next?.any isBreak then
      onText do
        need 2
        let _ ← skipBreak
      modify fun l => { l with keyAllowed := l.keyAllowed || !l.inFlow }
      skipSpace fuel
where
  /-- Moves over blanks. -/
  skipBlanks : Nat → Lexing Unit
    | 0 => pure ()
    | fuel + 1 => do
      let l ← get
      let isSkipped (c : Char) : Bool := c = ' ' || (c = '\t' && (l.inFlow || !l.keyAllowed))
      if l.cursor.next?.any isSkipped then
        onText do skip; need 1
        skipBlanks fuel

/-! ### Tokens -/

/-- Moves over `k` characters, which are a token. -/
def readMark (k : Nat) (t : Token) : Lexing Unit := do
  onText ((List.range k).forM fun _ => skip)
  modify (·.emit t)

/-- The end of the text, which ends its line. -/
def readEnd : Lexing Unit := do
  modify fun l =>
    let c := l.cursor
    let c := if c.column = 0 then c else { c with column := 0, line := c.line + 1 }
    { l with cursor := c }.closeTo (-1)
  dropCandidate
  modify fun l => { l.emit .streamEnd with keyAllowed := false }

/-- The start or the end of a document. -/
def readMarker (t : Token) : Lexing Unit := do
  modify (·.closeTo (-1))
  dropCandidate
  modify fun l => { l with keyAllowed := false }
  readMark 3 t

/-- An opening bracket, which may start a key. -/
def readOpening (t : Token) : Lexing Unit := do
  saveCandidate
  let l ← get
  if greatestDepth ≤ l.brackets then refuseHere (.tooDeep greatestDepth)
  set { l with
    level := { mark := l.nextNumber, line := l.cursor.line }
    outerLevels := l.level :: l.outerLevels
    brackets := l.brackets + 1
    keyAllowed := true }
  readMark 1 t

/-- A closing bracket. A bracket in which no key could stand is not awaited as a key. -/
def readClosing (t : Token) : Lexing Unit := do
  dropCandidate
  modify fun l =>
    match l.outerLevels with
    | [] => { l with keyAllowed := false }
    | v :: outer =>
      { l with
        level := v.release l.level.mark
        outerLevels := outer
        brackets := l.brackets - 1
        keyAllowed := false }
  readMark 1 t

/-- A comma inside brackets. -/
def readComma : Lexing Unit := do
  dropCandidate
  modify fun l => { l with keyAllowed := true }
  readMark 1 .flowEntry

/-- The dash of a block sequence. -/
def readDash : Lexing Unit := do
  let l ← get
  if !l.inFlow && !l.keyAllowed then refuseHere .dashMisplaced
  openBlockHere .blockSeqStart
  dropCandidate
  modify fun l => { l with keyAllowed := true }
  readMark 1 .blockEntry

/-- An explicit key. -/
def readKey : Lexing Unit := do
  let l ← get
  if !l.inFlow && !l.keyAllowed then refuseHere .keyMisplaced
  openBlockHere .blockMapStart
  dropCandidate
  modify fun l => { l with keyAllowed := !l.inFlow }
  readMark 1 .key

/-- The candidate at this depth of brackets, if it can still be a key. -/
def liveCandidate : Lexing (Option KeyCandidate) := do
  match (← get).level.candidate with
  | none => return none
  | some k => return if ← isLive k then some k else none

/-- A colon: it makes the candidate a key, or else stands for a value without a key. -/
def readColon : Lexing Unit := do
  match ← liveCandidate with
  | some k =>
    modify (·.insertBefore k.number ⟨.key, k.line⟩)
    openBlock k.column k.number ⟨.blockMapStart, k.line⟩
    modify fun l => { l with keyAllowed := false }
  | none =>
    let l ← get
    if !l.inFlow && !l.keyAllowed then refuseHere .valueMisplaced
    openBlockHere .blockMapStart
    modify fun l => { l with keyAllowed := !l.inFlow }
  modify fun l => { l with level := { l.level with candidate := none } }
  readMark 1 .value

/-- A quoted scalar, which may start a key. -/
def readQuoted (single : Bool) : Lexing Unit := do
  saveCandidate
  let line := (← get).cursor.line
  let text ← onText (scanQuoted single)
  modify fun l => { l.append ⟨.scalar text true, line⟩ with keyAllowed := false }

/-- A plain scalar, which may start a key. -/
def readPlain : Lexing Unit := do
  saveCandidate
  let l ← get
  let line := l.cursor.line
  let (text, atLineStart) ← onText (scanPlain l.inFlow (l.indent + 1))
  modify fun l => { l.append ⟨.scalar text false, line⟩ with keyAllowed := atLineStart }

/-- Characters that cannot start a plain scalar. -/
def isIndicator (c : Char) : Bool :=
  "-?:,[]\x7b\x7d#&*!|>'\"%@\x60".toList.contains c

/-- A plain scalar may start with this character. -/
def startsPlain (flow : Bool) (c : Char) (after : Option Char) : Bool :=
  !isIndicator c || (c = '-' && !after.any isBlank)
    || (!flow && (c = '?' || c = ':') && !isGap after)

/-- Reads a token that starts with a character, after which a comment may stand on the same line. -/
def readToken (c : Char) : Lexing Unit := do
  let l ← get
  let after := l.cursor.ahead? 1
  if c = '[' then readOpening .flowSeqStart
  else if c = '\x7b' then readOpening .flowMapStart
  else if c = ']' then readClosing .flowSeqEnd
  else if c = '\x7d' then readClosing .flowMapEnd
  else if c = ',' then readComma
  else if c = '-' && isGap after then readDash
  else if c = '?' && (l.inFlow || isGap after) then readKey
  else if c = ':' && (l.inFlow || isGap after) then readColon
  else if c = '\'' then readQuoted true
  else if c = '"' then readQuoted false
  else if isBlank c || isBreak c then refuseHere .noToken
  else if startsPlain l.inFlow c after then readPlain
  else refuseHere .noToken
  if ((← get).queue.getLast?.map (·.token)) ≠ some .blockEntry then onText skipLineComment

/-- Reads one token. -/
def fetch : Lexing Unit := do
  skipSpace ((← get).cursor.size + 1)
  modify fun l => l.closeTo l.cursor.column
  onText (need 4)
  let c := (← get).cursor
  match c.next? with
  | none => readEnd
  | some a =>
    if c.isMarker '-' then readMarker .documentStart
    else if c.isMarker '.' then readMarker .documentEnd
    else readToken a

/-! ### The queue -/

/-- The first token of the queue waits for a colon. -/
def isHeadAwaited : Lexing Bool := do
  let l ← get
  match awaitedAt? l.taken (l.level :: l.outerLevels) with
  | none => return false
  | some k => isLive k

/-- Reads tokens until the first one of the queue is settled. -/
def settle : Nat → Lexing Unit
  | 0 => pure ()
  | fuel + 1 => do
    if (← get).queue.length ≤ 2 then
      fetch
      settle fuel
    else if ← isHeadAwaited then
      fetch
      settle fuel

/-- The next token with its line. -/
def peekAt : Lexing Lexeme := do
  settle ((← get).cursor.size + 4)
  return (← get).queue.headD ⟨.streamEnd, 0⟩

/-- The next token. -/
def peek : Lexing Token := return (← peekAt).token

/-- Hands out the next token. -/
def take : Lexing Unit :=
  modify fun l => { l with queue := l.queue.drop 1, taken := l.taken + 1 }

end WidgetFlow.Yaml
