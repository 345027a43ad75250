import WidgetFlow.Yaml.Token

/-!
# YAML documents

The tree of a document: scalars, sequences and mappings. What a text leaves out (the value of a key,
the entry after a dash) is an empty plain scalar. Only the first document of a text is read.
-/

namespace WidgetFlow.Yaml

/-- A part of a document, with the line where it starts, counted from one. -/
inductive Tree where
  | scalar (line : Nat) (text : String) (isQuoted : Bool)
  | seq (line : Nat) (items : List Tree)
  | map (line : Nat) (pairs : List (Tree × Tree))
  deriving Inhabited

/-- The line where a part starts. -/
def Tree.line : Tree → Nat
  | scalar line .. | seq line _ | map line _ => line

/-- What is left out at a line, counted from zero. -/
def Tree.leftOut (line : Nat) : Tree := .scalar (line + 1) "" false

/-- Refuses the next token in a collection that starts at a line. -/
def refuseNext {α : Type} (problem : Problem) (start : Nat) : Lexing α := do
  throw (.ofOrder problem start (← peekAt).line)

/-- A comma between two entries in brackets, before all entries but the first; or else the closing
bracket. -/
def skipComma (first : Bool) (closing : Token) (problem : Problem) (start : Nat) : Lexing Unit := do
  unless first do
    match ← peek with
    | .flowEntry => take
    | t => if t ≠ closing then refuseNext problem start

mutual

/-- Reads a tree. Block collections are allowed only outside brackets; a sequence that is not
indented only as the value of a block mapping. -/
def readTree (block indentless : Bool) : Nat → Lexing Tree
  | 0 => refuseNext .contentMissing 0
  | fuel + 1 => do
    let ⟨token, line⟩ ← peekAt
    match token with
    | .blockEntry =>
      if indentless then return .seq (line + 1) (← readIndentless fuel)
      else refuseNext .contentMissing line
    | .scalar text isQuoted =>
      take
      return .scalar (line + 1) text isQuoted
    | .flowSeqStart =>
      take
      return .seq (line + 1) (← readFlowSeq line true fuel)
    | .flowMapStart =>
      take
      return .map (line + 1) (← readFlowMap line true fuel)
    | .blockSeqStart =>
      if block then
        take
        return .seq (line + 1) (← readBlockSeq line fuel)
      else refuseNext .contentMissing line
    | .blockMapStart =>
      if block then
        take
        return .map (line + 1) (← readBlockMap line fuel)
      else refuseNext .contentMissing line
    | _ => refuseNext .contentMissing line
termination_by structural fuel => fuel

/-- Reads a tree that is left out, at a line, if one of some tokens comes next. -/
def readOptional (block indentless : Bool) (ends : List Token) (line : Nat) : Nat → Lexing Tree
  | 0 => refuseNext .contentMissing 0
  | fuel + 1 => do
    if ends.contains (← peek) then return .leftOut line else readTree block indentless fuel
termination_by structural fuel => fuel

/-- Reads the value of a pair, if there is one; it is left out if one of some tokens comes next. -/
def readValue (block : Bool) (ends : List Token) : Nat → Lexing Tree
  | 0 => refuseNext .contentMissing 0
  | fuel + 1 => do
    let ⟨token, line⟩ ← peekAt
    if token = .value then
      take
      readOptional block block ends line fuel
    else return .leftOut line
termination_by structural fuel => fuel

/-- Reads the entries of a block sequence that starts at a line, up to its end. -/
def readBlockSeq (start : Nat) : Nat → Lexing (List Tree)
  | 0 => refuseNext .dashMissing start
  | fuel + 1 => do
    let ⟨token, line⟩ ← peekAt
    match token with
    | .blockEnd =>
      take
      return []
    | .blockEntry =>
      take
      let item ← readOptional true false [.blockEntry, .blockEnd] line fuel
      return item :: (← readBlockSeq start fuel)
    | _ => refuseNext .dashMissing start
termination_by structural fuel => fuel

/-- Reads the entries of a sequence that is not indented; it ends where no dash follows. -/
def readIndentless : Nat → Lexing (List Tree)
  | 0 => refuseNext .contentMissing 0
  | fuel + 1 => do
    let ⟨token, line⟩ ← peekAt
    match token with
    | .blockEntry =>
      take
      let item ← readOptional true false [.blockEntry, .key, .value, .blockEnd] line fuel
      return item :: (← readIndentless fuel)
    | _ => return []
termination_by structural fuel => fuel

/-- Reads the pairs of a block mapping that starts at a line, up to its end. -/
def readBlockMap (start : Nat) : Nat → Lexing (List (Tree × Tree))
  | 0 => refuseNext .keyMissing start
  | fuel + 1 => do
    let ⟨token, line⟩ ← peekAt
    match token with
    | .blockEnd =>
      take
      return []
    | .key =>
      take
      let key ← readOptional true true [.key, .value, .blockEnd] line fuel
      let value ← readValue true [.key, .value, .blockEnd] fuel
      return (key, value) :: (← readBlockMap start fuel)
    | _ => refuseNext .keyMissing start
termination_by structural fuel => fuel

/-- Reads the entries of a bracketed sequence that starts at a line; `first` before the first entry. A
single pair may be an entry. -/
def readFlowSeq (start : Nat) (first : Bool) : Nat → Lexing (List Tree)
  | 0 => refuseNext .bracketOpen start
  | fuel + 1 => do
    skipComma first .flowSeqEnd .bracketOpen start
    let ⟨token, line⟩ ← peekAt
    match token with
    | .flowSeqEnd =>
      take
      return []
    | .key =>
      take
      let key ← readPairKey fuel
      let value ← readValue false [.flowEntry, .flowSeqEnd] fuel
      return .map (line + 1) [(key, value)] :: (← readFlowSeq start false fuel)
    | _ =>
      let item ← readTree false false fuel
      return item :: (← readFlowSeq start false fuel)
termination_by structural fuel => fuel

/-- Reads the key of a single pair in a bracketed sequence. Where it is left out, what follows is
passed over. -/
def readPairKey : Nat → Lexing Tree
  | 0 => refuseNext .contentMissing 0
  | fuel + 1 => do
    let ⟨token, line⟩ ← peekAt
    match token with
    | .value | .flowEntry | .flowSeqEnd =>
      take
      return .leftOut line
    | _ => readTree false false fuel
termination_by structural fuel => fuel

/-- Reads the pairs of a bracketed mapping that starts at a line; `first` before the first pair. -/
def readFlowMap (start : Nat) (first : Bool) : Nat → Lexing (List (Tree × Tree))
  | 0 => refuseNext .braceOpen start
  | fuel + 1 => do
    skipComma first .flowMapEnd .braceOpen start
    match ← peek with
    | .flowMapEnd =>
      take
      return []
    | .key =>
      take
      let line := (← peekAt).line
      let key ← readOptional false false [.value, .flowEntry, .flowMapEnd] line fuel
      let value ← readValue false [.flowEntry, .flowMapEnd] fuel
      return (key, value) :: (← readFlowMap start false fuel)
    | _ =>
      let key ← readTree false false fuel
      return (key, .leftOut (← peekAt).line) :: (← readFlowMap start false fuel)
termination_by structural fuel => fuel

end

/-- Reads the first document, if there is one. -/
def readFirst (fuel : Nat) : Lexing (Option Tree) := do
  match ← peek with
  | .streamEnd => return none
  | .documentStart =>
    take
    let line := (← peekAt).line
    return some (← readOptional true false [.documentStart, .documentEnd, .streamEnd] line fuel)
  | _ => return some (← readTree true false fuel)

/-- Reads the first document and looks at what follows it, to tell that it has ended. -/
def readDocument (fuel : Nat) : Lexing (Option Tree) := do
  let tree? ← readFirst fuel
  if tree?.isSome then
    let _ ← peek
  return tree?

/-- The first document of a text, if there is one. Each character makes a few tokens at most. -/
def parse (text : String) : Except SyntaxFault (Option Tree) :=
  let c := Cursor.ofText text
  match readDocument (16 * c.size + 32) { cursor := c } with
  | .ok tree? _ => .ok tree?
  | .error fault _ => .error fault

end WidgetFlow.Yaml
