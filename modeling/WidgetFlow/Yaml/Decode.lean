import WidgetFlow.Decimal.Binary
import WidgetFlow.Decimal.Fraction
import WidgetFlow.Decimal.Word
import WidgetFlow.Text.Cut
import WidgetFlow.Text.Literal
import WidgetFlow.Time.Stamp
import WidgetFlow.Yaml.Tree

/-!
# Reading values from YAML documents

How the nodes of a document are taken as texts, numbers, truth values, lists and records. Null may
stand for anything and leaves it as it is by default. A text may be any scalar, as it is written; a
number may be written in several bases or as a decimal fraction, which is truncated.

Reading goes on after a node that does not fit, so that all misfits of a document are found, in the
order in which they stand there.
-/

namespace WidgetFlow.Yaml

open Decimal (digits? fitsWord fraction? greatestUnsigned greatestWord leastWord)

/-! ### Numbers -/

/-- A number as it is written. -/
inductive Number where
  | int (n : Int)
  | float (x : Float)
  deriving Inhabited

namespace Number

/-- A number without sign; the letter after a leading zero gives the base, and a zero alone makes it
octal. -/
def magnitude? : List Char → Option Nat
  | '0' :: 'x' :: ds | '0' :: 'X' :: ds => digits? 16 ds
  | '0' :: 'o' :: ds | '0' :: 'O' :: ds => digits? 8 ds
  | '0' :: 'b' :: ds | '0' :: 'B' :: ds => digits? 2 ds
  | '0' :: d :: ds => digits? 8 (d :: ds)
  | ds => digits? 10 ds

/-- An integer with an optional sign. -/
def integer? (cs : List Char) : Option Int :=
  match cs with
  | '-' :: ds => (magnitude? ds).map fun n => -(n : Int)
  | '+' :: ds => (magnitude? ds).map fun n => (n : Int)
  | ds => (magnitude? ds).map fun n => (n : Int)

/-- A decimal fraction that is not too large to be a floating point number. -/
def ofFraction? (cs : List Char) : Option Number :=
  (fraction? cs).bind fun f =>
    if (Decimal.Binary.ofFloat f.toFloat).isSpecial then none else some (float f.toFloat)

/-- A number that has its sign after the mark of its base. -/
def ofMarked? (cs : List Char) : Option Number :=
  let inBase (base : Nat) (ds : List Char) : Option Number :=
    let n? : Option Int := match ds with
      | '-' :: ds => (digits? base ds).map fun n => -(n : Int)
      | '+' :: ds => (digits? base ds).map fun n => (n : Int)
      | _ => none
    (n?.filter fitsWord).map int
  match cs with
  | '0' :: 'b' :: ds => inBase 2 ds
  | '0' :: 'o' :: ds => inBase 8 ds
  | _ => none

/-- An integer that fits a word, or one without sign that fits a word without sign; or else a decimal
fraction. -/
def ofDigits? (cs : List Char) : Option Number :=
  let other : Option Number := if (fraction? cs).isSome then ofFraction? cs else ofMarked? cs
  match integer? cs with
  | none => other
  | some n =>
    if fitsWord n || (cs.head?.any Char.isDigit && n ≤ greatestUnsigned) then some (int n) else other

/-- The words for infinite numbers and for what is not a number. -/
def ofWord? (text : String) : Option Number :=
  if [".inf", ".Inf", ".INF", "+.inf", "+.Inf", "+.INF"].contains text then some (float (1 / 0))
  else if ["-.inf", "-.Inf", "-.INF"].contains text then some (float (-1 / 0))
  else if [".nan", ".NaN", ".NAN"].contains text then some (float (0 / 0))
  else none

/-- A number written in a plain scalar. Underscores are left out; in a number that begins with its
point they have to stand between digits. -/
def ofText? (text : String) : Option Number :=
  let cs := text.toList
  let plain := cs.filter (· ≠ '_')
  match ofWord? text, cs with
  | some x, _ => some x
  | none, [] => none
  | none, c :: rest =>
    if c = '.' then if Text.underscoresFit Char.isDigit false rest then ofFraction? plain else none
    else if c.isDigit || c = '+' || c = '-' then ofDigits? plain
    else none

/-- The word of a number. A floating point number is truncated toward zero; below the least word, or
at the first number above the greatest, it is the least word; further above there is none. -/
def word? : Number → Option Int
  | int n => if fitsWord n then some n else none
  | float x =>
    let b := Decimal.Binary.ofFloat x
    if b.isSpecial then if x < 0 then some leastWord else none
    else if greatestWord + 1 < b.truncate then none
    else if fitsWord b.truncate then some b.truncate
    else some leastWord

end Number

/-! ### Kinds of nodes -/

/-- What a node is taken for where nothing else is asked for. -/
inductive NodeType where
  | null
  | truth
  | int
  | float
  | time
  | merge
  | text
  | seq
  | map
  deriving DecidableEq, Inhabited

/-- The tag of a type. -/
def NodeType.tag : NodeType → String
  | null => "!!null"
  | truth => "!!bool"
  | int => "!!int"
  | float => "!!float"
  | time => "!!timestamp"
  | merge => "!!merge"
  | text => "!!str"
  | seq => "!!seq"
  | map => "!!map"

/-- The spellings of null. -/
def nullWords : List String := ["", "~", "null", "Null", "NULL"]

/-- The type of a plain scalar. -/
def plainType (text : String) : NodeType :=
  if nullWords.contains text then .null
  else if ["true", "True", "TRUE", "false", "False", "FALSE"].contains text then .truth
  else if text = "<<" then .merge
  else if Stamp.isShortForm text then .time
  else match Number.ofText? text with
    | some (.int _) => .int
    | some (.float _) => .float
    | none => .text

/-- The type of a node. -/
def Tree.type : Tree → NodeType
  | .scalar _ text isQuoted => if isQuoted then .text else plainType text
  | .seq .. => .seq
  | .map .. => .map

/-! ### Misfits -/

/-- A node does not fit what is to be read from it. -/
inductive Misfit where
  /-- A node cannot be taken for a type. -/
  | unfit (line : Nat) (node type : String)
  | repeatedKey (line : Nat) (key : String) (before : Nat)
  | unknownField (line : Nat) (name type : String)
  deriving DecidableEq, Inhabited

/-- The wording of a misfit. -/
def Misfit.text : Misfit → String
  | unfit line node type =>
    "line " ++ toString line ++ ": cannot unmarshal " ++ node ++ " into " ++ type
  | repeatedKey line key before =>
    "line " ++ toString line ++ ": mapping key " ++ Text.quoted key ++ " already defined at line "
      ++ toString before
  | unknownField line name type =>
    "line " ++ toString line ++ ": field " ++ name ++ " not found in type " ++ type

/-- A scalar in a message: a long one is cut. -/
def excerpt (text : String) : String :=
  let shown :=
    if 10 < text.utf8ByteSize then String.ofList (Text.cutBytes 7 text.toList) ++ "..." else text
  "\x60" ++ shown ++ "\x60"

/-- What is read from a node, with the misfits so far, the latest first. -/
abbrev Reading := StateM (List Misfit)

/-- Reports a misfit. -/
def report (m : Misfit) : Reading Unit := modify (m :: ·)

namespace Tree

/-- A node in a message: its tag, and a scalar as it is written. -/
def describe (n : Tree) : String :=
  n.type.tag ++ match n with
    | scalar _ text _ => " " ++ excerpt text
    | _ => ""

/-- Reports that a node cannot be taken for a type, and goes on with something in its place. -/
def unfit {α : Type} (n : Tree) (type : String) (a : α) : Reading α := do
  report (.unfit n.line n.describe type)
  return a

/-- Null, in one of its spellings. -/
def isNull : Tree → Bool
  | scalar _ text false => nullWords.contains text
  | _ => false

/-! ### Scalars -/

/-- Any scalar as it is written. -/
def asText (type : String) (n : Tree) : Reading String :=
  if n.isNull then return ""
  else match n with
    | scalar _ text _ => return text
    | _ => n.unfit type ""

/-- A whole number. -/
def asInt (type : String) (n : Tree) : Reading Int :=
  if n.isNull then return 0
  else match n with
    | scalar _ text false =>
      match (Number.ofText? text).bind (·.word?) with
      | some v => return v
      | none => n.unfit type 0
    | _ => n.unfit type 0

/-- A whole number, or none for null. -/
def asIntOpt (type : String) (n : Tree) : Reading (Option Int) :=
  if n.isNull then return none else return some (← n.asInt type)

/-- A truth value. The words for yes and no count even if they are quoted. -/
def asBool (n : Tree) : Reading Bool :=
  if n.isNull then return false
  else match n with
    | scalar _ text quoted =>
      if ["y", "Y", "yes", "Yes", "YES", "on", "On", "ON"].contains text then return true
      else if ["n", "N", "no", "No", "NO", "off", "Off", "OFF"].contains text then return false
      else if !quoted && ["true", "True", "TRUE"].contains text then return true
      else if !quoted && ["false", "False", "FALSE"].contains text then return false
      else n.unfit "bool" false
    | _ => n.unfit "bool" false

/-! ### Lists and records -/

/-- A list; entries that are null are left out. -/
def asList {α : Type} (type : String) (read : Tree → Reading α) (n : Tree) : Reading (List α) :=
  if n.isNull then return []
  else match n with
    | seq _ items => (items.filter (!·.isNull)).mapM read
    | _ => n.unfit type []

/-- The text of a key; that of a collection is empty. -/
def keyText : Tree → String
  | scalar _ text _ => text
  | _ => ""

/-- Keys that are spelt the same are the same, quoted or not; collections are never told apart. -/
def sameKey : Tree → Tree → Bool
  | scalar _ a _, scalar _ b _ => a = b
  | seq .., seq .. => true
  | map .., map .. => true
  | _, _ => false

/-- The keys that are repeated, each with the places where they stand. -/
def repeatedKeys : List (Tree × Tree) → List Misfit
  | [] => []
  | (k, _) :: rest =>
    ((rest.filter fun p => sameKey k p.1).map fun p =>
      .repeatedKey p.1.line p.1.keyText k.line) ++ repeatedKeys rest

/-- Goes through the pairs of a mapping in their order. Pairs whose key is null are left out; a mapping
with repeated keys is not read. -/
def foldPairs {α : Type} (type : String) (start : α)
    (step : α → Nat → String → Tree → Reading α) (n : Tree) : Reading α :=
  if n.isNull then return start
  else match n with
    | map _ pairs => do
      let repeated := repeatedKeys pairs
      repeated.forM report
      if repeated.isEmpty then
        pairs.foldlM (fun a (key, value) =>
          if key.isNull then return a
          else match key with
            | scalar line name _ => step a line name value
            | _ => key.unfit "string" a) start
      else return start
    | _ => n.unfit type start

/-- A record: `set?` tells what the field with a name does to it. Other fields are passed over, and are
misfits if the record is `strict`. -/
def asRecord {α : Type} (type : String) (strict : Bool) (start : α)
    (set? : String → Option (α → Tree → Reading α)) (n : Tree) : Reading α :=
  n.foldPairs type start fun a line name value =>
    match set? name with
    | some set => set a value
    | none => do
      if strict then report (.unknownField line name type)
      return a

/-- Numbers by name. A name without a number has zero. -/
def asNumbers (type : String) (n : Tree) : Reading (List (String × Int)) := do
  let pairs ← n.foldPairs type [] fun pairs _ name value => return (name, ← value.asInt "int") :: pairs
  return pairs.reverse

end Tree

end WidgetFlow.Yaml
