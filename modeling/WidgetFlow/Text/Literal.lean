import WidgetFlow.Decimal.Fraction
import WidgetFlow.Decimal.Word
import WidgetFlow.Text.Quoted

/-!
# Numbers and truth values as words

How a word that a user gives is read as a whole number or a truth value. A number may have a sign, a
base mark after a leading zero, and underscores between its digits; it has to fit a signed machine
word. A truth value has six spellings of each kind.
-/

namespace WidgetFlow.Text

/-- Why a word is not the value that was asked for. -/
inductive LiteralFault where
  | malformed
  | outOfRange
  deriving DecidableEq, Inhabited

/-- The wording of a fault. -/
def LiteralFault.text : LiteralFault → String
  | malformed => "invalid syntax"
  | outOfRange => "value out of range"

/-- The base of a number without sign, and its digits. A letter after a leading zero gives the base
if digits follow, and a leading zero alone makes the number octal. -/
def radix : List Char → Nat × List Char
  | '0' :: mark :: d :: ds =>
    if mark = 'x' || mark = 'X' then (16, d :: ds)
    else if mark = 'o' || mark = 'O' then (8, d :: ds)
    else if mark = 'b' || mark = 'B' then (2, d :: ds)
    else (8, mark :: d :: ds)
  | '0' :: ds => (8, ds)
  | ds => (10, ds)

/-- The value of digits, added to what came before them. A number that is too large is noticed
before a wrong digit that comes later. -/
def accumulate (base : Nat) : Nat → List Char → Except LiteralFault Nat
  | n, [] => .ok n
  | n, '_' :: ds => accumulate base n ds
  | n, d :: ds =>
    let v := Decimal.digitValue d
    if base ≤ v then .error .malformed
    else if Decimal.greatestUnsigned < base * n + v then .error .outOfRange
    else accumulate base (base * n + v) ds

/-- Every underscore stands between two digits; `after` tells that a digit came before. -/
def underscoresFit (isDigit : Char → Bool) : Bool → List Char → Bool
  | _, [] => true
  | after, '_' :: ds => after && ds.head?.any isDigit && underscoresFit isDigit false ds
  | _, d :: ds => underscoresFit isDigit (isDigit d) ds

/-- A number without sign. -/
def magnitude (cs : List Char) : Except LiteralFault Nat :=
  if cs.isEmpty then .error .malformed
  else
    let (base, ds) := radix cs
    match accumulate base 0 ds with
    | .ok n =>
      if underscoresFit (Decimal.digitValue · < base) (base ≠ 10) ds then .ok n
      else .error .malformed
    | .error e => .error e

/-- A number with an optional sign that fits a signed machine word. -/
def integer (s : String) : Except LiteralFault Int :=
  let (negative, cs) := match s.toList with
    | '-' :: cs => (true, cs)
    | '+' :: cs => (false, cs)
    | cs => (false, cs)
  match magnitude cs with
  | .error e => .error e
  | .ok n =>
    let v : Int := if negative then -(n : Int) else n
    if Decimal.fitsWord v then .ok v else .error .outOfRange

/-- A truth value. -/
def truth (s : String) : Except LiteralFault Bool :=
  if ["1", "t", "T", "true", "TRUE", "True"].contains s then .ok true
  else if ["0", "f", "F", "false", "FALSE", "False"].contains s then .ok false
  else .error .malformed

end WidgetFlow.Text
