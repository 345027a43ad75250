/-!
# Written numbers

The digits of whole numbers in any base, and decimal fractions with an exponent, as they are
written.
-/

namespace WidgetFlow.Decimal

/-- The value of a digit, letters being digits above nine. -/
def digitValue (c : Char) : Nat :=
  if c.isDigit then c.toNat - 48
  else if 'a' ≤ c && c ≤ 'z' then c.toNat - 87
  else if 'A' ≤ c && c ≤ 'Z' then c.toNat - 55
  else 99

/-- The value of digits in a base. -/
def digits? (base : Nat) (ds : List Char) : Option Nat :=
  if ds.isEmpty || ds.any (fun d => base ≤ digitValue d) then none
  else some (ds.foldl (fun v d => base * v + digitValue d) 0)

/-- A decimal fraction: sign, digits before and after the point, and exponent. -/
structure Fraction where
  negative : Bool
  /-- All digits, without the point. -/
  digits : Nat
  /-- The power of ten that the digits are multiplied by. -/
  scale : Int
  deriving DecidableEq, Inhabited

/-- The exponent of a decimal fraction; none is zero. -/
def exponent? : List Char → Option Int
  | [] => some 0
  | e :: cs =>
    if e = 'e' || e = 'E' then
      match cs with
      | '-' :: ds => (digits? 10 ds).map fun n => -(n : Int)
      | '+' :: ds => (digits? 10 ds).map fun n => (n : Int)
      | ds => (digits? 10 ds).map fun n => (n : Int)
    else none

/-- Reads a decimal fraction; digits are needed before or after the point. -/
def fraction? (cs : List Char) : Option Fraction :=
  let (negative, cs) := match cs with
    | '-' :: rest => (true, rest)
    | '+' :: rest => (false, rest)
    | _ => (false, cs)
  let whole := cs.takeWhile Char.isDigit
  let rest := cs.dropWhile Char.isDigit
  let (part, rest) := match rest with
    | '.' :: rest => (rest.takeWhile Char.isDigit, rest.dropWhile Char.isDigit)
    | _ => ([], rest)
  match digits? 10 (whole ++ part), exponent? rest with
  | some n, some e => some ⟨negative, n, e - part.length⟩
  | _, _ => none

/-- The floating point number nearest to a fraction. Scales far outside the range of floating point
numbers are brought near to it first, where the result is already zero or infinite. -/
def Fraction.toFloat (f : Fraction) : Float :=
  let bound := 400 + f.digits.log2
  let x := Float.ofScientific f.digits (f.scale < 0) (min f.scale.natAbs bound)
  if f.negative then -x else x

end WidgetFlow.Decimal
