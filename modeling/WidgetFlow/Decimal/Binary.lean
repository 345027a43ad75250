/-!
# Binary floating point numbers

The fields of a double, and the number `m * 2 ^ q` that they stand for.
-/

namespace WidgetFlow.Decimal

/-- The sign, exponent and fraction fields of a double. -/
structure Binary where
  negative : Bool
  expo : Nat
  frac : Nat
  deriving DecidableEq, Inhabited

namespace Binary

/-- The fields of a floating point number. -/
def ofFloat (x : Float) : Binary :=
  let bits := x.toBits.toNat
  ⟨bits / Nat.pow 2 63 % 2 = 1, bits / Nat.pow 2 52 % Nat.pow 2 11, bits % Nat.pow 2 52⟩

/-- Infinity, or not a number. -/
def isSpecial (b : Binary) : Bool := b.expo = 2047

/-- The whole number `m` of `m * 2 ^ q`. -/
def mantissa (b : Binary) : Nat := if b.expo = 0 then b.frac else b.frac + Nat.pow 2 52

/-- The exponent `q` of `m * 2 ^ q`. -/
def scale (b : Binary) : Int := (if b.expo = 0 then 1 else (b.expo : Int)) - 1075

/-- The number without its fraction. -/
def truncate (b : Binary) : Int :=
  let n : Nat :=
    if 0 ≤ b.scale then b.mantissa * Nat.pow 2 b.scale.toNat
    else b.mantissa / Nat.pow 2 (-b.scale).toNat
  if b.negative then -(n : Int) else n

end Binary

end WidgetFlow.Decimal
