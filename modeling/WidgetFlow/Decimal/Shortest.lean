import WidgetFlow.Decimal.Binary

/-!
# Shortest decimals

The decimal with the fewest digits that reads back as a given binary floating point number, and of
those the nearest one. A finite number is `m * 2 ^ q`; the reals that round to it form an interval,
closed when `m` is even. For one, two, ... seventeen digits the two neighbours of the number on the
decimal grid are tested against the interval in exact arithmetic.
-/

namespace WidgetFlow.Decimal

/-- The decimal `digits * 10 ^ exponent`. -/
structure Scaled where
  digits : Nat
  exponent : Int
  deriving DecidableEq, Inhabited

/-- A positive binary number with the reals that round to it, in units of `2 ^ (q - 2)`: the value,
the least and the greatest of the interval, and whether the ends belong to it. -/
structure Rounding where
  value : Nat
  low : Nat
  high : Nat
  closed : Bool
  unit : Int
  deriving DecidableEq, Inhabited

/-- The rounding interval of a positive number. Below a power of two the numbers are twice as dense,
so that the interval is narrower on that side. -/
def Rounding.ofBinary (b : Binary) : Rounding :=
  let m := b.mantissa
  { value := 4 * m
    low := if b.frac = 0 ∧ 1 < b.expo then 4 * m - 1 else 4 * m - 2
    high := 4 * m + 2
    closed := m % 2 = 0
    unit := b.scale - 2 }

/-- The fraction `a * 2 ^ i / 10 ^ j` as numerator and denominator. -/
def ratio (a : Nat) (i j : Int) : Nat × Nat :=
  (a * Nat.pow 2 i.toNat * Nat.pow 10 (-j).toNat, Nat.pow 2 (-i).toNat * Nat.pow 10 j.toNat)

/-- The decimal `d * 10 ^ e` lies in the interval. -/
def Rounding.contains (r : Rounding) (d : Nat) (e : Int) : Bool :=
  let (ln, ld) := ratio r.low r.unit e
  let (hn, hd) := ratio r.high r.unit e
  if r.closed then decide (ln ≤ d * ld) && decide (d * hd ≤ hn)
  else decide (ln < d * ld) && decide (d * hd < hn)

/-- The neighbour of the number on the grid of `10 ^ e` that reads back, the nearer if both do and
the even one if they are equally near. -/
def Rounding.onGrid? (r : Rounding) (e : Int) : Option Nat :=
  let (n, d) := ratio r.value r.unit e
  let below := n / d
  match r.contains below e, r.contains (below + 1) e with
  | true, false => some below
  | false, true => some (below + 1)
  | false, false => none
  | true, true =>
    let rest := 2 * (n % d)
    if rest < d then some below
    else if d < rest then some (below + 1)
    else if below % 2 = 0 then some below else some (below + 1)

/-- The number of digits before the decimal point, zero or less below a tenth. -/
def Rounding.pointPlace (r : Rounding) : Int :=
  let above (k : Int) : Bool := let (n, d) := ratio r.value r.unit k; decide (n < d)
  let guess : Int := -330
  ((List.range 660).find? fun (i : Nat) => above (guess + i)).elim 0 fun (i : Nat) => guess + i

/-- Drops trailing zeros, at most `n` of them. -/
def Scaled.trim : Nat → Scaled → Scaled
  | 0, s => s
  | n + 1, s =>
    if s.digits ≠ 0 ∧ s.digits % 10 = 0 then Scaled.trim n ⟨s.digits / 10, s.exponent + 1⟩ else s

/-- The shortest decimal of a positive number. -/
def Rounding.shortest (r : Rounding) : Scaled :=
  let place := r.pointPlace
  let candidates := (List.range 17).filterMap fun (i : Nat) =>
    let e := place - ((i : Int) + 1)
    (r.onGrid? e).map fun d => (⟨d, e⟩ : Scaled)
  match candidates with
  | s :: _ => s.trim 20
  | [] => ⟨0, 0⟩

/-- The exponent with its sign and at least two digits. -/
def exponentText (e : Int) : String :=
  let n := toString e.natAbs
  (if e < 0 then "e-" else "e+") ++ (if n.length < 2 then "0" ++ n else n)

/-- A positive decimal in positional notation. -/
def Scaled.positional (s : Scaled) : String :=
  let ds := (toString s.digits).toList
  let point : Int := s.exponent + ds.length
  if point ≤ 0 then "0." ++ String.ofList (List.replicate (-point).toNat '0' ++ ds)
  else
    let whole := ds.take point.toNat ++ List.replicate (point.toNat - ds.length) '0'
    let part := ds.drop point.toNat
    String.ofList (if part.isEmpty then whole else whole ++ '.' :: part)

/-- A positive decimal in general notation: positional from a ten-thousandth up to a million, else
with an exponent. -/
def Scaled.general (s : Scaled) : String :=
  let ds := (toString s.digits).toList
  let lead : Int := s.exponent + ds.length - 1
  if lead < -4 ∨ 6 ≤ lead then
    match ds with
    | [] => "0"
    | d :: [] => String.ofList [d] ++ exponentText lead
    | d :: rest => String.ofList (d :: '.' :: rest) ++ exponentText lead
  else s.positional

/-- A floating point number, a finite one in the notation that `written` gives to its shortest
decimal. -/
def floatText (written : Scaled → String) (x : Float) : String :=
  let b := Binary.ofFloat x
  if b.isSpecial then
    if b.frac ≠ 0 then "NaN" else if b.negative then "-Inf" else "+Inf"
  else
    let text := if b.mantissa = 0 then "0" else written (Rounding.ofBinary b).shortest
    if b.negative then "-" ++ text else text

/-- A floating point number in general notation, with the fewest digits that read back. -/
def generalText (x : Float) : String := floatText Scaled.general x

/-- A floating point number in positional notation, with the fewest digits that read back. -/
def positionalText (x : Float) : String := floatText Scaled.positional x

end WidgetFlow.Decimal
