import WidgetFlow.Decimal.Binary
import WidgetFlow.Settings.Value
import WidgetFlow.Time.Stamp
import WidgetFlow.Toml.Text

/-!
# Numbers and moments in TOML documents

Numbers may have underscores between their digits, and no needless leading zero. Dates and times have
to exist; no setting takes one, so that they are just something compound.
-/

namespace WidgetFlow.Toml

open Settings (Value)

/-! ### Numbers -/

/-- Digits of a base without their underscores, each of which has to stand between two digits. -/
def groupedDigits? (base : Nat) (ds : List Char) : Option (List Char) :=
  let plain := ds.filter (· ≠ '_')
  if Text.underscoresFit (Decimal.digitValue · < base) false ds
      && (Decimal.digits? base plain).isSome then
    some plain
  else none

/-- Digits of a whole number: no leading zero, unless zero is all. -/
def wholeDigits? (ds : List Char) : Option (List Char) :=
  (groupedDigits? 10 ds).bind fun plain =>
    match plain with
    | '0' :: _ :: _ => none
    | _ => some plain

/-- The sign of a number and what follows it. -/
def splitSign : List Char → Option Char × List Char
  | '-' :: cs => (some '-', cs)
  | '+' :: cs => (some '+', cs)
  | cs => (none, cs)

/-- The base that a letter after a zero stands for. -/
def baseOf? : Char → Option Nat
  | 'x' => some 16
  | 'o' => some 8
  | 'b' => some 2
  | _ => none

/-- A whole number that fits a signed machine word. A base mark needs a number without sign. -/
def integer? (word : List Char) : Option Int :=
  let decimal : Option Int :=
    let (sign, ds) := splitSign word
    ((wholeDigits? ds).bind (Decimal.digits? 10)).map fun n =>
      if sign = some '-' then -(n : Int) else n
  let n? : Option Int :=
    match word with
    | '0' :: mark :: ds =>
      match baseOf? mark with
      | some base => ((groupedDigits? base ds).bind (Decimal.digits? base)).map Int.ofNat
      | none => decimal
    | _ => decimal
  n?.filter Decimal.fitsWord

/-- The digits after a point, and what follows them; no point, no digits. -/
def fractionPart? : List Char → Option (List Char × List Char)
  | '.' :: cs =>
    let ds := cs.takeWhile fun c => c.isDigit || c = '_'
    (groupedDigits? 10 ds).map fun plain => ('.' :: plain, cs.drop ds.length)
  | cs => some ([], cs)

/-- An exponent up to the end of the word; no mark, no exponent. -/
def exponentPart? : List Char → Option (List Char)
  | [] => some []
  | e :: cs =>
    if e = 'e' || e = 'E' then
      let (sign, ds) := splitSign cs
      (groupedDigits? 10 ds).map fun plain => 'e' :: (sign.toList ++ plain)
    else none

/-- A decimal fraction: a whole part, and after it a fraction, an exponent or both. It may not be too
large. -/
def float? (word : List Char) : Option Float :=
  let (sign, cs) := splitSign word
  if cs = ['i', 'n', 'f'] then some (if sign = some '-' then -1.0 / 0.0 else 1.0 / 0.0)
  else if cs = ['n', 'a', 'n'] then some (0.0 / 0.0)
  else do
    let whole := cs.takeWhile fun c => c.isDigit || c = '_'
    let ds ← wholeDigits? whole
    let (part, rest) ← fractionPart? (cs.drop whole.length)
    let expo ← exponentPart? rest
    let x := (← Decimal.fraction? (sign.toList ++ ds ++ part ++ expo)).toFloat
    if (Decimal.Binary.ofFloat x).isSpecial then none else some x

/-- A character of a number in a base. -/
def isBaseChar (base : Nat) (c : Char) : Bool := Decimal.digitValue c < base || c = '_'

/-- The word of a number, whether it is a fraction, and what follows it. An infinity and what is no
number end their word. -/
def numberWord? : List Char → Option (List Char × Bool × List Char)
  | [] => some ([], false, [])
  | c :: cs =>
    if c.isDigit || c = '+' || c = '-' || c = '_' then
      (numberWord? cs).map fun (word, isFraction, rest) => (c :: word, isFraction, rest)
    else if c = '.' || c = 'e' || c = 'E' then
      (numberWord? cs).map fun (word, _, rest) => (c :: word, true, rest)
    else if c = 'i' || c = 'n' then
      let word := c :: cs.take 2
      if word = ['i', 'n', 'f'] || word = ['n', 'a', 'n'] then some (word, true, cs.drop 2) else none
    else some ([], false, c :: cs)

/-- Reads a number. A zero before anything but a point, an exponent or a base mark stands alone. -/
def number : Reader Value := do
  let cs ← get
  let general : Reader Value := do
    let (word, isFraction, rest) ← numberWord? cs
    set rest
    if isFraction then return .float (← float? word) else return .int (← integer? word)
  match cs with
  | '0' :: mark :: c :: rest =>
    if mark = '.' || mark = 'e' || mark = 'E' then general
    else match baseOf? mark with
      | some base =>
        let ds := (c :: rest).takeWhile (isBaseChar base)
        set ((c :: rest).drop ds.length)
        return .int (← integer? ('0' :: mark :: ds))
      | none =>
        set (mark :: c :: rest)
        return .int 0
  | _ => general

/-! ### Dates and times -/

/-- The text of a date or time: digits, marks, and one blank before a digit. -/
def momentWord (spaced : Bool) : List Char → List Char
  | [] => []
  | c :: cs =>
    if c = ' ' then
      if !spaced && cs.head?.any Char.isDigit then c :: momentWord true cs else []
    else if c.isDigit || ['-', '+', ':', '.', 'T', 't', 'Z', 'z'].contains c then
      c :: momentWord spaced cs
    else []

/-- What follows a date, which has to exist. -/
def afterDate? (cs : List Char) : Option (List Char) := do
  let (year, cs) ← Stamp.digits? 4 cs
  let (month, cs) ← Stamp.digits? 2 (← Stamp.mark? '-' cs)
  let (day, cs) ← Stamp.digits? 2 (← Stamp.mark? '-' cs)
  if 1 ≤ month ∧ month ≤ 12 ∧ 1 ≤ day ∧ day ≤ Stamp.daysIn year month then some cs else none

/-- What follows a time of day. A second may be a leap second, and have a fraction. -/
def afterTime? (cs : List Char) : Option (List Char) := do
  let (hour, cs) ← Stamp.digits? 2 cs
  let (minute, cs) ← Stamp.digits? 2 (← Stamp.mark? ':' cs)
  let (second, cs) ← Stamp.digits? 2 (← Stamp.mark? ':' cs)
  if hour ≤ 23 ∧ minute ≤ 59 ∧ second ≤ 60 then
    match cs with
    | '.' :: part =>
      let ds := part.takeWhile Char.isDigit
      if ds.isEmpty then none else some (part.drop ds.length)
    | _ => some cs
  else none

/-- An offset from universal time, or none at all. -/
def isOffset (cs : List Char) : Bool :=
  match cs with
  | [] | ['Z'] | ['z'] => true
  | sign :: cs =>
    let answer : Option Bool := do
      let (hours, cs) ← Stamp.digits? 2 cs
      let (minutes, cs) ← Stamp.digits? 2 (← Stamp.mark? ':' cs)
      return (sign = '+' || sign = '-') && hours ≤ 23 && minutes ≤ 59 && cs.isEmpty
    answer.getD false

/-- A date, a time of day, or both, with an offset or without. -/
def isMoment (word : List Char) : Bool :=
  match afterDate? word with
  | some [] => true
  | some (sep :: cs) =>
    (sep = 'T' || sep = 't' || sep = ' ') && (afterTime? cs).any isOffset
  | none => (afterTime? word).any List.isEmpty

/-- A date or a time begins here: four digits and a hyphen, or two digits and a colon. -/
def beginsMoment (cs : List Char) : Bool :=
  let ds := (cs.take 4).takeWhile Char.isDigit
  (ds.length = 2 && cs[2]? = some ':') || (ds.length = 4 && cs[4]? = some '-')

/-- Reads a date or a time. -/
def moment : Reader Value := do
  let cs ← get
  let word := momentWord false cs
  if isMoment word then
    set (cs.drop word.length)
    return .compound
  else failure

end WidgetFlow.Toml
