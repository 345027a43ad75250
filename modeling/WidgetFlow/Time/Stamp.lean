/-!
# Time stamps

A moment as its local date and time of day with the offset from universal time. The usual written
form is `2024-01-02T03:04:05+02:00`, with `Z` for no offset; fractions of a second are read but
not written in it.
-/

namespace WidgetFlow

/-- A local date and time with its offset from universal time. The first moment of the calendar is
the default. -/
structure Stamp where
  year : Nat := 1
  month : Nat := 1
  day : Nat := 1
  hour : Nat := 0
  minute : Nat := 0
  second : Nat := 0
  /-- The fraction of the second, in billionths. -/
  nanos : Nat := 0
  /-- The offset in minutes. -/
  offset : Int := 0
  deriving DecidableEq, Inhabited

namespace Stamp

/-! ### Reading -/

/-- The value of decimal digits. -/
def number (ds : List Char) : Nat := ds.foldl (fun n d => 10 * n + (d.toNat - 48)) 0

/-- Reads `k` digits. -/
def digits? (k : Nat) (cs : List Char) : Option (Nat × List Char) :=
  let ds := cs.take k
  if ds.length = k ∧ ds.all Char.isDigit then some (number ds, cs.drop k) else none

/-- Reads one character. -/
def mark? (m : Char) (cs : List Char) : Option (List Char) :=
  if cs.head? = some m then some (cs.drop 1) else none

/-- Reads the fraction of a second, if there is one, down to the billionth. -/
def fraction (cs : List Char) : Nat × List Char :=
  match cs with
  | m :: rest =>
    let ds := rest.takeWhile Char.isDigit
    if (m = '.' || m = ',') && !ds.isEmpty then
      (number ((ds ++ List.replicate 9 '0').take 9), rest.drop ds.length)
    else (0, cs)
  | [] => (0, [])

/-- Reads `Z` or a signed offset in hours and minutes. -/
def offset? (cs : List Char) : Option Int :=
  match cs with
  | ['Z'] => some 0
  | sign :: rest => do
    let (hours, rest) ← digits? 2 rest
    let (minutes, rest) ← digits? 2 (← mark? ':' rest)
    let o : Int := hours * 60 + minutes
    if !rest.isEmpty || 24 < hours || 60 < minutes then none
    else if sign = '+' then some o
    else if sign = '-' then some (-o)
    else none
  | [] => none

/-- Reads the usual written form. The hour may have one digit. -/
def parse? (s : String) : Option Stamp := do
  let (year, cs) ← digits? 4 s.toList
  let (month, cs) ← digits? 2 (← mark? '-' cs)
  let (day, cs) ← digits? 2 (← mark? '-' cs)
  let cs ← mark? 'T' cs
  let (hour, cs) ← digits? 2 cs <|> digits? 1 cs
  let (minute, cs) ← digits? 2 (← mark? ':' cs)
  let (second, cs) ← digits? 2 (← mark? ':' cs)
  let (nanos, cs) := fraction cs
  let offset ← offset? cs
  return { year, month, day, hour, minute, second, nanos, offset }

/-! ### Writing -/

/-- A number with leading zeros. -/
def padded (width n : Nat) : String :=
  let ds := Nat.toDigits 10 n
  String.ofList (List.replicate (width - ds.length) '0' ++ ds)

/-- The date. -/
def dateText (t : Stamp) : String :=
  padded 4 t.year ++ "-" ++ padded 2 t.month ++ "-" ++ padded 2 t.day

/-- The time of day. -/
def clockText (t : Stamp) : String :=
  padded 2 t.hour ++ ":" ++ padded 2 t.minute ++ ":" ++ padded 2 t.second

/-- The offset, with `sep` between hours and minutes. -/
def offsetText (sep : String) (o : Int) : String :=
  (if o < 0 then "-" else "+") ++ padded 2 (o.natAbs / 60) ++ sep ++ padded 2 (o.natAbs % 60)

/-- The usual written form. -/
def text (t : Stamp) : String :=
  t.dateText ++ "T" ++ t.clockText ++ (if t.offset = 0 then "Z" else offsetText ":" t.offset)

/-- The fraction of the second behind its point, without trailing zeros; none is left out. -/
def fractionText (t : Stamp) : String :=
  if t.nanos = 0 then ""
  else
    let ds := ((padded 9 t.nanos).toList.reverse.dropWhile (· = '0')).reverse
    String.ofList ('.' :: ds)

/-- The long form, with the fraction of a second and the name of the zone. -/
def longText (t : Stamp) : String :=
  t.dateText ++ " " ++ t.clockText ++ t.fractionText ++ " " ++ offsetText "" t.offset ++ " "
    ++ (if t.offset = 0 then "UTC" else offsetText "" t.offset)

/-! ### The calendar -/

/-- A year with a day more. -/
def isLeap (year : Nat) : Bool := year % 4 = 0 && (year % 100 ≠ 0 || year % 400 = 0)

/-- How many days a month has. -/
def daysIn (year month : Nat) : Nat :=
  if month = 2 then if isLeap year then 29 else 28
  else if [4, 6, 9, 11].contains month then 30
  else 31

/-- The days of a year before a month. -/
def daysBefore (year month : Nat) : Nat :=
  (List.range (month - 1)).foldl (fun n m => n + daysIn year (m + 1)) 0

/-- The days since the first day of the calendar. -/
def dayNumber (t : Stamp) : Int :=
  let y : Int := (t.year : Int) - 1
  365 * y + y / 4 - y / 100 + y / 400 + daysBefore t.year t.month + t.day - 1

/-- The whole minutes since the first moment of the calendar, in universal time. -/
def minuteNumber (t : Stamp) : Int :=
  (t.dayNumber * 24 + t.hour) * 60 + t.minute - t.offset

/-! ### The first moment -/

/-- The first moment of the calendar, whatever the offset. -/
def isFirst (t : Stamp) : Bool := t.minuteNumber = 0 && t.second = 0 && t.nanos = 0

/-- The moment as it is kept: the first moment of the calendar is kept without its offset. -/
def kept (t : Stamp) : Stamp := if t.isFirst then {} else t

/-! ### Short forms -/

/-- Reads one or two digits of a number below a limit. -/
def shortNumber? (limit : Nat) (cs : List Char) : Option (Nat × List Char) :=
  (digits? 2 cs <|> digits? 1 cs).filter fun p => p.1 < limit

/-- Reads a day of the calendar whose month and day may have one digit. -/
def shortDate? (cs : List Char) : Option (List Char) := do
  let (year, cs) ← digits? 4 cs
  let (month, cs) ← shortNumber? 13 (← mark? '-' cs)
  let (day, cs) ← shortNumber? 32 (← mark? '-' cs)
  if month = 0 ∨ day = 0 ∨ daysIn year month < day then none else some cs

/-- Reads a time of day whose parts may have one digit. -/
def shortClock? (cs : List Char) : Option (List Char) := do
  let (_, cs) ← shortNumber? 24 cs
  let (_, cs) ← shortNumber? 60 (← mark? ':' cs)
  let (_, cs) ← shortNumber? 60 (← mark? ':' cs)
  return (fraction cs).2

/-- A date alone, a date and a time of day with spaces between them, or a date, a letter, a time of
day and an offset. -/
def isShortForm (s : String) : Bool :=
  match shortDate? s.toList with
  | none => false
  | some [] => true
  | some (' ' :: cs) => shortClock? (cs.dropWhile (· = ' ')) = some []
  | some (c :: cs) => (c = 'T' || c = 't') && ((shortClock? cs).bind offset?).isSome

end Stamp

end WidgetFlow
