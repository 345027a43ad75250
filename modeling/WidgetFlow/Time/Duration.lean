/-!
# Durations

A duration is a number of nanoseconds. Below a second it is written in the largest unit that keeps
it at one or more; from a second on in hours, minutes and seconds.
-/

namespace WidgetFlow.Duration

/-- The digits of `n` after the point, padded to `places` and without trailing zeros; with the
point, unless nothing is left. -/
def fraction (places n : Nat) : String :=
  let ds := (toString n).toList
  let padded := List.replicate (places - ds.length) '0' ++ ds
  let kept := (padded.reverse.dropWhile (· = '0')).reverse
  if kept.isEmpty then "" else String.ofList ('.' :: kept)

/-- A count of nanoseconds as a decimal number of a unit of `10 ^ places` nanoseconds. -/
def inUnit (places n : Nat) : String :=
  toString (n / Nat.pow 10 places) ++ fraction places (n % Nat.pow 10 places)

/-- The wording of a duration that is not negative. -/
def magnitudeText (n : Nat) : String :=
  if n = 0 then "0s"
  else if n < 1000 then toString n ++ "ns"
  else if n < 1000000 then inUnit 3 n ++ "µs"
  else if n < 1000000000 then inUnit 6 n ++ "ms"
  else
    let seconds := n / 1000000000
    let minutes := seconds / 60
    let hours := minutes / 60
    let tail := toString (seconds % 60) ++ fraction 9 (n % 1000000000) ++ "s"
    if minutes = 0 then tail
    else if hours = 0 then toString minutes ++ "m" ++ tail
    else toString hours ++ "h" ++ toString (minutes % 60) ++ "m" ++ tail

/-- The wording of a duration. -/
def text (n : Int) : String :=
  if n < 0 then "-" ++ magnitudeText n.natAbs else magnitudeText n.natAbs

end WidgetFlow.Duration
