import WidgetFlow.Text.Case

/-!
# Suggestions

Which names are close enough to a word to be worth suggesting: those that the word begins, and those
that a few changes of single bytes turn it into.
-/

namespace WidgetFlow.Command

/-- The rest of a row of the distance table, from the row above it and the entry to its left. -/
def distanceRow (b : UInt8) : List UInt8 → List Nat → Nat → List Nat
  | t :: ts, diagonal :: above :: row, left =>
    let d := if b = t then diagonal else min (min above left) diagonal + 1
    d :: distanceRow b ts (above :: row) d
  | _, _, _ => []

/-- The number of bytes that have to be inserted, removed or replaced to turn one text into
another. -/
def distance (s t : String) : Nat :=
  let target := t.toUTF8.toList
  let rows := s.toUTF8.toList.foldl
    (fun row b =>
      let first := row.headD 0 + 1
      first :: distanceRow b target row first)
    (List.range (target.length + 1))
  rows.getLastD 0

/-- A name is close to a word, case aside. -/
def isClose (word name : String) : Bool :=
  let word := Text.lower word
  let name := Text.lower name
  distance word name ≤ 2 || word.toList.isPrefixOf name.toList

/-- The names that are close to a word, as the end of a message. -/
def suggestionText (names : List String) (word : String) : String :=
  match names.filter (isClose word) with
  | [] => ""
  | close => "\n\nDid you mean this?\n" ++ String.join (close.map fun n => "\t" ++ n ++ "\n")

end WidgetFlow.Command
