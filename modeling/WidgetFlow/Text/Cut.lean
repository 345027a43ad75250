/-!
# Cutting texts by bytes

The beginning of a text, measured in the bytes of its encoding.
-/

namespace WidgetFlow.Text

/-- The first `room` bytes of a text; the bytes of a character that is cut in two are written as
replacement characters. -/
def cutBytes : Nat → List Char → List Char
  | _, [] => []
  | room, c :: rest =>
    if c.utf8Size ≤ room then c :: cutBytes (room - c.utf8Size) rest
    else List.replicate room (Char.ofNat 0xFFFD)

end WidgetFlow.Text
