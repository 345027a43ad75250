import WidgetFlow.Decimal.Binary
import WidgetFlow.Decimal.Shortest
import WidgetFlow.Text.Literal

/-!
# Values of settings

What a configuration file, an environment variable or a flag gives for a setting. The value is
converted to the type of the setting where that makes sense: words that read as numbers or truth
values may stand for them, and the other way round.
-/

namespace WidgetFlow.Settings

/-- A value as it was given. -/
inductive Value where
  | text (s : String)
  | int (n : Int)
  | float (x : Float)
  | bool (b : Bool)
  /-- A list or a table, which no setting takes. -/
  | compound
  deriving Inhabited

namespace Value

/-- The value as text. -/
def asText? : Value → Option String
  | text s => some s
  | int n => some (toString n)
  | float x => some (Decimal.positionalText x)
  | bool b => some (if b then "1" else "0")
  | compound => none

/-- A floating point number without its fraction; one that fits no signed machine word becomes the
least of them. -/
def wordOfFloat (x : Float) : Int :=
  let b := Decimal.Binary.ofFloat x
  let n := b.truncate
  if !b.isSpecial && Decimal.fitsWord n then n else Decimal.leastWord

/-- The value as a whole number; no text is zero. -/
def asInt? : Value → Option Int
  | text s => if s = "" then some 0 else (Text.integer s).toOption
  | int n => some n
  | float x => some (wordOfFloat x)
  | bool b => some (if b then 1 else 0)
  | compound => none

/-- The value as a truth value; no text is false, and every number but zero is true. -/
def asBool? : Value → Option Bool
  | text s => if s = "" then some false else (Text.truth s).toOption
  | int n => some (n ≠ 0)
  | float x => some (x != 0)
  | bool b => some b
  | compound => none

end Value

end WidgetFlow.Settings
