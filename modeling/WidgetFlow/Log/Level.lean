import WidgetFlow.Text.Case

/-!
# Log levels

Levels are numbers with a name at every fourth; a level in between is named by the next lower name
and the distance from it. A verbosity word, or else a count of `-v` flags, selects the least level
that is shown.
-/

namespace WidgetFlow.Log

/-- How serious a record is. -/
abbrev Level := Int

/-- Expected imprecision, of interest only when looking for a fault. -/
def Level.trace : Level := -8

/-- How the parts do their work. -/
def Level.debug : Level := -4

/-- What the user asked for. -/
def Level.info : Level := 0

/-- Something was dropped. -/
def Level.warn : Level := 4

/-- Something failed. -/
def Level.error : Level := 8

/-- A named level, with the distance from it. -/
def Level.offsetName (base : String) (d : Int) : String :=
  if d = 0 then base else if 0 < d then base ++ "+" ++ toString d else base ++ toString d

/-- The name of a level. -/
def Level.name (l : Level) : String :=
  if l = Level.trace then "TRACE"
  else if l < Level.info then Level.offsetName "DEBUG" (l - Level.debug)
  else if l < Level.warn then Level.offsetName "INFO" (l - Level.info)
  else if l < Level.error then Level.offsetName "WARN" (l - Level.warn)
  else Level.offsetName "ERROR" (l - Level.error)

/-- The name in brackets, padded so that the common names align. -/
def Level.tag (l : Level) : String :=
  let name := Level.name l
  "[" ++ name ++ "] " ++ (if name.length < 5 then " " else "")

/-- The least level shown: a known word decides, else each `-v` goes one step down. -/
def Level.select (word : String) (count : Int) : Level :=
  match Text.lower word with
  | "trace" => Level.trace
  | "debug" => Level.debug
  | "info" => Level.info
  | "warn" | "warning" => Level.warn
  | "error" => Level.error
  | _ => if 2 ≤ count then Level.trace else if count = 1 then Level.debug else Level.info

end WidgetFlow.Log
