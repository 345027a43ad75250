/-!
# Program points and method names

A `Site` is a statement of a method. Methods go by their canonical name, the declaring class and
the subsignature between angle brackets, so the class can be read back from the name.
-/

namespace WidgetFlow

/-- A statement index inside a method; the site with neither means "no site". -/
structure Site where
  method : String := ""
  stmt : Int := 0
  deriving DecidableEq, Inhabited

/-- The site that names no program point. -/
def Site.none : Site := {}

/-- The site names no program point. -/
def Site.isNone (s : Site) : Bool :=
  s.method == "" && s.stmt == 0

/-- A site as it stands in labels and messages. -/
def Site.text (s : Site) : String :=
  if s.isNone then "-" else s.method ++ "#" ++ toString s.stmt

/-- The canonical name of a method: its class and its subsignature. -/
def methodName (className subsignature : String) : String :=
  "<" ++ className ++ ": " ++ subsignature ++ ">"

/-- The class part of a canonical method name: what stands between the opening bracket and the
first colon, and nothing when either is missing. -/
def declaringClass (method : String) : String :=
  match method.toList with
  | '<' :: rest => if ':' ∈ rest then String.ofList (rest.takeWhile (· ≠ ':')) else ""
  | _ => ""

end WidgetFlow
