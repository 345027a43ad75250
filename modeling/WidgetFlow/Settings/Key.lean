import WidgetFlow.Settings.Value

/-!
# Names of settings

The ten settings, the name by which configuration files, environment variables and flags know each
of them, and the value it has when nothing sets it.
-/

namespace WidgetFlow.Settings

/-- A setting. -/
inductive Key where
  | facts
  | listeners
  | strict
  | workers
  | format
  | showCycles
  | watch
  | metricsFile
  | verbosity
  | verbose
  deriving DecidableEq, Inhabited

namespace Key

/-- The name of a setting. -/
def name : Key → String
  | facts => "facts"
  | listeners => "listeners"
  | strict => "strict"
  | workers => "workers"
  | format => "format"
  | showCycles => "show-cycles"
  | watch => "watch"
  | metricsFile => "metrics-file"
  | verbosity => "verbosity"
  | verbose => "verbose"

/-- All settings. -/
def all : List Key :=
  [facts, listeners, strict, workers, format, showCycles, watch, metricsFile, verbosity, verbose]

/-- The setting with a name. -/
def ofName? (s : String) : Option Key := all.find? (·.name = s)

/-- The value of a setting that nothing sets; there is a worker for each of `cpus` processors. -/
def default (cpus : Nat) : Key → Value
  | facts | listeners | metricsFile | verbosity => .text ""
  | strict | showCycles | watch => .bool false
  | workers => .int cpus
  | format => .text "text"
  | verbose => .int 0

end Key

end WidgetFlow.Settings
