import WidgetFlow.Settings.Key
import WidgetFlow.Text.Case
import WidgetFlow.Toml.Document

/-!
# Layers of settings

A setting has the value of the highest layer that gives it one: a flag that was given, then an
environment variable, then the configuration file, then the default. The values are then converted
and checked.
-/

namespace WidgetFlow

namespace Settings

/-- The name of the configuration file. -/
def fileName : String := "guiflow.toml"

/-- What the name of an environment variable for a setting begins with. -/
def envMark : String := "GUIFLOW_"

/-- The values that the layers give. -/
structure Layers where
  /-- The flags that were given, the latest first. -/
  flags : List (Key × Value) := []
  /-- The names and values of environment variables for settings, the latest first. -/
  env : List (String × Value) := []
  /-- The names and values at the top of the configuration file. -/
  file : List (String × Value) := []
  /-- The number of processors. -/
  cpus : Nat := 1
  deriving Inhabited

/-- The value of a setting, from the highest layer that gives one. -/
def Layers.value (l : Layers) (k : Key) : Value :=
  match l.flags.lookup k with
  | some v => v
  | none =>
    match l.env.lookup k.name with
    | some v => v
    | none => (l.file.lookup k.name).getD (k.default l.cpus)

/-- The entry of an environment variable: its name in lower case, with hyphens for underscores. A
name with a dot in it is that of something inside the setting before the dot. -/
def envEntry? (name value : String) : Option (String × Value) :=
  let cs := name.toList
  if envMark.toList.isPrefixOf cs then
    let key := (Text.lower (String.ofList (cs.drop envMark.length))).toList.map fun c =>
      if c = '_' then '-' else c
    if key.isEmpty then none
    else if key.contains '.' then some (String.ofList (key.takeWhile (· ≠ '.')), .compound)
    else some (String.ofList key, .text value)
  else none

/-- The layer of an environment. -/
def envLayer (env : List (String × String)) : List (String × Value) :=
  (env.filterMap fun (name, value) => envEntry? name value).reverse

/-- How results are printed. -/
inductive Format where
  | text
  | json
  deriving DecidableEq, Inhabited

/-- The name of a format. -/
def Format.name : Format → String
  | text => "text"
  | json => "json"

/-- The format with a name. -/
def Format.ofName? : String → Option Format
  | "text" => some .text
  | "json" => some .json
  | _ => none

/-- Why settings cannot be used. -/
inductive Fault where
  | fileMalformed
  | notConvertible
  | unknownFormat (word : String)
  | tooFewWorkers (n : Int)
  deriving DecidableEq, Inhabited

/-- The wording of a fault. -/
def Fault.message : Fault → String
  | fileMalformed => "failed to load config file " ++ fileName
  | notConvertible => "failed to unmarshal config"
  | unknownFormat word => "unknown format " ++ Text.quoted word ++ " (want text or json)"
  | tooFewWorkers n => "workers must be at least 1, got " ++ toString n

end Settings

open Settings

/-- How an analysis is run and its results are shown. -/
structure Settings where
  facts : String := ""
  listeners : String := ""
  strict : Bool := false
  workers : Int := 1
  format : Format := .text
  showCycles : Bool := false
  watch : Bool := false
  metricsFile : String := ""
  verbosity : String := ""
  verbose : Int := 0
  deriving DecidableEq, Inhabited

namespace Settings

/-- The settings before they are checked: every value has its type. -/
structure Draft where
  facts : String
  listeners : String
  strict : Bool
  workers : Int
  format : String
  showCycles : Bool
  watch : Bool
  metricsFile : String
  verbosity : String
  verbose : Int
  deriving DecidableEq, Inhabited

/-- Converts the values of all settings. -/
def Draft.ofValues? (value : Key → Value) : Option Draft := do
  let facts ← (value .facts).asText?
  let listeners ← (value .listeners).asText?
  let strict ← (value .strict).asBool?
  let workers ← (value .workers).asInt?
  let format ← (value .format).asText?
  let showCycles ← (value .showCycles).asBool?
  let watch ← (value .watch).asBool?
  let metricsFile ← (value .metricsFile).asText?
  let verbosity ← (value .verbosity).asText?
  let verbose ← (value .verbose).asInt?
  return { facts, listeners, strict, workers, format, showCycles, watch, metricsFile, verbosity,
           verbose }

/-- Checks the format, then the number of workers. -/
def Draft.check (d : Draft) : Except Fault Settings :=
  match Format.ofName? d.format with
  | none => .error (.unknownFormat d.format)
  | some format =>
    if d.workers < 1 then .error (.tooFewWorkers d.workers)
    else .ok { facts := d.facts, listeners := d.listeners, strict := d.strict, workers := d.workers
               format, showCycles := d.showCycles, watch := d.watch, metricsFile := d.metricsFile
               verbosity := d.verbosity, verbose := d.verbose }

/-- The settings of all layers. -/
def ofLayers (l : Layers) : Except Fault Settings :=
  match Draft.ofValues? l.value with
  | none => .error .notConvertible
  | some d => d.check

/-- The settings of a configuration file, which there may not be, an environment and flags. -/
def load (cpus : Nat) (file? : Option String) (env : List (String × String))
    (flags : List (Key × Value)) : Except Fault Settings :=
  match file? with
  | none => ofLayers ⟨flags, envLayer env, [], cpus⟩
  | some text =>
    match Toml.parse text with
    | none => .error .fileMalformed
    | some entries => ofLayers ⟨flags, envLayer env, entries, cpus⟩

end Settings

end WidgetFlow
