import WidgetFlow.Command.Job
import WidgetFlow.Journal.Wording
import WidgetFlow.Metrics.Exposition
import WidgetFlow.Watch.Debounce

/-!
# The console

What a command changes and shows: files, printed text, and the log. The steps of a command are written
in `Shell`; a step that fails keeps what it had shown before it failed.
-/

namespace WidgetFlow.Command

open Watch (Change ChangeType Debouncer)

/-- A notice with the run that it belongs to; outside of runs the tag is empty. -/
structure LogEntry where
  tag : RunTag := {}
  notice : Notice
  deriving Inhabited

/-- What a command changes and shows. -/
structure Console where
  files : Files := {}
  output : String := ""
  /-- What was logged, newest first. -/
  log : List LogEntry := []
  /-- How many analyses were run. -/
  runs : Nat := 0
  deriving Inhabited

/-- A step of a command. -/
abbrev Shell := EStateM Fault Console

namespace Console

/-- Everything that happened, oldest first. -/
def journal (c : Console) : List Notice := (c.log.map (·.notice)).reverse

/-- The text of the log. -/
def logText (c : Console) (clock : String) (least : Log.Level) : String :=
  String.join (c.log.reverse.map fun e =>
    e.notice.line { clock, elapsed := e.tag.elapsed, runId := e.tag.id } least)

/-- The text of the metrics of all runs so far. -/
def metricsText (c : Console) : String := (Metrics.Registry.ofJournal c.journal).text

end Console

namespace Shell

/-- Logs a notice outside of any run. -/
def note (n : Notice) : Shell Unit := modify fun c => { c with log := ⟨{}, n⟩ :: c.log }

/-- Prints a text. -/
def print (s : String) : Shell Unit := modify fun c => { c with output := c.output ++ s }

/-- Takes in an analysis that ended: logs what happened, and gives its result. -/
def absorb (tag : RunTag) (o : Analysis.Outcome) : Shell Analysis.Result := do
  modify fun c =>
    { c with log := (o.journal.map fun n => ⟨tag, n⟩).reverse ++ c.log, runs := c.runs + 1 }
  match o.result with
  | .ok r => return r
  | .error e => throw (.analysis e)

/-- Prints the results of the analyses of a job. The first that failed ends it. -/
def present (j : Job) : List (RunTag × Analysis.Outcome) → Shell Unit
  | [] => pure ()
  | (tag, o) :: more => do
    print (j.printed j.cyclesOnly tag (← absorb tag o))
    more.forM fun (tag, o) => do print ("\n" ++ j.printed true tag (← absorb tag o))

/-- Writes the metrics, if a file for them is set. -/
def writeMetrics (j : Job) : Shell Unit := do
  let path := j.settings.metricsFile
  if path ≠ "" then
    let c ← get
    if c.files.canPut path then
      set { c with files := c.files.put path c.metricsText }
      note (.metricsWritten path)
    else throw .metricsNotWritten

/-- The files that are watched, each with the kind of input it is. A file that serves as several
inputs counts as the last of them. -/
def watched (j : Job) (f : Files) : List (FullPath × ChangeType) :=
  let inputs := [(j.settings.facts, ChangeType.facts), (j.settings.listeners, .listeners),
    (Settings.fileName, .config)]
  let places := (inputs.filter fun (path, _) => path ≠ "").map fun (path, t) =>
    (fullPath f.directory path, t)
  places.foldr (fun p later => if later.any (·.1 = p.1) then later else p :: later) []

/-- Begins to watch the inputs of a job. -/
def beginWatching (j : Job) : Shell Unit := do
  let files := watched j (← get).files
  let directories := distinct (files.map fun (place, _) => place.dropLast)
  note (.watchStarted files.length directories.length)
  note (.watching j.settings.facts)

/-- Does a step and gives its failure as a value. -/
def attempt {α : Type} (step : Shell α) : Shell (Except Fault α) := fun c =>
  match step c with
  | .ok a c => .ok (.ok a) c
  | .error e c => .ok (.error e) c

/-- Shows the first analyses of a job, and writes their metrics. -/
def start (j : Job) (outcomes : List (RunTag × Analysis.Outcome)) : Shell Unit := do
  present j outcomes
  writeMetrics j

/-- Shows the analyses that were run again after a change of inputs. A failure is logged and ends
nothing. -/
def rerun (j : Job) (change : Change) (outcomes : List (RunTag × Analysis.Outcome)) :
    Shell Unit := do
  note (.inputsChanged change.type.name change.paths.length)
  match ← attempt (present j outcomes) with
  | .error e => note (.rerunFailed e.message)
  | .ok () =>
    match ← attempt (writeMetrics j) with
    | .error e => note (.metricsFailed e.message)
    | .ok () => pure ()

/-- A full path as text. -/
def placeText (place : FullPath) : String := String.join (place.map ("/" ++ ·))

/-- A file gets a new text. If it is watched, the changes that a job has to be run for are given. -/
def edit (j : Job) (path text : String) : Shell (List Change) := do
  modify fun c => { c with files := c.files.put path text }
  let f := (← get).files
  let place := fullPath f.directory path
  match (watched j f).lookup place with
  | none => return []
  | some type =>
    note (.inputChanged (placeText place) type.name "CREATE")
    let d := Debouncer.run [.change ⟨type, [placeText place]⟩, .quietElapsed]
    note (.changesFlushed d.received)
    return d.output

end Shell

end WidgetFlow.Command
