import WidgetFlow.Command.Console

/-!
# Running a command

A command from its arguments to its end. While it watches, edits of files arrive one after the other,
each when the analysis for the one before has ended.
-/

namespace WidgetFlow.Command

open Watch (Change)

/-- What a command finds around it. -/
structure Surroundings where
  args : List String
  env : List (String × String) := []
  cpus : Nat := 1
  files : Files := {}
  /-- The edits that arrive while the command watches: paths with new texts. -/
  edits : List (String × String) := []
  /-- What there is to say of each run. -/
  tags : Nat → RunTag := fun _ => {}

/-- How a command ended. -/
structure Transcript where
  console : Console
  /-- The least level that the log shows. -/
  level : Log.Level := Log.Level.info
  fault? : Option Fault := none
  deriving Inhabited

/-- How to use the program. -/
def usageText : String :=
  Report.text
    [ "Solve GUI object flow over an extracted constraint graph"
    , ""
    , "Usage:"
    , "  guiflow [command]"
    , ""
    , "Available Commands:"
    , "  cycles      Report recursive flows in the flow graph"
    , "  solve       Build the flow graph and compute the solution maps" ]

namespace Shell

/-- The analyses of a job as they end now. -/
def outcomesNow (tags : Nat → RunTag) (j : Job) (reason : String) :
    Shell (List (RunTag × Analysis.Outcome)) := do
  let c ← get
  return j.outcomes c.files (fun i => tags (c.runs + i)) reason

/-- Runs a job again after a change of inputs. -/
def follow (tags : Nat → RunTag) (j : Job) (change : Change) : Shell Unit := do
  rerun j change (← outcomesNow tags j change.reason)

/-- Does a job, watching its inputs afterwards if it has to. -/
def perform (s : Surroundings) (j : Job) : Shell Unit := do
  start j (← outcomesNow s.tags j j.verb.name)
  if j.settings.watch then
    beginWatching j
    s.edits.forM fun (path, text) => do (← edit j path text).forM (follow s.tags j)

end Shell

/-- The job that the surroundings ask for; nothing if they ask for help. -/
def Surroundings.job? (s : Surroundings) : Except Fault (Option Job) :=
  match Request.ofArgs s.args with
  | .error e => .error (.usage e)
  | .ok .help => .ok none
  | .ok (.invoke i) =>
    match i.job s.cpus (s.files.text? Settings.fileName) s.env with
    | .error e => .error e
    | .ok j => .ok (some j)

/-- Runs a command. -/
def run (s : Surroundings) : Transcript :=
  let console : Console := { files := s.files }
  match s.job? with
  | .error e => { console, fault? := some e }
  | .ok none => { console := { console with output := usageText } }
  | .ok (some j) =>
    match Shell.perform s j console with
    | .ok () c => { console := c, level := j.level }
    | .error e c => { console := c, level := j.level, fault? := some e }

end WidgetFlow.Command
