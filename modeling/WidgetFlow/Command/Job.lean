import WidgetFlow.Command.Invocation
import WidgetFlow.Log.Level
import WidgetFlow.Report.Document
import WidgetFlow.Report.Printed
import WidgetFlow.Settings.Layers

/-!
# Jobs

What an invocation comes to once its settings are known: which analyses are run, and how their
results are printed.
-/

namespace WidgetFlow.Command

open Analysis (Result)

/-- Something to be done with settled settings. -/
structure Job where
  verb : Verb
  settings : Settings
  deriving DecidableEq, Inhabited

/-- Why a command failed. -/
inductive Fault where
  | usage (fault : UsageFault)
  | settings (fault : Settings.Fault)
  | noFacts
  | analysis (failure : Analysis.Failure)
  | metricsNotWritten
  deriving DecidableEq, Inhabited

/-- The wording of a fault. -/
def Fault.message : Fault → String
  | usage fault => fault.message
  | settings fault => fault.message
  | noFacts => "no facts file given (use --facts or a positional argument)"
  | analysis failure => failure.message
  | metricsNotWritten => "write metrics"

/-- The job of an invocation. A path of facts among the words wins over the settings. -/
def Invocation.job (i : Invocation) (cpus : Nat) (file? : Option String)
    (env : List (String × String)) : Except Fault Job :=
  match Settings.load cpus file? env i.settings with
  | .error e => .error (.settings e)
  | .ok s =>
    let facts := i.facts?.getD s.facts
    if facts = "" then .error .noFacts else .ok ⟨i.verb, { s with facts }⟩

namespace Job

/-- Only recursive flows are looked for. -/
def cyclesOnly (j : Job) : Bool := j.verb = .cycles

/-- Recursive flows are reported too. -/
def alsoCycles (j : Job) : Bool := j.settings.showCycles && !j.cyclesOnly

/-- The least level that the log shows. -/
def level (j : Job) : Log.Level := .select j.settings.verbosity j.settings.verbose

/-- The analysis of a job. -/
def request (j : Job) (reason : String) : Analysis.Request :=
  { facts := j.settings.facts, listeners := j.settings.listeners, strict := j.settings.strict
    workers := j.settings.workers, findCycles := j.cyclesOnly, reason }

/-- The additional analysis for recursive flows. -/
def cyclesRequest (j : Job) : Analysis.Request :=
  { j.request "show-cycles" with findCycles := true }

/-- The analyses of a job, in order. -/
def requests (j : Job) (reason : String) : List Analysis.Request :=
  j.request reason :: if j.alsoCycles then [j.cyclesRequest] else []

/-- The analyses of a job as they end for given files, each with what there is to say of it. -/
def outcomes (j : Job) (files : Files) (tags : Nat → RunTag) (reason : String) :
    List (RunTag × Analysis.Outcome) :=
  (j.requests reason).zipIdx.map fun (q, i) => (tags i, Analysis.run files false q)

/-- A result as it is printed. -/
def printed (j : Job) (cycles : Bool) (tag : RunTag) (r : Result) : String :=
  match j.settings.format with
  | .json => (Report.ofResult tag r).document
  | .text =>
    if cycles then Report.cyclesText r else Report.solveText tag.id (0 < j.settings.verbose) r

end Job

end WidgetFlow.Command
