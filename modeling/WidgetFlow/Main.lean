import WidgetFlow.Command.Run

/-!
# The program

Reads the arguments, the environment and the files, and shows what a command has to show. With
`--watch`, the inputs are looked at again and again, and a change makes the job be run again.
-/

namespace WidgetFlow.Terminal

open Command

/-- The text of a file; nothing if it cannot be read. -/
def readText? (path : String) : IO (Option String) := do
  try return some (← IO.FS.readFile path) catch _ => return none

/-- There is a directory at a path: it can be opened, but not read. -/
def isDirectory (path : String) : IO Bool := do
  try
    let _ ← IO.FS.readFile path
    return false
  catch
    | .inappropriateType none _ _ => return true
    | _ => return false

/-- The path of the directory that a path is in. -/
def directoryPart (path : String) : String := "/".intercalate (path.splitOn "/").dropLast

/-- What there is at the given paths and where the last name of each would be. -/
def readFiles (paths : List String) : IO Files := do
  let paths := (paths ++ paths.map directoryPart).filter (· ≠ "")
  let texts ← paths.filterMapM fun path => return (← readText? path).map (path, ·)
  let directories ← paths.filterM isDirectory
  return { Files.ofList [] texts with directories := directories.map (fullPath []) }

/-- The environment variables for settings. -/
def readEnv : IO (List (String × String)) :=
  Settings.Key.all.filterMapM fun k => do
    let name := Settings.envMark ++ String.ofList
      (k.name.toList.map fun c => if c = '-' then '_' else c.toUpper)
    return (← IO.getEnv name).map (name, ·)

/-- A random id for a run. -/
def newRunId : IO String := do
  let bytes ← IO.getRandomBytes 16
  let digits := bytes.toList.flatMap fun b => Text.hexDigits 2 b.toNat
  let cut (a n : Nat) : String := String.ofList ((digits.drop a).take n)
  return "-".intercalate [cut 0 8, cut 8 4, cut 12 4, cut 16 4, cut 20 12]

/-- The time since the program began, as hours, minutes and seconds. -/
def clock (began : Nat) : IO String := do
  let seconds := ((← IO.monoMsNow) - began) / 1000
  return ":".intercalate
    [Stamp.padded 2 (seconds / 3600), Stamp.padded 2 (seconds / 60 % 60),
      Stamp.padded 2 (seconds % 60)]

/-- Shows what a console has gained, and gives it back without it. -/
def showConsole (began : Nat) (j : Job) (before : Nat) (c : Console) : IO Console := do
  (← IO.getStdout).putStr c.output
  let fresh := { c with log := c.log.take (c.log.length - before) }
  (← IO.getStderr).putStr (fresh.logText (← clock began) j.level)
  return { c with output := "" }

/-- Does a step of a command and shows what comes of it. -/
def perform {α : Type} (began : Nat) (j : Job) (c : Console) (step : Shell α) :
    IO (Except Command.Fault α × Console) := do
  let (result, c') := match step c with
    | .ok a c' => (Except.ok a, c')
    | .error e c' => (Except.error e, c')
  let path := j.settings.metricsFile
  if path ≠ "" && c'.files.text? path != c.files.text? path then
    if let some text := c'.files.text? path then IO.FS.writeFile path text
  return (result, ← showConsole began j c.log.length c')

/-- Runs the analyses of a job, timing each. -/
def analyses (j : Job) (files : Files) (reason : String) : IO (List (RunTag × Analysis.Outcome)) :=
  (j.requests reason).mapM fun q => do
    let id ← newRunId
    let start ← IO.monoNanosNow
    let o ← IO.lazyPure fun _ => Analysis.run files false q
    return (⟨id, (← IO.monoNanosNow) - start⟩, o)

/-- The paths of the inputs of a job. -/
def inputs (j : Job) : List String := [j.settings.facts, j.settings.listeners, Settings.fileName]

/-- Looks at the inputs again and again; each change makes the job be run again. -/
partial def watch (began : Nat) (j : Job) (c : Console) : IO Unit := do
  IO.sleep 300
  let now ← readFiles (inputs j)
  let mut c := c
  for path in (inputs j).filter fun path => now.text? path != c.files.text? path do
    if let some text := now.text? path then
      let (changes, c') ← perform began j c (Shell.edit j path text)
      c := c'
      for change in changes.toOption.getD [] do
        let outcomes ← analyses j c.files change.reason
        (_, c) ← perform began j c (Shell.rerun j change outcomes)
  watch began j c

/-- Tells why a command failed. -/
def fail (e : Command.Fault) : IO UInt32 := do
  IO.eprintln ("Error: " ++ e.message)
  return 1

/-- Runs a command line; the exit code tells whether it succeeded. -/
def runMain (args : List String) : IO UInt32 := do
  let began ← IO.monoMsNow
  let s : Surroundings := { args, env := ← readEnv, files := ← readFiles [Settings.fileName] }
  match s.job? with
  | .error e => fail e
  | .ok none =>
    IO.print usageText
    return 0
  | .ok (some j) =>
    let files ← readFiles (j.settings.metricsFile :: inputs j)
    let outcomes ← analyses j files j.verb.name
    let (result, c) ← perform began j { files } (Shell.start j outcomes)
    match result with
    | .error e => fail e
    | .ok () =>
      if j.settings.watch then
        let (_, c) ← perform began j c (Shell.beginWatching j)
        watch began j c
      return 0

end WidgetFlow.Terminal

/-- The program. -/
def main (args : List String) : IO UInt32 := WidgetFlow.Terminal.runMain args
