import WidgetFlow.Command.Suggestion
import WidgetFlow.Settings.Flag

/-!
# Invocations

What a command line asks for. The first word that is neither a flag nor the value of one names the
command; it may stand anywhere among the flags. What is left is read with the flags of that command,
and at most one word may remain, the path of the facts. A wish for help is heard only once all flags
are read, so that a wrong flag after it is still a fault, and a later flag may take it back.

Beside the two commands that do the work there are `help`, which has a topic, and `completion`, which
has a command of its own for each shell.
-/

namespace WidgetFlow.Command

open Settings (Arguments Flag FlagFault Key Value)

/-- What can be done. -/
inductive Verb where
  | solve
  | cycles
  deriving DecidableEq, Inhabited

namespace Verb

/-- The name of a command. -/
def name : Verb → String
  | solve => "solve"
  | cycles => "cycles"

/-- The command with a name. -/
def ofName? : String → Option Verb
  | "solve" => some solve
  | "cycles" => some cycles
  | _ => none

end Verb

/-- The settings that every command takes. -/
def commonKeys : List Key :=
  [.facts, .listeners, .strict, .workers, .format, .metricsFile, .verbosity, .verbose]

/-- The settings of a command. -/
def Verb.keys : Verb → List Key
  | solve => commonKeys ++ [.showCycles, .watch]
  | cycles => commonKeys

/-- The flags that are known before the command is: those of the common settings. -/
def commonFlags : List Flag := commonKeys.map .setting

/-- The flags for the settings of a command. -/
def Verb.flags (v : Verb) : List Flag := v.keys.map .setting

/-- What is asked for. -/
structure Invocation where
  verb : Verb
  /-- The settings that are given, the latest first. -/
  settings : List (Key × Value) := []
  /-- The path of the facts, if it is given outside the flags. -/
  facts? : Option String := none
  deriving Inhabited

/-- Why a command line cannot be understood. -/
inductive UsageFault where
  | unknownCommand (word : String)
  /-- A word after a command that takes none. -/
  | unexpectedWord (word command : String)
  | flags (fault : FlagFault)
  | tooManyWords (count : Nat)
  deriving DecidableEq, Inhabited

/-- The commands that may be suggested. -/
def suggestible : List String := ["solve", "cycles", "completion"]

/-- The wording of a fault. -/
def UsageFault.message : UsageFault → String
  | unknownCommand word =>
    "unknown command " ++ Text.quoted word ++ " for \"guiflow\"" ++ suggestionText suggestible word
  | unexpectedWord word command =>
    "unknown command " ++ Text.quoted word ++ " for " ++ Text.quoted ("guiflow " ++ command)
  | flags fault => fault.message
  | tooManyWords count => "accepts at most 1 arg(s), received " ++ toString count

/-- What a command line comes to. -/
inductive Request where
  /-- A word on how to use the program. -/
  | help
  | invoke (i : Invocation)
  deriving Inhabited

/-- The next argument is taken to be the value of this one: a flag without an equals sign that is not
known to need no value. -/
def takesNext (known : List Flag) (arg : String) : Bool :=
  let cs := arg.toList
  !cs.contains '=' && match cs with
    | '-' :: '-' :: name => !known.any fun f => f.bareValue?.isSome && f.name = String.ofList name
    | ['-', c] => c.toNat < 0x80 && !known.any fun f => f.bareValue?.isSome && f.letter? = some c
    | _ => false

/-- The arguments that are neither flags nor values of flags. A flag whose value would be the last
argument ends the search. -/
def wordsOf (known : List Flag) : List String → List String
  | [] => []
  | arg :: args =>
    if arg = "--" then []
    else if takesNext known arg then
      match args with
      | [] => []
      | _ :: rest => if rest.isEmpty then [] else wordsOf known rest
    else if arg = "" ∨ arg.toList.head? = some '-' then wordsOf known args
    else arg :: wordsOf known args

/-- The arguments without the first occurrence of a word that is no value of a flag. -/
def removeWord (known : List Flag) (word : String) : List String → List String
  | [] => []
  | arg :: args =>
    if arg = "--" then arg :: args
    else if takesNext known arg then
      match args with
      | [] => [arg]
      | value :: rest => arg :: value :: removeWord known word rest
    else if arg = word then args
    else arg :: removeWord known word args

/-- Reads arguments with `known` flags and the one for help. There is nothing if help is asked for. -/
def readFlags (known : List Flag) (args : List String) : Except UsageFault (Option Arguments) :=
  match Arguments.read (.help :: known) args {} with
  | .error e => .error (.flags e)
  | .ok a => .ok (if a.isOn .help then none else some a)

/-- Reads the arguments of a command that does the work. -/
def Invocation.read (verb : Verb) (args : List String) : Except UsageFault Request :=
  match readFlags verb.flags args with
  | .error e => .error e
  | .ok none => .ok .help
  | .ok (some a) =>
    match a.others with
    | [] => .ok (.invoke ⟨verb, a.settings, none⟩)
    | [facts] => .ok (.invoke ⟨verb, a.settings, some facts⟩)
    | others => .error (.tooManyWords others.length)

namespace Request

/-- Reads arguments after which there is only help to give. -/
def readTopic (args : List String) : Except UsageFault Request :=
  (readFlags commonFlags args).map fun _ => .help

/-- The shells that can be told how to complete a command line. -/
def shells : List String := ["bash", "zsh", "fish", "powershell"]

/-- Reads the arguments of the command for completions, whose next word is a shell. -/
def readCompletion (args : List String) : Except UsageFault Request :=
  match (wordsOf commonFlags args).head?.filter (shells.contains ·) with
  | none => readTopic args
  | some shell =>
    match readFlags (.noDescriptions :: commonFlags) (removeWord commonFlags shell args) with
    | .error e => .error e
    | .ok none => .ok .help
    | .ok (some a) =>
      match a.others.getLast? with
      | some word => .error (.unexpectedWord word ("completion " ++ shell))
      | none => .ok .help

/-- Reads a command line. Without a command it asks for help, if its flags can be read. -/
def ofArgs (args : List String) : Except UsageFault Request :=
  match wordsOf commonFlags args with
  | [] => readTopic args
  | word :: _ =>
    let rest := removeWord commonFlags word args
    match Verb.ofName? word with
    | some verb => Invocation.read verb rest
    | none =>
      if word = "help" then readTopic rest
      else if word = "completion" then readCompletion rest
      else .error (.unknownCommand word)

end Request

end WidgetFlow.Command
