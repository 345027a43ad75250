import WidgetFlow.Settings.Key

/-!
# Flags

What is given on a command line. A flag is a name after two hyphens; its value follows after an
equals sign or as the next argument. Every setting has a flag, and there are flags that no setting
goes with. Switches need no value, and a counter is raised by each use. Some flags have a letter too,
and letters may be joined after one hyphen. Arguments that are no flags are kept, and so is everything
after two hyphens that stand alone.
-/

namespace WidgetFlow.Settings

/-- What a flag takes. -/
inductive FlagKind where
  | text
  | int
  | switch
  | counter
  deriving DecidableEq, Inhabited

/-- What the flag of a setting takes. -/
def Key.flagKind : Key → FlagKind
  | facts | listeners | format | metricsFile | verbosity => .text
  | workers => .int
  | strict | showCycles | watch => .switch
  | verbose => .counter

/-- Something that can be given by name. -/
inductive Flag where
  | setting (key : Key)
  /-- Asks how to use the program. -/
  | help
  /-- Asks for completions without descriptions. -/
  | noDescriptions
  deriving DecidableEq, Inhabited

namespace Flag

/-- The name of a flag. -/
def name : Flag → String
  | setting key => key.name
  | help => "help"
  | noDescriptions => "no-descriptions"

/-- What a flag takes. -/
def kind : Flag → FlagKind
  | setting key => key.flagKind
  | help | noDescriptions => .switch

/-- The letter of a flag. -/
def letter? : Flag → Option Char
  | setting .verbose => some 'v'
  | help => some 'h'
  | _ => none

/-- The flag as messages name it. -/
def text (f : Flag) : String :=
  (f.letter?.elim "" fun c => String.ofList ['-', c, ',', ' ']) ++ "--" ++ f.name

/-- The value of a flag that stands without one, if it may. -/
def bareValue? (f : Flag) : Option String :=
  match f.kind with
  | .switch => some "true"
  | .counter => some "+1"
  | .text | .int => none

end Flag

/-- Why flags cannot be read. -/
inductive FlagFault where
  | badSyntax (arg : String)
  | unknown (name : String)
  /-- A letter that is no flag, and the letters from it on. -/
  | unknownLetter (letters : String)
  | valueMissing (name : String)
  | badNumber (value : String) (flag : Flag) (fault : Text.LiteralFault)
  | badSwitch (value : String) (flag : Flag)
  /-- Help is asked for where it is no flag. -/
  | helpRequested
  deriving DecidableEq, Inhabited

/-- The character by which a message names the letter of a flag. All letters outside ASCII share the
one with the code `C3`, which begins the encoding of each such letter's first byte. -/
def letterText (letters : String) : String :=
  match letters.toList with
  | c :: _ => Text.quotedCode (if c.toNat < 0x80 then c.toNat else 0xC3)
  | [] => ""

/-- The wording of a fault. -/
def FlagFault.message : FlagFault → String
  | badSyntax arg => "bad flag syntax: " ++ arg
  | unknown name => "unknown flag: --" ++ name
  | unknownLetter letters => "unknown shorthand flag: " ++ letterText letters ++ " in -" ++ letters
  | valueMissing name => "flag needs an argument: --" ++ name
  | badNumber value flag fault =>
    "invalid argument " ++ Text.quoted value ++ " for " ++ Text.quoted flag.text
      ++ " flag: strconv.ParseInt: parsing " ++ Text.quoted value ++ ": " ++ fault.text
  | badSwitch value flag =>
    "invalid argument " ++ Text.quoted value ++ " for " ++ Text.quoted flag.text
      ++ " flag: strconv.ParseBool: parsing " ++ Text.quoted value ++ ": invalid syntax"
  | helpRequested => "help requested"

/-- What a command line gives. -/
structure Arguments where
  /-- The flags, the latest first. -/
  flags : List (Flag × Value) := []
  /-- The arguments that are no flags, the latest first. -/
  others : List String := []
  deriving Inhabited

namespace Arguments

/-- The arguments with a flag set to a value. -/
def set (a : Arguments) (f : Flag) (v : Value) : Arguments := { a with flags := (f, v) :: a.flags }

/-- A switch is on. -/
def isOn (a : Arguments) (f : Flag) : Bool :=
  match a.flags.lookup f with
  | some (.bool b) => b
  | _ => false

/-- How far a counter has come. -/
def count (a : Arguments) (f : Flag) : Int :=
  match a.flags.lookup f with
  | some (.int n) => n
  | _ => 0

/-- The settings that are given, the latest first. -/
def settings (a : Arguments) : List (Key × Value) :=
  a.flags.filterMap fun
    | (.setting key, v) => some (key, v)
    | _ => none

/-- Gives a flag a value. A counter is raised by the value `+1`, and turns over when it is full. -/
def give (a : Arguments) (f : Flag) (value : String) : Except FlagFault Arguments :=
  let number : Except FlagFault Arguments :=
    match Text.integer value with
    | .ok n => .ok (a.set f (.int n))
    | .error e => .error (.badNumber value f e)
  match f.kind with
  | .text => .ok (a.set f (.text value))
  | .int => number
  | .switch =>
    match Text.truth value with
    | .ok b => .ok (a.set f (.bool b))
    | .error _ => .error (.badSwitch value f)
  | .counter =>
    if value = "+1" then .ok (a.set f (.int (Decimal.wrapWord (a.count f + 1)))) else number

/-- Reads letters after one hyphen. Only flags that need no value have a letter. What a test runner
adds to a command line is passed over. -/
def readLetters (known : List Flag) : List Char → Arguments → Except FlagFault Arguments
  | [], a => .ok a
  | c :: rest, a =>
    if "test.".toList.isPrefixOf (c :: rest) then .ok a
    else match known.find? fun f => f.letter? = some c with
      | none =>
        .error (if c = 'h' then .helpRequested else .unknownLetter (String.ofList (c :: rest)))
      | some f =>
        match rest with
        | '=' :: v :: vs => a.give f (String.ofList (v :: vs))
        | _ =>
          match a.give f (f.bareValue?.getD "") with
          | .ok a => readLetters known rest a
          | .error e => .error e

/-- The name of a long flag and the value after its equals sign. -/
def splitFlag (cs : List Char) : String × Option String :=
  let name := cs.takeWhile (· ≠ '=')
  match cs.drop name.length with
  | _ :: value => (String.ofList name, some (String.ofList value))
  | [] => (String.ofList name, none)

/-- Reads arguments, the flags among them being the `known` ones. -/
def read (known : List Flag) : List String → Arguments → Except FlagFault Arguments
  | [], a => .ok a
  | arg :: args, a =>
    match arg.toList with
    | ['-', '-'] => .ok { a with others := args.reverse ++ a.others }
    | '-' :: '-' :: cs =>
      let (name, value?) := splitFlag cs
      if cs.head? = some '-' ∨ cs.head? = some '=' then .error (.badSyntax arg)
      else match known.find? (·.name = name) with
        | none => .error (if name = "help" then .helpRequested else .unknown name)
        | some f =>
          match value?.orElse fun _ => f.bareValue? with
          | some v =>
            match a.give f v with
            | .ok a => read known args a
            | .error e => .error e
          | none =>
            match args with
            | [] => .error (.valueMissing name)
            | v :: args =>
              match a.give f v with
              | .ok a => read known args a
              | .error e => .error e
    | '-' :: c :: cs =>
      match readLetters known (c :: cs) a with
      | .ok a => read known args a
      | .error e => .error e
    | _ => read known args { a with others := arg :: a.others }

end Arguments

end WidgetFlow.Settings
