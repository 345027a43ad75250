import WidgetFlow.Command.Invocation
import WidgetFlow.Proofs.Settings.CommandLine
import WidgetFlow.Settings.Layers

/-!
# A setting has the value of its highest layer

The layers say what gives a setting its value (`Sources.gives`): the flags that the command line
uses, the environment, the configuration file, and the defaults. The value of a setting is that of the
highest layer which gives one (`Wins`), and a lower layer has no say (`Wins.overruled`).

The same values come out if the layers are loaded one after the other, each over what is there
already (`Sources.merged`): then a flag that is not used is known as well, by the value it has
without being used, and is left out because its name has a value already.
-/

namespace WidgetFlow.Settings

/-! ### Variables -/

/-- The name of the setting that an environment variable is for: what follows the mark, in lower
case and with hyphens for underscores. -/
def variableKey? (name : String) : Option String :=
  let cs := name.toList
  if envMark.toList.isPrefixOf cs then
    some (String.ofList ((Text.lower (String.ofList (cs.drop envMark.length))).toList.map fun c =>
      if c = '_' then '-' else c))
  else none

/-- The variable is for a setting itself, and not for something inside of one. -/
def IsScalar (p : String × String) : Prop := ∀ key ∈ variableKey? p.1, '.' ∉ key.toList

instance (p : String × String) : Decidable (IsScalar p) :=
  inferInstanceAs (Decidable (∀ key ∈ variableKey? p.1, '.' ∉ key.toList))

/-- The value that the latest of the variables for a setting gives it. -/
def variableValue? (env : List (String × String)) (k : Key) : Option Value :=
  (env.reverse.find? fun p => variableKey? p.1 = some k.name).map fun p => .text p.2

theorem envEntry?_of_isScalar {name text : String} (scalar : IsScalar (name, text)) :
    envEntry? name text =
      ((variableKey? name).filter (· ≠ "")).map fun key => (key, .text text) := by
  unfold envEntry? variableKey?
  unfold IsScalar variableKey? at scalar
  dsimp only at scalar ⊢
  split
  case isTrue marked =>
    rw [if_pos marked] at scalar
    have plain := scalar _ rfl
    rw [String.toList_ofList] at plain
    generalize ((Text.lower (String.ofList (name.toList.drop envMark.length))).toList.map fun c =>
      if c = '_' then '-' else c) = key at plain ⊢
    cases key with
    | nil => rfl
    | cons c cs =>
      have kept : (some (String.ofList (c :: cs))).filter (· ≠ "") =
          some (String.ofList (c :: cs)) := by
        simp
      rw [kept]
      simp [plain]
  case isFalse => rfl

theorem lookup_envLayer {env : List (String × String)} (scalar : ∀ p ∈ env, IsScalar p) (k : Key) :
    (envLayer env).lookup k.name = variableValue? env k := by
  have named : k.name ≠ "" := by cases k <;> decide
  rw [envLayer, ← List.filterMap_reverse, variableValue?]
  have scalar : ∀ p ∈ env.reverse, IsScalar p := fun p there => scalar p (List.mem_reverse.1 there)
  generalize env.reverse = latest at scalar ⊢
  induction latest with
  | nil => rfl
  | cons p rest ih =>
    obtain ⟨name, text⟩ := p
    obtain ⟨here, later⟩ := List.forall_mem_cons.1 scalar
    rw [List.filterMap_cons]
    dsimp only
    rw [envEntry?_of_isScalar here]
    by_cases meant : variableKey? name = some k.name
    · rw [List.find?_cons_of_pos (by simpa using meant), meant, Option.filter_some,
        if_pos (by simpa using named)]
      simp
    · rw [List.find?_cons_of_neg (by simpa using meant), ← ih later]
      cases entry : ((variableKey? name).filter (· ≠ "")).map fun key => (key, Value.text text) with
      | none => rfl
      | some e =>
        obtain ⟨key, kept, rfl⟩ := Option.map_eq_some_iff.1 entry
        have differs : (k.name == key) = false :=
          beq_eq_false_iff_ne.2 fun same => meant (same ▸ (Option.filter_eq_some_iff.1 kept).1)
        simp only [List.lookup_cons, differs]

/-! ### Layers -/

/-- What may give a setting its value. -/
inductive Layer where
  | default
  | file
  | environment
  | flag
  deriving DecidableEq

/-- How high a layer is. -/
def Layer.rank : Layer → Nat
  | default => 0
  | file => 1
  | environment => 2
  | flag => 3

/-- The first layer is above the second. -/
def Layer.Above (high low : Layer) : Prop := low.rank < high.rank

namespace Layer

variable {high : Layer}

theorem eq_of_rank_eq {l l' : Layer} (level : l.rank = l'.rank) : l = l' := by
  cases l <;> cases l' <;> first | rfl | cases level

theorem not_above_flag : ¬ high.Above flag := by
  cases high <;> simp [Above, rank]

theorem above_environment_iff : high.Above environment ↔ high = flag := by
  cases high <;> simp [Above, rank]

theorem above_file_iff : high.Above file ↔ high = flag ∨ high = environment := by
  cases high <;> simp [Above, rank]

theorem above_default_iff :
    high.Above default ↔ high = flag ∨ high = environment ∨ high = file := by
  cases high <;> simp [Above, rank]

end Layer

/-- What settings are made from. -/
structure Sources where
  /-- The number of processors. -/
  cpus : Nat
  /-- The text of the configuration file, if there is one. -/
  file? : Option String
  /-- The environment variables, in their order. -/
  env : List (String × String)
  /-- The flags that a command line may use. -/
  known : List Flag
  args : List String

/-- The file and the command line can be read, and no variable is for something inside of a
setting. -/
structure Sources.Reads (s : Sources) (entries : List (String × Value)) (a : Arguments) : Prop where
  file : s.file?.elim (some []) Toml.parse = some entries
  args : Arguments.read s.known s.args {} = .ok a
  env : ∀ p ∈ s.env, IsScalar p

namespace Sources

variable (s : Sources) (entries : List (String × Value)) (a : Arguments)

/-- The value that a layer gives to a setting. -/
def gives : Layer → Key → Option Value
  | .flag, k => a.flags.lookup (.setting k)
  | .environment, k => variableValue? s.env k
  | .file, k => entries.lookup k.name
  | .default, k => some (k.default s.cpus)

/-- The layers as they are looked up. -/
def layers : Layers := ⟨a.settings, envLayer s.env, entries, s.cpus⟩

/-- The settings of the sources. -/
def load : Except Fault Settings := Settings.load s.cpus s.file? s.env a.settings

end Sources

/-- The value is what the highest layer gives that gives anything. -/
def Wins (given : Layer → Option Value) (v : Value) : Prop :=
  ∃ l, given l = some v ∧ ∀ high : Layer, high.Above l → given high = none

variable {s : Sources} {entries : List (String × Value)} {a : Arguments}

theorem Wins.unique {given : Layer → Option Value} {v v' : Value} (wins : Wins given v)
    (wins' : Wins given v') : v = v' := by
  obtain ⟨l, gives, none⟩ := wins
  obtain ⟨l', gives', none'⟩ := wins'
  rcases Nat.lt_trichotomy l.rank l'.rank with below | level | above
  · cases (none l' below).symm.trans gives'
  · obtain rfl := Layer.eq_of_rank_eq level
    exact Option.some.inj (gives.symm.trans gives')
  · cases (none' l above).symm.trans gives

/-- The value that is looked up is that of the highest layer. -/
theorem wins_value (reads : s.Reads entries a) (k : Key) :
    Wins (s.gives entries a · k) ((s.layers entries a).value k) := by
  unfold Sources.layers Layers.value
  rw [Arguments.lookup_settings]
  dsimp only
  rw [lookup_envLayer reads.env]
  cases flag : a.flags.lookup (.setting k) with
  | some v => exact ⟨.flag, flag, fun high above => absurd above Layer.not_above_flag⟩
  | none =>
    cases env : variableValue? s.env k with
    | some v =>
      refine ⟨.environment, env, fun high above => ?_⟩
      obtain rfl := Layer.above_environment_iff.1 above
      exact flag
    | none =>
      cases file : entries.lookup k.name with
      | some v =>
        refine ⟨.file, file, fun high above => ?_⟩
        obtain rfl | rfl := Layer.above_file_iff.1 above
        exacts [flag, env]
      | none =>
        refine ⟨.default, rfl, fun high above => ?_⟩
        obtain rfl | rfl | rfl := Layer.above_default_iff.1 above
        exacts [flag, env, file]

/-! ### Layers over each other -/

/-- The value of a flag that is not used. -/
def Flag.unused : Flag → Value
  | .setting key => key.default 1
  | .help | .noDescriptions => .bool false

/-- The entry of a known flag over values that are there already. A flag that is not used is left
out, unless nothing has its name. -/
def flagItem? (a : Arguments) (below : List (String × Value)) (f : Flag) :
    Option (String × Value) :=
  match a.flags.lookup f with
  | some v => some (f.name, v)
  | none => if (below.lookup f.name).isSome then none else some (f.name, f.unused)

/-- The layer of the known flags over values that are there already. -/
def flagLayer (known : List Flag) (a : Arguments) (below : List (String × Value)) :
    List (String × Value) :=
  known.filterMap (flagItem? a below)

/-- All layers over each other. -/
def Sources.merged (s : Sources) (entries : List (String × Value)) (a : Arguments) :
    List (String × Value) :=
  let defaults := Key.all.map fun k => (k.name, k.default s.cpus)
  let below := envLayer s.env ++ (entries ++ defaults)
  flagLayer s.known a below ++ below

theorem Key.ofName?_name (k : Key) : Key.ofName? k.name = some k := by
  cases k <;> rfl

theorem Flag.name_eq_iff {f : Flag} {k : Key} : f.name = k.name ↔ f = .setting k := by
  cases f with
  | setting key =>
    rw [Flag.setting.injEq]
    refine ⟨fun same => ?_, fun same => congrArg Key.name same⟩
    have named : Key.ofName? key.name = Key.ofName? k.name := congrArg Key.ofName? same
    rw [Key.ofName?_name, Key.ofName?_name] at named
    exact Option.some.inj named
  | help | noDescriptions => cases k <;> decide

theorem lookup_defaults (cpus : Nat) (k : Key) :
    (Key.all.map fun k => (k.name, k.default cpus)).lookup k.name = some (k.default cpus) := by
  cases k <;> rfl

theorem name_of_flagItem? {below : List (String × Value)} {f : Flag} {e : String × Value}
    (entry : flagItem? a below f = some e) : e.1 = f.name := by
  unfold flagItem? at entry
  split at entry
  case h_1 =>
    cases entry
    rfl
  case h_2 =>
    split at entry
    · cases entry
    · cases entry
      rfl

theorem flagItem?_setting {below : List (String × Value)} {k : Key}
    (there : (below.lookup k.name).isSome) :
    flagItem? a below (.setting k) = (a.flags.lookup (.setting k)).map (k.name, ·) := by
  have there : (below.lookup (Flag.setting k).name).isSome := there
  unfold flagItem?
  rw [if_pos there]
  cases a.flags.lookup (.setting k) <;> rfl

/-- Over a value that is there already, the layer of the flags has what the command line gives. -/
theorem lookup_flagLayer {below : List (String × Value)} {k : Key}
    (there : (below.lookup k.name).isSome) (known : List Flag) :
    (flagLayer known a below).lookup k.name =
      if .setting k ∈ known then a.flags.lookup (.setting k) else none := by
  induction known with
  | nil => rfl
  | cons f known ih =>
    unfold flagLayer at ih ⊢
    rw [List.filterMap_cons]
    by_cases same : f = .setting k
    · subst same
      rw [if_pos List.mem_cons_self, flagItem?_setting there]
      cases given : a.flags.lookup (.setting k) with
      | some v => simp
      | none =>
        rw [given, ite_self] at ih
        exact ih
    · have member : Flag.setting k ∈ f :: known ↔ .setting k ∈ known := by
        simp [List.mem_cons, Ne.symm same]
      simp only [member]
      rw [← ih]
      cases entry : flagItem? a below f with
      | none => rfl
      | some e =>
        have differs : (k.name == e.1) = false := beq_eq_false_iff_ne.2 fun named =>
          same (Flag.name_eq_iff.1 (named.trans (name_of_flagItem? entry)).symm)
        obtain ⟨name, v⟩ := e
        simp only [List.lookup_cons, differs]

/-- Loading the layers over each other gives the values that are looked up. -/
theorem lookup_merged (reads : s.Reads entries a) (k : Key) :
    (s.merged entries a).lookup k.name = some ((s.layers entries a).value k) := by
  have there : ((envLayer s.env ++ (entries ++ Key.all.map fun k =>
      (k.name, k.default s.cpus))).lookup k.name).isSome := by
    simp [List.lookup_append, lookup_defaults]
  rw [Sources.merged, List.lookup_append, lookup_flagLayer there, List.lookup_append,
    List.lookup_append, lookup_defaults, Sources.layers, Layers.value, Arguments.lookup_settings]
  dsimp only
  cases flag : a.flags.lookup (.setting k) with
  | some v =>
    rw [if_pos (Arguments.mem_known_of_lookup reads.args flag), Option.some_or]
  | none =>
    rw [ite_self, Option.none_or]
    cases (envLayer s.env).lookup k.name with
    | some v => rfl
    | none => cases entries.lookup k.name <;> rfl

/-! ### Converting and checking -/

/-- The value can be converted to what its setting takes. -/
def Converts (k : Key) (v : Value) : Prop :=
  match k.flagKind with
  | .text => v.asText?.isSome
  | .int | .counter => v.asInt?.isSome
  | .switch => v.asBool?.isSome

/-- The settings are the values, converted; they can be used. -/
structure Reading (value : Key → Value) (c : Settings) : Prop where
  facts : (value .facts).asText? = some c.facts
  listeners : (value .listeners).asText? = some c.listeners
  strict : (value .strict).asBool? = some c.strict
  workers : (value .workers).asInt? = some c.workers
  format : (value .format).asText? = some c.format.name
  showCycles : (value .showCycles).asBool? = some c.showCycles
  watch : (value .watch).asBool? = some c.watch
  metricsFile : (value .metricsFile).asText? = some c.metricsFile
  verbosity : (value .verbosity).asText? = some c.verbosity
  verbose : (value .verbose).asInt? = some c.verbose
  working : 1 ≤ c.workers

theorem Format.ofName?_eq_some_iff {word : String} {f : Format} :
    Format.ofName? word = some f ↔ word = f.name := by
  unfold Format.ofName?
  split <;> cases f <;> simp_all [Format.name]

/-- Settings before they are checked. -/
def draft (c : Settings) : Draft where
  facts := c.facts
  listeners := c.listeners
  strict := c.strict
  workers := c.workers
  format := c.format.name
  showCycles := c.showCycles
  watch := c.watch
  metricsFile := c.metricsFile
  verbosity := c.verbosity
  verbose := c.verbose

theorem Draft.check_eq_ok_iff {d : Draft} {c : Settings} :
    d.check = .ok c ↔ d = draft c ∧ 1 ≤ c.workers := by
  unfold Draft.check
  constructor
  · intro checked
    split at checked
    case h_1 => cases checked
    case h_2 f known =>
      split at checked
      case isTrue => cases checked
      case isFalse enough =>
        cases checked
        obtain ⟨facts, listeners, strict, workers, format, _⟩ := d
        obtain rfl : format = f.name := Format.ofName?_eq_some_iff.1 known
        exact ⟨rfl, Int.not_lt.1 enough⟩
  · rintro ⟨rfl, enough⟩
    have known : Format.ofName? (draft c).format = some c.format :=
      Format.ofName?_eq_some_iff.2 rfl
    have working : ¬ (draft c).workers < 1 := Int.not_lt.2 enough
    simp only [known, if_neg working]
    rfl

theorem Draft.ofValues?_eq_some_iff {value : Key → Value} {c : Settings} :
    Draft.ofValues? value = some (draft c) ∧ 1 ≤ c.workers ↔ Reading value c := by
  simp only [Draft.ofValues?, draft, Option.bind_eq_bind, Option.bind_eq_some_iff, Option.pure_def,
    Option.some.injEq, Draft.mk.injEq]
  constructor
  · rintro ⟨⟨_, facts, _, listeners, _, strict, _, workers, _, format, _, showCycles, _, watch, _,
      metricsFile, _, verbosity, _, verbose, rfl, rfl, rfl, rfl, rfl, rfl, rfl, rfl, rfl, rfl⟩,
      enough⟩
    exact ⟨facts, listeners, strict, workers, format, showCycles, watch, metricsFile, verbosity,
      verbose, enough⟩
  · intro reading
    refine ⟨⟨_, reading.facts, _, reading.listeners, _, reading.strict, _, reading.workers, _,
      reading.format, _, reading.showCycles, _, reading.watch, _, reading.metricsFile, _,
      reading.verbosity, _, reading.verbose, ?_⟩, reading.working⟩
    trivial

/-- The layers make the settings that are their values, if these can be converted and used. -/
theorem ofLayers_eq_ok_iff {l : Layers} {c : Settings} :
    ofLayers l = .ok c ↔ Reading l.value c := by
  rw [← Draft.ofValues?_eq_some_iff]
  unfold ofLayers
  constructor
  · intro made
    split at made
    case h_1 => cases made
    case h_2 d drawn =>
      obtain ⟨rfl, enough⟩ := Draft.check_eq_ok_iff.1 made
      exact ⟨drawn, enough⟩
  · rintro ⟨drawn, enough⟩
    rw [drawn]
    exact Draft.check_eq_ok_iff.2 ⟨rfl, enough⟩

/-- There are settings exactly if all values can be converted, the format is known and there is a
worker. -/
theorem exists_reading_iff {value : Key → Value} :
    (∃ c, Reading value c) ↔ (∀ k, Converts k (value k)) ∧
      (∃ f : Format, (value .format).asText? = some f.name) ∧
      ∃ n, (value .workers).asInt? = some n ∧ 1 ≤ n := by
  constructor
  · rintro ⟨c, reading⟩
    refine ⟨fun k => ?_, ⟨c.format, reading.format⟩, c.workers, reading.workers, reading.working⟩
    cases k with
    | facts => exact Option.isSome_iff_exists.2 ⟨_, reading.facts⟩
    | listeners => exact Option.isSome_iff_exists.2 ⟨_, reading.listeners⟩
    | strict => exact Option.isSome_iff_exists.2 ⟨_, reading.strict⟩
    | workers => exact Option.isSome_iff_exists.2 ⟨_, reading.workers⟩
    | format => exact Option.isSome_iff_exists.2 ⟨_, reading.format⟩
    | showCycles => exact Option.isSome_iff_exists.2 ⟨_, reading.showCycles⟩
    | watch => exact Option.isSome_iff_exists.2 ⟨_, reading.watch⟩
    | metricsFile => exact Option.isSome_iff_exists.2 ⟨_, reading.metricsFile⟩
    | verbosity => exact Option.isSome_iff_exists.2 ⟨_, reading.verbosity⟩
    | verbose => exact Option.isSome_iff_exists.2 ⟨_, reading.verbose⟩
  · rintro ⟨converts, ⟨format, named⟩, workers, many, enough⟩
    obtain ⟨facts, facts_eq⟩ := Option.isSome_iff_exists.1 (converts .facts)
    obtain ⟨listeners, listeners_eq⟩ := Option.isSome_iff_exists.1 (converts .listeners)
    obtain ⟨strict, strict_eq⟩ := Option.isSome_iff_exists.1 (converts .strict)
    obtain ⟨showCycles, showCycles_eq⟩ := Option.isSome_iff_exists.1 (converts .showCycles)
    obtain ⟨watch, watch_eq⟩ := Option.isSome_iff_exists.1 (converts .watch)
    obtain ⟨metricsFile, metricsFile_eq⟩ := Option.isSome_iff_exists.1 (converts .metricsFile)
    obtain ⟨verbosity, verbosity_eq⟩ := Option.isSome_iff_exists.1 (converts .verbosity)
    obtain ⟨verbose, verbose_eq⟩ := Option.isSome_iff_exists.1 (converts .verbose)
    exact ⟨⟨facts, listeners, strict, workers, format, showCycles, watch, metricsFile, verbosity,
      verbose⟩, facts_eq, listeners_eq, strict_eq, many, named, showCycles_eq, watch_eq,
      metricsFile_eq, verbosity_eq, verbose_eq, enough⟩

/-- What a command line gives can be converted. -/
theorem converts_of_flag (reads : s.Reads entries a) {k : Key} {v : Value}
    (given : s.gives entries a .flag k = some v) : Converts k v := by
  have used := Arguments.lookup_read reads.args (.setting k)
  rw [show a.flags.lookup (.setting k) = some v from given] at used
  cases last : Arguments.lastUse? s.known s.args (.setting k) with
  | none =>
    rw [last] at used
    cases used
  | some use =>
    rw [last] at used
    cases used with
    | some stands =>
      obtain ⟨meant, stands⟩ := stands
      have kind : use.1.kind = k.flagKind := congrArg Flag.kind meant.symm
      rw [kind] at stands
      unfold Converts
      cases taken : k.flagKind with
      | text =>
        simp only [taken] at stands ⊢
        rw [stands]
        rfl
      | int =>
        simp only [taken] at stands ⊢
        obtain ⟨n, -, rfl⟩ := stands
        rfl
      | switch =>
        simp only [taken] at stands ⊢
        obtain ⟨b, -, rfl⟩ := stands
        rfl
      | counter =>
        simp only [taken] at stands ⊢
        obtain ⟨n, rfl⟩ := stands
        rfl

theorem converts_default (cpus : Nat) (k : Key) : Converts k (k.default cpus) := by
  cases k <;> rfl

/-! ### Differences that do not matter -/

/-- Wherever layers differ, a higher layer gives the same value in both, and so overrules the
difference. -/
def Overruled (given given' : Layer → Option Value) : Prop :=
  ∀ l, given l = given' l ∨
    ∃ high : Layer, high.Above l ∧ (given high).isSome ∧ given high = given' high

theorem Wins.overruled {given given' : Layer → Option Value} {v : Value} (wins : Wins given v)
    (same : Overruled given given') : Wins given' v := by
  obtain ⟨l, gives, none⟩ := wins
  have nothing {high : Layer} (above : high.Above l) : ¬ (given high).isSome := by
    rw [none high above]
    exact Bool.false_ne_true
  refine ⟨l, ?_, fun higher above => ?_⟩
  · rcases same l with equal | ⟨high, above, isSome, -⟩
    · exact equal ▸ gives
    · exact absurd isSome (nothing above)
  · rcases same higher with equal | ⟨high, above', isSome, -⟩
    · exact equal ▸ none higher above
    · exact absurd isSome (nothing (Nat.lt_trans above above'))

theorem load_eq_ofLayers (reads : s.Reads entries a) :
    s.load a = ofLayers (s.layers entries a) := by
  have read := reads.file
  unfold Sources.load Settings.load
  cases file : s.file? with
  | none =>
    rw [file] at read
    cases read
    rfl
  | some text =>
    rw [file] at read
    have parsed : Toml.parse text = some entries := read
    simp only [parsed]
    rfl

/-- Settings have the values of their highest layers: a flag that is used, with the value of its
last use, then the latest variable for the setting, then the file, then the default. Loading the
layers over each other comes to the same, since a flag that is not used is left out. There are
settings exactly if these values can be converted, the format is known and there is a worker; only
the environment and the file can give a value that cannot be converted. What a layer gives does not
matter where a higher layer gives something. -/
theorem load_exact (reads : s.Reads entries a) :
    let value := (s.layers entries a).value
    (∀ k, Option.Rel (fun use v => Arguments.Stands use (.setting k, v))
      (Arguments.lastUse? s.known s.args (.setting k)) (s.gives entries a .flag k)) ∧
    (∀ k, Wins (s.gives entries a · k) (value k)) ∧
    (∀ k, (s.merged entries a).lookup k.name = some (value k)) ∧
    (∀ c, s.load a = .ok c ↔ Reading value c) ∧
    ((∃ c, s.load a = .ok c) ↔ (∀ k, Converts k (value k)) ∧
      (∃ f : Format, (value .format).asText? = some f.name) ∧
      ∃ n, (value .workers).asInt? = some n ∧ 1 ≤ n) ∧
    (∀ k v, s.gives entries a .flag k = some v ∨ s.gives entries a .default k = some v →
      Converts k v) ∧
    ∀ (s' : Sources) entries' a', s'.Reads entries' a' →
      (∀ k, Overruled (s.gives entries a · k) (s'.gives entries' a' · k)) →
      s'.load a' = s.load a := by
  intro value
  have made (c : Settings) : s.load a = .ok c ↔ Reading value c := by
    rw [load_eq_ofLayers reads]
    exact ofLayers_eq_ok_iff
  refine ⟨fun k => Arguments.lookup_read reads.args (.setting k), wins_value reads,
    lookup_merged reads, made, ?_, ?_, fun s' entries' a' reads' same => ?_⟩
  · rw [← exists_reading_iff]
    exact exists_congr made
  · rintro k v (flag | default)
    · exact converts_of_flag reads flag
    · cases default
      exact converts_default s.cpus k
  · rw [load_eq_ofLayers reads, load_eq_ofLayers reads']
    have values : (s'.layers entries' a').value = value :=
      funext fun k => (wins_value reads' k).unique ((wins_value reads k).overruled (same k))
    unfold ofLayers
    rw [values]

theorem eq_ok_of_toOption {ε α : Type} {x : Except ε α} {a : α} (given : x.toOption = some a) :
    x = .ok a := by
  cases x with
  | ok b => exact congrArg _ (Option.some.inj given)
  | error e => cases given

/-- The format is given by a flag, although that is the default, and the workers by a variable. The
variable for the format has no say. -/
def formatSources (word : String) : Sources where
  cpus := 8
  file? := some "workers = 3\nstrict = true\n"
  env := [("GUIFLOW_WORKERS", "5"), ("GUIFLOW_FORMAT", word)]
  known := Command.Verb.solve.flags
  args := ["--format", "text"]

theorem reads_format : ∃ entries a, ∀ word, (formatSources word).Reads entries a := by
  have parsed :
      ((some "workers = 3\nstrict = true\n").elim (some []) Toml.parse).isSome = true := by
    decide +kernel
  have read : (Arguments.read Command.Verb.solve.flags ["--format", "text"] {}).toOption.isSome =
      true := by
    decide +kernel
  have workers : IsScalar ("GUIFLOW_WORKERS", "5") := by decide +kernel
  have format : IsScalar ("GUIFLOW_FORMAT", "") := by decide +kernel
  obtain ⟨entries, parsed⟩ := Option.isSome_iff_exists.1 parsed
  obtain ⟨a, read⟩ := Option.isSome_iff_exists.1 read
  exact ⟨entries, a, fun word => ⟨parsed, eq_ok_of_toOption read,
    List.forall_mem_cons.2 ⟨workers, List.forall_mem_singleton.2 format⟩⟩⟩

theorem settings_format {entries : List (String × Value)} {a : Arguments} {word : String}
    (reads : (formatSources word).Reads entries a) : a.settings = [(.format, .text "text")] := by
  have used : Arguments.uses Command.Verb.solve.flags ["--format", "text"] =
      [(.setting .format, "text")] := by
    decide +kernel
  obtain ⟨new, flags, stand⟩ := Arguments.gives_read reads.args
  have once : List.Forall₂ Arguments.Stands [(.setting .format, "text")] new := by
    rw [formatSources] at stand
    dsimp only at stand
    rw [used] at stand
    exact stand
  cases once with
  | @cons _ given _ _ stands rest =>
    obtain ⟨f, v⟩ := given
    cases rest
    obtain ⟨rfl, rfl⟩ : f = Flag.setting .format ∧ v = Value.text "text" := stands
    rw [Arguments.settings, flags]
    rfl

theorem load_exact_format : ∃ entries a, (formatSources "json").Reads entries a ∧
    (formatSources "json").load a = .ok { workers := 5, strict := true } ∧
    Reading ((formatSources "json").layers entries a).value { workers := 5, strict := true } ∧
    (formatSources "xml").load a = .ok { workers := 5, strict := true } := by
  obtain ⟨entries, a, reads⟩ := reads_format
  have loaded : (formatSources "json").load a = .ok { workers := 5, strict := true } := by
    rw [Sources.load, settings_format (reads "json")]
    refine eq_ok_of_toOption ?_
    decide +kernel
  obtain ⟨-, -, -, made, -, -, same⟩ := load_exact (reads "json")
  refine ⟨entries, a, reads "json", loaded, (made _).1 loaded, ?_⟩
  refine (same (formatSources "xml") entries a (reads "xml") fun k l => ?_).trans loaded
  -- The words differ in the environment only, and there only for the format, which a flag gives.
  cases l with
  | flag | file | default => exact .inl rfl
  | environment =>
    by_cases isFormat : k = .format
    · subst isFormat
      refine .inr ⟨.flag, Layer.above_environment_iff.2 rfl, ?_, rfl⟩
      show (a.flags.lookup (.setting .format)).isSome = true
      rw [← Arguments.lookup_settings, settings_format (reads "json")]
      rfl
    · refine .inl (congrArg (Option.map _) ?_)
      show _ = List.find? _ (formatSources "xml").env.reverse
      revert isFormat
      cases k <;> decide +kernel

end WidgetFlow.Settings
