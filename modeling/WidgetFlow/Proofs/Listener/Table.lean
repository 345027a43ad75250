import Mathlib.Data.List.AList
import WidgetFlow.Listener.Table
import WidgetFlow.Proofs.Ascending

/-!
# Which listener tables are accepted, and what they answer

A list of registrations is in order if every entry is named and has handlers, and no two are for one
method (`Proper`). Exactly such lists become tables; of any other list the first entry that breaks a
rule is reported, by the first rule that it breaks (`Breaks`). An accepted table has one entry at most
for a method, and answers with it; an interface may have several, and the first one is the answer.

The entries can be checked and filed in one pass that keeps an index of methods, which refuses a key
it has, and an index of interfaces, which keeps what it has (`Indexes`). Filing an entry does to the
answers of the indexes what adding it does to those of the table (`Indexes.Answer.file`), so the pass
reports the same fault, and the indexes answer like the table (`ofRegistrations_exact`).
-/

namespace WidgetFlow

namespace ListenerTable

variable {before rs : List Registration} {r entry : Registration} {fault : TableFault}

/-- Every entry is named and has handlers, and no two entries are for one method. -/
structure Proper (rs : List Registration) : Prop where
  method : ∀ r ∈ rs, r.method ≠ ""
  interface : ∀ r ∈ rs, r.interface ≠ ""
  handlers : ∀ r ∈ rs, r.handlers ≠ []
  apart : rs.Pairwise (·.method ≠ ·.method)

/-- The first rule that the entry after those in `before` breaks: its names are looked at, then its
handlers, then whether there is an entry for its method already. -/
inductive Breaks (before : List Registration) (r : Registration) : TableFault → Prop where
  | unnamed (missing : r.method = "" ∨ r.interface = "") : Breaks before r (.unnamed before.length)
  | noHandlers (method : r.method ≠ "") (interface : r.interface ≠ "") (none : r.handlers = []) :
      Breaks before r (.noHandlers r.method)
  | duplicate (method : r.method ≠ "") (interface : r.interface ≠ "") (some : r.handlers ≠ [])
      (taken : ∃ earlier ∈ before, earlier.method = r.method) :
      Breaks before r (.duplicate r.method)

/-- The entry is the first one of an interface. -/
def IsFirstOf (t : ListenerTable) (interface : String) (entry : Registration) : Prop :=
  entry.interface = interface ∧ ∃ earlier later, t.registrations = earlier ++ entry :: later ∧
    ∀ e ∈ earlier, e.interface ≠ interface

/-- The entry is the only one of a method. -/
def IsOnlyOf (t : ListenerTable) (method : String) (entry : Registration) : Prop :=
  entry.method = method ∧ ∃ earlier later, t.registrations = earlier ++ entry :: later ∧
    ∀ e ∈ earlier ++ later, e.method ≠ method

/-! ### Acceptance -/

theorem proper_nil : Proper [] where
  method _ there := nomatch there
  interface _ there := nomatch there
  handlers _ there := nomatch there
  apart := .nil

theorem proper_snoc_iff : Proper (before ++ [r]) ↔ Proper before ∧ r.method ≠ "" ∧
    r.interface ≠ "" ∧ r.handlers ≠ [] ∧ ∀ earlier ∈ before, earlier.method ≠ r.method := by
  constructor
  · intro proper
    have last : r ∈ before ++ [r] := List.mem_append_right _ (List.mem_singleton_self r)
    obtain ⟨apart, -, others⟩ := List.pairwise_append.1 proper.apart
    refine ⟨⟨fun e there => ?_, fun e there => ?_, fun e there => ?_, apart⟩, proper.method r last,
      proper.interface r last, proper.handlers r last,
      fun earlier there => others earlier there r (List.mem_singleton_self r)⟩
    · exact proper.method e (List.mem_append_left _ there)
    · exact proper.interface e (List.mem_append_left _ there)
    · exact proper.handlers e (List.mem_append_left _ there)
  · rintro ⟨proper, method, interface, handlers, apart⟩
    constructor
    · exact List.forall_mem_append.2 ⟨proper.method, List.forall_mem_singleton.2 method⟩
    · exact List.forall_mem_append.2 ⟨proper.interface, List.forall_mem_singleton.2 interface⟩
    · exact List.forall_mem_append.2 ⟨proper.handlers, List.forall_mem_singleton.2 handlers⟩
    · refine List.pairwise_append.2 ⟨proper.apart, List.pairwise_singleton _ _, ?_⟩
      intro earlier there e last
      rw [List.mem_singleton.1 last]
      exact apart earlier there

theorem Proper.of_append {later : List Registration} (proper : Proper (before ++ later)) :
    Proper before where
  method r there := proper.method r (List.mem_append_left _ there)
  interface r there := proper.interface r (List.mem_append_left _ there)
  handlers r there := proper.handlers r (List.mem_append_left _ there)
  apart := (List.pairwise_append.1 proper.apart).1

theorem entryFault?_eq_some_iff :
    entryFault? before before.length r = some fault ↔ Breaks before r fault := by
  constructor
  · intro found
    unfold entryFault? at found
    split at found
    case isTrue missing =>
      cases found
      exact .unnamed missing
    case isFalse named =>
      obtain ⟨method, interface⟩ := not_or.1 named
      split at found
      case isTrue none =>
        cases found
        exact .noHandlers method interface (List.isEmpty_iff.1 none)
      case isFalse some =>
        split at found
        case isTrue taken =>
          cases found
          rw [List.isEmpty_iff] at some
          exact .duplicate method interface some (by simpa using taken)
        case isFalse => cases found
  · intro breaks
    cases breaks with
    | unnamed missing => exact if_pos missing
    | noHandlers method interface none => simp [entryFault?, method, interface, none]
    | duplicate method interface some taken => simp [entryFault?, method, interface, some, taken]

theorem entryFault?_eq_none_iff (proper : Proper before) :
    entryFault? before before.length r = none ↔ Proper (before ++ [r]) := by
  rw [proper_snoc_iff, entryFault?]
  constructor
  · intro faultless
    split at faultless
    case isTrue => cases faultless
    case isFalse named =>
      split at faultless
      case isTrue => cases faultless
      case isFalse some =>
        split at faultless
        case isTrue => cases faultless
        case isFalse free =>
          rw [List.isEmpty_iff] at some
          obtain ⟨method, interface⟩ := not_or.1 named
          exact ⟨proper, method, interface, some, by simpa using free⟩
  · rintro ⟨-, method, interface, some, free⟩
    simp [method, interface, some]
    exact free

theorem firstFault?_eq_none_iff (proper : Proper before) :
    firstFault? before rs = none ↔ Proper (before ++ rs) := by
  induction rs generalizing before with
  | nil => simp [firstFault?, proper]
  | cons r rest ih =>
    rw [firstFault?, Option.or_eq_none_iff, entryFault?_eq_none_iff proper,
      List.append_cons before r rest]
    constructor
    · rintro ⟨first, others⟩
      exact (ih first).1 others
    · intro all
      exact ⟨all.of_append, (ih all.of_append).2 all⟩

/-- What is reported is the first entry that breaks a rule. -/
theorem firstFault?_eq_some_iff (proper : Proper before) : firstFault? before rs = some fault ↔
    ∃ good r later, rs = good ++ r :: later ∧ Proper (before ++ good) ∧
      Breaks (before ++ good) r fault := by
  induction rs generalizing before with
  | nil => simp [firstFault?]
  | cons r rest ih =>
    rw [firstFault?]
    constructor
    · intro found
      cases first : entryFault? before before.length r with
      | some fault' =>
        rw [first, Option.some_or] at found
        cases found
        refine ⟨[], r, rest, rfl, ?_, ?_⟩
        · rwa [List.append_nil]
        · rw [List.append_nil]
          exact entryFault?_eq_some_iff.1 first
      | none =>
        rw [first, Option.none_or] at found
        have more := (entryFault?_eq_none_iff proper).1 first
        obtain ⟨good, bad, later, rfl, ok, breaks⟩ := (ih more).1 found
        rw [← List.append_cons] at ok breaks
        exact ⟨r :: good, bad, later, rfl, ok, breaks⟩
    · rintro ⟨good, bad, later, split, ok, breaks⟩
      cases good with
      | nil =>
        cases split
        rw [List.append_nil] at breaks
        rw [entryFault?_eq_some_iff.2 breaks, Option.some_or]
      | cons r' good =>
        cases split
        rw [List.append_cons] at ok breaks
        rw [(entryFault?_eq_none_iff proper).2 ok.of_append, Option.none_or]
        exact (ih ok.of_append).2 ⟨good, bad, later, rfl, ok, breaks⟩

theorem ofRegistrations_eq_ok_iff {t : ListenerTable} :
    ofRegistrations rs = .ok t ↔ Proper rs ∧ t = ⟨rs⟩ := by
  have accepted : firstFault? [] rs = none ↔ Proper rs := firstFault?_eq_none_iff proper_nil
  unfold ofRegistrations
  cases found : firstFault? [] rs with
  | some fault =>
    have broken : ¬ Proper rs := fun proper => by simp [accepted.2 proper] at found
    simp [broken]
  | none =>
    have proper := accepted.1 found
    constructor
    · rintro ⟨⟩
      exact ⟨proper, rfl⟩
    · rintro ⟨-, rfl⟩
      rfl

theorem ofRegistrations_eq_error_iff : ofRegistrations rs = .error fault ↔
    ∃ good r later, rs = good ++ r :: later ∧ Proper good ∧ Breaks good r fault := by
  have refused : firstFault? [] rs = some fault ↔
      ∃ good r later, rs = good ++ r :: later ∧ Proper good ∧ Breaks good r fault :=
    firstFault?_eq_some_iff proper_nil
  rw [← refused, ofRegistrations]
  cases firstFault? [] rs with
  | some other => simp
  | none => simp

/-- The entries of a table that was accepted name their interfaces. -/
theorem interface_ne {t : ListenerTable} (accepted : ofRegistrations rs = .ok t)
    (listed : r ∈ t.registrations) : r.interface ≠ "" := by
  obtain ⟨proper, rfl⟩ := ofRegistrations_eq_ok_iff.1 accepted
  exact proper.interface r listed

instance (rs : List Registration) : Decidable (Proper rs) :=
  decidable_of_iff (firstFault? [] rs = none) (firstFault?_eq_none_iff proper_nil)

/-! ### Answers -/

variable {t : ListenerTable} {method interface : String}

theorem byInterface?_eq_some_iff :
    t.byInterface? interface = some entry ↔ t.IsFirstOf interface entry := by
  simp [byInterface?, List.find?_eq_some_iff_append, IsFirstOf]

theorem byInterface?_eq_none_iff :
    t.byInterface? interface = none ↔ ∀ r ∈ t.registrations, r.interface ≠ interface := by
  simp [byInterface?]

theorem byMethod?_eq_none_iff :
    t.byMethod? method = none ↔ ∀ r ∈ t.registrations, r.method ≠ method := by
  simp [byMethod?]

/-- In a table that is in order, the first entry of a method is the only one. -/
theorem byMethod?_eq_some_iff (proper : Proper t.registrations) :
    t.byMethod? method = some entry ↔ t.IsOnlyOf method entry := by
  simp only [byMethod?, List.find?_eq_some_iff_append, IsOnlyOf, decide_eq_true_eq]
  constructor
  · rintro ⟨same, earlier, later, entries, other⟩
    refine ⟨same, earlier, later, entries, List.forall_mem_append.2 ⟨?_, ?_⟩⟩
    · simpa using other
    · intro e there repeated
      have apart := proper.apart
      rw [entries] at apart
      have next := (List.pairwise_append.1 apart).2.1
      exact List.rel_of_pairwise_cons next there (same.trans repeated.symm)
  · rintro ⟨same, earlier, later, entries, other⟩
    refine ⟨same, earlier, later, entries, ?_⟩
    simpa using (List.forall_mem_append.1 other).1

theorem mem_interfaces_iff :
    interface ∈ t.interfaces ↔ ∃ r ∈ t.registrations, r.interface = interface := by
  rw [interfaces, List.mem_mergeSort, mem_distinct, List.mem_map]

theorem sortedLT_interfaces (t : ListenerTable) : t.interfaces.SortedLT :=
  sortedLT_mergeSort (nodup_distinct _)

/-! ### Checking and filing in one pass -/

/-- The entries filed so far, by method and by interface. -/
structure Indexes where
  methods : AList fun _ : String => Registration := ∅
  interfaces : AList fun _ : String => Registration := ∅

namespace Indexes

/-- Files an entry. An interface that is filed already keeps its entry. -/
def file (x : Indexes) (r : Registration) : Indexes where
  methods := x.methods.insert r.method r
  interfaces :=
    if r.interface ∈ x.interfaces then x.interfaces else x.interfaces.insert r.interface r

/-- Files the entry at a position, if it breaks no rule. -/
def enter (x : Indexes) (position : Nat) (r : Registration) : Except TableFault Indexes :=
  if r.method = "" ∨ r.interface = "" then .error (.unnamed position)
  else if r.handlers.isEmpty then .error (.noHandlers r.method)
  else if r.method ∈ x.methods then .error (.duplicate r.method)
  else .ok (x.file r)

/-- Enters entries in turn, up to the first one that breaks a rule. -/
def enterAll (x : Indexes) (position : Nat) : List Registration → Except TableFault Indexes
  | [] => .ok x
  | r :: rest => do
    let x ← x.enter position r
    x.enterAll (position + 1) rest

/-- The interfaces that are filed, in ascending order. -/
def keys (x : Indexes) : List String := x.interfaces.keys.mergeSort fun a b => decide (a ≤ b)

/-- The indexes answer like a table. -/
structure Answer (x : Indexes) (t : ListenerTable) : Prop where
  method : ∀ m, x.methods.lookup m = t.byMethod? m
  interface : ∀ i, x.interfaces.lookup i = t.byInterface? i

variable {x : Indexes}

theorem answer_empty : Answer {} ⟨[]⟩ where
  method _ := rfl
  interface _ := rfl

theorem Answer.mem_methods_iff (answer : x.Answer ⟨before⟩) :
    method ∈ x.methods ↔ before.any (·.method = method) = true := by
  rw [← AList.lookup_isSome, answer.method, byMethod?, List.isSome_find?]

theorem Answer.mem_interfaces_iff (answer : x.Answer t) :
    interface ∈ x.interfaces ↔ interface ∈ t.interfaces := by
  rw [← AList.lookup_isSome, answer.interface, byInterface?, List.find?_isSome,
    ListenerTable.mem_interfaces_iff]
  simp only [decide_eq_true_eq]

/-- Filing an entry does to the answers what adding it to the table does. -/
theorem Answer.file (answer : x.Answer ⟨before⟩) (free : r.method ∉ x.methods) :
    (x.file r).Answer ⟨before ++ [r]⟩ := by
  constructor
  · intro m
    have old := answer.method m
    rw [byMethod?] at old
    rw [byMethod?, List.find?_append, ← old, Indexes.file]
    by_cases same : m = r.method
    · subst same
      rw [AList.lookup_insert, AList.lookup_eq_none.2 free, List.find?_singleton]
      simp
    · rw [AList.lookup_insert_ne same, List.find?_singleton]
      simp [Ne.symm same]
  · intro i
    have old := answer.interface i
    rw [byInterface?] at old
    rw [byInterface?, List.find?_append, ← old, Indexes.file]
    by_cases same : i = r.interface
    · subst same
      split
      case isTrue taken =>
        obtain ⟨first, found⟩ := Option.isSome_iff_exists.1 (AList.lookup_isSome.2 taken)
        rw [found, Option.some_or]
      case isFalse new =>
        rw [AList.lookup_insert, AList.lookup_eq_none.2 new, List.find?_singleton]
        simp
    · rw [List.find?_singleton]
      simp only [Ne.symm same, decide_false, Bool.false_eq_true, if_false, Option.or_none]
      split
      case isTrue => rfl
      case isFalse => exact AList.lookup_insert_ne same

/-- An entry is filed unless it breaks a rule. -/
theorem Answer.enter_eq (answer : x.Answer ⟨before⟩) :
    x.enter before.length r = match entryFault? before before.length r with
      | some fault => .error fault
      | none => .ok (x.file r) := by
  simp only [enter, entryFault?, answer.mem_methods_iff]
  split
  · rfl
  · split
    · rfl
    · split
      · rfl
      · rfl

/-- Entering a list fails with its first fault, or gives indexes that answer like the whole table. -/
theorem Answer.enterAll_outcome (answer : x.Answer ⟨before⟩) :
    (∃ fault, firstFault? before rs = some fault ∧ x.enterAll before.length rs = .error fault) ∨
      (firstFault? before rs = none ∧
        ∃ x', x.enterAll before.length rs = .ok x' ∧ x'.Answer ⟨before ++ rs⟩) := by
  induction rs generalizing before x with
  | nil =>
    refine .inr ⟨rfl, x, rfl, ?_⟩
    rwa [List.append_nil]
  | cons r rest ih =>
    have entered := answer.enter_eq (r := r)
    rw [firstFault?, enterAll]
    cases first : entryFault? before before.length r with
    | some fault =>
      rw [first] at entered
      rw [entered]
      exact .inl ⟨fault, rfl, rfl⟩
    | none =>
      rw [first] at entered
      have free : r.method ∉ x.methods := by
        intro taken
        rw [entryFault?, answer.mem_methods_iff.1 taken] at first
        grind
      have rest := ih (answer.file free)
      rw [List.length_append, List.length_singleton, ← List.append_cons] at rest
      rw [entered, Option.none_or]
      exact rest

theorem Answer.keys_eq (answer : x.Answer t) : x.keys = t.interfaces := by
  have sorted : x.keys.SortedLT := sortedLT_mergeSort x.interfaces.keys_nodup
  apply sorted.eq_of_mem_iff (sortedLT_interfaces t)
  intro i
  rw [keys, List.mem_mergeSort, ← AList.mem_keys, answer.mem_interfaces_iff]

end Indexes

/-- Registrations become a table exactly if they are in order; otherwise the first entry that breaks a
rule is reported, by the first rule that it breaks. A table answers for a method with its only entry,
for an interface with its first entry, and for nothing else, and it lists the interfaces that occur in
strictly ascending order. One pass that checks entries while it files them fails with the same fault,
or answers like the table. -/
theorem ofRegistrations_exact (rs : List Registration) :
    (∀ t, ofRegistrations rs = .ok t ↔ Proper rs ∧ t = ⟨rs⟩) ∧
    (∀ fault, ofRegistrations rs = .error fault ↔
      ∃ good r later, rs = good ++ r :: later ∧ Proper good ∧ Breaks good r fault) ∧
    (∀ t, ofRegistrations rs = .ok t →
      (∀ m entry, t.byMethod? m = some entry ↔ t.IsOnlyOf m entry) ∧
      (∀ m, t.byMethod? m = none ↔ ∀ r ∈ rs, r.method ≠ m) ∧
      (∀ i entry, t.byInterface? i = some entry ↔ t.IsFirstOf i entry) ∧
      (∀ i, t.byInterface? i = none ↔ ∀ r ∈ rs, r.interface ≠ i) ∧
      t.interfaces.SortedLT ∧ ∀ i, i ∈ t.interfaces ↔ ∃ r ∈ rs, r.interface = i) ∧
    match ofRegistrations rs with
    | .error fault => Indexes.enterAll {} 0 rs = .error fault
    | .ok t => ∃ x, Indexes.enterAll {} 0 rs = .ok x ∧ x.Answer t ∧ x.keys = t.interfaces := by
  refine ⟨fun t => ofRegistrations_eq_ok_iff, fun fault => ofRegistrations_eq_error_iff, ?_, ?_⟩
  · intro t accepted
    obtain ⟨proper, rfl⟩ := ofRegistrations_eq_ok_iff.1 accepted
    exact ⟨fun m entry => byMethod?_eq_some_iff proper, fun m => byMethod?_eq_none_iff,
      fun i entry => byInterface?_eq_some_iff, fun i => byInterface?_eq_none_iff,
      sortedLT_interfaces _, fun i => mem_interfaces_iff⟩
  · rw [ofRegistrations]
    have outcome : (∃ fault, firstFault? [] rs = some fault ∧
        Indexes.enterAll {} 0 rs = .error fault) ∨ (firstFault? [] rs = none ∧
        ∃ x, Indexes.enterAll {} 0 rs = .ok x ∧ x.Answer ⟨rs⟩) :=
      Indexes.answer_empty.enterAll_outcome
    rcases outcome with ⟨fault, found, failed⟩ | ⟨faultless, x, entered, answer⟩
    · rw [found]
      exact failed
    · rw [faultless]
      exact ⟨x, entered, answer, answer.keys_eq⟩

/-- Two methods may register listeners of one interface, but a method must not be there twice. -/
example :
    let r : Registration := { method := "m", interface := "I", handlers := [{ method := "h" }] }
    Proper [r, { r with method := "n" }] ∧ ¬ Proper [r, { r with interface := "J" }] := by decide

end ListenerTable

end WidgetFlow
