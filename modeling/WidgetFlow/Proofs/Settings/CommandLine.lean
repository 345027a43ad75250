import Mathlib.Data.List.Forall2
import WidgetFlow.Settings.Flag

/-!
# Flags on a command line

A command line is read into the flags that it uses (`Arguments.uses`), each with the value that its
text stands for (`Arguments.Stands`). So a flag has a value exactly if it is used, and its value is
that of its last use; whether that is the value the flag has anyway does not matter.
-/

namespace WidgetFlow.Settings.Arguments

/-- The flags in a group of letters, with their texts. -/
def letterUses (known : List Flag) : List Char → List (Flag × String)
  | [] => []
  | c :: rest =>
    if "test.".toList.isPrefixOf (c :: rest) then []
    else match known.find? fun f => f.letter? = some c with
      | none => []
      | some f =>
        match rest with
        | '=' :: v :: vs => [(f, String.ofList (v :: vs))]
        | _ => (f, f.bareValue?.getD "") :: letterUses known rest

/-- The flags that a command line uses, in order, with their texts. -/
def uses (known : List Flag) : List String → List (Flag × String)
  | [] => []
  | arg :: args =>
    match arg.toList with
    | ['-', '-'] => []
    | '-' :: '-' :: cs =>
      let (name, value?) := splitFlag cs
      match known.find? (·.name = name) with
      | none => []
      | some f =>
        match value?.orElse fun _ => f.bareValue? with
        | some v => (f, v) :: uses known args
        | none =>
          match args with
          | [] => []
          | v :: args => (f, v) :: uses known args
    | '-' :: c :: cs => letterUses known (c :: cs) ++ uses known args
    | _ => uses known args

/-- The value of a flag is one that its text stands for. How far a counter has come depends on the
uses before. -/
def Stands (use : Flag × String) (given : Flag × Value) : Prop :=
  given.1 = use.1 ∧ match use.1.kind with
    | .text => given.2 = .text use.2
    | .int => ∃ n, Text.integer use.2 = .ok n ∧ given.2 = .int n
    | .switch => ∃ b, Text.truth use.2 = .ok b ∧ given.2 = .bool b
    | .counter => ∃ n, given.2 = .int n

/-- Reading takes the flags of `before` over and gives these uses their values, the latest first. -/
def Gives (before : Arguments) (uses : List (Flag × String)) (after : Arguments) : Prop :=
  ∃ new, after.flags = new ++ before.flags ∧ List.Forall₂ Stands uses.reverse new

variable {known : List Flag} {a a' b : Arguments} {f : Flag} {text : String}
  {us vs : List (Flag × String)}

theorem Gives.nothing (same : a'.flags = a.flags) : Gives a [] a' := ⟨[], same, .nil⟩

theorem Gives.trans (first : Gives a us b) (second : Gives b vs a') : Gives a (us ++ vs) a' := by
  obtain ⟨new, flags, stand⟩ := first
  obtain ⟨new', flags', stand'⟩ := second
  refine ⟨new' ++ new, ?_, ?_⟩
  · rw [flags', flags, List.append_assoc]
  · rw [List.reverse_append]
    exact List.rel_append stand' stand

theorem gives_give (given : a.give f text = .ok a') : Gives a [(f, text)] a' := by
  have single {v : Value} (stands : Stands (f, text) (f, v)) : Gives a [(f, text)] (a.set f v) :=
    ⟨[(f, v)], rfl, .cons stands .nil⟩
  unfold give at given
  cases kind : f.kind with
  | text =>
    rw [kind] at given
    cases given
    exact single ⟨rfl, by rw [kind]⟩
  | int =>
    simp only [kind] at given
    split at given
    case h_1 n read =>
      cases given
      exact single ⟨rfl, by rw [kind]; exact ⟨n, read, rfl⟩⟩
    case h_2 => cases given
  | switch =>
    simp only [kind] at given
    split at given
    case h_1 b read =>
      cases given
      exact single ⟨rfl, by rw [kind]; exact ⟨b, read, rfl⟩⟩
    case h_2 => cases given
  | counter =>
    simp only [kind] at given
    split at given
    case isTrue =>
      cases given
      exact single ⟨rfl, by rw [kind]; exact ⟨_, rfl⟩⟩
    case isFalse =>
      split at given
      case h_1 n read =>
        cases given
        exact single ⟨rfl, by rw [kind]; exact ⟨n, rfl⟩⟩
      case h_2 => cases given

theorem gives_readLetters {cs : List Char} (done : readLetters known cs a = .ok a') :
    Gives a (letterUses known cs) a' := by
  fun_induction readLetters known cs a with
  | case1 a =>
    cases done
    exact .nothing rfl
  | case2 c rest a passed =>
    cases done
    rw [letterUses, if_pos passed]
    exact .nothing rfl
  | case3 | case6 => cases done
  | case4 c a f found v vs passed =>
    rw [letterUses, if_neg passed]
    simp only [found]
    exact gives_give done
  | case5 c rest a passed f found b given bare ih =>
    rw [letterUses, if_neg passed]
    simp only [found]
    exact (gives_give given).trans (ih done)

/-- A command line that can be read gives every flag it uses the value of its text. -/
theorem gives_read {args : List String} (done : read known args a = .ok a') :
    Gives a (uses known args) a' := by
  fun_induction read known args a with
  | case1 a =>
    cases done
    exact .nothing rfl
  | case2 arg args a last =>
    cases done
    simp only [uses, last]
    exact .nothing rfl
  | case3 | case4 | case6 | case7 | case9 | case11 => cases done
  | case5 arg args a cs more long name value? parts fine f found v text b given ih =>
    simp only [uses, long, parts, found, text]
    exact (gives_give given).trans (ih done)
  | case8 arg a cs more long name value? parts fine f found alone v args b given ih =>
    simp only [uses, long, parts, found, alone]
    exact (gives_give given).trans (ih done)
  | case10 arg args a c cs single short letters b given ih =>
    simp only [uses, letters]
    exact (gives_readLetters given).trans (ih done)
  | case12 arg args a notLast notLong notShort ih =>
    simp only [uses]
    exact ih done

theorem mem_known_of_cons {g : Flag} {v : String} (first : g ∈ known)
    (rest : (f, text) ∈ us → f ∈ known) (used : (f, text) ∈ (g, v) :: us) : f ∈ known := by
  rcases List.mem_cons.1 used with here | later
  · obtain ⟨rfl, -⟩ := Prod.mk.inj here
    exact first
  · exact rest later

theorem mem_known_of_letterUses {cs : List Char} (used : (f, text) ∈ letterUses known cs) :
    f ∈ known := by
  fun_induction letterUses known cs with
  | case1 | case2 | case3 => cases used
  | case4 c g found v vs passed =>
    exact mem_known_of_cons (List.mem_of_find?_eq_some found) (fun none => by cases none) used
  | case5 c rest passed g found bare ih =>
    exact mem_known_of_cons (List.mem_of_find?_eq_some found) ih used

/-- A command line uses known flags only. -/
theorem mem_known_of_uses {args : List String} (used : (f, text) ∈ uses known args) :
    f ∈ known := by
  fun_induction uses known args with
  | case1 | case2 | case3 | case5 => cases used
  | case4 arg args cs more long name value? parts g found v text' ih =>
    exact mem_known_of_cons (List.mem_of_find?_eq_some found) ih used
  | case6 arg cs more long name value? parts g found alone v args ih =>
    exact mem_known_of_cons (List.mem_of_find?_eq_some found) ih used
  | case7 arg args c cs single short letters ih =>
    rcases List.mem_append.1 used with here | later
    · exact mem_known_of_letterUses here
    · exact ih later
  | case8 arg args notLast notLong notShort ih => exact ih used

/-- The last use of a flag on a command line. -/
def lastUse? (known : List Flag) (args : List String) (f : Flag) : Option (Flag × String) :=
  (uses known args).reverse.find? (·.1 = f)

theorem rel_lookup {new : List (Flag × Value)} (stand : List.Forall₂ Stands us new) (f : Flag) :
    Option.Rel (fun use v => Stands use (f, v)) (us.find? (·.1 = f)) (new.lookup f) := by
  induction stand with
  | nil => exact .none
  | @cons use given us new stands _ ih =>
    obtain ⟨f', v⟩ := given
    have same : f' = use.1 := stands.1
    rw [List.lookup_cons]
    by_cases here : use.1 = f
    · obtain rfl : f' = f := same.trans here
      rw [List.find?_cons_of_pos (by simpa using here), beq_self_eq_true]
      exact .some stands
    · have other : (f == f') = false := beq_eq_false_iff_ne.2 fun h => here (same.symm.trans h.symm)
      rw [List.find?_cons_of_neg (by simpa using here), other]
      exact ih

/-- A flag that a command line uses has the value of its last use, and no other flag has one. -/
theorem lookup_read {args : List String} (done : read known args {} = .ok a) (f : Flag) :
    Option.Rel (fun use v => Stands use (f, v)) (lastUse? known args f) (a.flags.lookup f) := by
  obtain ⟨new, flags, stand⟩ := gives_read done
  rw [flags, List.append_nil]
  exact rel_lookup stand f

theorem mem_known_of_lookup {args : List String} {v : Value} (done : read known args {} = .ok a)
    (given : a.flags.lookup f = some v) : f ∈ known := by
  have used := lookup_read done f
  rw [given] at used
  cases last : lastUse? known args f with
  | none =>
    rw [last] at used
    cases used
  | some use =>
    have listed := List.mem_reverse.1 (List.mem_of_find?_eq_some last)
    have meant : use.1 = f := by simpa using List.find?_some last
    exact meant ▸ mem_known_of_uses listed

theorem lookup_settings (a : Arguments) (k : Key) :
    a.settings.lookup k = a.flags.lookup (.setting k) := by
  obtain ⟨flags, others⟩ := a
  show (flags.filterMap _).lookup k = flags.lookup (.setting k)
  induction flags with
  | nil => rfl
  | cons given rest ih =>
    obtain ⟨f, v⟩ := given
    rw [List.filterMap_cons, List.lookup_cons]
    cases f with
    | setting key =>
      have same : (Flag.setting k == Flag.setting key) = (k == key) := by
        rw [Bool.eq_iff_iff, beq_iff_eq, beq_iff_eq, Flag.setting.injEq]
      simp only [List.lookup_cons, same, ih]
    | help => exact ih
    | noDescriptions => exact ih

end WidgetFlow.Settings.Arguments
