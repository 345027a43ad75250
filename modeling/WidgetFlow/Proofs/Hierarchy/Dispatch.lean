import WidgetFlow.Proofs.Hierarchy.Subtypes

/-!
# Virtual dispatch in any class table

The superclass chain of a class ends at the empty name, at a name that the table does not have, or
where it would come back to a class that it has passed (`Lineage`). Every class has exactly one such
chain (`exists_lineage`, `Lineage.unique`), and it has no more classes than the table
(`Lineage.length_le`). Dispatch stops where the chain does, so its steps are never used up
(`Lineage.dispatchFrom_eq`), and it finds the first class of the chain that declares the method
(`dispatch_exact`).
-/

namespace WidgetFlow.Hierarchy

variable {h : Hierarchy} {method name d : String} {met chain chain' : List String}

/-- The class of that name declares the method. -/
def Declares (h : Hierarchy) (name method : String) : Prop :=
  ∃ info, h.Lists name info ∧ method ∈ info.methods

instance : Decidable (h.Declares name method) :=
  decidable_of_iff ((h.class? name).any fun info => decide (method ∈ info.methods)) <| by
    simp [Declares, Option.any_eq_true, class?_eq_some_iff]

/-- The superclass chain from a name upwards, as far as it does not come back to what has been met. -/
inductive Lineage (h : Hierarchy) : List String → String → List String → Prop where
  | unnamed {met : List String} : Lineage h met "" []
  | repeated {met : List String} {name : String} (old : name ∈ met) : Lineage h met name []
  | unknown {met : List String} {name : String} (none : ∀ info, ¬ h.Lists name info) :
      Lineage h met name []
  | next {met rest : List String} {name : String} {info : ClassInfo} (named : name ≠ "")
      (new : name ∉ met) (known : h.Lists name info)
      (above : Lineage h (name :: met) info.super rest) : Lineage h met name (name :: rest)

/-- Every class has a superclass chain: each step meets one name of the table more. -/
theorem exists_lineage (h : Hierarchy) (met : List String) (name : String) :
    ∃ chain, h.Lineage met name chain := by
  generalize left : (unseen h.names met).length = n
  induction n using Nat.strongRecOn generalizing met name with
  | ind n ih =>
    by_cases unnamed : name = ""
    · subst unnamed
      exact ⟨[], .unnamed⟩
    by_cases old : name ∈ met
    · exact ⟨[], .repeated old⟩
    by_cases known : ∃ info, h.Lists name info
    · obtain ⟨info, known⟩ := known
      have fewer := length_unseen_cons_lt (mem_names_iff.2 ⟨info, known⟩) old
      obtain ⟨rest, above⟩ := ih _ (left ▸ fewer) (name :: met) info.super rfl
      exact ⟨name :: rest, .next unnamed old known above⟩
    · exact ⟨[], .unknown (not_exists.1 known)⟩

namespace Lineage

/-- A class has no more than one superclass chain. -/
theorem unique (lineage : h.Lineage met name chain) (other : h.Lineage met name chain') :
    chain = chain' := by
  induction lineage generalizing chain' with
  | unnamed =>
    cases other with
    | next named => exact absurd rfl named
    | _ => rfl
  | repeated old =>
    cases other with
    | next _ new => exact absurd old new
    | _ => rfl
  | unknown none =>
    cases other with
    | next _ _ known => exact absurd known (none _)
    | _ => rfl
  | next named new known _ ih =>
    cases other with
    | unnamed => exact absurd rfl named
    | repeated old => exact absurd old new
    | unknown none => exact absurd known (none _)
    | next _ _ known' above =>
      obtain rfl := known.unique known'
      rw [ih above]

/-- No class occurs twice in a chain, and all of them are new names of the table. -/
theorem nodup (lineage : h.Lineage met name chain) :
    chain.Nodup ∧ ∀ c ∈ chain, c ∉ met ∧ c ∈ h.names := by
  induction lineage with
  | unnamed => exact ⟨.nil, fun _ there => nomatch there⟩
  | repeated => exact ⟨.nil, fun _ there => nomatch there⟩
  | unknown => exact ⟨.nil, fun _ there => nomatch there⟩
  | next named new known _ ih =>
    obtain ⟨once, apart⟩ := ih
    constructor
    · apply List.nodup_cons.2
      exact ⟨fun again => (apart _ again).1 List.mem_cons_self, once⟩
    · intro c there
      rcases List.mem_cons.1 there with rfl | there
      · exact ⟨new, mem_names_iff.2 ⟨_, known⟩⟩
      · exact ⟨fun old => (apart c there).1 (List.mem_cons_of_mem _ old), (apart c there).2⟩

/-- A chain has no more classes than the table has entries. -/
theorem length_le (lineage : h.Lineage met name chain) : chain.length ≤ h.classes.length := by
  obtain ⟨once, apart⟩ := lineage.nodup
  rw [← List.length_map (f := ClassInfo.name)]
  apply List.Nodup.length_le_of_subset once
  intro c there
  exact mem_distinct.1 (apart c there).2

/-- A class is a subtype of every class of its chain, and none of them has the empty name. -/
theorem isSubtype (lineage : h.Lineage met name chain) (there : d ∈ chain) :
    d ≠ "" ∧ h.isSubtype name d = true := by
  rw [isSubtype_iff_leads]
  induction lineage with
  | unnamed => cases there
  | repeated => cases there
  | unknown => cases there
  | next named new known _ ih =>
    rcases List.mem_cons.1 there with rfl | there
    · exact ⟨named, .refl⟩
    · have link := mem_parents_iff.2 ⟨named, _, known, .inl rfl⟩
      exact ⟨(ih there).1, .head link (ih there).2⟩

end Lineage

/-! ### The walk -/

section Steps

variable {steps : Nat}

theorem dispatchFrom_unnamed : h.dispatchFrom method (steps + 1) met "" = none := by
  simp [dispatchFrom]

theorem dispatchFrom_met (old : name ∈ met) : h.dispatchFrom method (steps + 1) met name = none := by
  simp [dispatchFrom, old]

theorem dispatchFrom_unknown (none : ∀ info, ¬ h.Lists name info) :
    h.dispatchFrom method (steps + 1) met name = .none := by
  have missing : h.class? name = .none := by
    rw [Option.eq_none_iff_forall_ne_some]
    exact fun info known => none info (class?_eq_some_iff.1 known)
  simp [dispatchFrom, missing]

/-- One step of the walk: the class answers, or its superclass does. -/
theorem dispatchFrom_next {info : ClassInfo} (named : name ≠ "") (new : name ∉ met)
    (known : h.Lists name info) : h.dispatchFrom method (steps + 1) met name =
      if method ∈ info.methods then some name
      else h.dispatchFrom method steps (name :: met) info.super := by
  rw [dispatchFrom, if_neg (not_or.2 ⟨named, new⟩), class?_eq_some_iff.2 known]

/-- The walk is over the chain, in order, and stops where the chain does. With a step for every class
of the chain and one to stop, it finds the first one of them that declares the method. -/
theorem Lineage.dispatchFrom_eq (lineage : h.Lineage met name chain) (enough : chain.length ≤ steps) :
    h.dispatchFrom method (steps + 1) met name = chain.find? (h.Declares · method) := by
  induction lineage generalizing steps with
  | unnamed => exact dispatchFrom_unnamed
  | repeated old => exact dispatchFrom_met old
  | unknown none => exact dispatchFrom_unknown none
  | @next met rest name info named new known above ih =>
    rw [dispatchFrom_next named new known]
    by_cases declared : method ∈ info.methods
    · have declares : h.Declares name method := ⟨info, known, declared⟩
      rw [if_pos declared, List.find?_cons_of_pos]
      exact decide_eq_true declares
    · have silent : ¬ h.Declares name method := by
        rintro ⟨info', known', declared'⟩
        obtain rfl := known.unique known'
        exact declared declared'
      rw [if_neg declared, List.find?_cons_of_neg (by simpa using silent)]
      obtain ⟨left, rfl⟩ := Nat.exists_eq_add_one.2 (Nat.lt_of_lt_of_le (Nat.succ_pos _) enough)
      exact ih (Nat.le_of_succ_le_succ enough)

end Steps

/-- Dispatch has steps enough for every chain, so it asks the whole of it. -/
theorem Lineage.dispatch?_eq (lineage : h.Lineage [] name chain) :
    h.dispatch? method name = chain.find? (h.Declares · method) :=
  lineage.dispatchFrom_eq lineage.length_le

/-- Dispatch answers with a class. -/
theorem dispatch?_ne (found : h.dispatch? method name = some d) : d ≠ "" := by
  obtain ⟨chain, lineage⟩ := h.exists_lineage [] name
  rw [lineage.dispatch?_eq] at found
  exact (lineage.isSubtype (List.mem_of_find?_eq_some found)).1

/-- Virtual dispatch is exact on every class table, whatever its superclass chains run into. A class
has one chain, and dispatch answers with the first class of it that declares the method, or with none
if no class of it does. The class that it answers with has a name and is a supertype of the class that
was asked for. -/
theorem dispatch_exact (h : Hierarchy) (method className : String) :
    ∃ chain, (∀ other, h.Lineage [] className other ↔ other = chain) ∧
      (∀ d, h.dispatch? method className = some d ↔
        ∃ below above, chain = below ++ d :: above ∧ h.Declares d method ∧
          ∀ c ∈ below, ¬ h.Declares c method) ∧
      (h.dispatch? method className = none ↔ ∀ c ∈ chain, ¬ h.Declares c method) ∧
      ∀ d, h.dispatch? method className = some d → d ≠ "" ∧ h.isSubtype className d = true := by
  obtain ⟨chain, lineage⟩ := h.exists_lineage [] className
  have walked : h.dispatch? method className = chain.find? (h.Declares · method) :=
    lineage.dispatch?_eq
  refine ⟨chain, fun other => ⟨fun also => also.unique lineage, fun same => same ▸ lineage⟩, ?_, ?_, ?_⟩
  · intro d
    rw [walked, List.find?_eq_some_iff_append]
    simp only [decide_eq_true_eq, Bool.not_eq_true', decide_eq_false_iff_not]
    constructor
    · rintro ⟨declares, below, above, split, silent⟩
      exact ⟨below, above, split, declares, silent⟩
    · rintro ⟨below, above, split, declares, silent⟩
      exact ⟨declares, below, above, split, silent⟩
  · rw [walked, List.find?_eq_none]
    simp only [decide_eq_true_eq]
  · intro d found
    rw [walked] at found
    exact lineage.isSubtype (List.mem_of_find?_eq_some found)

/-- A circle of superclasses: the class asked for is met again, and the walk stops. -/
example :
    let h : Hierarchy := { classes :=
      [{ name := "A", super := "B" }, { name := "B", super := "A", methods := ["m"] }] }
    h.dispatch? "m" "A" = some "B" ∧ h.dispatch? "n" "A" = none := by decide +kernel

end WidgetFlow.Hierarchy
