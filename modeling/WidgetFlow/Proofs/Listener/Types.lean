import WidgetFlow.Listener.Resolver
import WidgetFlow.Proofs.Hierarchy.Subtypes
import WidgetFlow.Proofs.Listener.Table

/-!
# Types that are asked for again and again

The concrete subtypes of a type are worked out once for each type and remembered by the class table;
the classes that implement an interface are remembered by the resolver, which asks the class table for
them. A memory is right if what it holds is what would be worked out anew (`Right`). Every question
finds a right memory right, answers as if nothing were remembered, and leaves it right (`Answers`), so
in any sequence of questions the answers are those of the tables (`subtyping_exact`).
-/

namespace WidgetFlow

variable {r : Resolver} {c interface : String}

theorem Resolver.implements_eq_true_iff : r.implements c interface = true ↔
    c ≠ "" ∧ interface ≠ "" ∧ c ∈ r.hierarchy.concreteSubtypes interface := by
  simp only [implements, Bool.and_eq_true, bne_iff_ne, List.contains_iff_mem, and_assoc]

theorem isListenerType_iff : r.isListenerType c = true ↔
    ∃ reg ∈ r.table.registrations, r.implements c reg.interface = true := by
  simp only [Resolver.isListenerType, List.any_eq_true, ListenerTable.mem_interfaces_iff]
  constructor
  · rintro ⟨_, ⟨reg, there, rfl⟩, fits⟩
    exact ⟨reg, there, fits⟩
  · rintro ⟨reg, there, fits⟩
    exact ⟨_, ⟨reg, there, rfl⟩, fits⟩

/-! ### Questions and their answers -/

/-- A question about types. -/
inductive TypeQuestion where
  | isSubtype (sub super : String)
  | concreteSubtypes (super : String)
  | implements (className interface : String)
  | isListenerType (className : String)
  deriving DecidableEq

/-- The answer to a question about types. -/
inductive TypeAnswer where
  | truth (holds : Bool)
  | classes (names : List String)
  deriving DecidableEq

/-- The answer by the tables, without any memory. -/
def Resolver.answer (r : Resolver) : TypeQuestion → TypeAnswer
  | .isSubtype sub super => .truth (r.hierarchy.isSubtype sub super)
  | .concreteSubtypes super => .classes (r.hierarchy.concreteSubtypes super)
  | .implements className interface => .truth (r.implements className interface)
  | .isListenerType className => .truth (r.isListenerType className)

/-- Who remembers: the class table the concrete subtypes of a type, the resolver the classes that
implement an interface. -/
inductive Memory where
  | table
  | resolver
  deriving DecidableEq

/-- What has been worked out so far, by the type that was asked for. -/
abbrev TypeMemo := Memory → List (String × List String)

namespace TypeMemo

/-- What is remembered under a name; if nothing is, it is worked out and remembered. -/
def remembering (owner : Memory) (name : String) (work : StateM TypeMemo (List String)) :
    StateM TypeMemo (List String) := do
  match ((← get) owner).lookup name with
  | some known => return known
  | none =>
    let found ← work
    modify fun m => Function.update m owner ((name, found) :: m owner)
    return found

/-- The concrete subtypes of a type, from memory if they are there. -/
def concreteSubtypes (h : Hierarchy) (super : String) : StateM TypeMemo (List String) :=
  remembering .table super (return h.concreteSubtypes super)

/-- The concrete classes that implement an interface, from memory if they are there. The class table
is asked for those that are not. -/
def implementors (h : Hierarchy) (interface : String) : StateM TypeMemo (List String) :=
  remembering .resolver interface (concreteSubtypes h interface)

/-- A concrete class implements an interface. An empty name asks nothing. -/
def implements (h : Hierarchy) (className interface : String) : StateM TypeMemo Bool := do
  if className = "" ∨ interface = "" then return false
  return (← implementors h interface).contains className

/-- A class implements some interface of the listener table. The interfaces are tried in ascending
order, up to the first one that the class implements. -/
def isListenerType (r : Resolver) (className : String) : StateM TypeMemo Bool :=
  r.table.interfaces.anyM (implements r.hierarchy className)

/-- The answer with the help of what is remembered. -/
def ask (r : Resolver) : TypeQuestion → StateM TypeMemo TypeAnswer
  | .isSubtype sub super => return .truth (r.hierarchy.isSubtype sub super)
  | .concreteSubtypes super => return .classes (← concreteSubtypes r.hierarchy super)
  | .implements className interface => return .truth (← implements r.hierarchy className interface)
  | .isListenerType className => return .truth (← isListenerType r className)

/-- The answers to a sequence of questions, with nothing remembered at first. -/
def askAll (r : Resolver) (qs : List TypeQuestion) : List TypeAnswer :=
  ((qs.mapM (ask r)).run fun _ => []).1

/-! ### Memories are right -/

/-- What is remembered is what would be worked out anew. -/
def Right (h : Hierarchy) (m : TypeMemo) : Prop :=
  ∀ owner name known, (m owner).lookup name = some known → known = h.concreteSubtypes name

theorem right_empty (h : Hierarchy) : Right h fun _ => [] := fun _ _ _ known => nomatch known

/-- One more right entry keeps a memory right. -/
theorem Right.update {h : Hierarchy} {m : TypeMemo} (right : Right h m) (owner : Memory)
    (name : String) :
    Right h (Function.update m owner ((name, h.concreteSubtypes name) :: m owner)) := by
  intro who key known found
  by_cases same : who = owner
  · subst same
    rw [Function.update_self, List.lookup_cons] at found
    split at found
    case h_1 equal =>
      obtain rfl := eq_of_beq equal
      exact (Option.some.inj found).symm
    case h_2 => exact right who key known found
  · rw [Function.update_of_ne same] at found
    exact right who key known found

/-- On a right memory the work gives the answer, and the memory stays right. -/
def Answers {α : Type} (h : Hierarchy) (x : StateM TypeMemo α) (a : α) : Prop :=
  ∀ m, Right h m → (x.run m).1 = a ∧ Right h (x.run m).2

section Answers

variable {α β : Type} {h : Hierarchy} {x : StateM TypeMemo α} {f : α → StateM TypeMemo β} {a : α}
  {b : β}

theorem Answers.pure (a : α) : Answers h (pure a) a := fun _ right => ⟨rfl, right⟩

theorem Answers.bind (first : Answers h x a) (second : Answers h (f a) b) :
    Answers h (x >>= f) b := by
  intro m right
  obtain ⟨answered, later⟩ := first m right
  have rest := second (x.run m).2 later
  rw [← answered] at rest
  exact rest

/-- Remembering work that gives the concrete subtypes of a type changes nothing. -/
theorem Answers.remembering {name : String} {work : StateM TypeMemo (List String)}
    (works : Answers h work (h.concreteSubtypes name)) (owner : Memory) :
    Answers h (remembering owner name work) (h.concreteSubtypes name) := by
  intro m right
  cases remembered : (m owner).lookup name with
  | some known =>
    have ran : (TypeMemo.remembering owner name work).run m = (known, m) := by
      simp only [TypeMemo.remembering, bind_pure_comp, StateT.run_bind, StateT.run_get, pure_bind,
        remembered, StateT.run_pure]
      rfl
    rw [ran]
    exact ⟨right owner name known remembered, right⟩
  | none =>
    have ran : (TypeMemo.remembering owner name work).run m = ((work.run m).1,
        Function.update (work.run m).2 owner ((name, (work.run m).1) :: (work.run m).2 owner)) := by
      simp only [TypeMemo.remembering, bind_pure_comp, StateT.run_bind, StateT.run_get, pure_bind,
        remembered, StateT.run_map, StateT.run_modify, map_pure]
      rfl
    obtain ⟨answered, later⟩ := works m right
    rw [ran, answered]
    exact ⟨rfl, later.update owner name⟩

theorem answers_concreteSubtypes (super : String) :
    Answers h (concreteSubtypes h super) (h.concreteSubtypes super) :=
  (Answers.pure _).remembering .table

theorem answers_implementors (interface : String) :
    Answers h (implementors h interface) (h.concreteSubtypes interface) :=
  (answers_concreteSubtypes interface).remembering .resolver

theorem answers_implements (r : Resolver) (className interface : String) :
    Answers r.hierarchy (implements r.hierarchy className interface)
      (r.implements className interface) := by
  unfold implements
  split
  case isTrue unnamed =>
    have no : r.implements className interface = false := by
      rw [Bool.eq_false_iff]
      intro yes
      obtain ⟨named, named', -⟩ := Resolver.implements_eq_true_iff.1 yes
      exact unnamed.elim named named'
    rw [no]
    exact .pure false
  case isFalse named =>
    rw [not_or] at named
    have same : r.implements className interface =
        (r.hierarchy.concreteSubtypes interface).contains className := by
      simp [Resolver.implements, named]
    rw [same]
    exact (answers_implementors interface).bind (.pure _)

theorem Answers.anyM {test : String → StateM TypeMemo Bool} {holds : String → Bool}
    (each : ∀ i, Answers h (test i) (holds i)) (is : List String) :
    Answers h (is.anyM test) (is.any holds) := by
  induction is with
  | nil => exact .pure false
  | cons i rest ih =>
    rw [List.anyM, List.any_cons]
    refine (each i).bind ?_
    cases holds i with
    | true => exact .pure true
    | false => exact ih

theorem answers_ask (r : Resolver) (q : TypeQuestion) :
    Answers r.hierarchy (ask r q) (r.answer q) := by
  cases q with
  | isSubtype sub super => exact .pure _
  | concreteSubtypes super => exact (answers_concreteSubtypes super).bind (.pure _)
  | implements className interface => exact (answers_implements r className interface).bind (.pure _)
  | isListenerType className =>
    exact (Answers.anyM (answers_implements r className) r.table.interfaces).bind (.pure _)

/-- A sequence of questions is answered question by question. -/
theorem answers_mapM_ask (r : Resolver) (qs : List TypeQuestion) :
    Answers r.hierarchy (qs.mapM (ask r)) (qs.map r.answer) := by
  induction qs with
  | nil => exact .pure []
  | cons q rest ih =>
    rw [List.mapM_cons, List.map_cons]
    exact (answers_ask r q).bind (ih.bind (.pure _))

end Answers

end TypeMemo

/-- Subtyping is exact on every class table. A class is a subtype of itself and of whatever links lead
to, and a recursive search with shared marks finds out the same; the concrete subtypes of a type are
the concrete classes of the table that are subtypes of it, in strictly ascending order; a class
implements an interface, and is a listener type, accordingly. In any sequence of questions, what is
remembered changes no answer. -/
theorem subtyping_exact (r : Resolver) (qs : List TypeQuestion) :
    let h := r.hierarchy
    (∀ a b, h.isSubtype a b = true ↔ a = b ∨ Relation.TransGen h.Extends a b) ∧
    (∀ a b depth, h.names.length < depth → (h.visit b depth a []).1 = h.isSubtype a b) ∧
    (∀ super, (h.concreteSubtypes super).SortedLT ∧
      ∀ c, c ∈ h.concreteSubtypes super ↔
        (∃ info, h.Lists c info ∧ info.isAbstract = false ∧ info.isInterface = false) ∧
          h.isSubtype c super = true) ∧
    (∀ c interface, r.implements c interface = true ↔
      c ≠ "" ∧ interface ≠ "" ∧ c ∈ h.concreteSubtypes interface) ∧
    (∀ c, r.isListenerType c = true ↔
      ∃ reg ∈ r.table.registrations, r.implements c reg.interface = true) ∧
    TypeMemo.askAll r qs = qs.map r.answer := by
  intro h
  refine ⟨fun a b => Hierarchy.isSubtype_iff, fun a b depth enough => Hierarchy.visit_eq enough,
    fun super => ⟨h.sortedLT_concreteSubtypes super, fun c => Hierarchy.mem_concreteSubtypes_iff_lists⟩,
    fun c interface => Resolver.implements_eq_true_iff, fun c => isListenerType_iff, ?_⟩
  exact (TypeMemo.answers_mapM_ask r qs _ (TypeMemo.right_empty h)).1

end WidgetFlow
