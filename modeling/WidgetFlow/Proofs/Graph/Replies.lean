import WidgetFlow.Proofs.Graph.Naming

/-!
# What requests are answered

A request changes the store, and it is answered: with the number of a node, with whether an edge is
new, or with nothing but consent. `reply` is the request with its answer.

All requests for the node of something come down to one: they read a reference as an entity, and name
the entity (`reply_of_entity?`). A reference that cannot be read is refused as unresolved, and for a
general reference it is said exactly when that happens (`intern_eq`, `Ref.entity?_eq_none_iff`).
-/

namespace WidgetFlow

/-- The answer to a request that is granted. -/
inductive Reply where
  | node (id : NodeId)
  /-- The edge was not there before, or it was. -/
  | joined (isNew : Bool)
  | done
  deriving DecidableEq, Inhabited

namespace StoreRequest

/-- The reference whose node is asked for. -/
def ref? : StoreRequest → Option Ref
  | intern r => some r
  | internLocal l => some { kind := .slot, slot := l }
  | internAlloc a => some { kind := .allocation, alloc := a }
  | internField f => some { kind := .field, field := f }
  | internConstant c => some { kind := .constant, constant := c }
  | internResource r => some { kind := .resource, resource := r }
  | internWindow w => some { kind := .window, window := w }
  | internNull => some { kind := .null }
  | _ => none

/-- The entity whose node is asked for. -/
def entity? (q : StoreRequest) : Option Entity := q.ref?.bind (·.entity?)

end StoreRequest

/-! ### References that cannot be read -/

namespace Ref

/-- A reference that resolves is valid. -/
theorem isValid_of_entity? {r : Ref} {e : Entity} (named : r.entity? = some e) :
    r.isValid = true := by
  unfold entity? at named
  split at named <;> rename_i kind <;> simp only [isValid, kind]
  case h_4 =>
    obtain ⟨v, value, -⟩ := Option.map_eq_some_iff.1 named
    rw [value]
    rfl
  case h_6 =>
    have known := (Option.ite_none_right_eq_some.1 named).1
    cases container : r.window.kind <;>
      simp_all [WindowKind.name, WindowKind.object?]
  case h_8 | h_9 => cases named
  all_goals exact (Option.ite_none_right_eq_some.1 named).1

/-- A reference does not resolve if it is not valid, or if it names a window of an unknown kind. -/
theorem entity?_eq_none_iff {r : Ref} : r.entity? = none ↔
    r.isValid = false ∨ (r.kind = .window ∧ r.window.kind.object? = none) := by
  constructor
  · intro unread
    cases valid : r.isValid with
    | false => exact .inl rfl
    | true =>
      unfold isValid at valid
      unfold entity? at unread
      split at valid <;> rename_i kind <;> simp only [kind] at unread
      case h_4 =>
        rw [Entity.ofConstant?, Option.map_eq_none_iff] at unread
        simp [unread] at valid
      case h_6 =>
        refine .inr ⟨kind, ?_⟩
        simp_all [Entity.ofWindow?]
      all_goals simp_all [Entity.ofLocal?, Entity.ofAlloc?, Entity.ofField?, Entity.ofResource?]
  · rintro (invalid | ⟨kind, unknown⟩)
    · cases named : r.entity? with
      | none => rfl
      | some e =>
        rw [isValid_of_entity? named] at invalid
        cases invalid
    · simp [entity?, kind, Entity.ofWindow?, unknown]

/-- Why a reference that does not resolve is refused. -/
def refusal (r : Ref) : Fault :=
  if r.isValid then .unresolved "window" r.window.describe else .unresolved r.kind.name r.describe

theorem refusal_unresolved (r : Ref) : ∃ what detail, r.refusal = .unresolved what detail := by
  unfold refusal
  split
  · exact ⟨_, _, rfl⟩
  · exact ⟨_, _, rfl⟩

end Ref

namespace Store

variable {s s' : Store} {q : StoreRequest} {r : Ref} {e : Entity} {x : NodeId}

/-- A reference is answered with the node of its entity, or refused. -/
theorem intern_eq (s : Store) (r : Ref) : s.intern r =
    match r.entity? with
    | some e => .ok (s.internEntity e)
    | none => .error r.refusal := by
  cases named : r.entity? with
  | some e =>
    have valid := Ref.isValid_of_entity? named
    unfold Ref.entity? at named
    unfold intern
    rw [if_pos valid]
    split at named <;> rename_i kind <;> simp only [kind]
    case h_7 =>
      cases named
      rfl
    case h_8 => cases named
    case h_9 => cases named
    all_goals
      simp only [internLocal, internAlloc, internField, internConstant, internResource,
        internWindow, named, internOr]
  | none =>
    simp only [Ref.refusal]
    unfold intern
    rcases Ref.entity?_eq_none_iff.1 named with invalid | ⟨kind, unknown⟩
    · simp [invalid]
    · split
      · simp [kind, internWindow, Entity.ofWindow?, unknown, internOr]
      · rfl

/-! ### Requests with their answers -/

/-- The answer to a request and the store it leads to, or why it is refused. -/
def reply (s : Store) : StoreRequest → Except Fault (Reply × Store)
  | .intern r => (s.intern r).map (Prod.map .node id)
  | .internLocal l => (s.internLocal l).map (Prod.map .node id)
  | .internAlloc a => (s.internAlloc a).map (Prod.map .node id)
  | .internField f => (s.internField f).map (Prod.map .node id)
  | .internConstant c => (s.internConstant c).map (Prod.map .node id)
  | .internResource r => (s.internResource r).map (Prod.map .node id)
  | .internWindow w => (s.internWindow w).map (Prod.map .node id)
  | .internNull => .ok (.node s.internNull.1, s.internNull.2)
  | .newAllocation c k => .ok (.node (s.newAllocation c k).1, (s.newAllocation c k).2)
  | .addEdge src dst site => (s.addEdge src dst site).map (Prod.map .joined id)
  | .createOperation r => (s.createOperation r).map (Prod.map .node id)
  | .bindWindowRoot w root => (s.bindWindowRoot w root).map (.done, ·)
  | .addWindowRoot w p => (s.addWindowRoot w p).map (.done, ·)

/-- What a request is answered, without the store it leads to. -/
def outcome (s : Store) (q : StoreRequest) : Except Fault Reply := (s.reply q).map (·.1)

theorem answer_eq (s : Store) (q : StoreRequest) : s.answer q = (s.reply q).map (·.2) := by
  have forget {α β : Type} (f : α → β) (x : Except Fault (α × Store)) :
      (x.map (Prod.map f id)).map (·.2) = x.map (·.2) := by
    cases x <;> rfl
  have keep (x : Except Fault Store) : (x.map (Reply.done, ·)).map (·.2) = x := by
    cases x <;> rfl
  cases q with
  | internNull => rfl
  | newAllocation => rfl
  | bindWindowRoot => exact (keep _).symm
  | addWindowRoot => exact (keep _).symm
  | _ => exact (forget _ _).symm

theorem serve_eq (s : Store) (q : StoreRequest) : s.serve q =
    match s.reply q with
    | .ok (_, s') => s'
    | .error _ => s := by
  rw [serve, answer_eq]
  cases s.reply q <;> rfl

/-- The answer of those who name an entity. -/
def naming (s : Store) (e : Entity) : Except Fault (Reply × Store) :=
  .ok (.node (s.internEntity e).1, (s.internEntity e).2)

theorem map_internOr (s : Store) (what detail : String) (e? : Option Entity) :
    (s.internOr what detail e?).map (Prod.map Reply.node id) =
      e?.elim (.error (.unresolved what detail)) s.naming := by
  cases e? <;> rfl

/-- Whoever asks for the node of a reference is answered with that of its entity, or told that the
reference is unresolved. -/
theorem reply_of_ref? (s : Store) (asks : q.ref? = some r) :
    ∃ what detail, s.reply q = r.entity?.elim (.error (.unresolved what detail)) s.naming := by
  cases q <;> cases asks
  case intern =>
    obtain ⟨what, detail, refused⟩ := r.refusal_unresolved
    refine ⟨what, detail, ?_⟩
    simp only [reply, intern_eq, ← refused]
    cases r.entity? <;> rfl
  case internNull => exact ⟨"", "", rfl⟩
  all_goals exact ⟨_, _, map_internOr s _ _ _⟩

theorem reply_of_entity? (asks : q.entity? = some e) :
    s.reply q = .ok (.node (s.internEntity e).1, (s.internEntity e).2) := by
  obtain ⟨r, ref, named⟩ := Option.bind_eq_some_iff.1 asks
  obtain ⟨what, detail, reply⟩ := reply_of_ref? s ref
  rw [reply, named]
  rfl

theorem outcome_of_entity? (asks : q.entity? = some e) :
    s.outcome q = .ok (.node (s.internEntity e).1) := by
  rw [outcome, reply_of_entity? asks]
  rfl

theorem serve_of_entity? (asks : q.entity? = some e) : s.serve q = (s.internEntity e).2 := by
  rw [serve_eq, reply_of_entity? asks]

/-- A reference that is answered with a node resolves, and the node is that of its entity. -/
theorem outcome_eq_node_iff (asks : q.ref? = some r) :
    s.outcome q = .ok (.node x) ↔ ∃ e, r.entity? = some e ∧ (s.internEntity e).1 = x := by
  obtain ⟨what, detail, reply⟩ := reply_of_ref? s asks
  rw [outcome, reply]
  cases r.entity? <;> simp [naming, Except.map]

theorem Interns.ref? (call : s.Interns q r x) : q.ref? = some r := by
  cases call <;> rfl

theorem Interns.outcome (call : s.Interns q r x) : s.outcome q = .ok (.node x) := by
  obtain ⟨e, named, made⟩ := call.entity
  exact (outcome_eq_node_iff call.ref?).2 ⟨e, named, by rw [made]⟩

end Store

end WidgetFlow
