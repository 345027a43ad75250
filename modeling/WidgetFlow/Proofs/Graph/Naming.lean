import WidgetFlow.Proofs.Graph.WellFormed

/-!
# Names and nodes

A reference resolves to an entity, and what tells entities apart is their key. `Ref.SameIdentity`
says without keys when two references name one thing, part by part.

The store keeps a table from keys to nodes. In every store that requests lead to, the table is exact:
a key has a node exactly if the node stands for an entity of that key (`Named`), and once a key has a
node it keeps it (`Recalls`). From these two facts follows what interning promises over whole runs,
whatever lies between two calls (`interned_canonical`).
-/

namespace WidgetFlow

/-! ### Identity of references -/

namespace ConstantRef

/-- The constants are of one kind and agree in the payload that belongs to it. -/
def SameValue (c d : ConstantRef) : Prop :=
  c.kind = d.kind ∧ (c.kind = "int" ∨ c.kind = "long" → c.int = d.int) ∧
    (c.kind = "string" → c.str = d.str)

theorem literal?_eq_some_iff {c : ConstantRef} {v : Literal} : c.literal? = some v ↔
    (c.kind = "int" ∧ v = .int c.int) ∨ (c.kind = "long" ∧ v = .long c.int) ∨
      (c.kind = "string" ∧ v = .string c.str) := by
  unfold literal?
  split
  case h_1 kind => simp [kind, eq_comm]
  case h_2 kind => simp [kind, eq_comm]
  case h_3 kind => simp [kind, eq_comm]
  case h_4 notInt notLong notString =>
    refine iff_of_false (by simp) ?_
    rintro (⟨kind, -⟩ | ⟨kind, -⟩ | ⟨kind, -⟩)
    · exact notInt kind
    · exact notLong kind
    · exact notString kind

theorem sameValue_iff {c d : ConstantRef} {u v : Literal} (left : c.literal? = some u)
    (right : d.literal? = some v) : c.SameValue d ↔ u = v := by
  rw [literal?_eq_some_iff] at left right
  unfold SameValue
  rcases left with ⟨kind, rfl⟩ | ⟨kind, rfl⟩ | ⟨kind, rfl⟩ <;>
    rcases right with ⟨kind', rfl⟩ | ⟨kind', rfl⟩ | ⟨kind', rfl⟩ <;> simp [kind, kind']

end ConstantRef

namespace WindowRef

/-- The windows are of one kind and class, and of one creation site if that counts for the kind. -/
def SameWindow (v w : WindowRef) : Prop :=
  v.kind = w.kind ∧ v.className = w.className ∧
    (v.kind = .dialog ∨ v.kind = .tabSpec → v.site = w.site)

theorem isPerSite_iff {k : WindowKind} : k.isPerSite = true ↔ k = .dialog ∨ k = .tabSpec := by
  cases k <;> simp [WindowKind.isPerSite]

theorem sameWindow_iff {v w : WindowRef} : v.SameWindow w ↔ v.canonical = w.canonical := by
  obtain ⟨kind, className, site⟩ := v
  obtain ⟨kind', className', site'⟩ := w
  unfold SameWindow canonical
  simp only [← isPerSite_iff]
  by_cases same : kind = kind'
  · subst same
    by_cases perSite : kind.isPerSite = true
    · simp [perSite]
    · simp [perSite]
  · have apart : ∀ {a b a' b' : String}, WindowRef.mk kind a b ≠ ⟨kind', a', b'⟩ :=
      fun equal => same (WindowRef.mk.inj equal).1
    split <;> split <;> simp [same, apart]

end WindowRef

namespace Ref

/-- Two references have one canonical identity: they are of one kind, and agree in what identifies
an entity of this kind. The class and the object kind of an allocation do not count. -/
def SameIdentity (a b : Ref) : Prop :=
  a.kind = b.kind ∧
    match a.kind with
    | .slot => a.slot = b.slot
    | .allocation => a.alloc.expr = b.alloc.expr
    | .field => a.field = b.field
    | .constant => a.constant.SameValue b.constant
    | .resource => a.resource = b.resource
    | .window => a.window.SameWindow b.window
    | .null => True
    | .operation | .other _ => False

/-- What a reference resolves to. -/
def entity? (r : Ref) : Option Entity :=
  match r.kind with
  | .slot => Entity.ofLocal? r.slot
  | .allocation => Entity.ofAlloc? r.alloc
  | .field => Entity.ofField? r.field
  | .constant => Entity.ofConstant? r.constant
  | .resource => Entity.ofResource? r.resource
  | .window => Entity.ofWindow? r.window
  | .null => some .null
  | .operation | .other _ => none

/-- The class that a reference gives its node. -/
def className (r : Ref) : String :=
  match r.kind with
  | .allocation => r.alloc.className
  | .window => r.window.className
  | _ => ""

/-- The object kind that a reference gives its node; an allocation that leaves it open is plain. -/
def object? (r : Ref) : Option ObjectKind :=
  match r.kind with
  | .allocation => some (if r.alloc.kind.name = "" then .plain else r.alloc.kind)
  | .window => r.window.kind.object?
  | _ => none

/-- The entity of a reference, by the kind of the reference. -/
inductive Resolves (r : Ref) : Entity → Prop where
  | slot (kind : r.kind = .slot) : Resolves r (.slot r.slot)
  | allocation (kind : r.kind = .allocation) :
      Resolves r (.allocation { r.alloc with kind := r.alloc.kind.orPlain })
  | field (kind : r.kind = .field) : Resolves r (.field r.field)
  | constant (kind : r.kind = .constant) {v : Literal} (value : r.constant.literal? = some v) :
      Resolves r (.constant v)
  | resource (kind : r.kind = .resource) : Resolves r (.resource r.resource)
  | window (kind : r.kind = .window) : Resolves r (.window r.window.canonical)
  | null (kind : r.kind = .null) : Resolves r .null

theorem resolves_of_entity? {r : Ref} {e : Entity} (named : r.entity? = some e) : r.Resolves e := by
  unfold entity? at named
  split at named
  case h_1 kind =>
    cases (Option.ite_none_right_eq_some.1 named).2
    exact .slot kind
  case h_2 kind =>
    cases (Option.ite_none_right_eq_some.1 named).2
    exact .allocation kind
  case h_3 kind =>
    cases (Option.ite_none_right_eq_some.1 named).2
    exact .field kind
  case h_4 kind =>
    obtain ⟨v, value, rfl⟩ := Option.map_eq_some_iff.1 named
    exact .constant kind value
  case h_5 kind =>
    cases (Option.ite_none_right_eq_some.1 named).2
    exact .resource kind
  case h_6 kind =>
    cases (Option.ite_none_right_eq_some.1 named).2
    exact .window kind
  case h_7 kind =>
    obtain rfl := Option.some.inj named
    exact .null kind
  case h_8 => cases named
  case h_9 => cases named

/-- References that resolve have one identity exactly if their entities have one key. -/
theorem sameIdentity_iff {a b : Ref} {d e : Entity} (left : a.entity? = some d)
    (right : b.entity? = some e) : a.SameIdentity b ↔ d.key = e.key := by
  unfold SameIdentity
  rcases resolves_of_entity? left with kind | kind | kind | ⟨kind, value⟩ | kind | kind | kind <;>
    rcases resolves_of_entity? right with
      kind' | kind' | kind' | ⟨kind', value'⟩ | kind' | kind' | kind' <;>
    simp only [kind, kind', reduceCtorEq, false_and, true_and, Entity.key, Entity.Key.slot.injEq,
      Entity.Key.allocation.injEq, Entity.Key.field.injEq, Entity.Key.constant.injEq,
      Entity.Key.resource.injEq, Entity.Key.window.injEq]
  · exact ConstantRef.sameValue_iff value value'
  · exact WindowRef.sameWindow_iff

/-- What a node says of its entity is what the reference says. -/
theorem node_of_entity? {r : Ref} {e : Entity} (named : r.entity? = some e) (id : NodeId) :
    (Node.mk id (.entity e)).kind = r.kind ∧ (Node.mk id (.entity e)).className = r.className ∧
      (Node.mk id (.entity e)).object? = r.object? := by
  rcases resolves_of_entity? named with kind | kind | kind | ⟨kind, -⟩ | kind | kind | kind
  case window =>
    unfold WindowRef.canonical
    split <;> simp [Node.kind, Node.className, Node.object?, className, object?, kind]
  all_goals
    simp [Node.kind, Node.className, Node.object?, className, object?, kind, ObjectKind.orPlain]

end Ref

namespace Store

variable {s s' s'' : Store}

/-! ### The table of names -/

@[simp] theorem lookup?_push (s : Store) (b : Node.Body) (k : Entity.Key) :
    (s.push b).lookup? k = s.lookup? k := rfl

@[simp] theorem lookup?_link (s : Store) (e : Edge) (k : Entity.Key) :
    (s.link e).lookup? k = s.lookup? k := rfl

@[simp] theorem lookup?_linkAll (s : Store) (es : List Edge) (k : Entity.Key) :
    (s.linkAll es).lookup? k = s.lookup? k := by
  induction es generalizing s with
  | nil => rfl
  | cons e es ih => rw [linkAll_cons, ih, lookup?_link]

theorem lookup?_register (s : Store) (e : Entity) (k : Entity.Key) :
    (s.register e).lookup? k = if k = e.key then some s.nextId else s.lookup? k := by
  simp only [lookup?, register, List.lookup_cons]
  by_cases same : k = e.key
  · simp [same]
  · simp [same, beq_eq_false_iff_ne.2 same]

theorem node?_register (s : Store) (e : Entity) (id : NodeId) :
    (s.register e).node? id = if id = s.nextId then some ⟨s.nextId, .entity e⟩ else s.node? id :=
  node?_push s (.entity e) id

@[simp] theorem node?_nextId (s : Store) : s.node? s.nextId = none := by
  simp [node?]

/-- An entity with the key stands at the number. -/
def StandsFor (s : Store) (id : NodeId) (k : Entity.Key) : Prop :=
  ∃ e : Entity, s.node? id = some ⟨id, .entity e⟩ ∧ e.key = k

theorem not_standsFor_nextId {k : Entity.Key} : ¬ s.StandsFor s.nextId k := by
  rintro ⟨e, there, -⟩
  rw [node?_nextId] at there
  cases there

/-- The table of names is exact: a key has a node exactly if an entity with this key stands there. -/
def Named (s : Store) : Prop := ∀ k id, s.lookup? k = some id ↔ s.StandsFor id k

/-- A key that has a node in one store has the same node in the other. -/
def Recalls (s s' : Store) : Prop := ∀ k id, s.lookup? k = some id → s'.lookup? k = some id

theorem Recalls.refl (s : Store) : s.Recalls s := fun _ _ known => known

theorem Recalls.trans (first : s.Recalls s') (second : s'.Recalls s'') : s.Recalls s'' :=
  fun k id known => second k id (first k id known)

/-- A new node that stands for no entity does not touch the table. -/
theorem Named.push (ok : s.Named) {b : Node.Body} (plain : ∀ e, b ≠ .entity e) :
    (s.push b).Named := by
  intro k id
  rw [lookup?_push, ok k id]
  unfold StandsFor
  simp only [node?_push]
  by_cases new : id = s.nextId
  · subst new
    refine iff_of_false not_standsFor_nextId ?_
    rintro ⟨e, there, -⟩
    rw [if_pos rfl] at there
    exact plain e (Node.mk.inj (Option.some.inj there)).2
  · simp only [if_neg new]

/-- A new name for a key without a node keeps the table exact. -/
theorem Named.register (ok : s.Named) {e : Entity} (fresh : s.lookup? e.key = none) :
    (s.register e).Named := by
  intro k id
  rw [lookup?_register]
  unfold StandsFor
  simp only [node?_register]
  by_cases new : id = s.nextId
  · subst new
    simp only [if_true, Option.some.injEq, Node.mk.injEq, Node.Body.entity.injEq, true_and,
      exists_eq_left']
    split
    case isTrue same => simp [same]
    case isFalse other =>
      refine iff_of_false (fun known => ?_) (Ne.symm other)
      exact not_standsFor_nextId ((ok k _).1 known)
  · simp only [if_neg new]
    split
    case isTrue same =>
      refine iff_of_false (fun known => new (Option.some.inj known).symm) fun there => ?_
      have known := (ok k id).2 there
      rw [same, fresh] at known
      cases known
    case isFalse => exact ok k id

theorem Named.linkAll (ok : s.Named) (es : List Edge) : (s.linkAll es).Named := by
  intro k id
  simp only [lookup?_linkAll, StandsFor, node?_linkAll]
  exact ok k id

theorem PlainStep.keepsNames (step : PlainStep s s') (ok : s.Named) : s'.Named := by
  cases step with
  | named e fresh => exact ok.register fresh
  | madeUp => exact ok.push (by simp)
  | joined e src dst fresh => exact ok.linkAll [e]
  | _ => exact ok

/-- Every step keeps the table of names exact. -/
theorem Step.keepsNames (step : Step s s') (ok : s.Named) : s'.Named := by
  cases step with
  | plain step => exact step.keepsNames ok
  | operated o i fits =>
    rw [linkOperands_eq]
    exact (ok.push (by simp)).linkAll _

theorem PlainStep.recalls (step : PlainStep s s') : s.Recalls s' := by
  intro k id known
  cases step with
  | named e fresh =>
    have other : k ≠ e.key := by
      rintro rfl
      rw [fresh] at known
      cases known
    rw [lookup?_register, if_neg other]
    exact known
  | _ => exact known

/-- Every step recalls the names there were. -/
theorem Step.recalls (step : Step s s') : s.Recalls s' := by
  cases step with
  | plain step => exact step.recalls
  | operated o i fits =>
    intro k id known
    rw [linkOperands_eq, lookup?_linkAll, lookup?_push]
    exact known

theorem named_empty : empty.Named := by
  intro k id
  simp [lookup?, StandsFor, node?, entry?, empty]

theorem named_run (qs : List StoreRequest) : (empty.run qs).Named :=
  run_induction named_empty (fun _ _ ok step => step.keepsNames ok) qs

theorem run_recalls (s : Store) (qs : List StoreRequest) : s.Recalls (s.run qs) :=
  run_induction (P := s.Recalls) (.refl s) (fun _ _ known step => known.trans step.recalls) qs

/-- A node stands for one key only. -/
theorem StandsFor.key_eq {id : NodeId} {k k' : Entity.Key} (first : s.StandsFor id k)
    (second : s.StandsFor id k') : k = k' := by
  obtain ⟨e, there, rfl⟩ := first
  obtain ⟨e', there', rfl⟩ := second
  rw [there] at there'
  rw [Node.Body.entity.inj (Node.mk.inj (Option.some.inj there')).2]

/-- Keys share a node only if they are one key. -/
theorem Named.id_eq_iff (named : s.Named) {k k' : Entity.Key} {id id' : NodeId}
    (known : s.lookup? k = some id) (known' : s.lookup? k' = some id') : id = id' ↔ k = k' := by
  constructor
  · rintro rfl
    exact ((named _ _).1 known).key_eq ((named _ _).1 known')
  · rintro rfl
    exact Option.some.inj (known.symm.trans known')

/-! ### Interning -/

/-- The request `q` asks the store for the node of the reference `r` and is answered with `id`. -/
inductive Interns (s : Store) : StoreRequest → Ref → NodeId → Prop where
  | ref {r : Ref} {id : NodeId} {s' : Store} (ok : s.intern r = .ok (id, s')) :
      Interns s (.intern r) r id
  | slot {l : Local} {id : NodeId} {s' : Store} (ok : s.internLocal l = .ok (id, s')) :
      Interns s (.internLocal l) { kind := .slot, slot := l } id
  | allocation {a : AllocSite} {id : NodeId} {s' : Store} (ok : s.internAlloc a = .ok (id, s')) :
      Interns s (.internAlloc a) { kind := .allocation, alloc := a } id
  | field {f : FieldRef} {id : NodeId} {s' : Store} (ok : s.internField f = .ok (id, s')) :
      Interns s (.internField f) { kind := .field, field := f } id
  | constant {c : ConstantRef} {id : NodeId} {s' : Store}
      (ok : s.internConstant c = .ok (id, s')) :
      Interns s (.internConstant c) { kind := .constant, constant := c } id
  | resource {r : ResourceId} {id : NodeId} {s' : Store}
      (ok : s.internResource r = .ok (id, s')) :
      Interns s (.internResource r) { kind := .resource, resource := r } id
  | window {w : WindowRef} {id : NodeId} {s' : Store} (ok : s.internWindow w = .ok (id, s')) :
      Interns s (.internWindow w) { kind := .window, window := w } id
  | null : Interns s .internNull { kind := .null } s.internNull.1

theorem internOr_eq_ok {what detail : String} {e? : Option Entity} {id : NodeId}
    (ok : s.internOr what detail e? = .ok (id, s')) :
    ∃ e, e? = some e ∧ s.internEntity e = (id, s') := by
  cases e? with
  | none => cases ok
  | some e => exact ⟨e, rfl, Except.ok.inj ok⟩

/-- A reference that is granted a node gets the node of its entity. -/
theorem intern_eq_ok {r : Ref} {id : NodeId} (ok : s.intern r = .ok (id, s')) :
    ∃ e, r.entity? = some e ∧ s.internEntity e = (id, s') := by
  unfold intern at ok
  split at ok
  case isFalse => cases ok
  case isTrue =>
    split at ok
    case h_7 kind =>
      simp only [Ref.entity?, kind]
      exact ⟨.null, rfl, Except.ok.inj ok⟩
    case h_8 => cases ok
    case h_9 => cases ok
    all_goals
      rename r.kind = _ => kind
      simp only [Ref.entity?, kind]
      exact internOr_eq_ok ok

/-- A granted request leaves the store that names the entity of its reference. -/
theorem Interns.entity {q : StoreRequest} {r : Ref} {id : NodeId} (call : s.Interns q r id) :
    ∃ e, r.entity? = some e ∧ s.internEntity e = (id, s.serve q) := by
  have served {q : StoreRequest} {r : Ref} {id : NodeId} {s' : Store}
      (answer : s.answer q = .ok s')
      (named : ∃ e, r.entity? = some e ∧ s.internEntity e = (id, s')) :
      ∃ e, r.entity? = some e ∧ s.internEntity e = (id, s.serve q) := by
    simpa only [serve, answer] using named
  cases call with
  | ref ok => exact served (by simp [answer, ok, Except.map]) (intern_eq_ok ok)
  | slot ok => exact served (by simp [answer, ok, Except.map]) (internOr_eq_ok ok)
  | allocation ok => exact served (by simp [answer, ok, Except.map]) (internOr_eq_ok ok)
  | field ok => exact served (by simp [answer, ok, Except.map]) (internOr_eq_ok ok)
  | constant ok => exact served (by simp [answer, ok, Except.map]) (internOr_eq_ok ok)
  | resource ok => exact served (by simp [answer, ok, Except.map]) (internOr_eq_ok ok)
  | window ok => exact served (by simp [answer, ok, Except.map]) (internOr_eq_ok ok)
  | null => exact ⟨.null, rfl, rfl⟩

/-- Naming an entity answers with the node that the key has from then on. -/
theorem lookup?_internEntity (s : Store) (e : Entity) :
    (s.internEntity e).2.lookup? e.key = some (s.internEntity e).1 := by
  unfold internEntity
  split
  case h_1 known => exact known
  case h_2 => rw [lookup?_register, if_pos rfl]

theorem Interns.lookup? {q : StoreRequest} {r : Ref} {id : NodeId} (call : s.Interns q r id) :
    ∃ e, r.entity? = some e ∧ (s.serve q).lookup? e.key = some id := by
  obtain ⟨e, named, made⟩ := call.entity
  have known := lookup?_internEntity s e
  rw [made] at known
  exact ⟨e, named, known⟩

/-! ### Runs -/

/-- A request of the run asked for the node of `r` and was answered with `id`. -/
def InternedIn (qs : List StoreRequest) (r : Ref) (id : NodeId) : Prop :=
  ∃ earlier q later, qs = earlier ++ q :: later ∧ (empty.run earlier).Interns q r id

/-- A request of the run made up an object and was answered with `id`. -/
def MadeUpIn (qs : List StoreRequest) (id : NodeId) : Prop :=
  ∃ earlier c k later, qs = earlier ++ .newAllocation c k :: later ∧
    ((empty.run earlier).newAllocation c k).1 = id

/-- The node that a run has answered for a reference is the node of its key ever after. -/
theorem InternedIn.lookup? {qs : List StoreRequest} {r : Ref} {id : NodeId}
    (call : InternedIn qs r id) :
    ∃ e, r.entity? = some e ∧ (empty.run qs).lookup? e.key = some id := by
  obtain ⟨earlier, q, later, rfl, call⟩ := call
  obtain ⟨e, named, known⟩ := call.lookup?
  refine ⟨e, named, ?_⟩
  rw [run_append, run_cons]
  exact run_recalls _ later _ _ known

theorem nodes_addEdge {src dst : NodeId} {site : Site} {added : Bool}
    (ok : s.addEdge src dst site = .ok (added, s')) : s'.nodes = s.nodes := by
  obtain ⟨-, -, -, rfl⟩ := addEdge_eq_ok_iff.1 ok
  split
  case isTrue => rfl
  case isFalse => exact nodes_link s _

/-- Binding a window touches neither nodes nor edges. -/
theorem bindWindowRoot_spares {window root : NodeId} (ok : s.bindWindowRoot window root = .ok s') :
    s'.nodes = s.nodes ∧ s'.edges = s.edges := by
  simp only [bindWindowRoot, bind, Except.bind] at ok
  split at ok
  case h_1 => cases ok
  case h_2 =>
    split at ok
    case h_1 => cases ok
    case h_2 =>
      cases ok
      exact ⟨rfl, rfl⟩

theorem addWindowRoot_spares {window producer : NodeId}
    (ok : s.addWindowRoot window producer = .ok s') : s'.nodes = s.nodes ∧ s'.edges = s.edges := by
  simp only [addWindowRoot, bind, Except.bind] at ok
  split at ok
  case h_1 => cases ok
  case h_2 =>
    split at ok
    case h_1 => cases ok
    case h_2 =>
      split at ok <;> cases ok <;> exact ⟨rfl, rfl⟩

/-- No entity stands at a number where none stood before. -/
def NoNewEntity (s s' : Store) : Prop :=
  ∀ id e, s'.node? id = some ⟨id, .entity e⟩ → s.node? id = some ⟨id, .entity e⟩

theorem NoNewEntity.of_nodes (same : s'.nodes = s.nodes) : s.NoNewEntity s' := by
  intro id e there
  rwa [node?_eq, same, ← node?_eq] at there

theorem NoNewEntity.push {b : Node.Body} (plain : ∀ e, b ≠ .entity e) :
    s.NoNewEntity (s.push b) := by
  intro id e there
  rw [node?_push] at there
  split at there
  case isTrue => exact absurd (Node.mk.inj (Option.some.inj there)).2 (plain e)
  case isFalse => exact there

/-- A granted request asks for the node of a reference, or brings no new entity. -/
theorem interns_or_noNewEntity {q : StoreRequest} (ok : s.answer q = .ok s') :
    (∃ r id, s.Interns q r id) ∨ s.NoNewEntity s' := by
  cases q with
  | intern r =>
    obtain ⟨id, ok⟩ := map_snd_eq_ok ok
    exact .inl ⟨_, id, .ref ok⟩
  | internLocal l =>
    obtain ⟨id, ok⟩ := map_snd_eq_ok ok
    exact .inl ⟨_, id, .slot ok⟩
  | internAlloc a =>
    obtain ⟨id, ok⟩ := map_snd_eq_ok ok
    exact .inl ⟨_, id, .allocation ok⟩
  | internField f =>
    obtain ⟨id, ok⟩ := map_snd_eq_ok ok
    exact .inl ⟨_, id, .field ok⟩
  | internConstant c =>
    obtain ⟨id, ok⟩ := map_snd_eq_ok ok
    exact .inl ⟨_, id, .constant ok⟩
  | internResource r =>
    obtain ⟨id, ok⟩ := map_snd_eq_ok ok
    exact .inl ⟨_, id, .resource ok⟩
  | internWindow w =>
    obtain ⟨id, ok⟩ := map_snd_eq_ok ok
    exact .inl ⟨_, id, .window ok⟩
  | internNull => exact .inl ⟨_, _, .null⟩
  | newAllocation c k =>
    cases ok
    exact .inr (.push (by simp))
  | addEdge src dst site =>
    obtain ⟨added, ok⟩ := map_snd_eq_ok ok
    exact .inr (.of_nodes (nodes_addEdge ok))
  | createOperation r =>
    obtain ⟨op, ok⟩ := map_snd_eq_ok ok
    obtain ⟨kind, -, -, -, rfl⟩ := createOperation_eq_ok_iff.1 ok
    refine .inr fun id e there => ?_
    rw [node?_operated, ← node?_push] at there
    exact NoNewEntity.push (by simp) id e there
  | bindWindowRoot w root => exact .inr (.of_nodes (bindWindowRoot_spares ok).1)
  | addWindowRoot w p => exact .inr (.of_nodes (addWindowRoot_spares ok).1)

/-- An entity that a request brings about is that of the reference it asks for. -/
theorem entity_serve {q : StoreRequest} {id : NodeId} {e : Entity}
    (there : (s.serve q).node? id = some ⟨id, .entity e⟩) :
    s.node? id = some ⟨id, .entity e⟩ ∨
      ∃ r, s.Interns q r id ∧ r.entity? = some e ∧ s.node? id = none := by
  cases granted : s.answer q with
  | error => exact .inl (by simpa only [serve, granted] using there)
  | ok s' =>
    rcases interns_or_noNewEntity granted with ⟨r, id', call⟩ | nothing
    · obtain ⟨e', named, made⟩ := call.entity
      unfold internEntity at made
      split at made
      case h_1 known =>
        rw [← (Prod.mk.inj made).2] at there
        exact .inl there
      case h_2 fresh =>
        obtain ⟨rfl, served⟩ := Prod.mk.inj made
        rw [← served, node?_register] at there
        split at there
        case isFalse => exact .inl there
        case isTrue new =>
          subst new
          obtain rfl := Node.Body.entity.inj (Node.mk.inj (Option.some.inj there)).2
          exact .inr ⟨r, call, named, node?_nextId s⟩
    · have served : s.serve q = s' := by simp only [serve, granted]
      exact .inl (nothing id e (served ▸ there))

/-- An entity that is there after a run was there before, or a request of the run named it first. -/
theorem entity_run {qs : List StoreRequest} {id : NodeId} {e : Entity}
    (there : (s.run qs).node? id = some ⟨id, .entity e⟩) :
    s.node? id = some ⟨id, .entity e⟩ ∨
      ∃ earlier q later r, qs = earlier ++ q :: later ∧ (s.run earlier).Interns q r id ∧
        r.entity? = some e ∧ (s.run earlier).node? id = none := by
  induction qs generalizing s with
  | nil => exact .inl there
  | cons q qs ih =>
    rcases ih there with before | ⟨earlier, q', later, r, rfl, call⟩
    · rcases entity_serve before with before | ⟨r, call⟩
      · exact .inl before
      · exact .inr ⟨[], q, qs, r, rfl, call⟩
    · exact .inr ⟨q :: earlier, q', later, r, rfl, call⟩

/-- Where no node stands, no request has been answered with its number. -/
theorem not_internedIn {qs : List StoreRequest} {r : Ref} {id : NodeId}
    (absent : (empty.run qs).node? id = none) : ¬ InternedIn qs r id := by
  intro call
  obtain ⟨e, -, known⟩ := call.lookup?
  obtain ⟨e', there, -⟩ := (named_run qs e.key id).1 known
  rw [absent] at there
  cases there

/-- The first request of a run that was answered with a number: its reference says what the node
there stands for. -/
theorem InternedIn.first {qs : List StoreRequest} {r : Ref} {id : NodeId}
    (call : InternedIn qs r id) :
    ∃ earlier q later first e, qs = earlier ++ q :: later ∧
      (empty.run earlier).Interns q first id ∧ (∀ r', ¬ InternedIn earlier r' id) ∧
      first.SameIdentity r ∧ first.entity? = some e ∧
      ((empty.run earlier).serve q).node? id = some ⟨id, .entity e⟩ := by
  obtain ⟨e, named, known⟩ := call.lookup?
  obtain ⟨e', there, key⟩ := (named_run qs e.key id).1 known
  rcases entity_run there with before | ⟨earlier, q, later, first, split, named', entity, absent⟩
  · simp [node?, entry?, empty] at before
  · refine ⟨earlier, q, later, first, e', split, named', fun _ => not_internedIn absent,
      (Ref.sameIdentity_iff entity named).2 key, entity, ?_⟩
    obtain ⟨e₁, entity₁, made⟩ := named'.entity
    obtain rfl := Option.some.inj (entity.symm.trans entity₁)
    have stands := lookup?_internEntity (empty.run earlier) e'
    rw [made] at stands
    have exact : ((empty.run earlier).serve q).Named :=
      (serve_step _ q).keepsNames (named_run earlier)
    obtain ⟨e₂, there₂, -⟩ := (exact e'.key id).1 stands
    have grows := run_grows ((empty.run earlier).serve q) later
    rw [split, run_append, run_cons, grows.node? there₂] at there
    obtain rfl := Node.Body.entity.inj (Node.mk.inj (Option.some.inj there)).2
    exact there₂

theorem MadeUpIn.node? {qs : List StoreRequest} {id : NodeId} (made : MadeUpIn qs id) :
    ∃ serial c k, (empty.run qs).node? id = some ⟨id, .synthetic serial c k⟩ := by
  obtain ⟨earlier, c, k, later, rfl, rfl⟩ := made
  rw [run_append, run_cons]
  exact ⟨_, c, k, (run_grows _ later).node? (node?_push_nextId _ _)⟩

/-- Interning is canonical over whole runs. Two references are answered with one node exactly if they
have one identity, at whichever moments they are asked for. The first of them says once and for all
what the node stands for. No reference is answered with an object that was made up or with an
operation, however it is spelt. -/
theorem interned_canonical (qs : List StoreRequest) :
    (∀ r r' id id', InternedIn qs r id → InternedIn qs r' id' → (id = id' ↔ r.SameIdentity r')) ∧
    (∀ r id, InternedIn qs r id → ∃ earlier q later first, qs = earlier ++ q :: later ∧
      (empty.run earlier).Interns q first id ∧ (∀ r', ¬ InternedIn earlier r' id) ∧
      first.SameIdentity r ∧ ∃ n e, first.entity? = some e ∧ n.body = .entity e ∧
        n.kind = first.kind ∧ n.className = first.className ∧ n.object? = first.object? ∧
        ∀ more, (empty.run (earlier ++ q :: more)).node? id = some n) ∧
    (∀ r id, InternedIn qs r id → ¬ MadeUpIn qs id ∧ ∀ o, ¬ Created qs o id) := by
  have exact := named_run qs
  refine ⟨fun r r' id id' call call' => ?_, fun r id call => ?_, fun r id call => ?_⟩
  · obtain ⟨e, named, known⟩ := call.lookup?
    obtain ⟨e', named', known'⟩ := call'.lookup?
    rw [Ref.sameIdentity_iff named named']
    constructor
    · rintro rfl
      exact ((exact _ _).1 known).key_eq ((exact _ _).1 known')
    · intro same
      rw [same, known'] at known
      exact (Option.some.inj known).symm
  · obtain ⟨earlier, q, later, first, e, split, call, fresh, same, entity, there⟩ := call.first
    obtain ⟨kind, className, object⟩ := Ref.node_of_entity? entity id
    refine ⟨earlier, q, later, first, split, call, fresh, same, ⟨id, .entity e⟩, e, entity, rfl, kind,
      className, object, fun more => ?_⟩
    rw [run_append, run_cons]
    exact (run_grows _ more).node? there
  · obtain ⟨e, -, known⟩ := call.lookup?
    obtain ⟨e', there, -⟩ := (exact _ _).1 known
    constructor
    · intro made
      obtain ⟨serial, c, k, there'⟩ := made.node?
      rw [there] at there'
      cases there'
    · intro o created
      obtain ⟨kind, -, isOp, -⟩ := created.wired
      obtain ⟨n, there', isOp⟩ := operationAt_eq_some_iff.1 isOp
      rw [there] at there'
      cases there'
      cases isOp

/-- An object is made up before two allocations are named that are spelt like it. -/
def respeltRequests : List StoreRequest :=
  [.newAllocation "A" .view, .internAlloc ⟨"synthetic#1", "B", .view⟩, .internNull,
   .internAlloc ⟨"synthetic#1", "C", .listener⟩]

theorem interned_canonical_respelt :
    let b : Ref := { kind := .allocation, alloc := ⟨"synthetic#1", "B", .view⟩ }
    let c : Ref := { kind := .allocation, alloc := ⟨"synthetic#1", "C", .listener⟩ }
    InternedIn respeltRequests b 2 ∧ InternedIn respeltRequests c 2 ∧ b.SameIdentity c ∧
      MadeUpIn respeltRequests 1 ∧ ¬ MadeUpIn respeltRequests 2 := by
  intro b c
  have first : InternedIn respeltRequests b 2 := ⟨[_], _, [_, _], rfl, .allocation rfl⟩
  have second : InternedIn respeltRequests c 2 := ⟨[_, _, _], _, [], rfl, .allocation rfl⟩
  obtain ⟨iff, -, apart⟩ := interned_canonical respeltRequests
  exact ⟨first, second, (iff _ _ _ _ first second).1 rfl, ⟨[], "A", .view, [_, _, _], rfl, rfl⟩,
    (apart b 2 first).1⟩

end Store

end WidgetFlow
