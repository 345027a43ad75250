import WidgetFlow.Proofs.Facts.Events

/-!
# What a skipped event leaves behind

Intake names the ends of a flow and the roles of a recognized call one after the other, and skips the
event at the first that is in the way. By then it may have made nodes for those before. Up to that
point its steps do nothing but name and report (`OnlyNames`), wherever the bad reference stands, and
the event ends there: so all that it leaves are nodes without edges (`skipped_leaves_no_flow`).
-/

namespace WidgetFlow

open Work

/-- From `v` to `w`, only names were given. There are new nodes for some of `refs` that resolve, in
their order, and `faults` were reported, newest first. -/
structure OnlyNames (event : String) (refs : List Ref) (faults : List Fault) (v w : Workspace) :
    Prop where
  nodes : ∃ new, w.store.nodes = v.store.nodes ++ new ∧
    (new.map (·.body)).Sublist ((refs.filterMap (·.entity?)).map .entity)
  succs : ∀ id, w.store.succs id = v.store.succs id
  preds : ∀ id, w.store.preds id = v.store.preds id
  edges : w.store.edges = v.store.edges
  roots : w.store.roots = v.store.roots
  producers : w.store.producers = v.store.producers
  dispatcher : w.dispatcher = v.dispatcher
  intake : w.intake = { v.intake with
    stats := { v.intake.stats with skipped := v.intake.stats.skipped + faults.length } }
  journal : w.journal = faults.map (.eventSkipped event) ++ v.journal

namespace OnlyNames

variable {event : String} {refs : List Ref} {faults : List Fault} {v w : Workspace}

theorem refl (event : String) (v : Workspace) : OnlyNames event [] [] v v where
  nodes := ⟨[], by simp, by simp⟩
  succs _ := rfl
  preds _ := rfl
  edges := rfl
  roots := rfl
  producers := rfl
  dispatcher := rfl
  intake := rfl
  journal := rfl

/-- References that get no node may be counted in. -/
theorem weaken (names : OnlyNames event refs faults v w) (more : List Ref) :
    OnlyNames event (refs ++ more) faults v w where
  __ := names
  nodes := by
    obtain ⟨new, nodes, made⟩ := names.nodes
    refine ⟨new, nodes, made.trans ?_⟩
    rw [List.filterMap_append, List.map_append]
    exact List.sublist_append_left _ _

/-- One more entity is named: it has a node, or gets one. -/
theorem intern (names : OnlyNames event refs faults v w) {r : Ref} {e : Entity}
    (named : r.entity? = some e) :
    OnlyNames event (refs ++ [r]) faults v { w with store := (w.store.internEntity e).2 } := by
  unfold Store.internEntity
  split
  case h_1 => exact names.weaken [r]
  case h_2 =>
    obtain ⟨new, nodes, made⟩ := names.nodes
    refine { names with nodes := ?_, succs := fun id => ?_, preds := fun id => ?_ }
    · refine ⟨new ++ [⟨w.store.nextId, .entity e⟩], ?_, ?_⟩
      · rw [← List.append_assoc, ← nodes]
        exact Store.nodes_push _ _
      · simpa [named] using made.append (List.Sublist.refl [Node.Body.entity e])
    · exact (Store.succs_push _ _ id).trans (names.succs id)
    · exact (Store.preds_push _ _ id).trans (names.preds id)

end OnlyNames

/-! ### Naming -/

/-- The references were named, with or without reports. -/
def Naming (event : String) (refs : List Ref) (v w : Workspace) : Prop :=
  ∃ faults, OnlyNames event refs faults v w

/-- The references were named up to one that is in the way, which was reported. -/
def Spoilt (event : String) (refs : List Ref) (v w : Workspace) : Prop :=
  ∃ faults, faults ≠ [] ∧ OnlyNames event refs faults v w

/-- How the naming of references ends: there is no answer exactly if one of them is in the way. -/
def NamingEnds {α : Type} (blocked : Prop) (spoilt : Workspace → Prop)
    (named : α → Workspace → Prop) (x? : Option α) (w : Workspace) : Prop :=
  blocked ∧ x? = none ∧ spoilt w ∨ ¬ blocked ∧ ∃ x, x? = some x ∧ named x w

section

variable {α β : Type} {event : String} {refs : List Ref} {v w : Workspace}

theorem Spoilt.weaken (spoilt : Spoilt event refs v w) (more : List Ref) :
    Spoilt event (refs ++ more) v w := by
  obtain ⟨faults, reported, names⟩ := spoilt
  exact ⟨faults, reported, names.weaken more⟩

/-- What follows a step that names depends on whether something was in the way. -/
theorem Triple.afterNaming {step : Work (Option α)} {next : Option α → Work β} {blocked : Prop}
    {spoilt : Workspace → Prop} {named : α → Workspace → Prop} {pre : Workspace → Prop}
    {post : β → Workspace → Prop} {fail : Fault → Workspace → Prop}
    (first : Triple pre step (NamingEnds blocked spoilt named) fail)
    (stops : blocked → Triple spoilt (next none) post fail)
    (goesOn : ¬ blocked → ∀ x, Triple (named x) (next (some x)) post fail) :
    Triple pre (step >>= next) post fail := by
  refine Triple.bind first fun x? => ?_
  rintro w (⟨blocks, rfl, spoilt⟩ | ⟨free, x, rfl, named⟩)
  · exact stops blocks w spoilt
  · exact goesOn free x w named

end

namespace Intake

variable {event : String} {refs : List Ref} {v : Workspace}

/-- A skip reports one more fault, and does nothing else. -/
theorem skip_spoils (fault : Fault) : Triple (Naming event refs v) (skip event fault)
    (fun _ => Spoilt event refs v) fun _ _ => False := by
  rintro w ⟨faults, names⟩
  exact ⟨fault :: faults, List.cons_ne_nil _ _, { names with
    intake := by simp [names.intake, Nat.add_assoc]
    journal := congrArg (_ :: ·) names.journal }⟩

/-- Naming never fails; a reference that names nothing is reported. -/
theorem internOrSkip_names (r : Ref) : Triple (Naming event refs v) (internOrSkip event r)
    (NamingEnds (r.entity? = none) (Spoilt event (refs ++ [r]) v)
      fun _ => Naming event (refs ++ [r]) v) fun _ _ => False := by
  intro w names
  cases named : r.entity? with
  | some e =>
    obtain ⟨faults, names⟩ := names
    rw [internOrSkip_of_entity? event named]
    exact .inr ⟨Option.some_ne_none e, _, rfl, faults, names.intern named⟩
  | none =>
    obtain ⟨fault, skips⟩ := internOrSkip_of_entity?_eq_none event named w
    have reported : Triple (Naming event refs v)
        (do skip event fault; return none : Work (Option NodeId))
        (NamingEnds ((none : Option Entity) = none) (Spoilt event (refs ++ [r]) v)
          fun _ => Naming event (refs ++ [r]) v) fun _ _ => False :=
      Triple.bind (skip_spoils fault) fun _ => Triple.pure fun _ spoilt =>
        .inl ⟨rfl, rfl, spoilt.weaken [r]⟩
    rw [skips]
    exact reported w names

/-- A role is in the way exactly if its reference blocks it. One that is left open gets no node, and
neither does one that names nothing and is not needed. -/
theorem internRole_ends {sig : Signature} {role : Role} {r : Ref} {pre spoilt : Workspace → Prop}
    {named : NodeId → Workspace → Prop} {fail : Fault → Workspace → Prop}
    (interned : Triple pre (internOrSkip event r) (NamingEnds (r.entity? = none) spoilt named) fail)
    (leftOpen : r.isNone → ∀ w, pre w → named 0 w)
    (passedOver : ¬ r.isNone → r.entity? = none → ∀ w, spoilt w → named 0 w) :
    Triple pre (internRole event sig role r) (NamingEnds (r.blocks sig role) spoilt named) fail := by
  unfold internRole
  refine Triple.ite (fun isOpen => ?_) fun given => ?_
  · refine Triple.pure fun w holds => .inr ⟨by simp [Ref.blocks, isOpen], 0, rfl, ?_⟩
    exact leftOpen isOpen w holds
  · refine Triple.afterNaming interned (fun unnamed => ?_) fun present x => ?_
    · have blocks : r.blocks sig role = (sig.has role && role ≠ .result) := by
        simp [Ref.blocks, given, unnamed]
      rw [blocks]
      refine Triple.pure fun w spoils => ?_
      by_cases needed : (sig.has role && role ≠ .result) = true
      · exact .inl ⟨needed, if_pos needed, spoils⟩
      · exact .inr ⟨needed, 0, if_neg needed, passedOver given unnamed w spoils⟩
    · exact Triple.pure fun w names => .inr ⟨by simp [Ref.blocks, present], x, rfl, names⟩

theorem internRole_names (sig : Signature) (role : Role) (r : Ref) :
    Triple (Naming event refs v) (internRole event sig role r)
      (NamingEnds (r.blocks sig role) (Spoilt event (refs ++ [r]) v)
        fun _ => Naming event (refs ++ [r]) v) fun _ _ => False := by
  refine internRole_ends (internOrSkip_names r) (fun _ w => ?_) fun _ _ w => ?_
  · rintro ⟨faults, names⟩
    exact ⟨faults, names.weaken [r]⟩
  · rintro ⟨faults, -, names⟩
    exact ⟨faults, names⟩

/-- The roles of a call are named one after the other, up to one that is in the way. -/
theorem nameRoles_ends {ev : OpEvent} {sig : Signature} {pre spoilt : Workspace → Prop}
    {received : NodeId → Workspace → Prop} {taken : NodeId → NodeId → Workspace → Prop}
    {named : Operands → Workspace → Prop} {fail : Fault → Workspace → Prop}
    (receives : Triple pre (internRole ev.kind sig .receiver ev.receiver)
      (NamingEnds (ev.receiver.blocks sig .receiver) spoilt received) fail)
    (takes : ¬ ev.receiver.blocks sig .receiver → ∀ x,
      Triple (received x) (internRole ev.kind sig .parameter ev.parameter)
        (NamingEnds (ev.parameter.blocks sig .parameter) spoilt (taken x)) fail)
    (yields : ¬ ev.isBlocked sig → ∀ x y,
      Triple (taken x y) (internRole ev.kind sig .result ev.result)
        (NamingEnds (ev.result.blocks sig .result) spoilt fun z => named ⟨x, y, z⟩) fail) :
    Triple pre (nameRoles ev sig) (NamingEnds (ev.isBlocked sig) spoilt named) fail := by
  unfold nameRoles
  refine Triple.afterNaming receives (fun blocks => ?_) fun free receiver => ?_
  · exact Triple.pure fun w spoils => .inl ⟨by simp [OpEvent.isBlocked, blocks], rfl, spoils⟩
  refine Triple.afterNaming (takes free receiver) (fun blocks => ?_) fun free' parameter => ?_
  · exact Triple.pure fun w spoils => .inl ⟨by simp [OpEvent.isBlocked, blocks], rfl, spoils⟩
  have unblocked : ¬ ev.isBlocked sig := by simp [OpEvent.isBlocked, free, free']
  refine Triple.afterNaming (yields unblocked receiver parameter) (fun blocks => ?_)
    fun _ result => ?_
  · simp [Ref.blocks] at blocks
  · exact Triple.pure fun w names => .inr ⟨unblocked, _, rfl, names⟩

/-- The roles of an event are named, up to one that is in the way. -/
theorem nameRoles_names (ev : OpEvent) (sig : Signature) :
    Triple (Naming ev.kind [] v) (nameRoles ev sig)
      (NamingEnds (ev.isBlocked sig) (Spoilt ev.kind ev.refs v) fun _ => Naming ev.kind ev.refs v)
      fun _ _ => False := by
  have upTo {refs : List Ref} {role : Role} {r : Ref} (more : List Ref)
      (all : refs ++ [r] ++ more = ev.refs) :
      Triple (Naming ev.kind refs v) (internRole ev.kind sig role r)
        (NamingEnds (r.blocks sig role) (Spoilt ev.kind ev.refs v)
          fun _ => Naming ev.kind (refs ++ [r]) v) fun _ _ => False := by
    refine (internRole_names sig role r).mono fun x? w => ?_
    rintro (⟨blocks, none, spoilt⟩ | named)
    · exact .inl ⟨blocks, none, all ▸ spoilt.weaken more⟩
    · exact .inr named
  exact nameRoles_ends (upTo [ev.parameter, ev.result] rfl) (fun _ _ => upTo [ev.result] rfl)
    fun _ _ _ => upTo [] rfl

end Intake

/-! ### Skipped events -/

/-- The workspace with one more event counted. -/
def Workspace.countEvent (w : Workspace) : Workspace :=
  { w with intake := { w.intake with
    stats := { w.intake.stats with events := w.intake.stats.events + 1 } } }

/-- All that an event may leave behind that is counted and skipped. New nodes stand for some of its
references that resolve, and have no edges; no node that was there has other edges than before.
Nothing flows, no operation is made, and no registration, binding or override is added. -/
structure LeavesNoFlow (event : String) (refs : List Ref) (v w : Workspace) : Prop where
  nodes : ∃ new, w.store.nodes = v.store.nodes ++ new ∧
    (new.map (·.body)).Sublist ((refs.filterMap (·.entity?)).map .entity)
  isolated : ∀ id, v.store.node? id = none → w.store.succs id = [] ∧ w.store.preds id = []
  adjacency : ∀ id, (v.store.node? id).isSome →
    w.store.succs id = v.store.succs id ∧ w.store.preds id = v.store.preds id
  edges : w.store.edges = v.store.edges
  operations : w.store.operations = v.store.operations
  bindings : w.store.roots = v.store.roots ∧ w.store.producers = v.store.producers
  dispatcher : w.dispatcher = v.dispatcher
  overrides : w.intake.settled = v.intake.settled ∧ w.intake.asked = v.intake.asked
  /-- The event is counted once, every fault of it as a skip, and nothing else. -/
  counts : ∃ faults, faults ≠ [] ∧ w.journal = faults.map (.eventSkipped event) ++ v.journal ∧
    w.intake.stats = { v.intake.stats with
      events := v.intake.stats.events + 1, skipped := v.intake.stats.skipped + faults.length }

theorem Spoilt.leavesNoFlow {event : String} {refs : List Ref} {v w : Workspace}
    (spoilt : Spoilt event refs v.countEvent w) : LeavesNoFlow event refs v w := by
  obtain ⟨faults, reported, names⟩ := spoilt
  obtain ⟨new, nodes, made⟩ := names.nodes
  refine ⟨⟨new, nodes, made⟩, fun id unknown => ?_, fun id _ => ⟨names.succs id, names.preds id⟩,
    names.edges, ?_, ⟨names.roots, names.producers⟩, names.dispatcher, ?_, faults, reported,
    names.journal, ?_⟩
  · have absent : v.store.entry? id = none := Option.map_eq_none_iff.1 unknown
    rw [names.succs, names.preds]
    simp [Workspace.countEvent, Store.succs, Store.preds, absent]
  · have plain : new.filter (·.isOperation) = [] := by
      refine List.filter_eq_nil_iff.2 fun n there => ?_
      obtain ⟨e, -, body⟩ := List.mem_map.1 (made.subset (List.mem_map_of_mem there))
      simp [Node.isOperation, Node.operation?, ← body]
    rw [Store.operations, nodes, List.filter_append, plain, List.append_nil]
    rfl
  · rw [names.intake]
    exact ⟨rfl, rfl⟩
  · rw [names.intake]
    rfl

namespace Intake

variable {p : Program} {v : Workspace}

/-- An event is counted before anything is named. -/
theorem countEvent_names {α : Type} {event : String} {rest : Work α}
    {post : α → Workspace → Prop} {fail : Fault → Workspace → Prop}
    (after : Triple (Naming event [] v.countEvent) rest post fail) :
    Triple (· = v) (do countIntake fun t => { t with events := t.events + 1 }; rest) post fail := by
  refine Triple.bind (M := fun _ => Naming event [] v.countEvent) (Triple.modify ?_) fun _ => after
  rintro _ rfl
  exact ⟨[], .refl event _⟩

/-- A flow with an end that names nothing is skipped, whichever end it is. -/
theorem flow_skips {event : String} {source target : Ref}
    (unresolved : source.entity? = none ∨ target.entity? = none) (site : Site) :
    Triple (· = v) (flow p event source target site)
      (fun _ => LeavesNoFlow event [source, target] v) fun _ _ => False := by
  unfold flow
  refine countEvent_names (Triple.afterNaming (internOrSkip_names source) ?_ ?_)
  · exact fun _ => Triple.pure fun w spoilt => (spoilt.weaken [target]).leavesNoFlow
  intro named src
  refine Triple.afterNaming (internOrSkip_names target) ?_ ?_
  · exact fun _ => Triple.pure fun w spoilt => spoilt.leavesNoFlow
  · exact fun named' => absurd (unresolved.resolve_left named) named'

/-- A call is blocked by its receiver or its parameter, never by its result. -/
theorem isBlocked_iff {ev : OpEvent} {sig : Signature} : ev.isBlocked sig ↔
    ∃ role ∈ [Role.receiver, .parameter], sig.has role ∧ (ev.ref role).isNone = false ∧
      (ev.ref role).entity? = none := by
  simp only [OpEvent.isBlocked, OpEvent.ref, Ref.blocks, Bool.or_eq_true, Bool.and_eq_true,
    Bool.not_eq_true', Option.isNone_iff_eq_none, List.mem_cons, List.not_mem_nil, or_false,
    exists_eq_or_imp, exists_eq_left]
  grind

/-- A recognized call is skipped if a role is in the way, or its registration is not in the table. -/
theorem recognize_skips {ev : OpEvent} {kind : OpKind} (known : OpKind.ofName? ev.kind = some kind)
    (skips : ev.isBlocked kind.signature ∨
      kind.isListener ∧ p.resolver.table.byMethod? ev.listener = none) :
    Triple (· = v) (recognize p ev)
      (fun op w => op = 0 ∧ LeavesNoFlow ev.kind ev.refs v w) fun _ _ => False := by
  rw [recognize_eq, known]
  refine countEvent_names (Triple.afterNaming (nameRoles_names ev kind.signature) ?_ ?_)
  · exact fun _ => Triple.pure fun w spoilt => ⟨rfl, spoilt.leavesNoFlow⟩
  intro free operands
  obtain ⟨listens, unlisted⟩ := skips.resolve_left free
  simp only [show kind.signature.listener = true from listens, if_true, unlisted]
  exact Triple.bind (skip_spoils _) fun _ => Triple.pure fun w spoilt => ⟨rfl, spoilt.leavesNoFlow⟩

end Intake

/-- A flow with an end that names nothing, and a recognized call with a reference that names nothing
in a receiver or parameter role of its kind, or with a registration that the table does not know, end
without a fault in every workspace, and leave nothing but nodes without edges. -/
theorem skipped_leaves_no_flow (p : Program) (v : Workspace) :
    (∀ source target site, source.entity? = none ∨ target.entity? = none →
      (∃ w, Intake.assign p target source site v = .ok () w ∧
        LeavesNoFlow "assign" [source, target] v w) ∧
      (∃ w, Intake.bindParameter p target source site v = .ok () w ∧
        LeavesNoFlow "param" [source, target] v w) ∧
      ∃ w, Intake.bindReturn p target source site v = .ok () w ∧
        LeavesNoFlow "return" [source, target] v w) ∧
    ∀ ev kind, OpKind.ofName? ev.kind = some kind →
      (∃ role ∈ [Role.receiver, .parameter], kind.signature.has role ∧
        (ev.ref role).isNone = false ∧ (ev.ref role).entity? = none) ∨
      kind.isListener ∧ p.resolver.table.byMethod? ev.listener = none →
      ∃ w, Intake.recognize p ev v = .ok 0 w ∧ LeavesNoFlow ev.kind ev.refs v w := by
  constructor
  · intro source target site unresolved
    have skipped (event : String) : ∃ w, Intake.flow p event source target site v = .ok () w ∧
        LeavesNoFlow event [source, target] v w := by
      obtain ⟨⟨⟩, w, done, left⟩ := (Intake.flow_skips unresolved site).exists_ok rfl
      exact ⟨w, done, left⟩
    exact ⟨skipped "assign", skipped "param", skipped "return"⟩
  · intro ev kind known skips
    obtain ⟨op, w, done, rfl, left⟩ :=
      (Intake.recognize_skips known (skips.imp_left Intake.isBlocked_iff.2)).exists_ok rfl
    exact ⟨w, done, left⟩

/-- An event is skipped half way: a flow whose source gets a node and whose target names nothing, and
a registration by a method that is in no table, after all its roles were named. -/
theorem skipped_leaves_no_flow_half_named :
    let view : Ref := .ofSlot ⟨"m", "v"⟩
    let ev : OpEvent := { kind := "set-listener", receiver := view
                          parameter := .ofSlot ⟨"m", "l"⟩, listener := "void setNothing()" }
    ∃ v w, Intake.assign {} {} view {} {} = .ok () v ∧ LeavesNoFlow "assign" [view, {}] {} v ∧
      v.store.nodes.length = 1 ∧
      Intake.recognize {} ev v = .ok 0 w ∧ LeavesNoFlow ev.kind ev.refs v w ∧
      w.store.nodes.length = 2 := by
  intro view ev
  obtain ⟨v, assigned, left⟩ := ((skipped_leaves_no_flow {} {}).1 view {} {} (.inr rfl)).1
  obtain ⟨w, recognized, left'⟩ := (skipped_leaves_no_flow {} v).2 ev .setListener rfl (.inr ⟨rfl, rfl⟩)
  obtain rfl : _ = v := (EStateM.Result.ok.inj assigned).2
  obtain rfl : _ = w := (EStateM.Result.ok.inj recognized).2
  exact ⟨_, _, rfl, left, rfl, recognized, left', rfl⟩

end WidgetFlow
