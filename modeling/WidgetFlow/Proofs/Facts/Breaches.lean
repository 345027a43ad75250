import WidgetFlow.Proofs.Workspace.Overrides
import WidgetFlow.Proofs.Workspace.RoleContract

/-!
# What breaks off a replay

A replay skips what it cannot use and goes on, except where a recognized call breaks the contract of
operations. Whether a call does so can be read off the event and the tables (`OpEvent.Breaks`): the
graph does not matter, since its nodes were all made by requests and naming always leads to plain
nodes. So an event fails exactly if its call breaks the contract (`replayEvent_outcome`), flows and
bindings never fail, and the replay ends at the first event that does (`replay_breach_exact`).
-/

namespace WidgetFlow

open Work

/-! ### Events that break the contract of operations -/

/-- The call breaks the contract of operations: its kind is unknown, or all that its operation needs
can be found, and yet a role that the kind declares is left open, or one that it does not declare is
supplied. -/
inductive OpEvent.Breaks (p : Program) (ev : OpEvent) : Prop where
  | unknownKind (unknown : OpKind.ofName? ev.kind = none)
  | operands {kind : OpKind} (known : OpKind.ofName? ev.kind = some kind)
      (resolved : ∀ role ∈ [Role.receiver, .parameter], kind.signature.has role →
        (ev.ref role).isNone = false → (ev.ref role).entity?.isSome)
      (registered : kind.isListener → (p.resolver.table.byMethod? ev.listener).isSome)
      (unfit : (∃ role ∈ [Role.receiver, .parameter], kind.signature.has role ∧ (ev.ref role).isNone) ∨
        ∃ role ∈ [Role.receiver, .parameter, .result], ¬ kind.signature.has role ∧
          (ev.ref role).entity?.isSome)

namespace FlowEvent

/-- The recognized call that an event reports, if it reports one. -/
def call? (p : Program) (ev : FlowEvent) : Option OpEvent :=
  match ev.kind with
  | "op" => ev.op.map (Facts.operationAt · ev.site)
  | "tabhost" => (p.resource? ev.part).map (partCall ev.host ev.target · ev.site)
  | _ => none

/-- The event reports a call that breaks the contract of operations. -/
def Breaks (p : Program) (ev : FlowEvent) : Prop := ∃ call, ev.call? p = some call ∧ call.Breaks p

end FlowEvent

/-- The fault tells, inside whatever stages, that a contract was violated. -/
def Fault.IsContract (e : Fault) : Prop :=
  ∃ op kind role breach, e.cause = .contract op kind role breach

namespace OpEvent

variable {p : Program} {ev : OpEvent} {kind : OpKind}

/-- A layout lists the receiver and the parameter, as far as they are declared. -/
theorem mem_layout_iff {role : Role} : role ∈ kind.signature.layout ↔
    role ∈ [Role.receiver, .parameter] ∧ kind.signature.has role := by
  constructor
  · intro listed
    obtain ⟨input, declared⟩ := kind.layout_inputs role listed
    refine ⟨?_, declared⟩
    cases role with
    | receiver => simp
    | parameter => simp
    | result => exact absurd rfl input
    | other word => exact absurd declared (Store.not_has_other kind word)
  · rintro ⟨input, declared⟩
    refine Store.mem_layout_of_has declared ?_
    rintro rfl
    simp at input

theorem suits_iff {sig : Signature} : ev.suits sig ↔
    (∀ role ∈ [Role.receiver, .parameter, .result], (ev.ref role).entity?.isSome → sig.has role) ∧
      ∀ role ∈ sig.layout, (ev.ref role).entity?.isSome := by
  simp only [suits, Bool.and_eq_true, List.all_eq_true, Bool.or_eq_true, Option.isNone_iff_eq_none,
    or_iff_not_imp_left, Option.isSome_iff_ne_none, ne_eq]

/-- A call of a known kind breaks the contract if nothing is in its way and its operands do not suit. -/
theorem breaks_iff (known : OpKind.ofName? ev.kind = some kind) : ev.Breaks p ↔
    ¬ ev.isBlocked kind.signature ∧
      (kind.isListener → (p.resolver.table.byMethod? ev.listener).isSome) ∧
        ¬ ev.suits kind.signature := by
  have free : ¬ ev.isBlocked kind.signature ↔ ∀ role ∈ [Role.receiver, .parameter],
      kind.signature.has role → (ev.ref role).isNone = false → (ev.ref role).entity?.isSome := by
    simp only [Intake.isBlocked_iff, not_exists, not_and, Option.isSome_iff_ne_none, ne_eq]
  rw [free, suits_iff]
  constructor
  · rintro (unknown | ⟨known', resolved, registered, unfit⟩)
    · cases known.symm.trans unknown
    · obtain rfl := Option.some.inj (known.symm.trans known')
      refine ⟨resolved, registered, fun ⟨declared, filled⟩ => ?_⟩
      obtain ⟨role, input, has, isOpen⟩ | ⟨role, listed, undeclared, given⟩ := unfit
      · have given := filled role (mem_layout_iff.2 ⟨input, has⟩)
        rw [Intake.entity?_of_isNone isOpen] at given
        cases given
      · exact undeclared (declared role listed given)
  · rintro ⟨resolved, registered, unsuited⟩
    refine .operands known resolved registered ?_
    by_contra fit
    obtain ⟨filled, declared⟩ := not_or.1 fit
    apply unsuited
    constructor
    · intro role listed given
      by_contra undeclared
      exact declared ⟨role, listed, undeclared, given⟩
    · intro role listed
      obtain ⟨input, has⟩ := mem_layout_iff.1 listed
      apply resolved role input has
      by_contra isOpen
      exact filled ⟨role, input, has, Bool.not_eq_false _ ▸ isOpen⟩

end OpEvent

/-- A flow never fails: it is recorded, or skipped. -/
theorem Intake.flow_ends {p : Program} (event : String) (source target : Ref) (site : Site) :
    Triple (Plain []) (flow p event source target site) (fun _ _ => True) fun _ _ => False := by
  intro w plain
  obtain ⟨w', done, -⟩ := flow_draws (p := p) plain ⟨event, source, target, site⟩
  have ran : flow p event source target site w = .ok () w' := done
  rw [ran]
  trivial

/-! ### Recognized calls -/

/-- A request for an operation of a known kind can only be refused for its contract. -/
theorem Store.contract_of_createOperation {s : Store} {r : OperationRequest} {kind : OpKind}
    {e : Fault} (known : OpKind.ofName? r.kind = some kind)
    (refused : s.createOperation r = .error e) :
    ∃ role breach, e = .contract 0 kind.name role breach := by
  simp only [createOperation, known, createKnown] at refused
  split at refused
  · cases refused
    exact ⟨_, _, rfl⟩
  · cases refused

/-- The node is what the reference supplies for a role: a plain one of these if it names something,
and else zero. -/
def Ref.Supplies (r : Ref) (xs : List NodeId) (x : NodeId) : Prop :=
  r.entity? = none ∧ x = 0 ∨ r.entity?.isSome ∧ x ∈ xs

theorem Ref.Supplies.mono {r : Ref} {xs ys : List NodeId} {x : NodeId} (supplied : r.Supplies xs x)
    (more : xs ⊆ ys) : r.Supplies ys x :=
  supplied.imp_right fun ⟨named, there⟩ => ⟨named, more there⟩

namespace Listing

variable {inv : List NodeId → Workspace → Prop} (lists : Listing inv) {xs : List NodeId}

include lists

/-- A role is supplied with the node of what it names. -/
theorem internRole (event : String) (sig : Signature) (role : Role) (r : Ref) :
    Triple (inv xs) (Intake.internRole event sig role r)
      (NamingEnds (r.blocks sig role) (inv xs)
        fun x w => ∃ ys, xs ⊆ ys ∧ r.Supplies ys x ∧ inv ys w) fun _ _ => False := by
  have none (unnamed : r.entity? = none) (w : Workspace) (holds : inv xs w) :
      ∃ ys, xs ⊆ ys ∧ r.Supplies ys 0 ∧ inv ys w :=
    ⟨xs, List.Subset.refl _, .inl ⟨unnamed, rfl⟩, holds⟩
  refine Intake.internRole_ends ((lists.internOrSkip event r).mono fun x? w => ?_)
    (fun isOpen => none (Intake.entity?_of_isNone isOpen)) fun _ => none
  rintro (unnamed | ⟨named, x, answered, holds⟩)
  · exact .inl unnamed
  · refine .inr ⟨named, x, answered, x :: xs, List.subset_cons_self _ _, .inr ⟨?_, by simp⟩, holds⟩
    exact Option.isSome_iff_ne_none.2 named

/-- The roles of a call are supplied with what it names for them, unless one is in the way. -/
theorem nameRoles (ev : OpEvent) (sig : Signature) :
    Triple (inv []) (Intake.nameRoles ev sig)
      (NamingEnds (ev.isBlocked sig) (fun w => ∃ xs, inv xs w)
        fun i w => ∃ xs, (∀ role, (ev.ref role).Supplies xs (i.get role)) ∧ inv xs w)
      fun _ _ => False := by
  have upTo {xs : List NodeId} {role : Role} {r : Ref} {named : NodeId → Workspace → Prop}
      (supplies : ∀ x ys, xs ⊆ ys → r.Supplies ys x → ∀ w, inv ys w → named x w) :
      Triple (inv xs) (Intake.internRole ev.kind sig role r)
        (NamingEnds (r.blocks sig role) (fun w => ∃ xs, inv xs w) named) fun _ _ => False := by
    refine (lists.internRole ev.kind sig role r).mono fun x? w => ?_
    rintro (⟨blocks, none, holds⟩ | ⟨free, x, answered, ys, more, supplied, holds⟩)
    · exact .inl ⟨blocks, none, xs, holds⟩
    · exact .inr ⟨free, x, answered, supplies x ys more supplied w holds⟩
  have receives : Triple (inv []) (Intake.internRole ev.kind sig .receiver ev.receiver)
      (NamingEnds (ev.receiver.blocks sig .receiver) (fun w => ∃ xs, inv xs w)
        fun x w => ∃ xs, ev.receiver.Supplies xs x ∧ inv xs w) fun _ _ => False :=
    upTo fun x xs _ receives w holds => ⟨xs, receives, holds⟩
  have takes (x : NodeId) : Triple (fun w => ∃ xs, ev.receiver.Supplies xs x ∧ inv xs w)
      (Intake.internRole ev.kind sig .parameter ev.parameter)
      (NamingEnds (ev.parameter.blocks sig .parameter) (fun w => ∃ xs, inv xs w)
        fun y w => ∃ ys, ev.receiver.Supplies ys x ∧ ev.parameter.Supplies ys y ∧ inv ys w)
      fun _ _ => False := by
    rintro w ⟨xs, receives, holds⟩
    exact upTo (fun y ys more takes w holds => ⟨ys, receives.mono more, takes, holds⟩) w holds
  refine Intake.nameRoles_ends receives (fun _ => takes) fun _ x y => ?_
  rintro w ⟨ys, receives, takes, holds⟩
  refine upTo (fun z zs more yields w holds => ⟨zs, fun role => ?_, holds⟩) w holds
  cases role with
  | receiver => exact receives.mono more
  | parameter => exact takes.mono more
  | result => exact yields
  | other => exact .inl ⟨rfl, rfl⟩

end Listing

namespace Intake

variable {p : Program} {ev : OpEvent} {kind : OpKind} {xs : List NodeId}

theorem fits_iff_of_supplies {sig : Signature} {i : Operands} {w : Workspace}
    (supplied : ∀ role, (ev.ref role).Supplies xs (i.get role)) (plain : Plain xs w) :
    w.store.Fits sig i ↔ ev.suits sig := by
  have zero : w.store.isOperand 0 = false := rfl
  refine fits_iff_suits (fun role => ?_) fun role => ?_
  · obtain ⟨unnamed, isZero⟩ | ⟨named, there⟩ := supplied role
    · simp [unnamed, isZero]
    · have operand := plain.holds _ there
      constructor
      · intro isZero
        rw [isZero, zero] at operand
        cases operand
      · intro unnamed
        simp [unnamed] at named
  · obtain ⟨unnamed, isZero⟩ | ⟨named, there⟩ := supplied role
    · rw [unnamed, isZero]
      rfl
    · rw [plain.holds _ there, named]

/-- An operation of a known kind can only be refused for its contract. -/
theorem makeOperation_contract (known : OpKind.ofName? ev.kind = some kind) (i : Operands)
    (reg? : Option Registration) : Triple (fun _ => True) (makeOperation ev i reg?)
      (fun _ _ => True) fun e _ => e.IsContract := by
  refine Triple.bind (M := fun _ _ => True)
    (Triple.within (Triple.onStore (fun _ _ _ _ _ => trivial) ?_)) fun _ _ _ => trivial
  intro w e _ refused
  obtain ⟨role, breach, rfl⟩ := Store.contract_of_createOperation known refused
  exact ⟨0, kind.name, role, breach, rfl⟩

/-- An operation is made and registered if its operands suit, and else it is refused. -/
theorem createOperation_outcome (known : OpKind.ofName? ev.kind = some kind)
    {reg? : Option Registration} (entry : EntryFor p ev kind reg?) {i : Operands}
    (supplied : ∀ role, (ev.ref role).Supplies xs (i.get role)) :
    Triple (Plain xs) (createOperation p ev i reg?) (fun _ _ => ev.suits kind.signature)
      fun e _ => ¬ ev.suits kind.signature ∧ e.IsContract := by
  intro w plain
  have fits : w.store.Fits kind.signature i ↔ ev.suits kind.signature :=
    fits_iff_of_supplies supplied plain
  rw [createOperation_eq]
  by_cases suits : ev.suits kind.signature = true
  case neg =>
    obtain ⟨e, failed⟩ := makeOperation_fails known reg? (mt fits.1 suits)
    have contract := makeOperation_contract known i reg? w trivial
    rw [failed] at contract
    rw [bind_of_error failed]
    exact ⟨suits, contract⟩
  obtain ⟨v, made, -⟩ := makeOperation_eq known reg? (fits.2 suits)
  rw [bind_of_ok made]
  obtain ⟨-, rfl⟩ | ⟨-, reg, found, rfl⟩ := entry
  · exact suits
  · have sound := (makeOperation_registrable found).of_ok ⟨plain.wellFormed, plain.named⟩ made
    obtain ⟨⟨⟩, u, registered, -⟩ := (registerListener_ends ev reg).exists_ok sound
    simp only [bind_of_ok registered]
    exact suits

/-- A recognized call fails exactly if it breaks the contract of operations. -/
theorem recognize_outcome (p : Program) (ev : OpEvent) :
    Triple (Plain []) (recognize p ev) (fun _ _ => ¬ ev.Breaks p)
      fun e _ => ev.Breaks p ∧ e.IsContract := by
  rw [recognize_eq]
  refine Triple.bind (M := fun _ => Plain []) (Triple.modify fun _ plain => plain) fun _ => ?_
  cases known : OpKind.ofName? ev.kind with
  | none => exact Triple.throw fun _ _ => ⟨.unknownKind known, _, _, _, _, rfl⟩
  | some kind =>
    have breaks := OpEvent.breaks_iff (p := p) known
    refine Triple.afterNaming (Plain.listing.nameRoles ev kind.signature).unfailing (fun blocked => ?_)
      fun free i => ?_
    · exact Triple.pure fun _ _ broken => (breaks.1 broken).1 blocked
    rintro w ⟨xs, supplied, plain⟩
    have created {reg? : Option Registration} (entry : EntryFor p ev kind reg?)
        (registered : kind.isListener → (p.resolver.table.byMethod? ev.listener).isSome) :
        Triple (Plain xs) (createOperation p ev i reg?) (fun _ _ => ¬ ev.Breaks p)
          fun e _ => ev.Breaks p ∧ e.IsContract := by
      refine (createOperation_outcome known entry supplied).conseq (fun _ plain => plain)
        (fun _ _ suits broken => (breaks.1 broken).2.2 suits) fun e _ ⟨unsuited, contract⟩ => ?_
      exact ⟨breaks.2 ⟨free, registered, unsuited⟩, contract⟩
    cases listens : kind.isListener with
    | false =>
      simp only [show kind.signature.listener = false from listens]
      exact created (.inl ⟨listens, rfl⟩) (by simp [listens]) w plain
    | true =>
      simp only [show kind.signature.listener = true from listens, if_true]
      cases found : p.resolver.table.byMethod? ev.listener with
      | none =>
        have unregistered : ¬ ev.Breaks p := fun broken => by
          have registered := (breaks.1 broken).2.1 listens
          rw [found] at registered
          cases registered
        have skipped : Triple (Plain xs) (do
            skip ev.kind (.unresolved "listener registration" ev.listener)
            return 0) (fun (_ : NodeId) _ => ¬ ev.Breaks p) fun e _ => ev.Breaks p ∧ e.IsContract :=
          Triple.bind (M := fun _ _ => True) (fun _ _ => trivial) fun _ =>
            Triple.pure fun _ _ => unregistered
        exact skipped w plain
      | some reg => exact created (.inr ⟨listens, reg, found, rfl⟩) (by simp [found]) w plain

end Intake

/-! ### Replay -/

namespace Facts

variable {p : Program} {ev : FlowEvent} {events : List FlowEvent}

/-- An event fails exactly if the call that it reports breaks the contract of operations. -/
theorem replayEvent_outcome (p : Program) (ev : FlowEvent) :
    Triple (Plain []) (replayEvent p ev) (fun _ _ => ¬ ev.Breaks p)
      fun e _ => ev.Breaks p ∧ e.IsContract := by
  have quiet {step : Work Unit} (silent : ev.call? p = none)
      (ends : Triple (Plain []) step (fun _ _ => True) fun _ _ => False) :
      Triple (Plain []) step (fun _ _ => ¬ ev.Breaks p) fun e _ => ev.Breaks p ∧ e.IsContract := by
    refine ends.conseq (fun _ plain => plain) (fun _ _ _ => ?_) fun _ _ never => never.elim
    rintro ⟨call, reported, -⟩
    cases silent.symm.trans reported
  have reports {call : OpEvent} (reported : ev.call? p = some call) :
      Triple (Plain []) (do let _ ← Intake.recognize p call) (fun _ _ => ¬ ev.Breaks p)
        fun e _ => ev.Breaks p ∧ e.IsContract := by
    have breaks : ev.Breaks p ↔ call.Breaks p := by simp [FlowEvent.Breaks, reported]
    rw [breaks]
    exact Triple.bind (Intake.recognize_outcome p call) fun _ => Triple.pure fun _ sound => sound
  unfold replayEvent
  split
  case h_1 kind | h_2 kind | h_3 kind =>
    exact quiet (by simp [FlowEvent.call?, kind]) (Intake.flow_ends _ _ _ _)
  case h_4 kind =>
    cases op : ev.op with
    | none =>
      exact quiet (by simp [FlowEvent.call?, kind, op])
        ((Plain.beside fun _ => rfl).mono fun _ _ _ => trivial)
    | some call => exact reports (by simp [FlowEvent.call?, kind, op])
  case h_5 kind =>
    unfold Intake.tabHost
    cases known : p.resource? ev.part with
    | none =>
      refine quiet (by simp [FlowEvent.call?, kind, known]) ?_
      refine Triple.bind (M := fun _ _ => True) ?_ fun _ => Triple.pure fun _ _ => trivial
      exact Triple.bind (Plain.beside fun _ => rfl) fun _ =>
        Triple.bind (Plain.listing.skip _ _) fun _ => Triple.pure fun _ _ => trivial
    | some id => exact reports (by simp [FlowEvent.call?, kind, known]; rfl)
  case h_6 notOp notTabhost =>
    refine quiet ?_ ((Plain.beside fun _ => rfl).mono fun _ _ _ => trivial)
    unfold FlowEvent.call?
    split
    case h_1 kind => exact absurd kind notOp
    case h_2 kind => exact absurd kind notTabhost
    case h_3 => rfl

/-- A binding never fails: it is made, or skipped, and so is each of its roots. -/
theorem replayBinding_ends (b : BindingFact) :
    Triple (fun _ => True) (replayBinding b) (fun _ _ => True) fun _ _ => False := by
  have note_ends (n : Notice) : Triple (fun _ => True) (note n) (fun _ _ => True) fun _ _ => False :=
    Triple.modify fun _ _ => trivial
  have attempt_ends {step : Work Unit} : Triple (fun _ => True) (attempt step) (fun _ _ => True)
      fun _ _ => False := by
    have any : Triple (fun _ => True) step (fun _ _ => True) fun _ _ => True := fun w _ => by
      cases step w <;> trivial
    exact (Triple.attempt any).mono fun _ _ _ => trivial
  refine Triple.bind attempt_ends fun outcome => ?_
  cases outcome with
  | error e => exact note_ends _
  | ok =>
    refine Triple.forM (I := fun _ _ => True) fun _ r _ _ => Triple.bind attempt_ends fun outcome => ?_
    cases outcome with
    | error e => exact note_ends _
    | ok => exact Triple.pure fun _ _ => trivial

/-- Replaying more events goes on where the first ones have led. -/
theorem replayEvents_append (p : Program) (events more : List FlowEvent) (index : Nat) :
    replayEvents p index (events ++ more) = (do
      replayEvents p index events
      replayEvents p (index + events.length) more) := by
  induction events generalizing index with
  | nil => rfl
  | cons ev events ih =>
    simp only [List.cons_append, replayEvents, ih, bind_assoc, List.length_cons]
    rw [Nat.add_right_comm, Nat.add_assoc]

/-- Events that break no contract are replayed to their end. -/
theorem replayEvents_ends (sound : ∀ ev ∈ events, ¬ ev.Breaks p) (index : Nat) :
    Triple (Served Store.empty) (replayEvents p index events) (fun _ => Served Store.empty)
      fun _ _ => False := by
  induction events generalizing index with
  | nil => exact Triple.pure fun _ served => served
  | cons ev rest ih =>
    have first : Triple (Served Store.empty) (replayEvent p ev) (fun _ => Served Store.empty)
        fun _ _ => False := by
      have kept : Keeps (Served Store.empty) (replayEvent p ev) :=
        Served.lasting.replayEvent (Served.recognize p) ev
      refine Triple.conseq (Triple.and (fun w served => replayEvent_outcome p ev w served.plain) kept)
        (fun _ served => served) (fun _ _ holds => holds.2) ?_
      exact fun _ _ ⟨⟨broken, _⟩, _⟩ => sound ev List.mem_cons_self broken
    refine Triple.bind (Triple.within first) fun _ => ?_
    exact ih (fun ev' listed => sound ev' (List.mem_cons_of_mem _ listed)) (index + 1)

/-- A replay that is not called off replays its events, and then its bindings. -/
theorem replay_eq (p : Program) (f : Facts) (w : Workspace) : f.replay p false w = (do
    replayEvents p 0 f.events
    f.bindings.forM replayBinding
    note (.factsReplayed f.events.length f.bindings.length) : Work Unit) w := by
  unfold replay
  split <;> rfl

/-- Where no event breaks a contract, nothing is in the way of a replay. -/
theorem exists_replay {f : Facts} {w : Workspace} (reached : Served Store.empty w)
    (sound : ∀ ev ∈ f.events, ¬ ev.Breaks p) : ∃ w', f.replay p false w = .ok () w' := by
  have bindings : Triple (fun _ => True) (f.bindings.forM replayBinding) (fun _ _ => True)
      fun _ _ => False :=
    Triple.forM (I := fun _ _ => True) fun _ b _ _ => replayBinding_ends b
  obtain ⟨⟨⟩, v, replayed, -⟩ := (replayEvents_ends sound 0).exists_ok reached
  obtain ⟨⟨⟩, u, bound, -⟩ := bindings.exists_ok (w := v) trivial
  exact ⟨_, (replay_eq p f w).trans ((bind_of_ok replayed).trans (bind_of_ok bound))⟩

/-- The replay ends at the first event that breaks a contract, and with the fault of that event. -/
theorem replay_breaks_off {f : Facts} {w : Workspace} (reached : Served Store.empty w)
    {before after : List FlowEvent} (split : f.events = before ++ ev :: after)
    (sound : ∀ e ∈ before, ¬ e.Breaks p) (broken : ev.Breaks p) :
    ∃ v e w', replayEvents p 0 before w = .ok () v ∧ replayEvent p ev v = .error e w' ∧
      e.IsContract ∧ f.replay p false w = .error (.within (.replay before.length ev.kind) e) w' := by
  obtain ⟨⟨⟩, v, replayed, served⟩ := (replayEvents_ends sound 0).exists_ok reached
  have outcome := replayEvent_outcome p ev v served.plain
  cases ran : replayEvent p ev v with
  | ok a w' =>
    rw [ran] at outcome
    exact absurd broken outcome
  | error e w' =>
    rw [ran] at outcome
    refine ⟨v, e, w', replayed, ran, outcome.2, ?_⟩
    have staged : within (.replay before.length ev.kind) (replayEvent p ev) v =
        .error (.within (.replay before.length ev.kind) e) w' := by
      rw [within, ran]
    have rest : replayEvents p (0 + before.length) (ev :: after) v =
        .error (.within (.replay before.length ev.kind) e) w' := by
      rw [Nat.zero_add]
      exact bind_of_error staged
    rw [replay_eq, split, replayEvents_append]
    exact bind_of_error ((bind_of_ok replayed).trans rest)

/-- A replay into any graph that requests lead to fails exactly if some event reports a call that
breaks the contract of operations. It fails with a contract violation, inside a stage that names the
first such event: the events before it have been replayed, it has failed in the workspace that they
have led to, and nothing was done after it. -/
theorem replay_breach_exact (p : Program) (f : Facts) {w : Workspace}
    (reached : Served Store.empty w) :
    ((∃ e w', f.replay p false w = .error e w') ↔ ∃ ev ∈ f.events, ev.Breaks p) ∧
    ∀ before ev after, f.events = before ++ ev :: after → (∀ e ∈ before, ¬ e.Breaks p) →
      ev.Breaks p → ∃ v e w', replayEvents p 0 before w = .ok () v ∧
        replayEvent p ev v = .error e w' ∧ e.IsContract ∧
        f.replay p false w = .error (.within (.replay before.length ev.kind) e) w' := by
  refine ⟨⟨?_, ?_⟩, fun before ev after split sound broken =>
    replay_breaks_off reached split sound broken⟩
  · rintro ⟨e, w', failed⟩
    by_contra none
    obtain ⟨u, replayed⟩ := exists_replay reached fun ev listed broken => none ⟨ev, listed, broken⟩
    cases replayed.symm.trans failed
  · rintro ⟨ev, listed, broken⟩
    classical
    have found : (f.events.find? (·.Breaks p)).isSome :=
      List.find?_isSome.2 ⟨ev, listed, decide_eq_true broken⟩
    obtain ⟨first, found⟩ := Option.isSome_iff_exists.1 found
    obtain ⟨breaks, before, after, split, sound⟩ := List.find?_eq_some_iff_append.1 found
    obtain ⟨v, e, w', -, -, -, failed⟩ := replay_breaks_off reached split
      (fun e earlier => by simpa using sound e earlier) (of_decide_eq_true breaks)
    exact ⟨_, w', failed⟩

/-- A call without a receiver, after an event that cannot be used at all. -/
def openFacts : Facts where
  events := [{ kind := "assign" }, { kind := "op", op := some { kind := "view-traverse" } },
    { kind := "op", op := some { kind := "no-such-kind" } }]

theorem openFacts_breaks :
    FlowEvent.Breaks {} { kind := "op", op := some { kind := "view-traverse" } } := by
  have known : OpKind.ofName? "view-traverse" = some .viewTraverse := rfl
  refine ⟨{ kind := "view-traverse" }, rfl, .operands known (by decide) (by decide) (.inl ?_)⟩
  exact ⟨.receiver, by decide⟩

theorem replay_breach_exact_open : ∃ v e w', v.intake.stats.skipped = 1 ∧ e.IsContract ∧
    replayEvents {} 0 (openFacts.events.take 1) {} = .ok () v ∧
    openFacts.replay {} false {} = .error (.within (.replay 1 "op") e) w' := by
  obtain ⟨v, e, w', replayed, -, contract, failed⟩ :=
    (replay_breach_exact {} openFacts (w := {}) ⟨[], rfl⟩).2 [{ kind := "assign" }] _ _ rfl
      (by
        rintro _ listed ⟨call, reported, -⟩
        obtain rfl := List.mem_singleton.1 listed
        cases reported)
      openFacts_breaks
  obtain rfl : _ = v := (EStateM.Result.ok.inj replayed).2
  exact ⟨_, e, w', rfl, contract, rfl, failed⟩

end Facts

end WidgetFlow
