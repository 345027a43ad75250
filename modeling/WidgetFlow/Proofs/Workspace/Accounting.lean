import WidgetFlow.Proofs.Workspace.Serving
import WidgetFlow.Proofs.Workspace.Skipped

/-!
# What intake counts

Intake counts every event once, and every fault that it passes over as a skip. A flow ends at its
first fault, so it is skipped at most once. A recognized call goes on after a fault in a role that
its operation can do without, and may run into another one: how many faults it has can be read off
the call and the table (`OpEvent.skips`), and there are never more than two. So the skips of a run
exceed its events by at most the number of calls that have two faults, and each such call is indeed
counted as two skips (`skips_of_run`).
-/

namespace WidgetFlow

open Work

/-! ### The faults of an event -/

/-- A reference is at fault if it is given and names nothing. -/
def Ref.faults (r : Ref) : Nat := if r.isNone || r.entity?.isSome then 0 else 1

namespace Ref

variable {r : Ref}

theorem faults_le_one : r.faults ≤ 1 := by
  unfold faults
  split <;> omega

theorem faults_of_isNone (isOpen : r.isNone) : r.faults = 0 := by simp [faults, isOpen]

theorem faults_of_isSome (named : r.entity?.isSome) : r.faults = 0 := by simp [faults, named]

theorem faults_of_unnamed (given : ¬ r.isNone) (unnamed : r.entity? = none) : r.faults = 1 := by
  simp [faults, given, unnamed]

/-- A fault in a role that the operation needs is in the way. -/
theorem faults_of_not_blocks {sig : Signature} {role : Role} (declared : sig.has role)
    (input : role ≠ .result) (free : ¬ r.blocks sig role) : r.faults = 0 := by
  by_cases isOpen : r.isNone = true
  · exact faults_of_isNone isOpen
  · refine faults_of_isSome (Option.isSome_iff_ne_none.2 fun unnamed => free ?_)
    simp [blocks, isOpen, unnamed, declared, input]

end Ref

namespace OpEvent

/-- The faults that are found in the roles of a call, up to one that is in the way. -/
def roleFaults (ev : OpEvent) (sig : Signature) : Nat :=
  if ev.receiver.blocks sig .receiver then 1
  else if ev.parameter.blocks sig .parameter then ev.receiver.faults + 1
  else ev.receiver.faults + ev.parameter.faults + ev.result.faults

/-- No role is in the way of a registration, but its method is in no table. -/
def isUnlisted (p : Program) (ev : OpEvent) (kind : OpKind) : Bool :=
  !ev.isBlocked kind.signature && kind.isListener &&
    (p.resolver.table.byMethod? ev.listener).isNone

/-- How often a call is counted as skipped. -/
def skips (p : Program) (ev : OpEvent) : Nat :=
  match OpKind.ofName? ev.kind with
  | none => 0
  | some kind => ev.roleFaults kind.signature + (ev.isUnlisted p kind).toNat

variable {p : Program} {ev : OpEvent}

theorem skips_of_ofName? {kind : OpKind} (known : OpKind.ofName? ev.kind = some kind) :
    ev.skips p = ev.roleFaults kind.signature + (ev.isUnlisted p kind).toNat := by
  simp only [skips, known]

/-- A call has at most two faults: an operation needs a receiver or a parameter, a registration needs
both, and what it needs is only at fault where it is in the way. -/
theorem skips_le_two (p : Program) (ev : OpEvent) : ev.skips p ≤ 2 := by
  cases known : OpKind.ofName? ev.kind with
  | none => simp [skips, known]
  | some kind =>
    have needs : kind.signature.has .receiver ∨ kind.signature.has .parameter := by
      cases kind <;> decide
    have needsBoth : kind.isListener → kind.signature.has .receiver ∧ kind.signature.has .parameter := by
      cases kind <;> decide
    have first : ev.receiver.faults ≤ 1 := Ref.faults_le_one
    have second : ev.parameter.faults ≤ 1 := Ref.faults_le_one
    have third : ev.result.faults ≤ 1 := Ref.faults_le_one
    rw [skips_of_ofName? known, roleFaults]
    split
    case isTrue blocks => simp [isUnlisted, isBlocked, blocks]
    case isFalse free =>
      split
      case isTrue blocks =>
        simp only [isUnlisted, isBlocked, blocks, Bool.or_true, Bool.not_true, Bool.false_and,
          Bool.toNat_false]
        omega
      case isFalse free' =>
        have receiver (declared : kind.signature.has .receiver) : ev.receiver.faults = 0 :=
          Ref.faults_of_not_blocks declared (by decide) free
        have parameter (declared : kind.signature.has .parameter) : ev.parameter.faults = 0 :=
          Ref.faults_of_not_blocks declared (by decide) free'
        by_cases listens : kind.isListener = true
        · obtain ⟨one, other⟩ := needsBoth listens
          have unlisted := Bool.toNat_le (ev.isUnlisted p kind)
          rw [receiver one, parameter other]
          omega
        · have listed : ev.isUnlisted p kind = false := by simp [isUnlisted, listens]
          rw [listed, Bool.toNat_false]
          obtain declared | declared := needs
          · have none := receiver declared
            omega
          · have none := parameter declared
            omega

end OpEvent

/-! ### Two counts -/

/-- So many events have been counted, and so many skips. -/
def Accounted (events skips : Nat) (w : Workspace) : Prop :=
  w.intake.stats.events = events ∧ w.intake.stats.skipped = skips

/-- Only what counts events or skips changes the counts. -/
theorem Accounted.steady {events skips : Nat} :
    Steady (fun i => (i.stats.events, i.stats.skipped)) (Accounted events skips) where
  request accounted _ := accounted
  aside := by
    rintro w w' accounted - - - same
    obtain ⟨events, skipped⟩ := Prod.mk.inj same
    exact ⟨events.trans accounted.1, skipped.trans accounted.2⟩

namespace Intake

variable {p : Program} {event : String} {a b : Nat}

theorem skip_accounted (fault : Fault) : Triple (Accounted a b) (skip event fault)
    (fun _ => Accounted a (b + 1)) fun _ _ => False :=
  Triple.bind (M := fun _ => Accounted a (b + 1))
    (Triple.modify fun _ accounted => ⟨accounted.1, congrArg (· + 1) accounted.2⟩) fun _ =>
    Triple.modify fun _ accounted => accounted

/-- A reference that names nothing is one skip. -/
theorem internOrSkip_accounted (r : Ref) : Triple (Accounted a b) (internOrSkip event r)
    (NamingEnds (r.entity? = none) (Accounted a (b + 1)) fun _ => Accounted a b) fun _ _ => False := by
  intro w accounted
  cases named : r.entity? with
  | some e =>
    rw [internOrSkip_of_entity? event named]
    exact .inr ⟨Option.some_ne_none e, _, rfl, accounted⟩
  | none =>
    obtain ⟨fault, skips⟩ := internOrSkip_of_entity?_eq_none event named w
    have skipped : Triple (Accounted a b) (do skip event fault; return none : Work (Option NodeId))
        (NamingEnds ((none : Option Entity) = none) (Accounted a (b + 1)) fun _ => Accounted a b)
        fun _ _ => False :=
      Triple.bind (skip_accounted fault) fun _ => Triple.pure fun _ accounted => .inl ⟨rfl, rfl, accounted⟩
    rw [skips]
    exact skipped w accounted

/-! ### Recognized calls -/

/-- A role has its fault counted; `total` is what is counted where the role is in the way. -/
theorem internRole_accounted {sig : Signature} {role : Role} {r : Ref} {total : Nat}
    (last : r.blocks sig role → total = b + 1) :
    Triple (Accounted a b) (internRole event sig role r)
      (NamingEnds (r.blocks sig role) (Accounted a total) fun _ => Accounted a (b + r.faults))
      fun _ _ => False := by
  have named : Triple (Accounted a b) (internRole event sig role r)
      (NamingEnds (r.blocks sig role) (Accounted a (b + 1)) fun _ => Accounted a (b + r.faults))
      fun _ _ => False := by
    refine internRole_ends ((internOrSkip_accounted r).mono fun x? w => ?_) (fun isOpen w => ?_)
      fun given unnamed w => ?_
    · rintro (unnamed | ⟨named, x, answered, accounted⟩)
      · exact .inl unnamed
      · refine .inr ⟨named, x, answered, ?_⟩
        rwa [Ref.faults_of_isSome (Option.isSome_iff_ne_none.2 named)]
    · rw [Ref.faults_of_isNone isOpen]
      exact id
    · rw [Ref.faults_of_unnamed given unnamed]
      exact id
  refine named.mono fun x? w => ?_
  rintro (⟨blocks, none, accounted⟩ | free)
  · exact .inl ⟨blocks, none, last blocks ▸ accounted⟩
  · exact .inr free

/-- While the roles of a call are named, their faults are counted. -/
theorem nameRoles_accounted (ev : OpEvent) (sig : Signature) :
    Triple (Accounted a b) (nameRoles ev sig)
      (NamingEnds (ev.isBlocked sig) (Accounted a (b + ev.roleFaults sig))
        fun _ => Accounted a (b + ev.roleFaults sig)) fun _ _ => False := by
  refine nameRoles_ends (internRole_accounted fun blocks => ?_)
    (fun free _ => internRole_accounted fun blocks => ?_) fun free _ _ => ?_
  · simp [OpEvent.roleFaults, blocks]
  · rw [OpEvent.roleFaults, if_neg free, if_pos blocks]
    omega
  · have whole : b + ev.roleFaults sig =
        b + ev.receiver.faults + ev.parameter.faults + ev.result.faults := by
      obtain ⟨receives, takes⟩ := not_or.1 (mt (Bool.or_eq_true _ _).mpr free)
      rw [OpEvent.roleFaults, if_neg receives, if_neg takes]
      omega
    rw [whole]
    exact internRole_accounted fun blocks => by simp [Ref.blocks] at blocks

theorem createOperation_accounted (ev : OpEvent) (i : Operands) (reg? : Option Registration) :
    Keeps (Accounted a b) (createOperation p ev i reg?) :=
  Accounted.steady.createOperation (fun _ => .modify fun _ accounted => accounted) (fun _ => rfl)
    (fun _ => Triple.onStore (fun _ _ _ accounted _ => accounted) fun _ _ accounted _ => accounted)
    (fun _ => rfl) ev i reg?

/-- A recognized call is one event, and as many skips as it has faults. -/
theorem recognize_accounted (p : Program) (ev : OpEvent) : Triple (Accounted a b) (recognize p ev)
    (fun _ => Accounted (a + 1) (b + ev.skips p)) fun _ => Accounted (a + 1) (b + ev.skips p) := by
  rw [recognize_eq]
  refine Triple.bind (M := fun _ => Accounted (a + 1) b)
    (Triple.modify fun _ accounted => ⟨congrArg (· + 1) accounted.1, accounted.2⟩) fun _ => ?_
  cases known : OpKind.ofName? ev.kind with
  | none =>
    simp only [OpEvent.skips, known]
    exact Triple.throw fun _ accounted => accounted
  | some kind =>
    rw [OpEvent.skips_of_ofName? known, ← Nat.add_assoc]
    refine Triple.afterNaming (nameRoles_accounted ev _).unfailing (fun blocked => ?_) fun free i => ?_
    · simp only [OpEvent.isUnlisted, blocked, Bool.not_true, Bool.false_and, Bool.toNat_false]
      exact Triple.pure fun _ accounted => accounted
    have unlisted : ev.isUnlisted p kind =
        (kind.isListener && (p.resolver.table.byMethod? ev.listener).isNone) := by
      simp [OpEvent.isUnlisted, free]
    rw [unlisted]
    cases listens : kind.isListener with
    | false =>
      simp only [show kind.signature.listener = false from listens]
      exact createOperation_accounted (p := p) ev i none
    | true =>
      simp only [show kind.signature.listener = true from listens, if_true]
      cases p.resolver.table.byMethod? ev.listener with
      | some reg => exact createOperation_accounted ev i (some reg)
      | none =>
        exact Triple.bind (skip_accounted _).unfailing fun _ => Triple.pure fun _ accounted => accounted

/-! ### Flows -/

/-- The wiring of an override counts no event and no skip. -/
theorem wireViewContextMenu_accounted (p : Program) (alloc : NodeId) (site : Site) :
    Keeps (Accounted a b) (wireViewContextMenu p alloc site) :=
  Accounted.steady.wireViewContextMenu (fun _ => .modify fun _ accounted => accounted)
    (fun _ _ _ accounted => accounted) (fun _ => rfl) alloc site

/-- A flow is one event, and at most one skip: it ends at its first fault. -/
theorem flow_accounted (p : Program) (event : String) (source target : Ref) (site : Site) :
    Triple (Accounted a b) (flow p event source target site)
      (fun _ w => ∃ skips ≤ 1, Accounted (a + 1) (b + skips) w)
      fun _ w => ∃ skips ≤ 1, Accounted (a + 1) (b + skips) w := by
  have skipped (w : Workspace) (accounted : Accounted (a + 1) (b + 1) w) :
      ∃ skips ≤ 1, Accounted (a + 1) (b + skips) w := ⟨1, le_rfl, accounted⟩
  have clean (w : Workspace) (accounted : Accounted (a + 1) b w) :
      ∃ skips ≤ 1, Accounted (a + 1) (b + skips) w := ⟨0, Nat.zero_le 1, accounted⟩
  have last (src : NodeId) : Triple (Accounted (a + 1) b) (afterFlow p source src site)
      (fun _ w => ∃ skips ≤ 1, Accounted (a + 1) (b + skips) w)
      fun _ w => ∃ skips ≤ 1, Accounted (a + 1) (b + skips) w := by
    refine Triple.ite (fun _ => ?_) fun _ => Triple.pure clean
    refine Triple.bind (.attempt (wireViewContextMenu_accounted p src site)) fun outcome => ?_
    cases outcome with
    | ok => exact Triple.pure clean
    | error e =>
      refine Triple.ite (fun _ => ?_) fun _ => Triple.throw clean
      exact (skip_accounted e).unfailing.mono fun _ => skipped
  refine Triple.bind (M := fun _ => Accounted (a + 1) b)
    (Triple.modify fun _ accounted => ⟨congrArg (· + 1) accounted.1, accounted.2⟩) fun _ => ?_
  refine Triple.afterNaming (internOrSkip_accounted source).unfailing (fun _ => Triple.pure skipped)
    fun _ src => ?_
  refine Triple.afterNaming (internOrSkip_accounted target).unfailing (fun _ => Triple.pure skipped)
    fun _ dst => ?_
  refine Triple.bind (M := fun _ => Accounted (a + 1) b) (.within (.onStore
    (fun _ _ _ accounted _ => accounted) fun w _ accounted _ => clean w accounted)) fun added => ?_
  refine Triple.ite (fun _ => ?_) fun _ => last src
  exact Triple.bind (Triple.modify fun _ accounted => accounted) fun _ => last src

end Intake

/-! ### Runs -/

namespace Activity

/-- The activity is a flow, a recognized call or a tab host. -/
def isCounted : Activity → Bool
  | .assign .. | .bindParameter .. | .bindReturn .. | .recognize _ | .tabHost .. => true
  | _ => false

/-- The recognized call that an activity reports. -/
def call? (p : Program) : Activity → Option OpEvent
  | .recognize ev => some ev
  | .tabHost host part target site => (p.resource? part).map (partCall host target · site)
  | _ => none

/-- The activity reports a call that has two faults. -/
def hasTwoFaults (p : Program) (a : Activity) : Bool := (a.call? p).any (·.skips p = 2)

/-- So many skips may be counted for the activity: as many as its call has faults, if it reports a
call, and else at most one, if it is an event at all. -/
def MaySkip (p : Program) (a : Activity) (skips : Nat) : Prop :=
  match a.call? p with
  | some ev => skips = ev.skips p
  | none => skips ≤ a.isCounted.toNat

variable {p : Program} {a : Activity} {skips : Nat}

theorem isCounted_of_call? {ev : OpEvent} (reports : a.call? p = some ev) : a.isCounted = true := by
  cases a <;> first | rfl | cases reports

theorem MaySkip.le (may : a.MaySkip p skips) :
    skips ≤ a.isCounted.toNat + (a.hasTwoFaults p).toNat := by
  unfold MaySkip at may
  split at may
  case h_1 ev reports =>
    have most := ev.skips_le_two p
    have two : a.hasTwoFaults p = decide (ev.skips p = 2) := by simp [hasTwoFaults, reports]
    rw [isCounted_of_call? reports, two, Bool.toNat_true, may]
    by_cases both : ev.skips p = 2
    · simp [both]
    · omega
  case h_2 => omega

theorem MaySkip.ge (may : a.MaySkip p skips) : 2 * (a.hasTwoFaults p).toNat ≤ skips := by
  unfold MaySkip at may
  cases reports : a.call? p with
  | none => simp [hasTwoFaults, reports]
  | some ev =>
    simp only [reports] at may
    simp only [hasTwoFaults, reports, Option.any_some]
    by_cases both : ev.skips p = 2
    · simp [both, may]
    · simp [both]

/-- A part that no table knows is one skip; any other tab host is a recognized call. -/
theorem tabHost_accounted (host : Ref) (part : String) (target : Ref) (site : Site) {a b : Nat} :
    Triple (Accounted a b) (Intake.tabHost p host part target site)
      (fun _ w => ∃ skips, (Activity.tabHost host part target site).MaySkip p skips ∧
        Accounted (a + 1) (b + skips) w)
      fun _ w => ∃ skips, (Activity.tabHost host part target site).MaySkip p skips ∧
        Accounted (a + 1) (b + skips) w := by
  unfold Intake.tabHost
  cases known : p.resource? part with
  | some id =>
    simp only [MaySkip, call?, known, Option.map_some]
    exact (Intake.recognize_accounted p _).conseq (fun _ accounted => accounted)
      (fun _ _ accounted => ⟨_, rfl, accounted⟩) fun _ _ accounted => ⟨_, rfl, accounted⟩
  | none =>
    simp only [MaySkip, call?, known, Option.map_none]
    refine Triple.bind (M := fun _ => Accounted (a + 1) b)
      (Triple.modify fun _ accounted => ⟨congrArg (· + 1) accounted.1, accounted.2⟩) fun _ => ?_
    exact Triple.bind (Intake.skip_accounted _).unfailing fun _ =>
      Triple.pure fun _ accounted => ⟨1, le_rfl, accounted⟩

/-- An activity of intake counts its event, and the skips that it may have. -/
theorem accounted (p : Program) {act : Activity} (event : act.isEvent) {a b : Nat} :
    Triple (Accounted a b) (act.work p)
      (fun _ w => ∃ skips, act.MaySkip p skips ∧ Accounted (a + act.isCounted.toNat) (b + skips) w)
      fun _ w => ∃ skips, act.MaySkip p skips ∧ Accounted (a + act.isCounted.toNat) (b + skips) w := by
  have flows {word : String} {source target : Ref} {site : Site} (silent : act.call? p = none)
      (counted : act.isCounted = true) :
      Triple (Accounted a b) (Intake.flow p word source target site)
        (fun _ w => ∃ skips, act.MaySkip p skips ∧ Accounted (a + act.isCounted.toNat) (b + skips) w)
        fun _ w => ∃ skips, act.MaySkip p skips ∧
          Accounted (a + act.isCounted.toNat) (b + skips) w := by
    simp only [MaySkip, silent, counted]
    exact Intake.flow_accounted p word source target site
  have bindings {step : Work Unit} (keeps : Keeps (Accounted a b) step) (silent : act.call? p = none)
      (uncounted : act.isCounted = false) : Triple (Accounted a b) step
        (fun _ w => ∃ skips, act.MaySkip p skips ∧ Accounted (a + act.isCounted.toNat) (b + skips) w)
        fun _ w => ∃ skips, act.MaySkip p skips ∧
          Accounted (a + act.isCounted.toNat) (b + skips) w := by
    simp only [MaySkip, silent, uncounted]
    exact keeps.conseq (fun _ start => start) (fun _ _ accounted => ⟨0, le_rfl, accounted⟩)
      fun _ _ accounted => ⟨0, le_rfl, accounted⟩
  cases act with
  | assign => exact flows rfl rfl
  | bindParameter => exact flows rfl rfl
  | bindReturn => exact flows rfl rfl
  | recognize ev =>
    have call : Triple (Accounted a b) (Intake.recognize p ev)
        (fun _ w => ∃ skips, (recognize ev).MaySkip p skips ∧ Accounted (a + 1) (b + skips) w)
        fun _ w => ∃ skips, (recognize ev).MaySkip p skips ∧ Accounted (a + 1) (b + skips) w :=
      (Intake.recognize_accounted p ev).conseq (fun _ accounted => accounted)
        (fun _ _ accounted => ⟨_, rfl, accounted⟩) fun _ _ accounted => ⟨_, rfl, accounted⟩
    exact Triple.bind call fun _ => Triple.pure fun _ accounted => accounted
  | tabHost host part target site =>
    exact Triple.bind (tabHost_accounted host part target site) fun _ =>
      Triple.pure fun _ accounted => accounted
  | bindViews => exact bindings (Accounted.steady.bindViews _ _) rfl rfl
  | windowRoot => exact bindings (Accounted.steady.windowRoot _ _) rfl rfl
  | _ => cases event

end Activity

/-- Every event of a run is counted once. At most one skip is counted for each, but for the calls that
have two faults: two are counted for them. -/
theorem skips_of_run (p : Program) (w : Workspace) (acts : List Activity)
    (events : ∀ a ∈ acts, a.isEvent) :
    (w.run p acts).intake.stats.events = w.intake.stats.events + acts.countP (·.isCounted) ∧
    (w.run p acts).intake.stats.skipped ≤
      w.intake.stats.skipped + acts.countP (·.isCounted) + acts.countP (·.hasTwoFaults p) ∧
    w.intake.stats.skipped + 2 * acts.countP (·.hasTwoFaults p) ≤
      (w.run p acts).intake.stats.skipped := by
  induction acts generalizing w with
  | nil => exact ⟨rfl, le_rfl, le_rfl⟩
  | cons a acts ih =>
    obtain ⟨skips, may, counted, skipped⟩ := Workspace.perform_of_triple
      (Activity.accounted p (events a List.mem_cons_self)) (w := w) ⟨rfl, rfl⟩
    obtain ⟨total, most, least⟩ :=
      ih (w.perform p a) fun a' later => events a' (List.mem_cons_of_mem _ later)
    have upper := may.le
    have lower := may.ge
    have count (test : Activity → Bool) :
        (a :: acts).countP test = acts.countP test + (test a).toNat := by
      rw [List.countP_cons]
      cases test a <;> rfl
    rw [show w.run p (a :: acts) = (w.perform p a).run p acts from rfl, count, count]
    omega

/-- A registration whose result names nothing, and whose method is in no table. -/
def faultyCall : OpEvent where
  kind := "set-listener"
  receiver := .ofSlot ⟨"m", "v"⟩
  parameter := .ofSlot ⟨"m", "l"⟩
  result := .ofSlot ⟨"m", ""⟩
  listener := "s"

/-- The first call of an analysis may leave more skips than events. -/
theorem not_forall_skipped_le_events : ¬ ∀ (p : Program) (acts : List Activity),
    (∀ a ∈ acts, a.isCounted) →
      (({} : Workspace).run p acts).intake.stats.skipped ≤
        (({} : Workspace).run p acts).intake.stats.events := by
  intro claimed
  have most := claimed {} [.recognize faultyCall] (by simp [Activity.isCounted])
  exact absurd most (by decide +kernel)

theorem skips_of_run_faulty :
    (∀ a ∈ [Activity.recognize faultyCall], a.isEvent) ∧
    (({} : Workspace).run {} [.recognize faultyCall]).intake.stats.events = 1 ∧
    (({} : Workspace).run {} [.recognize faultyCall]).intake.stats.skipped = 2 := by
  have events : ∀ a ∈ [Activity.recognize faultyCall], a.isEvent := by simp [Activity.isEvent]
  obtain ⟨counted, most, least⟩ := skips_of_run {} {} _ events
  have doubled : [Activity.recognize faultyCall].countP (·.hasTwoFaults {}) = 1 := by decide +kernel
  rw [doubled] at most least
  exact ⟨events, counted, le_antisymm most least⟩

end WidgetFlow
