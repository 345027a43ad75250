import WidgetFlow.Proofs.Workspace.Overrides

/-!
# Which views of a document are overridden

Intake asks which class overrides the handler of context menus when a value flows out of the allocation
of a view, and at no other time. So after a replay the views whose override is settled are those that
some flow event of the document leaves (`overridden_of_replay`). A view that the document only names as
an operand, as a target or in a window binding stays without its override (`not_forall_overridden`).
-/

namespace WidgetFlow

open Work

/-! ### What passages leave -/

namespace Passage

variable {p : Program} {f : Passage} {s t : Store} {w : Workspace} {x : NodeId} {c : String}

/-- What a passage leaves is settled by the entity of its source, once and for all. -/
theorem leaves_iff_of_extends (named : s.Named) {e : Entity} (source : f.source.entity? = some e)
    (longer : (s.internEntity e).2.Extends t) : f.Leaves t x c ↔ f.Leaves s x c := by
  have again : t.internEntity e = ((s.internEntity e).1, t) := by
    have known := longer.recalls _ _ (Store.lookup?_internEntity s e)
    simp only [Store.internEntity, known]
  obtain ⟨y, there⟩ := Store.isEntity_internEntity named e
  have later := longer.node? there
  simp only [Leaves, source, Option.some.injEq, exists_eq_left', again]
  refine and_congr_right fun _ => and_congr_right fun _ => and_congr_right ?_
  rintro rfl
  rw [later, there]

/-- The node that a passage leaves is there, if its source has been named. -/
theorem Leaves.node? (leaves : f.Leaves s x c)
    (named : ∀ e, f.source.entity? = some e → (s.lookup? e.key).isSome) :
    ∃ n, s.node? x = some n ∧ n.className = c := by
  obtain ⟨-, -, e, source, -, n, there, -, same⟩ := leaves
  obtain ⟨y, known⟩ := Option.isSome_iff_exists.1 (named e source)
  have still : (s.internEntity e).2 = s := by simp only [Store.internEntity, known]
  exact ⟨n, still ▸ there, same⟩

/-- If the class oracle is a table, a passage settles the view that it leaves. -/
theorem settles_iff (static : p.Static) : (∃ q ∈ (f.question? p w).toList, q.view = x ∧ q.settles) ↔
    x ∉ w.intake.settled ∧ ∃ c, f.Leaves w.store x c := by
  simp only [Option.mem_toList]
  constructor
  · rintro ⟨q, raised, rfl, -⟩
    obtain ⟨leaves, isOpen, -⟩ := question?_eq_some_iff.1 raised
    exact ⟨isOpen, _, leaves⟩
  · rintro ⟨isOpen, c, leaves⟩
    let q : Question := ⟨x, c, f.site, p.oracle w.intake.asked viewContextMenu c⟩
    have resolved : q.settles := decide_eq_true (static.oracle _ _ _).2
    exact ⟨q, question?_eq_some_iff.2 ⟨leaves, isOpen, rfl, rfl⟩, rfl, resolved⟩

/-- The answer of a table leads to the override of the class that it names. -/
theorem method?_of_question? (static : p.Static) {q : Question} (raised : f.question? p w = some q)
    (found : p.oracle 0 viewContextMenu q.className = some c) :
    q.method? = some (methodName c viewContextMenu) := by
  obtain ⟨-, -, -, answer⟩ := question?_eq_some_iff.1 raised
  obtain ⟨alike, resolved⟩ := static.oracle w.intake.asked viewContextMenu q.className
  rw [alike, found] at answer resolved
  obtain ⟨x, className, site, _⟩ := q
  obtain rfl := answer
  exact Question.method?_of_ne (fun empty => resolved (congrArg some empty)) x className site

end Passage

/-- These passages have come in, and the views that they leave are settled, and no others. Where a
settled view has an override, the view flows into it. -/
structure Overridden (p : Program) (fs : List Passage) (w : Workspace) : Prop where
  served : Served .empty w
  named : ∀ f ∈ fs, ∀ e, f.source.entity? = some e → (w.store.lookup? e.key).isSome
  settled : ∀ x, x ∈ w.intake.settled ↔ ∃ f ∈ fs, ∃ c, f.Leaves w.store x c
  wired : ∀ x ∈ w.intake.settled, ∀ n, w.store.node? x = some n →
    ∀ c, p.oracle 0 viewContextMenu n.className = some c →
      ∃ site, w.store.FlowsInto x (methodName c viewContextMenu) site

namespace Overridden

variable {p : Program} {fs : List Passage} {f : Passage} {w w' : Workspace} {x : NodeId} {c : String}

theorem start (p : Program) (journal : List Notice) : Overridden p [] { journal := journal } :=
  ⟨⟨[], rfl⟩, by simp, by simp, by simp⟩

/-- What passages have left, they leave while the graph grows. -/
theorem leaves_iff (h : Overridden p fs w) (longer : w.store.Extends w'.store) (listed : f ∈ fs) :
    f.Leaves w'.store x c ↔ f.Leaves w.store x c := by
  cases source : f.source.entity? with
  | none => simp [Passage.Leaves, source]
  | some e =>
    obtain ⟨y, known⟩ := Option.isSome_iff_exists.1 (h.named f listed e source)
    refine Passage.leaves_iff_of_extends h.served.plain.named source ?_
    simpa only [Store.internEntity, known] using longer

theorem named_extends (h : Overridden p fs w) (longer : w.store.Extends w'.store) (listed : f ∈ fs)
    {e : Entity} (source : f.source.entity? = some e) : (w'.store.lookup? e.key).isSome := by
  obtain ⟨y, known⟩ := Option.isSome_iff_exists.1 (h.named f listed e source)
  rw [longer.recalls _ _ known]
  rfl

theorem isSome_of_settled (h : Overridden p fs w) (settled : x ∈ w.intake.settled) :
    (w.store.node? x).isSome := by
  obtain ⟨f, listed, c, leaves⟩ := (h.settled x).1 settled
  obtain ⟨n, there, -⟩ := leaves.node? (h.named f listed)
  rw [there]
  rfl

/-- An override that is wired stays wired. -/
theorem wired_extends (h : Overridden p fs w) (longer : w.store.Extends w'.store)
    (settled : x ∈ w.intake.settled) {n : Node} (there : w'.store.node? x = some n)
    (found : p.oracle 0 viewContextMenu n.className = some c) :
    ∃ site, w'.store.FlowsInto x (methodName c viewContextMenu) site := by
  obtain ⟨n', before⟩ := Option.isSome_iff_exists.1 (h.isSome_of_settled settled)
  obtain rfl := Option.some.inj ((longer.node? before).symm.trans there)
  obtain ⟨site, flows⟩ := h.wired x settled _ before c found
  exact ⟨site, flows.extend longer⟩

/-- Work that settles no view keeps what is known of the views that are settled. -/
theorem extend (h : Overridden p fs w) (served : Served w.store w')
    (same : w'.intake.settled = w.intake.settled) : Overridden p fs w' where
  served := h.served.trans served
  named f listed e source := h.named_extends served.extends listed source
  settled x := by
    rw [same, h.settled]
    exact exists_congr fun f => and_congr_right fun listed =>
      exists_congr fun c => (h.leaves_iff served.extends listed).symm
  wired x settled n there c found := h.wired_extends served.extends (same ▸ settled) there found

/-- A passage settles the view that it leaves, and wires the override of the view. -/
theorem flow (static : p.Static) (h : Overridden p fs w) (f : Passage) :
    ∃ w', f.work p w = .ok () w' ∧ Overridden p (fs ++ [f]) w' := by
  have plain := h.served.plain
  obtain ⟨w', done, graph, -, heard⟩ := Intake.flow_draws (p := p) plain f
  have flowed : Served w.store w' :=
    (Served.lasting.flow p f.word f.source f.target f.site).of_ok ⟨[], rfl⟩ done
  have served := h.served.trans flowed
  have longer := flowed.extends
  -- The passage names its source, if it has one.
  have named (e : Entity) (source : f.source.entity? = some e) : (w'.store.lookup? e.key).isSome := by
    rw [(Intake.flow_extends plain source done).recalls _ _ (Store.lookup?_internEntity w.store e)]
    rfl
  have leaves_iff (x : NodeId) (c : String) : f.Leaves w'.store x c ↔ f.Leaves w.store x c := by
    cases source : f.source.entity? with
    | none => simp [Passage.Leaves, source]
    | some e =>
      exact Passage.leaves_iff_of_extends plain.named source (Intake.flow_extends plain source done)
  have settled (x : NodeId) : x ∈ w'.intake.settled ↔
      x ∈ w.intake.settled ∨ ∃ c, f.Leaves w.store x c := by
    rw [heard.settled, Passage.settles_iff static]
    by_cases before : x ∈ w.intake.settled <;> simp [before]
  refine ⟨w', done, served, fun g listed e source => ?_, fun x => ?_, fun x there n node c found => ?_⟩
  · rcases List.mem_append.1 listed with old | new
    · exact h.named_extends longer old source
    · obtain rfl := List.mem_singleton.1 new
      exact named e source
  · rw [settled, h.settled]
    simp only [List.mem_append, List.mem_singleton, or_and_right, exists_or, exists_eq_left, leaves_iff]
    exact or_congr_left (exists_congr fun g => and_congr_right fun listed =>
      exists_congr fun c => (h.leaves_iff longer listed).symm)
  · by_cases before : x ∈ w.intake.settled
    · exact h.wired_extends longer before node found
    · -- The view has just been settled, so its question was asked, and the answer was a class.
      obtain ⟨c', leaves⟩ := ((settled x).1 there).resolve_left before
      obtain ⟨q, raised, rfl, -⟩ := (Passage.settles_iff static).2 ⟨before, c', leaves⟩
      have raised := Option.mem_toList.1 raised
      obtain ⟨left, -⟩ := Passage.question?_eq_some_iff.1 raised
      obtain ⟨n', node', className⟩ := ((leaves_iff _ _).2 left).node? named
      obtain rfl := Option.some.inj (node'.symm.trans node)
      have method := Passage.method?_of_question? static raised (className ▸ found)
      have wf := served.plain.wellFormed
      rw [graph] at wf ⊢
      exact ⟨_, Passage.flowsInto_draw raised method wf⟩

/-- What has nothing to do with overrides settles no view. -/
theorem keeps {a : Activity} (building : a.builds) (silent : a.passage? = none) :
    Keeps (Overridden p fs) (a.work p) := by
  intro w h
  have served := (Activity.serves p a).startedAt (w := w) ⟨[], rfl⟩
  have spared := (Activity.keeps_overrides (p := p) building silent w.intake).startedAt (w := w)
    ⟨rfl, rfl, rfl⟩
  exact (served.and spared).conseq (fun _ same => same)
    (fun _ _ ⟨served, same⟩ => h.extend served same.settled)
    (fun _ _ ⟨served, same⟩ => h.extend served same.settled) w rfl

theorem note (n : Notice) : Keeps (Overridden p fs) (note n) :=
  .modify fun _ h => h.extend ⟨[], rfl⟩ rfl

end Overridden

/-! ### Replay -/

/-- What intake does with an event of a document, unless the event is malformed. -/
def FlowEvent.activity? (ev : FlowEvent) : Option Activity :=
  match ev.kind with
  | "assign" => some (.assign ev.target ev.source ev.site)
  | "param" => some (.bindParameter ev.target ev.source ev.site)
  | "return" => some (.bindReturn ev.target ev.source ev.site)
  | "op" => ev.op.map fun op => .recognize (Facts.operationAt op ev.site)
  | "tabhost" => some (.tabHost ev.host ev.part ev.target ev.site)
  | _ => none

/-- The passage that an event of a document reports. -/
def FlowEvent.passage? (ev : FlowEvent) : Option Passage := ev.activity?.bind (·.passage?)

namespace Facts

variable {p : Program} {fs : List Passage}

/-- An event of a document is an activity of intake, or it is malformed and only noted. -/
theorem replayEvent_eq (p : Program) (ev : FlowEvent) :
    (∃ a, ev.activity? = some a ∧ a.builds ∧ replayEvent p ev = a.work p) ∨
      ev.activity? = none ∧ ∃ n, replayEvent p ev = note n := by
  unfold FlowEvent.activity?
  split
  case h_1 kind | h_2 kind | h_3 kind | h_5 kind =>
    refine .inl ⟨_, rfl, rfl, ?_⟩
    simp only [replayEvent, kind]
    rfl
  case h_4 kind =>
    simp only [replayEvent, kind]
    cases ev.op with
    | none => exact .inr ⟨rfl, _, rfl⟩
    | some op => exact .inl ⟨_, rfl, rfl, rfl⟩
  case h_6 =>
    refine .inr ⟨rfl, ?_⟩
    unfold replayEvent
    split
    case h_6 => exact ⟨_, rfl⟩
    all_goals contradiction

theorem replayEvent_overridden (static : p.Static) (ev : FlowEvent) :
    Triple (Overridden p fs) (replayEvent p ev)
      (fun _ => Overridden p (fs ++ ev.passage?.toList)) fun _ _ => True := by
  have silent {step : Work Unit} (quiet : ev.passage? = none) (keeps : Keeps (Overridden p fs) step) :
      Triple (Overridden p fs) step (fun _ => Overridden p (fs ++ ev.passage?.toList))
        fun _ _ => True := by
    rw [quiet]
    exact (keeps.mono fun _ _ h => (List.append_nil fs).symm ▸ h).relax
  obtain ⟨a, reports, builds, done⟩ | ⟨malformed, n, done⟩ := replayEvent_eq p ev
  · rw [done]
    cases passes : a.passage? with
    | none =>
      exact silent (by simp [FlowEvent.passage?, reports, passes]) (Overridden.keeps builds passes)
    | some f =>
      intro w h
      obtain ⟨w', ran, later⟩ := h.flow static f
      rw [Activity.work_of_passage? passes, ran, FlowEvent.passage?, reports, Option.bind_some, passes]
      exact later
  · rw [done]
    exact silent (by simp [FlowEvent.passage?, malformed]) (Overridden.note n)

theorem replayEvents_overridden (static : p.Static) (events : List FlowEvent) (index : Nat) :
    Triple (Overridden p fs) (replayEvents p index events)
      (fun _ => Overridden p (fs ++ events.filterMap (·.passage?))) fun _ _ => True := by
  induction events generalizing fs index with
  | nil => exact Triple.pure fun w h => (List.append_nil fs).symm ▸ h
  | cons ev rest ih =>
    refine Triple.bind (Triple.within (replayEvent_overridden static ev)) fun _ => ?_
    have more := @ih (fs ++ ev.passage?.toList) (index + 1)
    rw [List.append_assoc] at more
    cases passes : ev.passage? <;> simpa [List.filterMap_cons, passes] using more

/-- After a replay, the passages of the document have come in, and nothing else has settled a view. -/
theorem replay_overridden (static : p.Static) (f : Facts) (canceled : Bool) :
    Triple (Overridden p []) (f.replay p canceled)
      (fun _ => Overridden p (f.events.filterMap (·.passage?))) fun _ _ => True := by
  have binding (fs : List Passage) (b : BindingFact) : Keeps (Overridden p fs) (replayBinding b) :=
    keeps_replayBinding (Overridden.keeps (a := .bindViews b.window b.root) rfl rfl)
      (fun r => Overridden.keeps (a := .windowRoot b.window r) rfl rfl) Overridden.note
  have body : Triple (Overridden p []) _ _ _ :=
    Triple.bind (replayEvents_overridden static f.events 0) fun _ =>
      (Keeps.bind (.forM (l := f.bindings) fun b _ => binding _ b) fun _ =>
        Overridden.note (.factsReplayed f.events.length f.bindings.length)).relax
  have checked : Keeps (Overridden p []) (checkCanceled canceled) := .ite .throw .pure
  exact Triple.ite (fun _ => Triple.bind checked.relax fun _ => body) fun _ => body

end Facts

/-- Overrides are wired for the views of a document that its flow events leave, and for no others. If
the class oracle is a table, and the document has been replayed: the override of an allocation of a
view is settled exactly if a flow event of the document, whose ends can both be named, has the
allocation as its source; and a view that is settled flows into the override that its class has. -/
theorem overridden_of_replay (p : Program) (static : p.Static) (f : Facts) (canceled : Bool)
    (journal : List Notice) {w : Workspace}
    (replayed : f.replay p canceled { journal := journal } = .ok () w) :
    (∀ x, x ∈ w.intake.settled ↔
      ∃ ev ∈ f.events, ∃ g c, ev.passage? = some g ∧ g.Leaves w.store x c) ∧
    ∀ x ∈ w.intake.settled, ∀ n, w.store.node? x = some n →
      ∀ c, p.oracle 0 viewContextMenu n.className = some c →
        ∃ site, w.store.FlowsInto x (methodName c viewContextMenu) site := by
  have after := (Facts.replay_overridden static f canceled).of_ok (.start p journal) replayed
  refine ⟨fun x => ?_, after.wired⟩
  rw [after.settled]
  simp only [List.mem_filterMap]
  grind

/-- A new view is assigned to a variable. -/
def viewDocument : Facts where
  events :=
    [{ kind := "assign", target := .ofSlot ⟨"m", "x"⟩, source := .ofAlloc ⟨"new V", "V", .view⟩ }]

/-- A view that flows into a variable is overridden. -/
theorem overridden_of_replay_flow : Facts.viewProgram.Static ∧
    ∃ w, viewDocument.replay Facts.viewProgram false {} = .ok () w ∧ 1 ∈ w.intake.settled ∧
      ∃ site, w.store.FlowsInto 1 (methodName "V" viewContextMenu) site := by
  have static : Facts.viewProgram.Static := ⟨Facts.viewProgram.resolver.hierarchy, rfl⟩
  have ran : endsWith (viewDocument.replay Facts.viewProgram false {}) (fun _ w =>
      decide (1 ∈ w.intake.settled) && w.store.node? 1 == some ⟨1, .entity (.allocation
        ⟨"new V", "V", .view⟩)⟩) = true := by decide +kernel
  obtain ⟨⟨⟩, w, replayed, found⟩ := exists_of_endsWith ran
  obtain ⟨settled, node⟩ := Bool.and_eq_true_iff.1 found
  obtain ⟨-, wired⟩ := overridden_of_replay Facts.viewProgram static viewDocument false [] replayed
  exact ⟨static, w, replayed, of_decide_eq_true settled,
    wired 1 (of_decide_eq_true settled) _ (eq_of_beq node) "V" (by decide +kernel)⟩

/-- The view is an operand of a recognized call, and flows nowhere. -/
def operandDocument : Facts where
  events :=
    [{ kind := "assign", target := .ofSlot ⟨"m", "x"⟩
       source := .ofSlot (.this (methodName "V" viewContextMenu)) },
     { kind := "op", op := some { kind := "set-id", receiver := .ofAlloc ⟨"new V", "V", .view⟩
                                  parameter := .ofSlot ⟨"m", "x"⟩ } }]

/-- A view that no flow event leaves may stay without its override. -/
theorem not_forall_overridden : ¬ ∀ (p : Program) (f : Facts) (w : Workspace), p.Static →
    f.replay p false {} = .ok () w → ∀ x n, w.store.node? x = some n → n.object?.any (·.isView) →
      ∀ c, p.oracle 0 viewContextMenu n.className = some c →
        ∃ site, w.store.FlowsInto x (methodName c viewContextMenu) site := by
  intro claimed
  let m := methodName "V" viewContextMenu
  have ran : endsWith (operandDocument.replay Facts.viewProgram false {}) (fun _ w =>
      (w.store.node? 3 == some ⟨3, .entity (.allocation ⟨"new V", "V", .view⟩)⟩) &&
        (w.store.succs 3).all fun e => w.store.lookup? (.slot (.this m)) != some e.dst) = true := by
    decide +kernel
  obtain ⟨⟨⟩, w, replayed, found⟩ := exists_of_endsWith ran
  obtain ⟨node, apart⟩ := Bool.and_eq_true_iff.1 found
  obtain ⟨site, this, known, flows⟩ := claimed Facts.viewProgram operandDocument w
    ⟨Facts.viewProgram.resolver.hierarchy, rfl⟩ replayed 3 _ (eq_of_beq node) rfl "V"
    (by decide +kernel)
  have missed := List.all_eq_true.1 apart _ flows
  simp [m, known] at missed

end WidgetFlow
