import WidgetFlow.Proofs.Listener.Feeds
import WidgetFlow.Proofs.Solver.Exactness
import WidgetFlow.Proofs.Solver.Quiet

/-!
# The wiring of a solve is exact

While listeners are confirmed, wires are asked for one by one, and the dispatcher takes each binding
once. What waits at the end are bindings that the findings demand (`Queued`), and every binding that
they demand has been taken, now or in an earlier solve. So if what was taken earlier has been wired, a
solve adds the flows that its solution owes to handlers, and no others (`wiring_exact`).
-/

namespace WidgetFlow

open Work

namespace Solve

variable {G : Store} {memo : List Wire} {f : Findings} {w : Workspace}

/-! ### Demanded bindings -/

/-- A listener was found at a registration, and the view is one that receives it there; zero if
nothing receives it. -/
def Demands (f : Findings) (k : Wire) : Prop :=
  f.Holds .solutionListeners k.op k.listener ∧
    (f.Holds .solutionReceivers k.op k.view ∨
      k.view = 0 ∧ ∀ v, ¬ f.Holds .solutionReceivers k.op v)

/-- Other findings add demands and withdraw none, as long as no view is found. -/
theorem Demands.insert (ordered : f.Ordered) {k : Wire} (demanded : Demands f k) {m : MapName}
    (other : m ≠ .solutionReceivers) (op x : NodeId) : Demands (f.insert m op x) k := by
  unfold Demands
  simp only [ordered.holds_insert, Ne.symm other, false_and, or_false]
  exact ⟨.inl demanded.1, demanded.2⟩

/-- The bindings of a listener to the views that receive it. -/
def bindings (f : Findings) (op listener : NodeId) : List Wire :=
  match (f.solutionReceivers.find op).ids with
  | [] => [⟨op, 0, listener⟩]
  | views => views.map (⟨op, ·, listener⟩)

theorem mem_bindings {op listener : NodeId} {k : Wire} : k ∈ bindings f op listener ↔
    k.op = op ∧ k.listener = listener ∧ (f.Holds .solutionReceivers op k.view ∨
      k.view = 0 ∧ ∀ v, ¬ f.Holds .solutionReceivers op v) := by
  obtain ⟨op', view, listener'⟩ := k
  unfold Findings.Holds bindings
  show _ ↔ op' = op ∧ listener' = listener ∧ (view ∈ (f.solutionReceivers.find op).ids ∨
    view = 0 ∧ ∀ v, v ∉ (f.solutionReceivers.find op).ids)
  split
  case h_1 none =>
    rw [none]
    simp [and_comm]
  case h_2 views some =>
    simp only [List.mem_map, Wire.mk.injEq]
    constructor
    · rintro ⟨v, there, rfl, rfl, rfl⟩
      exact ⟨rfl, rfl, .inl there⟩
    · rintro ⟨rfl, rfl, there | ⟨-, nothing⟩⟩
      · exact ⟨view, there, rfl, rfl, rfl⟩
      · obtain ⟨v, there⟩ := List.exists_mem_of_ne_nil _ some
        exact absurd there (nothing v)

/-- All bindings of the listeners that were found. -/
def allBindings (f : Findings) : List Wire :=
  f.solutionListeners.rows.flatMap fun (op, listeners) => listeners.ids.flatMap (bindings f op)

/-- The bindings of the listeners that were found are the demanded ones. -/
theorem mem_allBindings (ordered : f.Ordered) {k : Wire} : k ∈ allBindings f ↔ Demands f k := by
  unfold allBindings Demands
  have found : f.Holds .solutionListeners k.op k.listener ↔
      ∃ set, (k.op, set) ∈ f.solutionListeners.rows ∧ k.listener ∈ set.ids :=
    (ordered .solutionListeners).mem_rows_iff.symm
  rw [found]
  simp only [List.mem_flatMap, mem_bindings]
  constructor
  · rintro ⟨⟨op, set⟩, row, l, there, rfl, rfl, view⟩
    exact ⟨⟨set, row, there⟩, view⟩
  · rintro ⟨⟨set, row, there⟩, view⟩
    exact ⟨(k.op, set), row, k.listener, there, rfl, rfl, view⟩

/-! ### The queue of wires -/

/-- While listeners are confirmed: the graph is `G`, no registration waits, the dispatcher has taken
what it had taken before and what waits now, and what waits is demanded and can be wired. -/
structure Queued (G : Store) (memo : List Wire) (f : Findings) (w : Workspace) : Prop where
  ordered : f.Ordered
  graph : w.store = G
  idle : w.dispatcher.pending = []
  taken : ∀ k, k ∈ w.dispatcher.memo ↔ k ∈ memo ∨ k ∈ w.dispatcher.wires
  waiting : ∀ k ∈ w.dispatcher.wires, Dispatch.isWirable G k = true ∧ Demands f k

theorem Queued.ignoresJournal : IgnoresJournal (Queued G memo f) :=
  fun _ _ queued => ⟨queued.ordered, queued.graph, queued.idle, queued.taken, queued.waiting⟩

theorem Queued.insert (queued : Queued G memo f w) {m : MapName} (other : m ≠ .solutionReceivers)
    (op x : NodeId) : Queued G memo (f.insert m op x) w where
  ordered := queued.ordered.insert m op x
  graph := queued.graph
  idle := queued.idle
  taken := queued.taken
  waiting k there :=
    ⟨(queued.waiting k there).1, (queued.waiting k there).2.insert queued.ordered other op x⟩

/-- A binding is taken if it can be wired and has not been taken before. -/
theorem requestWire_eq_ok (k : Wire) (w : Workspace) : ∃ added w',
    Dispatch.requestWire k w = .ok added w' ∧ w'.store = w.store ∧
      w'.dispatcher.pending = w.dispatcher.pending ∧
      if Dispatch.isWirable w.store k = true ∧ k ∉ w.dispatcher.memo then
        w'.dispatcher.memo = k :: w.dispatcher.memo ∧ w'.dispatcher.wires = w.dispatcher.wires ++ [k]
      else w'.dispatcher.memo = w.dispatcher.memo ∧ w'.dispatcher.wires = w.dispatcher.wires := by
  have read : (get : Work Workspace) w = .ok w w := rfl
  have start : Dispatch.requestWire k w = _ := bind_of_ok read
  rw [start]
  by_cases wirable : Dispatch.isWirable w.store k = true
  · by_cases known : k ∈ w.dispatcher.memo
    · simp only [wirable, known, Bool.not_true, Bool.false_eq_true, if_false, if_true, not_true,
        and_false]
      exact ⟨false, _, rfl, rfl, rfl, rfl, rfl⟩
    · simp only [wirable, known, Bool.not_true, Bool.false_eq_true, if_false, not_false_iff,
        and_self, if_true]
      exact ⟨true, _, rfl, rfl, rfl, rfl, rfl⟩
  · simp only [wirable, Bool.not_false, if_true, Bool.false_eq_true, false_and, if_false]
    exact ⟨false, _, rfl, rfl, rfl, rfl, rfl⟩

/-- The bindings that were asked for, as far as they can be wired, have been taken. -/
def Asked (G : Store) (memo : List Wire) (f : Findings) (asked : List Wire) (w : Workspace) : Prop :=
  Queued G memo f w ∧ ∀ k ∈ asked, Dispatch.isWirable G k = true → k ∈ w.dispatcher.memo

/-- Asking for a demanded binding. -/
theorem asked_requestWire {k : Wire} (demanded : Demands f k) :
    Accrues (Asked G memo f) (fun _ _ => False) (do let _ ← Dispatch.requestWire k) [k] := by
  rintro asked w ⟨queued, done⟩
  obtain ⟨added, w', ran, graph, pending, change⟩ := requestWire_eq_ok k w
  have whole : (do let _ ← Dispatch.requestWire k : Work Unit) w = .ok () w' := bind_of_ok ran
  rw [whole]
  rw [queued.graph] at change graph
  split at change
  case isTrue new =>
    obtain ⟨memo', wires'⟩ := change
    refine ⟨⟨queued.ordered, graph, pending.trans queued.idle, fun j => ?_, fun j there => ?_⟩, ?_⟩
    · rw [memo', wires', List.mem_cons, queued.taken, List.mem_append, List.mem_singleton]
      grind
    · rw [wires', List.mem_append, List.mem_singleton] at there
      rcases there with old | rfl
      · exact queued.waiting j old
      · exact ⟨new.1, demanded⟩
    · intro j there wirable
      rw [memo']
      rcases List.mem_append.1 there with old | here
      · exact List.mem_cons_of_mem _ (done j old wirable)
      · exact List.mem_cons.2 (.inl (List.mem_singleton.1 here))
  case isFalse old =>
    obtain ⟨memo', wires'⟩ := change
    refine ⟨⟨queued.ordered, graph, pending.trans queued.idle, ?_, ?_⟩, ?_⟩
    · rw [memo', wires']
      exact queued.taken
    · rw [wires']
      exact queued.waiting
    · intro j there wirable
      rw [memo']
      rcases List.mem_append.1 there with earlier | here
      · exact done j earlier wirable
      · obtain rfl := List.mem_singleton.1 here
        exact Decidable.not_not.1 fun new => old ⟨wirable, new⟩

/-- Asking for all bindings of a listener that was found. -/
theorem asked_requestWires {op l : NodeId} (found : f.Holds .solutionListeners op l) :
    Accrues (Asked G memo f) (fun _ _ => False) (requestWires f op l) (bindings f op l) := by
  have demanded (k : Wire) (there : k ∈ bindings f op l) : Demands f k := by
    obtain ⟨rfl, rfl, view⟩ := mem_bindings.1 there
    exact ⟨found, view⟩
  unfold bindings at demanded ⊢
  unfold requestWires
  cases views : (f.solutionReceivers.find op).ids with
  | nil =>
    simp only [views] at demanded ⊢
    exact asked_requestWire (demanded _ (by simp))
  | cons v rest =>
    simp only [views] at demanded ⊢
    rw [List.map_eq_flatMap]
    exact .forM fun v there => asked_requestWire (demanded _ (List.mem_map_of_mem there))

/-! ### Confirming listeners -/

variable {fail : Fault → Workspace → Prop}

theorem queued_confirmListener (op l : NodeId) :
    Triple (Queued G memo f) (confirmListener f op l) (Queued G memo) fail := by
  refine Triple.bind (M := fun _ => Queued G memo (f.insert .solutionListeners op l)) ?_
    fun _ => Triple.pure fun _ queued => queued
  intro w queued
  have inserted := queued.insert (m := .solutionListeners) (by decide) op l
  have found : (f.insert .solutionListeners op l).Holds .solutionListeners op l :=
    queued.ordered.holds_insert.2 (.inr ⟨rfl, rfl, rfl⟩)
  have asks : Accrues (Asked G memo (f.insert .solutionListeners op l)) (fun _ _ => False) _ _ :=
    asked_requestWires found
  obtain ⟨_, w', ran, asked⟩ := (asks []).exists_ok ⟨inserted, by simp⟩
  rw [ran]
  exact asked.1

/-- What is found beside listeners and views does not matter for the queue. -/
theorem queued_pure_insert {m : MapName} (other : m ≠ .solutionReceivers) (op x : NodeId) :
    Triple (Queued G memo f) (pure (f.insert m op x)) (Queued G memo) fail :=
  Triple.pure fun _ queued => queued.insert other op x

theorem queued_windowReaches (rules : Rules) (r : Resolver) (n : Node) (closure : NodeSet)
    (op : OpNode) :
    Triple (Queued G memo f) (windowReaches rules r n closure f op) (Queued G memo)
      fun _ _ => True := by
  have noted (notice : Notice) :
      Triple (Queued G memo f) (do note notice; return f) (Queued G memo) fun _ _ => True :=
    Triple.bind (Queued.ignoresJournal.note _).relax fun _ => Triple.pure fun _ h => h
  refine Triple.bind Keeps.store.relax fun _ => Triple.ite (fun _ => ?_) fun _ => ?_
  · refine Triple.bind (Keeps.operandOf _ _).relax fun _ => ?_
    exact Triple.ite (fun _ => queued_pure_insert (by decide) _ _) fun _ => noted _
  · refine Triple.ite (fun _ => ?_) fun _ => noted _
    have reaching : ∀ w, Queued G memo f w →
        Queued G memo (f.insert .reachingListeners op.id n.id) w :=
      fun _ queued => queued.insert (by decide) _ _
    refine Triple.ite (fun _ => ?_) fun _ => Triple.pure reaching
    exact (queued_confirmListener op.id n.id).conseq reaching (fun _ _ h => h) fun _ _ h => h

theorem queued_listenerReaches (r : Resolver) (n : Node) (closure : NodeSet) (op : OpNode) :
    Triple (Queued G memo f) (listenerReaches r n closure f op) (Queued G memo)
      fun _ _ => True := by
  refine Triple.ite (fun _ => Triple.pure fun _ h => h) fun _ => ?_
  refine Triple.bind (Keeps.operandOf _ _).relax fun _ => ?_
  refine Triple.ite (fun _ => Triple.pure fun _ h => h) fun _ => ?_
  have reaching : ∀ w, Queued G memo f w →
      Queued G memo (f.insert .reachingListeners op.id n.id) w :=
    fun _ queued => queued.insert (by decide) _ _
  refine Triple.ite (fun _ => ?_) fun _ => Triple.pure reaching
  exact (queued_confirmListener op.id n.id).conseq reaching (fun _ _ h => h) fun _ _ h => h

/-- A pass that keeps the queue at every operation keeps it. -/
theorem queued_visitClosures {reach : Node → NodeSet → Findings → OpNode → Work Findings}
    (each : ∀ n closure f op,
      Triple (Queued G memo f) (reach n closure f op) (Queued G memo) fun _ _ => True)
    (nodes : List Node) (st : SolveState) :
    Triple (Queued G memo st.findings)
      (visitClosures (fun n closure f => do
        (operationsIn (← store) closure).foldlM (reach n closure) f) nodes st)
      (fun st' => Queued G memo st'.findings) fun _ _ => True := by
  induction nodes generalizing st with
  | nil => exact Triple.pure fun _ h => h
  | cons n nodes ih =>
    refine Triple.bind (Queued.ignoresJournal.reachableCached _ _).relax fun _ => ?_
    refine Triple.bind ?_ fun f => ih ⟨f, _⟩
    refine Triple.bind Keeps.store.relax fun _ => ?_
    exact Triple.foldlM (I := Queued G memo) (fun f op _ => each n _ f op) _

theorem queued_windowPass (rules : Rules) (r : Resolver) (st : SolveState) :
    Triple (Queued G memo st.findings) (windowPass rules r st)
      (fun st' => Queued G memo st'.findings) fun _ _ => True := by
  refine Triple.bind Keeps.store.relax fun s => ?_
  refine Triple.bind (Queued.ignoresJournal.precompute _ _).relax fun cache => ?_
  exact queued_visitClosures (fun n closure f op => queued_windowReaches rules r n closure op)
    s.windows ⟨st.findings, cache⟩

theorem queued_listenerPass (r : Resolver) (st : SolveState) :
    Triple (Queued G memo st.findings) (listenerPass r st)
      (fun st' => Queued G memo st'.findings) fun _ _ => True := by
  refine Triple.bind Keeps.store.relax fun s => ?_
  refine Triple.bind (Queued.ignoresJournal.precompute _ _).relax fun cache => ?_
  refine Triple.bind (Queued.ignoresJournal.note _).relax fun _ => ?_
  exact queued_visitClosures (fun n closure f op => queued_listenerReaches r n closure op)
    (s.objects.filter fun n => r.isListenerType n.className) ⟨st.findings, cache⟩

/-! ### Wiring what waits -/

/-- The bindings `ks` have been wired on the graph `G`. They are demanded, and what else is demanded
and can be wired had been taken before. -/
structure Wired (r : Resolver) (G : Store) (memo : List Wire) (f : Findings) (ks : List Wire)
    (t : Store) : Prop where
  fed : G.Fed (ks.flatMap (r.wireFeeds G)) t
  demanded : ∀ k ∈ ks, Dispatch.isWirable G k = true ∧ Demands f k
  complete : ∀ k, Demands f k → Dispatch.isWirable G k = true → k ∈ memo ∨ k ∈ ks

/-- The demanded bindings can be wired: their operations register known interfaces, and their
listeners and views are plain nodes. -/
def WiresReady (r : Resolver) (G : Store) (f : Findings) : Prop :=
  ∀ k, Demands f k → Dispatch.isWirable G k = true →
    (r.registrationAt? G k.op).isSome ∧ G.Joinable k.listener k.view

/-- A flush wires what has been asked for. -/
theorem wired_flush (wf : G.WellFormed) (named : G.Named) (r : Resolver)
    (known : ∀ k, Demands f k → ∃ n, G.node? k.listener = some n) :
    Triple (Asked G memo f (allBindings f)) (Dispatch.flush r false)
      (fun _ w => ∃ ks, Wired r G memo f ks w.store) fun _ _ => ¬ WiresReady r G f := by
  rintro w ⟨queued, asked⟩
  refine flush_of_work (P := fun t => ∃ ks, Wired r G memo f ks t) ?_ w rfl
  have loop : Feeding G (WiresReady r G f) (w.dispatcher.wires.forM (Dispatch.wire r))
      (w.dispatcher.wires.flatMap (r.wireFeeds G)) := by
    refine Accrues.forM fun k waits => ?_
    obtain ⟨wirable, demanded⟩ := queued.waiting k waits
    obtain ⟨n, there⟩ := known k demanded
    exact (Feeding.wire wf r there).mono fun ready => ready k demanded wirable
  rw [queued.idle]
  refine (loop []).conseq (fun v graph => ?_) (fun _ v fed => ?_) fun _ _ failed => failed
  · show G.Fed [] v.store
    rw [graph, queued.graph]
    exact .refl wf named
  · refine ⟨w.dispatcher.wires, fed, queued.waiting, fun k demanded wirable => ?_⟩
    exact (queued.taken k).1 (asked k ((mem_allBindings queued.ordered).2 demanded) wirable)

/-- The last pass asks for all demanded bindings. -/
theorem asked_all (f : Findings) :
    Triple (Queued G memo f)
      (f.solutionListeners.rows.forM fun (op, listeners) => listeners.ids.forM (requestWires f op))
      (fun _ => Asked G memo f (allBindings f)) fun _ _ => False := by
  intro w queued
  have found {op : NodeId} {set : NodeSet} (row : (op, set) ∈ f.solutionListeners.rows)
      {l : NodeId} (there : l ∈ set.ids) : f.Holds .solutionListeners op l :=
    (queued.ordered .solutionListeners).mem_rows_iff.1 ⟨set, row, there⟩
  have asks : Accrues (Asked G memo f) (fun _ _ => False)
      (f.solutionListeners.rows.forM fun (op, listeners) => listeners.ids.forM (requestWires f op))
      (allBindings f) :=
    .forM fun (op, set) row => .forM fun l there => asked_requestWires (found row there)
  exact asks [] w ⟨queued, by simp⟩

/-- Then it wires what waits. It fails only if a demanded binding cannot be wired. -/
theorem wired_finalize (wf : G.WellFormed) (named : G.Named) (r : Resolver)
    (known : ∀ k, Demands f k → ∃ n, G.node? k.listener = some n) :
    Triple (Queued G memo f) (finalize r f) (fun _ w => ∃ ks, Wired r G memo f ks w.store)
      fun _ _ => ¬ WiresReady r G f := by
  refine Triple.bind ((asked_all f).conseq (fun _ h => h) (fun _ _ h => h) fun _ _ => False.elim)
    fun _ => ?_
  refine Triple.bind (wired_flush wf named r known) fun _ => ?_
  refine Triple.bind Triple.get fun v => ?_
  rintro _ ⟨-, wired⟩
  exact wired

/-! ### The whole solve -/

/-- What a step finds by looking, beside what it does to the queue. -/
theorem looking {α : Type} {fails : Fault → Prop} {step : Work α} {found : α → Prop}
    (looks : Looks G fails step found) {pre : Workspace → Prop} {post : α → Workspace → Prop}
    (graph : ∀ w, pre w → w.store = G) (triple : Triple pre step post fail) :
    Triple pre step (fun a w => found a ∧ post a w) fun _ _ => True := by
  have both : Triple pre step (fun a w => (w.store = G ∧ found a) ∧ post a w)
      fun e w => (w.store = G ∧ fails e) ∧ fail e w :=
    Triple.and (fun w start => looks w (graph w start)) triple
  exact (both.mono fun _ _ holds => ⟨holds.1.2, holds.2⟩).relax

section Run

variable {s : Store} {d : Dispatcher} {rules : Rules} {r : Resolver} {known : Pairs}

theorem wiring_prewire (wf : s.WellFormed) :
    Triple (fun w => w.store = s ∧ w.dispatcher = d) prewire
      (fun _ w => w.store = s.prewired ∧ w.dispatcher = d) fun _ _ => True := by
  have dispatcher : Keeps (fun w => w.dispatcher = d) prewire := by
    have quiet : IgnoresJournal fun w => w.dispatcher = d := fun _ _ same => same
    have join (t : NodeId × NodeId × NodeId) : Keeps (fun w => w.dispatcher = d) (addFlow t) :=
      .within (Triple.onStore (fun _ _ _ same _ => same) fun _ _ same _ => same)
    exact .bind .store fun _ => .bind (.mapM join) fun _ => quiet.note _
  rintro w ⟨rfl, same⟩
  obtain ⟨w', ran, graph⟩ := prewire_eq_ok wf
  have kept := dispatcher.of_ok same ran
  rw [ran]
  exact ⟨graph, kept⟩

/-- The first pass that looks leaves the dispatcher as it is, so nothing waits. -/
theorem wiring_producerPass (wf : G.WellFormed) (idle : d.pending = [] ∧ d.wires = []) :
    Triple (fun w => w.store = G ∧ w.dispatcher = d) (producerPass rules {})
      (fun st w => Knows G (fun m k i =>
          False ∨ visitPairs G (producers G) (producerPairs G rules.table) m k i) st ∧
        Queued G d.memo st.findings w) fun _ _ => True := by
  have quiet : IgnoresJournal fun w => w.store = G ∧ w.dispatcher = d := fun _ _ same => same
  refine (looking (looks_producerPass wf knows_nothing) (fun _ start => start.1)
    (quiet.producerPass rules {})).mono ?_
  rintro st w ⟨knows, graph, rfl⟩
  refine ⟨knows, knows.ordered, graph, idle.1, fun k => ?_, fun k waits => ?_⟩
  · simp [idle.2]
  · simp [idle.2] at waits

theorem wiring_windowPass (wf : G.WellFormed) {st : SolveState} (knows : Knows G known st) :
    Triple (Queued G memo st.findings) (windowPass rules r st)
      (fun st' w => Knows G (fun m k i =>
          known m k i ∨ visitPairs G G.windows (windowPairs G rules.table r) m k i) st' ∧
        Queued G memo st'.findings w) fun _ _ => True :=
  looking (looks_windowPass wf knows) (fun _ queued => queued.graph) (queued_windowPass rules r st)

theorem wiring_listenerPass (wf : G.WellFormed) {st : SolveState} (knows : Knows G known st) :
    Triple (Queued G memo st.findings) (listenerPass r st)
      (fun st' w => Knows G (fun m k i => known m k i ∨
          visitPairs G (G.objects.filter fun n => r.isListenerType n.className)
            (objectPairs G r) m k i) st' ∧
        Queued G memo st'.findings w) fun _ _ => True :=
  looking (looks_listenerPass wf knows) (fun _ queued => queued.graph) (queued_listenerPass r st)

/-- Exploring asks for what it finds, and wires nothing yet. -/
theorem wiring_explore (wf : G.WellFormed) (idle : d.pending = [] ∧ d.wires = []) :
    Triple (fun w => w.store = G ∧ w.dispatcher = d) (explore rules r)
      (fun st w => Knows G (foundPairs G rules.table r) st ∧ Queued G d.memo st.findings w)
      fun _ _ => True := by
  have queue (known : Pairs) (st : SolveState) : IgnoresJournal fun w =>
      Knows G known st ∧ Queued G d.memo st.findings w :=
    fun w journal holds => ⟨holds.1, Queued.ignoresJournal w journal holds.2⟩
  refine Triple.bind (.pass (fun _ _ h => h) (queue _) (wiring_producerPass wf idle)) fun st₂ => ?_
  refine Triple.assuming fun knows₂ => ?_
  refine Triple.bind (.pass Queued.ignoresJournal (queue _) (wiring_windowPass wf knows₂))
    fun st₃ => Triple.assuming fun knows₃ => ?_
  refine (Triple.pass Queued.ignoresJournal (queue _) (wiring_listenerPass wf knows₃)).mono ?_
  rintro st w ⟨knows, queued⟩
  refine ⟨⟨knows.cache, knows.ordered, fun m k i => ?_⟩, queued⟩
  rw [knows.holds]
  simp [foundPairs, or_assoc]

/-- A listener that was found is a node. -/
theorem exists_listener (wf : G.WellFormed) {t : Classification}
    (found : ∀ m op x, f.Holds m op x ↔ foundPairs G t r m op x) (k : Wire)
    (demanded : Demands f k) : ∃ n, G.node? k.listener = some n := by
  obtain ⟨_, _, _, ⟨n, known, _⟩ | ⟨n, ⟨known, _⟩, _⟩⟩ :=
    (found_solutionListeners wf).1 ((found _ _ _).1 demanded.1)
  · exact ⟨n, known⟩
  · exact ⟨n, known⟩

/-- A solve that starts with empty queues wires what its findings demand. -/
theorem wired_run (wf : s.WellFormed) (named : s.prewired.Named)
    (idle : d.pending = [] ∧ d.wires = []) (canceled : Bool) :
    Triple (fun w => w.store = s ∧ w.dispatcher = d) (run rules r canceled)
      (fun sol w => ∃ f ks, sol = f.freeze ∧ Wired r s.prewired d.memo f ks w.store)
      fun _ _ => True := by
  have wf' := wf.prewired
  rw [run_eq]
  refine Triple.bind (M := fun _ w => w.store = s ∧ w.dispatcher = d)
    (Triple.ite (fun _ _ _ => trivial) fun _ => Triple.pure fun _ h => h) fun _ => ?_
  refine Triple.bind (.pass (fun _ _ h => h) (fun _ _ _ h => h) (wiring_prewire wf)) fun _ => ?_
  refine Triple.bind (wiring_explore wf' idle) fun st => Triple.assuming fun knows => ?_
  refine Triple.bind (.pass Queued.ignoresJournal (fun _ _ _ h => h)
    (wired_finalize wf' named r (exists_listener wf' knows.holds))) fun _ => ?_
  refine (report_ends (fun _ _ h => h) st).relax.mono ?_
  rintro _ w ⟨rfl, ks, wired⟩
  exact ⟨st.findings, ks, rfl, wired⟩

end Run

/-! ### What a solution owes to handlers -/

/-- The node allocates a context menu. -/
def ContextMenuAt (s : Store) (v : NodeId) : Prop :=
  ∃ n, s.node? v = some n ∧ n.object? = some .contextMenu

/-- The solution binds the listener `l` to the view `v` at the operation `op`, which registers an
ordinary listener: the view receives the listener there and is no context menu, or it is zero because
nothing receives the listener. -/
structure Binds (s : Store) (sol : Solution) (op : NodeId) (o : Operation) (l v : NodeId) : Prop where
  registers : s.operationAt op = some o
  listens : o.kind.isListener = true
  ordinary : o.contextMenu = false
  listener : l ∈ sol.solutionListeners.ids op
  view : (v ∈ sol.solutionReceivers.ids op ∧ ¬ ContextMenuAt s v) ∨
    (v = 0 ∧ sol.solutionReceivers.ids op = #[])

/-- The handler belongs to the interface that an operation registers, and virtual dispatch on the
class of the listener finds the method `m` for it. -/
def Handles (r : Resolver) (s : Store) (o : Operation) (l : NodeId) (h : Handler) (m : String) :
    Prop :=
  ∃ reg n c, r.table.byInterface? o.listener = some reg ∧ h ∈ reg.handlers ∧
    s.node? l = some n ∧ r.hierarchy.dispatch? h.method n.className = some c ∧
    m = methodName c h.method

/-- The flows that a solution owes to handlers: a listener into the receiver of its handlers, and its
view into the view parameter of those that have one. -/
inductive Owes (r : Resolver) (s : Store) (sol : Solution) : Feed → Prop where
  | receiver {op : NodeId} {o : Operation} {l v : NodeId} {h : Handler} {m : String}
      (binds : Binds s sol op o l v) (handles : Handles r s o l h m) :
      Owes r s sol ⟨l, .this m, o.site⟩
  | view {op : NodeId} {o : Operation} {l v : NodeId} {h : Handler} {m : String} {i : Int}
      (binds : Binds s sol op o l v) (handles : Handles r s o l h m)
      (position : h.viewParam? = some i) (given : v ≠ 0) : Owes r s sol ⟨v, .param m i, o.site⟩

section Owed

variable {s : Store} {r : Resolver}

theorem isWirable_iff {k : Wire} : Dispatch.isWirable s k = true ↔
    (∃ o, s.operationAt k.op = some o ∧ o.kind.isListener = true ∧ o.contextMenu = false) ∧
      ¬ ContextMenuAt s k.view := by
  have menu : ContextMenuAt s k.view ↔ (s.node? k.view).any (·.hasObject .contextMenu) = true := by
    simp [ContextMenuAt, Node.hasObject, Option.any_eq_true]
  rw [menu, Dispatch.isWirable, Bool.and_eq_true, Bool.not_eq_true', Bool.not_eq_true]
  refine and_congr_left fun _ => ?_
  simp [Store.operationAt, Option.any_eq_true]

/-- There is no node zero. -/
theorem not_contextMenuAt_zero : ¬ ContextMenuAt s 0 := by
  rintro ⟨n, there, -⟩
  have pos : (0 : NodeId) < 0 := Store.pos_of_isSome (by rw [there]; rfl)
  exact absurd pos (by decide)

theorem ids_freeze_eq_empty {m : MapName} {op : NodeId} :
    (f.freeze.get m).ids op = #[] ↔ ∀ x, ¬ f.Holds m op x := by
  rw [Array.eq_empty_iff_forall_not_mem]
  simp only [Findings.mem_ids_freeze]

/-- A solution binds what its findings demand and what can be wired. -/
theorem binds_iff {op l v : NodeId} {o : Operation} (isOp : s.operationAt op = some o) :
    Binds s f.freeze op o l v ↔ Demands f ⟨op, v, l⟩ ∧ Dispatch.isWirable s ⟨op, v, l⟩ = true := by
  rw [isWirable_iff]
  constructor
  · intro binds
    refine ⟨⟨Findings.mem_ids_freeze.1 binds.listener, ?_⟩,
      ⟨o, isOp, binds.listens, binds.ordinary⟩, ?_⟩
    · exact binds.view.imp (fun seen => Findings.mem_ids_freeze.1 seen.1)
        fun none => ⟨none.1, ids_freeze_eq_empty.1 none.2⟩
    · rcases binds.view with ⟨-, ordinary⟩ | ⟨rfl, -⟩
      · exact ordinary
      · exact not_contextMenuAt_zero
  · rintro ⟨⟨listener, view⟩, ⟨o', isOp', listens, ordinary⟩, noMenu⟩
    obtain rfl := Option.some.inj (isOp.symm.trans isOp')
    refine ⟨isOp, listens, ordinary, Findings.mem_ids_freeze.2 listener, ?_⟩
    exact view.imp (fun seen => ⟨Findings.mem_ids_freeze.2 seen, noMenu⟩)
      fun none => ⟨none.1, (ids_freeze_eq_empty (m := .solutionReceivers)).2 none.2⟩

/-- What a solution owes is owed to the bindings that its findings demand. -/
theorem owes_iff {x : Feed} :
    Owes r s f.freeze x ↔
      ∃ k, Demands f k ∧ Dispatch.isWirable s k = true ∧ x ∈ r.wireFeeds s k := by
  simp only [Resolver.mem_wireFeeds, Target.mem_feeds]
  constructor
  · rintro (@⟨op, o, l, v, h, m, binds, reg, n, c, found, listed, there, resolved, rfl⟩ |
      @⟨op, o, l, v, h, m, i, binds, ⟨reg, n, c, found, listed, there, resolved, rfl⟩, position,
        given⟩)
    · obtain ⟨demanded, wirable⟩ := (binds_iff binds.registers).1 binds
      have pos : 0 < l := Store.pos_of_isSome (s := s) (by rw [there]; rfl)
      refine ⟨_, demanded, wirable, o, reg, n, h, c, binds.registers, found, there, listed, resolved,
        ?_⟩
      exact .inl ⟨Int.ne_of_gt pos, rfl⟩
    · obtain ⟨demanded, wirable⟩ := (binds_iff binds.registers).1 binds
      refine ⟨_, demanded, wirable, o, reg, n, h, c, binds.registers, found, there, listed, resolved,
        ?_⟩
      exact .inr ⟨i, position, given, rfl⟩
  · rintro ⟨k, demanded, wirable, o, reg, n, h, c, isOp, found, there, listed, resolved, flow⟩
    have binds : Binds s f.freeze k.op o k.listener k.view := (binds_iff isOp).2 ⟨demanded, wirable⟩
    have handles : Handles r s o k.listener h (methodName c h.method) :=
      ⟨reg, n, c, found, listed, there, resolved, rfl⟩
    rcases flow with ⟨-, rfl⟩ | ⟨i, position, given, rfl⟩
    · exact .receiver binds handles
    · exact .view binds handles position given

/-! ### Exactness -/

theorem node?_prewired (wf : s.WellFormed) (id : NodeId) : s.prewired.node? id = s.node? id := by
  rw [Store.node?_eq, Store.node?_eq, wf.edges_prewired.1]

/-- What is owed to bindings is a matter of nodes, and prewiring makes none. -/
theorem owed_prewired (wf : s.WellFormed) (k : Wire) :
    Dispatch.isWirable s.prewired k = Dispatch.isWirable s k ∧
      r.wireFeeds s.prewired k = r.wireFeeds s k := by
  simp only [Dispatch.isWirable, Resolver.wireFeeds, Resolver.registrationAt?, Store.operationAt,
    node?_prewired wf, and_self]

/-- After a solve that wired `ks`, what its solution owes has been wired, now or before. -/
theorem Wired.owes_iff (wf : s.WellFormed) {ks : List Wire} {t : Store}
    (wired : Wired r s.prewired memo f ks t) {x : Feed} : Owes r s f.freeze x ↔
      x ∈ ks.flatMap (r.wireFeeds s.prewired) ∨ ∃ k ∈ memo, Demands f k ∧
        Dispatch.isWirable s k = true ∧ x ∈ r.wireFeeds s k := by
  rw [Solve.owes_iff, List.mem_flatMap]
  constructor
  · rintro ⟨k, demanded, wirable, owed⟩
    obtain ⟨sameWirable, sameOwed⟩ := owed_prewired (r := r) wf k
    rcases wired.complete k demanded (sameWirable ▸ wirable) with before | now
    · exact .inr ⟨k, before, demanded, wirable, owed⟩
    · exact .inl ⟨k, now, sameOwed ▸ owed⟩
  · rintro (⟨k, now, owed⟩ | ⟨k, -, owed⟩)
    · obtain ⟨sameWirable, sameOwed⟩ := owed_prewired (r := r) wf k
      obtain ⟨wirable, demanded⟩ := wired.demanded k now
      exact ⟨k, demanded, sameWirable ▸ wirable, sameOwed ▸ owed⟩
    · exact ⟨k, owed⟩

end Owed

/-- The binding has been wired: every flow that it is owed has its edge. -/
def HasWired (r : Resolver) (s : Store) (k : Wire) : Prop :=
  ∀ x ∈ r.wireFeeds s k, ∃ e ∈ s.edges, s.Carries e x

instance (r : Resolver) (s : Store) (k : Wire) : Decidable (HasWired r s k) :=
  inferInstanceAs (Decidable (∀ x ∈ r.wireFeeds s k, ∃ e ∈ s.edges, s.Carries e x))

/-- The wiring of a solve is exact. If nothing waits and all that was ever taken has been wired, the
edges after a solve are the edges there were, those from the root views of bound windows to their
roots, and those of the flows that the solution owes to handlers; every such flow has its edge, and
the nodes that are new are slots of these handlers. -/
theorem wiring_exact {qs : List StoreRequest} {w w' : Workspace} {rules : Rules} {r : Resolver}
    {canceled : Bool} {sol : Solution} (built : w.store = Store.empty.run qs)
    (idle : w.dispatcher.pending = [] ∧ w.dispatcher.wires = [])
    (settled : ∀ k ∈ w.dispatcher.memo, HasWired r w.store k)
    (solved : run rules r canceled w = .ok sol w') :
    (∀ e, e ∈ w'.store.edges ↔ e ∈ w.store.edges ∨
      (∃ b ∈ w.store.windowBindings, ∃ p ∈ b.producers, e = ⟨p, b.root, {}⟩) ∨
      ∃ x, Owes r w.store sol x ∧ w'.store.Carries e x) ∧
    (∀ x, Owes r w.store sol x → ∃ e ∈ w'.store.edges, w'.store.Carries e x) ∧
    w.store.nodes <+: w'.store.nodes ∧
    ∀ n ∈ w'.store.nodes, n ∈ w.store.nodes ∨
      ∃ x, Owes r w.store sol x ∧ n.body = .entity (.slot x.slot) := by
  have wf : w.store.WellFormed := built ▸ Store.wellFormed_run qs
  have named : w.store.Named := built ▸ Store.named_run qs
  obtain ⟨nodes, edges⟩ := wf.edges_prewired
  have named' : w.store.prewired.Named :=
    Store.run_induction named (fun _ _ ok step => step.keepsNames ok) _
  have recalls : w.store.Recalls w.store.prewired := Store.run_recalls _ _
  obtain ⟨f, ks, rfl, wired⟩ := (wired_run wf named' idle canceled).of_ok ⟨rfl, rfl⟩ solved
  have fed := wired.fed
  have owes {x : Feed} := wired.owes_iff wf (x := x)
  -- A flow that was wired in an earlier solve has the edge that carries it still.
  have earlier {x : Feed} (before : ∃ k ∈ w.dispatcher.memo, Demands f k ∧
      Dispatch.isWirable w.store k = true ∧ x ∈ r.wireFeeds w.store k) :
      ∃ e ∈ w.store.edges, ∀ e', w'.store.Carries e' x ↔ e' = e := by
    obtain ⟨k, taken, -, -, owed⟩ := before
    obtain ⟨e, there, carries⟩ := settled k taken x owed
    exact ⟨e, there, fun e' => (recalls.trans fed.recalls).carries_iff_eq named fed.named carries⟩
  have exact (e : Edge) : e ∈ w'.store.edges ↔ e ∈ w.store.edges ∨
      (∃ b ∈ w.store.windowBindings, ∃ p ∈ b.producers, e = ⟨p, b.root, {}⟩) ∨
      ∃ x, Owes r w.store f.freeze x ∧ w'.store.Carries e x := by
    rw [fed.edges, edges, or_assoc]
    constructor
    · rintro (old | root | ⟨x, new, carries⟩)
      · exact .inl old
      · exact .inr (.inl root)
      · exact .inr (.inr ⟨x, owes.2 (.inl new), carries⟩)
    · rintro (old | root | ⟨x, owed, carries⟩)
      · exact .inl old
      · exact .inr (.inl root)
      · rcases owes.1 owed with new | before
        · exact .inr (.inr ⟨x, new, carries⟩)
        · obtain ⟨e', there, only⟩ := earlier before
          exact .inl ((only e).1 carries ▸ there)
  refine ⟨exact, fun x owed => ?_, nodes ▸ fed.grows.nodes, fun n there => ?_⟩
  · rcases owes.1 owed with new | before
    · exact fed.exists_edge new
    · obtain ⟨e, there, only⟩ := earlier before
      exact ⟨e, (exact e).2 (.inl there), (only e).2 rfl⟩
  · rcases fed.nodes n there with old | ⟨x, new, body⟩
    · exact .inl (nodes ▸ old)
    · exact .inr ⟨x, owes.2 (.inl new), body⟩

/-- Two views and two listeners meet at a registration. The first listener has been wired to the
first view; the others came later. -/
def laterRequests : List StoreRequest :=
  [.internAlloc ⟨"new V", "V", .view⟩,
   .internLocal ⟨"m", "view"⟩,
   .internAlloc ⟨"new C", "C", .listener⟩,
   .internLocal ⟨"m", "listener"⟩,
   .addEdge 1 2 {},
   .addEdge 3 4 {},
   .createOperation
    { kind := "set-listener", operands := ⟨2, 4, 0⟩, site := ⟨"m", 1⟩, listener := "I" },
   .internLocal (.this "<C: h>"),
   .addEdge 3 6 ⟨"m", 1⟩,
   .internLocal (.param "<C: h>" 0),
   .addEdge 1 7 ⟨"m", 1⟩,
   .internAlloc ⟨"new C again", "C", .listener⟩,
   .addEdge 8 4 {},
   .internAlloc ⟨"new W", "W", .view⟩,
   .addEdge 9 2 {}]

def laterResolver : Resolver where
  hierarchy := { classes := [{ name := "I", isInterface := true, methods := ["h"] },
    { name := "C", interfaces := ["I"], methods := ["h"] }] }
  table := { registrations :=
    [{ method := "s", interface := "I", handlers := [{ method := "h", view := some 0 }] }] }

def laterWorkspace : Workspace where
  store := Store.empty.run laterRequests
  dispatcher := { memo := [⟨5, 1, 3⟩] }

theorem later_solved : ∃ sol w', run {} laterResolver false laterWorkspace = .ok sol w' ∧
    sol.solutionListeners.ids 5 = #[3, 8] ∧ sol.solutionReceivers.ids 5 = #[1, 9] := by
  have check : (match run {} laterResolver false laterWorkspace with
      | .ok sol _ => decide (sol.solutionListeners.ids 5 = #[3, 8] ∧
          sol.solutionReceivers.ids 5 = #[1, 9])
      | .error _ _ => false) = true := by decide +kernel
  split at check
  case h_1 sol w' solved => exact ⟨sol, w', solved, of_decide_eq_true check⟩
  case h_2 => cases check

/-- The listener and the view that came later flow into the handler that has been wired before. -/
theorem wiring_exact_later : ∃ sol w', run {} laterResolver false laterWorkspace = .ok sol w' ∧
    HasWired laterResolver laterWorkspace.store ⟨5, 1, 3⟩ ∧
    (∃ e ∈ w'.store.edges, w'.store.Carries e ⟨8, .this "<C: h>", ⟨"m", 1⟩⟩) ∧
    ∃ e ∈ w'.store.edges, w'.store.Carries e ⟨9, .param "<C: h>" 0, ⟨"m", 1⟩⟩ := by
  obtain ⟨sol, w', solved, listeners, receivers⟩ := later_solved
  have settled : HasWired laterResolver laterWorkspace.store ⟨5, 1, 3⟩ := by decide +kernel
  obtain ⟨-, owed, -⟩ := wiring_exact rfl ⟨rfl, rfl⟩ (by simpa [laterWorkspace] using settled) solved
  let o : Operation := { kind := .setListener, site := ⟨"m", 1⟩, listener := "I" }
  have binds : Binds laterWorkspace.store sol 5 o 8 9 := by
    refine ⟨by decide +kernel, rfl, rfl, by simp [listeners], .inl ⟨by simp [receivers], ?_⟩⟩
    have view : (laterWorkspace.store.node? 9).bind (·.object?) = some .view := by decide +kernel
    rintro ⟨n, there, menu⟩
    simp [there, menu] at view
  have handles : Handles laterResolver laterWorkspace.store o 8 { method := "h", view := some 0 }
      "<C: h>" :=
    ⟨_, ⟨8, .entity (.allocation ⟨"new C again", "C", .listener⟩)⟩, "C", rfl, by simp,
      by decide +kernel, by decide +kernel, by decide +kernel⟩
  exact ⟨sol, w', solved, settled, owed _ (.receiver binds handles),
    owed _ (.view binds handles rfl (by decide))⟩

end Solve

end WidgetFlow
