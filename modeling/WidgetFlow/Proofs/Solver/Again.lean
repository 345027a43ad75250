import Mathlib.Data.List.Sort
import WidgetFlow.Proofs.Listener.Deferred
import WidgetFlow.Proofs.Listener.Paced
import WidgetFlow.Proofs.Solver.Alike
import WidgetFlow.Proofs.Solver.Wiring
import WidgetFlow.Proofs.Workspace.Serving

/-!
# Solving again

The last pass of a solve lets listeners and views flow into handlers, after the maps of the solution
have been made. A second solve sees these flows. It never loses a pair, and as long as they carry
nothing into a role of an operation that was not there before (`OpensNoFlow`) it finds the same, has
nothing left to wire, and leaves the graph as it is (`solve_again`). If they do, it may find more
(`not_forall_solve_again`).
-/

namespace WidgetFlow

open Work

namespace Store

variable {s t : Store} {fs : List Feed} {x y op : NodeId} {role : Role}

/-! ### Flows that are opened -/

/-- No object and no operation flows into a role in the store `t` that it does not flow into in the
store `s`. -/
def OpensNoFlow (s t : Store) : Prop :=
  ∀ n ∈ s.suppliers, ∀ op role, role ≠ .result → t.FlowsTo n.id op role → s.FlowsTo n.id op role

section Fed

variable (wf : s.WellFormed) (fed : s.Fed fs t)

include wf fed

theorem Fed.linked (linked : Linked s.targets x y) : Linked t.targets x y := by
  refine linked.mono fun x y near => ?_
  obtain ⟨e, there, ends⟩ := wf.mem_targets_iff_exists_edge.1 near
  exact fed.wellFormed.mem_targets_iff_exists_edge.2 ⟨e, (fed.edges e).2 (.inl there), ends⟩

theorem Fed.flowsTo (flows : s.FlowsTo x op role) : t.FlowsTo x op role := by
  obtain ⟨v, operand, path⟩ := flows
  exact ⟨v, wf.operand_grow fed.grows operand, path.imp_right (fed.linked wf)⟩

omit wf in
/-- Feeding makes slots, and these supply nothing. -/
theorem Fed.suppliers_eq : t.suppliers = s.suppliers := by
  obtain ⟨more, nodes⟩ := fed.grows.nodes
  have slots : ∀ n ∈ more, ¬ (n.isObject || n.isOperation) = true := by
    intro n new
    have later : n ∈ t.nodes := nodes ▸ List.mem_append_right _ new
    rcases fed.nodes n later with old | ⟨f, -, body⟩
    · -- A node of the rest has a number of its own, so it is not an old one.
      have once := nodes.symm ▸ fed.wellFormed.nodup_ids
      rw [List.map_append] at once
      exact (List.disjoint_of_nodup_append once (List.mem_map_of_mem old)
        (List.mem_map_of_mem new)).elim
    · simp [Node.isObject, Node.isOperation, Node.kind, Node.operation?, body, NodeKind.isObject]
  rw [suppliers, suppliers, ← nodes, List.filter_append, List.filter_eq_nil_iff.2 slots,
    List.append_nil]

/-- If every edge is a shortcut for a flow that was there, no flow has been opened. -/
theorem Fed.opensNoFlow (shortcut : ∀ e ∈ t.edges, e.dst ∈ (s.reachable e.src).ids) :
    s.OpensNoFlow t := by
  have before {x y : NodeId} (near : y ∈ t.targets x) : Linked s.targets x y := by
    obtain ⟨e, there, rfl, rfl⟩ := fed.wellFormed.mem_targets_iff_exists_edge.1 near
    exact wf.mem_reachable_iff.1 (shortcut e there)
  have linked {x y : NodeId} (path : Linked t.targets x y) : Linked s.targets x y := by
    induction path with
    | step near => exact before near
    | trans _ near ih => exact ih.append (before near)
  rintro n - op role - ⟨v, operand, path⟩
  obtain ⟨o, there, declared⟩ := operand_eq_ok operand
  rw [fed.operationAt_eq wf] at there
  obtain ⟨i, wired⟩ := wf.wired there
  have operand' := wired.operand there declared
  obtain rfl : i.get role = v :=
    Except.ok.inj ((wf.operand_grow fed.grows operand').symm.trans operand)
  exact ⟨_, operand', path.imp_right linked⟩

end Fed

end Store

namespace Solve

/-! ### What stays as it is -/

variable {G t : Store} {fs : List Feed} {rules : Rules} {r : Resolver} {f : Findings}
  {memo : List Wire} {w : Workspace}

section Fed

variable (wf : G.WellFormed) (fed : G.Fed fs t)

include wf fed

theorem operationsIn_fed {set set' : NodeSet} (ascends : set.ids.Pairwise (· < ·))
    (ascends' : set'.ids.Pairwise (· < ·))
    (same : ∀ op o, G.operationAt op = some o → (op ∈ set'.ids ↔ op ∈ set.ids)) :
    operationsIn t set' = operationsIn G set := by
  have among (s : Store) (set : NodeSet) : operationsIn s set =
      (set.ids.filter fun id => (s.operationAt id).isSome).filterMap fun id =>
        (s.operationAt id).map (⟨id, ·⟩) := by
    rw [List.filterMap_filter]
    refine List.filterMap_congr fun id _ => ?_
    cases at_id : s.operationAt id with
    | none => simpa [Store.operationAt] using at_id
    | some o => simp [show (s.node? id).bind (·.operation?) = some o from at_id]
  have ids : (set'.ids.filter fun id => (G.operationAt id).isSome) =
      set.ids.filter fun id => (G.operationAt id).isSome := by
    refine (ascends'.filter _).eq_of_mem_iff (ascends.filter _) fun id => ?_
    simp only [List.mem_filter]
    refine and_congr_left fun isOp => ?_
    obtain ⟨o, there⟩ := Option.isSome_iff_exists.1 isOp
    exact same id o there
  simp only [among, fed.operationAt_eq wf, ids]

/-- If no flow is opened, a solve cannot tell the graphs apart. -/
theorem alike_of_fed (closed : G.OpensNoFlow t) : Alike G t where
  suppliers := fed.suppliers_eq
  operations n supplies := by
    refine operationsIn_fed wf fed (NodeSet.pairwise_ofList _) (NodeSet.pairwise_ofList _) ?_
    intro op o there
    rw [fed.wellFormed.mem_reachable_iff, wf.mem_reachable_iff]
    constructor
    · intro linked
      obtain ⟨role, input, flows⟩ :=
        fed.wellFormed.exists_flowsTo (fed.grows.operationAt there) linked
      exact wf.linked_of_flowsTo (closed n supplies op role input flows) input
    · exact fed.linked wf
  roles n supplies := by
    intro op o role there declared input
    obtain ⟨v, operand⟩ := exists_operand wf there declared
    have operand' := wf.operand_grow fed.grows operand
    refine ⟨v, operand, operand', ?_⟩
    rw [Bool.eq_iff_iff, fed.wellFormed.flowsTo_iff operand' input, wf.flowsTo_iff operand input]
    exact ⟨closed n supplies op role input, fed.flowsTo wf⟩

/-- What is found in a graph is found when flows have been added. -/
theorem foundPairs_fed {table : Classification} {m : MapName} {k i : NodeId}
    (found : foundPairs G table r m k i) : foundPairs t table r m k i := by
  have more {nodes nodes' : List Node} {each each' : Node → OpNode → Pairs} (same : nodes' = nodes)
      (grows : ∀ n op, each n op m k i → each' n op m k i) (seen : visitPairs G nodes each m k i) :
      visitPairs t nodes' each' m k i := by
    obtain ⟨n, listed, op, linked, there, pair⟩ := seen
    exact ⟨n, same ▸ listed, op, fed.linked wf linked, fed.grows.operationAt there, grows n op pair⟩
  have flows {x op : NodeId} {role : Role} : G.FlowsTo x op role → t.FlowsTo x op role :=
    fed.flowsTo wf
  -- The pairs of a visit ask for flows, and never for the absence of one.
  refine found.imp (more (producers_eq fed.suppliers_eq) fun n op => ?_)
    (.imp (more (windows_eq fed.suppliers_eq) fun n op => ?_)
      (more (by rw [objects_eq fed.suppliers_eq]) fun n op => ?_))
  · exact .imp (.imp_right (.imp_left flows))
      (.imp (.imp_right (.imp_left flows)) (.imp_right (.imp_left flows)))
  · exact .imp_left (.imp_right (.imp_left (.imp_left flows)))
  · exact .imp_right (.imp_left flows)

/-- A binding that can be wired after flows have been added could be wired before. -/
theorem isWirable_of_fed {k : Wire} (wirable : Dispatch.isWirable t k = true) :
    Dispatch.isWirable G k = true := by
  rw [isWirable_iff, fed.operationAt_eq wf] at wirable
  rw [isWirable_iff]
  refine ⟨wirable.1, fun menu => wirable.2 ?_⟩
  obtain ⟨n, there, isMenu⟩ := menu
  exact ⟨n, fed.grows.node? there, isMenu⟩

end Fed

/-! ### The queues after a solve -/

/-- Nothing waits, and the dispatcher has taken all that the findings demand. -/
structure Settled (G : Store) (f : Findings) (d : Dispatcher) : Prop where
  idle : d.pending = [] ∧ d.wires = []
  taken : ∀ k, Demands f k → Dispatch.isWirable G k = true → k ∈ d.memo

theorem settled_finalize (r : Resolver) :
    Triple (Queued G memo f) (finalize r f) (fun _ w => Settled G f w.dispatcher)
      fun _ _ => True := by
  refine Triple.bind (asked_all f).relax fun _ => ?_
  refine Triple.bind (M := fun _ w => Settled G f w.dispatcher) ?_ fun _ => ?_
  · rintro w ⟨queued, asked⟩
    refine ((Dispatch.flush_closes r w.dispatcher.ledger).mono fun _ v closed => ?_) w rfl
    have same : v.dispatcher.memo = w.dispatcher.memo := congrArg Ledger.memo closed
    refine ⟨⟨congrArg Ledger.pending closed, congrArg Ledger.wires closed⟩, ?_⟩
    intro k demanded wirable
    rw [same]
    exact asked k ((mem_allBindings queued.ordered).2 demanded) wirable
  · exact Triple.bind Keeps.get.relax fun _ => Triple.modify fun _ settled => settled

/-- Prewiring has no part in listener work. -/
theorem pass_prewire_leaves {w₁ : Workspace} (wf : w.store.WellFormed)
    (done : pass 1 "prewire" prewire w = .ok () w₁) :
    w₁.store = w.store.prewired ∧ w₁.dispatcher = w.dispatcher :=
  (Triple.pass (fun _ _ h => h) (fun _ _ _ h => h) (wiring_prewire wf)).of_ok ⟨rfl, rfl⟩ done

/-- After a solve that started with empty queues, what it has found was found by exploring the
prewired graph, the bindings that this demands have been wired, and the queues are empty again. -/
theorem run_settles {qs : List StoreRequest} {w' : Workspace} {canceled : Bool} {sol : Solution}
    (built : w.store = Store.empty.run qs)
    (idle : w.dispatcher.pending = [] ∧ w.dispatcher.wires = [])
    (solved : run rules r canceled w = .ok sol w') :
    ∃ w₁ st w₂ ks, w₁.store = w.store.prewired ∧ explore rules r w₁ = .ok st w₂ ∧
      sol = st.findings.freeze ∧
      Wired r w.store.prewired w.dispatcher.memo st.findings ks w'.store ∧
      Settled w.store.prewired st.findings w'.dispatcher := by
  obtain ⟨-, w₁, st, w₂, w₃, prewired, explored, finalized, reported⟩ := run_eq_ok solved
  have wf : w.store.WellFormed := built ▸ Store.wellFormed_run qs
  have wf' := wf.prewired
  have named : w.store.prewired.Named :=
    Store.run_induction (built ▸ Store.named_run qs) (fun _ _ ok step => step.keepsNames ok) _
  have start := pass_prewire_leaves wf prewired
  obtain ⟨knows, queued⟩ := (wiring_explore wf' idle).of_ok start explored
  have known := exists_listener wf' knows.holds
  have ending : Triple (Queued w.store.prewired w.dispatcher.memo st.findings) _ _ _ :=
    (wired_finalize wf' named r known).and (settled_finalize r)
  have finished := (Triple.pass Queued.ignoresJournal (fun _ _ _ h => h) ending).of_ok queued finalized
  have quiet : IgnoresJournal fun v => (∃ ks, Wired r w.store.prewired w.dispatcher.memo st.findings
      ks v.store) ∧ Settled w.store.prewired st.findings v.dispatcher := fun _ _ h => h
  obtain ⟨same, ⟨ks, wired⟩, settled⟩ := (report_ends quiet st).of_ok finished reported
  exact ⟨w₁, st, w₂, ks, start.1, explored, same, wired, settled⟩

/-! ### A solve that finds nothing new -/

/-- The dispatcher knows the bindings that were taken before, and none of them waits. -/
def Fresh (memo : List Wire) (w : Workspace) : Prop :=
  memo ⊆ w.dispatcher.memo ∧ ∀ k ∈ w.dispatcher.wires, k ∉ memo

theorem Fresh.ignoresJournal : IgnoresJournal (Fresh memo) := fun _ _ fresh => fresh

theorem fresh_requestWire (k : Wire) : Keeps (Fresh memo) (Dispatch.requestWire k) := by
  rintro w ⟨known, waits⟩
  obtain ⟨added, w', ran, -, -, change⟩ := requestWire_eq_ok k w
  rw [ran]
  split at change
  case isTrue new =>
    obtain ⟨memo', wires'⟩ := change
    refine ⟨?_, ?_⟩
    · rw [memo']
      exact fun j old => List.mem_cons_of_mem _ (known old)
    · intro j waiting
      rw [wires', List.mem_append, List.mem_singleton] at waiting
      rcases waiting with earlier | rfl
      · exact waits j earlier
      · exact fun old => new.2 (known old)
  case isFalse =>
    obtain ⟨memo', wires'⟩ := change
    refine ⟨?_, ?_⟩
    · rw [memo']
      exact known
    · rw [wires']
      exact waits

theorem fresh_explore : Keeps (Fresh memo) (explore rules r) := by
  have quiet : IgnoresJournal (Fresh memo) := Fresh.ignoresJournal
  refine .bind (quiet.pass (quiet.producerPass _ _)) fun _ => ?_
  refine .bind (quiet.pass (.windowPass fresh_requestWire quiet _ _ _)) fun _ => ?_
  exact quiet.pass (.listenerPass fresh_requestWire quiet _ _)

/-- If all that the findings demand was taken before, the last pass has nothing to wire. -/
theorem finalize_idle (r : Resolver) (queued : Queued G memo f w) (fresh : Fresh memo w)
    (taken : ∀ k, Demands f k → Dispatch.isWirable G k = true → k ∈ memo) :
    ∃ w', finalize r f w = .ok () w' ∧ w'.store = G := by
  obtain ⟨⟨⟩, v, ran, queued', -⟩ := (asked_all f).exists_ok queued
  have fresh' : Fresh memo v := Triple.of_ok
    (Keeps.forM fun _ _ => Keeps.forM fun _ _ => .requestWires fresh_requestWire _ _ _) fresh ran
  have none : v.dispatcher.wires = [] := by
    refine List.eq_nil_iff_forall_not_mem.2 fun k waits => ?_
    obtain ⟨wirable, demanded⟩ := queued'.waiting k waits
    exact fresh'.2 k waits (taken k demanded wirable)
  have idle : v.dispatcher.ledger.jobs = [] := by
    simp [Ledger.jobs, Dispatcher.ledger, none, queued'.idle]
  have whole : finalize r f w = _ :=
    (bind_of_ok ran).trans (bind_of_ok (Dispatch.flush_idle r idle))
  exact ⟨_, whole, queued'.graph⟩

/-- A solve that explores the graph to findings whose demands have all been taken adds nothing. -/
theorem run_idle (wf : w.store.WellFormed) (ready : w.store.prewired = w.store)
    (settled : Settled w.store f w.dispatcher)
    (finds : ∀ v, v.store = w.store → ∃ st v', explore rules r v = .ok st v' ∧ st.findings = f) :
    ∃ w', run rules r false w = .ok f.freeze w' ∧ w'.store = w.store := by
  have active : checkCanceled false w = .ok () w := rfl
  obtain ⟨_, joined, -⟩ :=
    prewire_eq_ok (w := { w with journal := .passStarted 1 5 "prewire" :: w.journal }) wf
  obtain ⟨_, prewired⟩ := pass_of_ok joined
  obtain ⟨graph, same⟩ := pass_prewire_leaves wf prewired
  rw [ready] at graph
  obtain ⟨st, w₂, explored, rfl⟩ := finds _ graph
  obtain ⟨-, queued⟩ := (wiring_explore wf settled.idle).of_ok ⟨graph, same⟩ explored
  have fresh : Fresh w.dispatcher.memo w₂ := by
    refine fresh_explore.of_ok ⟨?_, ?_⟩ explored
    · rw [same]
      exact fun _ old => old
    · rw [same, settled.idle.2]
      simp
  obtain ⟨w₃, asked, graph⟩ := finalize_idle r
    (Queued.ignoresJournal w₂ (.passStarted 5 5 "finalize" :: w₂.journal) queued) fresh settled.taken
  obtain ⟨journal, finalized⟩ := pass_of_ok asked
  have quiet : IgnoresJournal fun v => v.store = w.store := fun _ _ h => h
  obtain ⟨_, w', reported, rfl, kept⟩ := (report_ends quiet st).exists_ok (quiet w₃ journal graph)
  refine ⟨w', ?_, kept⟩
  rw [run_eq, bind_of_ok active, bind_of_ok prewired, bind_of_ok explored, bind_of_ok finalized]
  exact reported

/-! ### Solving again -/

theorem built_of_completed {p : Program} {acts : List Activity} {canceled : Bool}
    (completed : Intake.complete p canceled (Workspace.run p {} acts) = .ok () w) :
    ∃ qs, w.store = Store.empty.run qs :=
  (Served.complete p canceled).of_ok (served_run p {} acts) completed

theorem complete_idle {p : Program} {canceled : Bool} {w' : Workspace}
    (completed : Intake.complete p canceled w = .ok () w') :
    w'.dispatcher.pending = [] ∧ w'.dispatcher.wires = [] := by
  have flushed : Triple (fun v => v.dispatcher.ledger = w.dispatcher.ledger)
      (Intake.complete p canceled)
      (fun _ v => v.dispatcher.pending = [] ∧ v.dispatcher.wires = []) fun _ _ => True := by
    cases canceled with
    | true => exact fun _ _ => trivial
    | false =>
      refine Triple.bind (Triple.within (Dispatch.flush_closes _ _)) fun _ => ?_
      refine Triple.bind Keeps.store.relax fun _ => Triple.modify fun v closed => ?_
      exact ⟨congrArg Ledger.pending closed, congrArg Ledger.wires closed⟩
  exact flushed.of_ok rfl completed

/-- The flows of bound windows are there since the first solve. -/
theorem prewired_of_fed (wf : w.store.WellFormed) (fed : w.store.prewired.Fed fs t) :
    t.prewired = t := by
  refine fed.wellFormed.prewired_eq_self fun e flow => (fed.edges e).2 (.inl ?_)
  rw [Store.mem_rootFlows, fed.bindings, wf.windowBindings_prewired] at flow
  exact (wf.edges_prewired.2 e).2 (.inr flow)

/-- A second solve with the same table has every pair of the first one. -/
theorem mem_ids_again {w' w'' : Workspace} {rules' : Rules} {canceled canceled' : Bool}
    {sol sol' : Solution} (wf : w.store.WellFormed) (fed : w.store.prewired.Fed fs w'.store)
    (solved : run rules r canceled w = .ok sol w')
    (again : run rules' r canceled' w' = .ok sol' w'') (same : rules'.table = rules.table)
    {m : MapName} {k i : NodeId} (there : i ∈ (sol.get m).ids k) : i ∈ (sol'.get m).ids k := by
  rw [mem_ids_of_run wf solved] at there
  rw [mem_ids_of_run fed.wellFormed again, prewired_of_fed wf fed, same]
  exact foundPairs_fed wf.prewired fed there

/-- After a graph has been completed and solved, it may be solved again. A second solve that ends has
every pair of the first one. If the flows into handlers that the first solve added have opened no flow
into a role of an operation, a second solve does end; its solution is the same, and it adds no node and
no edge. -/
theorem solve_again {p : Program} {acts : List Activity} {w w' : Workspace} {rules : Rules}
    {canceled canceled' : Bool} {sol : Solution}
    (completed : Intake.complete p canceled (Workspace.run p {} acts) = .ok () w)
    (solved : run rules p.resolver canceled' w = .ok sol w') :
    (∀ sol' w'', run rules p.resolver false w' = .ok sol' w'' →
      ∀ m k i, i ∈ (sol.get m).ids k → i ∈ (sol'.get m).ids k) ∧
    (w.store.prewired.OpensNoFlow w'.store →
      ∃ w'', run rules p.resolver false w' = .ok sol w'' ∧ w''.store = w'.store) := by
  obtain ⟨qs, built⟩ := built_of_completed completed
  have wf : w.store.WellFormed := built ▸ Store.wellFormed_run qs
  have wf' := wf.prewired
  obtain ⟨w₁, st, w₂, ks, graph, explored, rfl, wired, settled⟩ :=
    run_settles built (complete_idle completed) solved
  have fed := wired.fed
  constructor
  · intro sol' w'' again m k i there
    exact mem_ids_again wf fed solved again rfl there
  · intro closed
    have ready := prewired_of_fed wf fed
    refine run_idle fed.wellFormed ready ⟨settled.idle, fun k demanded wirable => ?_⟩ fun v same => ?_
    · exact settled.taken k demanded (isWirable_of_fed wf' fed wirable)
    · obtain ⟨-, st', v', done, -, found⟩ :=
        explore_agrees (alike_of_fed wf' fed closed) w₁ v graph same st w₂ explored
      exact ⟨st', v', done, found.findings.symm⟩

/-! ### A handler that registers its own object -/

/-- The class `C` implements the interface of the registration `s`. -/
def handlerProgram : Program := { resolver := implementors ["C"] }

/-- An object of the class `C` is registered as a listener, and so is the receiver of its handler. The
first registration declares a type for its listener. -/
def handlerRegisters (declared : String) : List Activity :=
  let call (listener : Local) (parameterType : String) : OpEvent :=
    { kind := "set-listener", receiver := .ofSlot ⟨"m", "v"⟩, parameter := .ofSlot listener
      listener := "s", parameterType }
  [.assign (.ofSlot ⟨"m", "l"⟩) (.ofAlloc ⟨"new C", "C", .listener⟩) {},
   .recognize (call ⟨"m", "l"⟩ declared),
   .recognize (call (.this "<C: h>") "")]

/-- The workspace after these events. -/
def handlerWorkspace (declared : String) : Workspace :=
  Workspace.run handlerProgram {} (handlerRegisters declared)

theorem exists_solved_handler : ∃ w sol w',
    Intake.complete handlerProgram false (handlerWorkspace "I") = .ok () w ∧
    run {} handlerProgram.resolver false w = .ok sol w' ∧
    (∀ e ∈ w'.store.edges, e.dst ∈ (w.store.prewired.reachable e.src).ids) ∧
    w.store.edges.length < w'.store.edges.length := by
  have ran : (match Intake.complete handlerProgram false (handlerWorkspace "I") with
      | .error _ _ => false
      | .ok _ w =>
        match run {} handlerProgram.resolver false w with
        | .error _ _ => false
        | .ok _ w' => decide ((∀ e ∈ w'.store.edges,
            e.dst ∈ (w.store.prewired.reachable e.src).ids) ∧
            w.store.edges.length < w'.store.edges.length)) = true := by decide +kernel
  split at ran
  case h_1 => cases ran
  case h_2 w completed =>
    split at ran
    case h_1 => cases ran
    case h_2 sol w' solved => exact ⟨w, sol, w', completed, solved, of_decide_eq_true ran⟩

/-- If the object is known to flow into its handler once the graph is complete, the edges of the first
solve are shortcuts, and a second solve adds none. -/
theorem solve_again_handler : ∃ w sol w' w'',
    Intake.complete handlerProgram false (handlerWorkspace "I") = .ok () w ∧
    run {} handlerProgram.resolver false w = .ok sol w' ∧
    w.store.edges.length < w'.store.edges.length ∧
    run {} handlerProgram.resolver false w' = .ok sol w'' ∧ w''.store = w'.store := by
  obtain ⟨w, sol, w', completed, solved, shortcut, more⟩ := exists_solved_handler
  obtain ⟨qs, built⟩ := built_of_completed completed
  obtain ⟨_, _, _, _, -, -, -, wired, -⟩ := run_settles built (complete_idle completed) solved
  have wf : w.store.WellFormed := built ▸ Store.wellFormed_run qs
  obtain ⟨w'', again, same⟩ :=
    (solve_again completed solved).2 (wired.fed.opensNoFlow wf.prewired shortcut)
  exact ⟨w, sol, w', w'', completed, solved, more, again, same⟩

/-- Otherwise the second solve may find more. If the first registration declares a type that the class
does not have, nothing is known to flow into the handler when the graph is complete. The solver goes by
the object alone, so it is the first solve that lets the object flow there, and from there into the
second registration. -/
theorem not_forall_solve_again : ¬ ∀ (p : Program) (acts : List Activity) (w w' : Workspace)
    (rules : Rules) (sol : Solution), (∀ a ∈ acts, a.isEvent = true) →
    Intake.complete p false (Workspace.run p {} acts) = .ok () w →
    run rules p.resolver false w = .ok sol w' →
    ∃ w'', run rules p.resolver false w' = .ok sol w'' ∧ w''.store.nodes = w'.store.nodes ∧
      w''.store.edges = w'.store.edges := by
  intro claim
  have ran : (match Intake.complete handlerProgram false (handlerWorkspace "J") with
      | .error _ _ => false
      | .ok _ w =>
        match run {} handlerProgram.resolver false w with
        | .error _ _ => false
        | .ok sol w' =>
          match run {} handlerProgram.resolver false w' with
          | .error _ _ => false
          | .ok sol' _ => decide (sol ≠ sol')) = true := by decide +kernel
  split at ran
  case h_1 => cases ran
  case h_2 w completed =>
    split at ran
    case h_1 => cases ran
    case h_2 sol w' solved =>
      obtain ⟨w'', again, -⟩ := claim handlerProgram (handlerRegisters "J") w w' {} sol (by decide)
        completed solved
      rw [again] at ran
      exact of_decide_eq_true ran rfl

end Solve

end WidgetFlow
