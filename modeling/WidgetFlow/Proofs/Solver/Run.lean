import WidgetFlow.Proofs.Solver.Passes
import WidgetFlow.Proofs.Solver.Quiet

/-!
# A solve from beginning to end

Prewiring joins plain nodes and cannot fail on a well-formed graph; it leaves the graph `prewired`.
The next three passes look at that graph, so a solve that ends with a solution has found what each
of them finds there (`foundPairs`), and nothing else: the last pass changes the graph, but not what was
found.
-/

namespace WidgetFlow

open Work

variable {α : Type}

namespace Solve

variable {s : Store}

/-! ### Prewiring -/

/-- Adds the flow from a root view of a window to its root. -/
def addFlow : NodeId × NodeId × NodeId → Work Bool :=
  fun (window, p, root) => within (.window window) (onStore (·.addEdge p root {}))

/-- The edge of such a flow. -/
def flowEdge (t : NodeId × NodeId × NodeId) : Edge := ⟨t.2.1, t.2.2, {}⟩

theorem addFlow_eq_ok {t : NodeId × NodeId × NodeId} {w : Workspace}
    (src : w.store.isOperand t.2.1) (dst : w.store.isOperand t.2.2) :
    ∃ added w', addFlow t w = .ok added w' ∧
      w'.store = w.store.serve (Store.joinRequest (flowEdge t)) := by
  rw [Store.serve_joinRequest src dst]
  have joined : w.store.addEdge t.2.1 t.2.2 {} = _ :=
    Store.addEdge_of_plain (e := flowEdge t) src dst
  unfold addFlow within onStore
  by_cases there : flowEdge t ∈ w.store.edges
  · rw [if_pos there] at joined ⊢
    simp only [joined]
    exact ⟨false, w, rfl, rfl⟩
  · rw [if_neg there] at joined ⊢
    simp only [joined]
    exact ⟨true, _, rfl, rfl⟩

/-- The flows of a prewiring are added in turn, and none is refused. -/
theorem mapM_addFlow {flows : List (NodeId × NodeId × NodeId)} {w : Workspace}
    (plain : ∀ t ∈ flows, w.store.isOperand t.2.1 ∧ w.store.isOperand t.2.2) :
    ∃ added w', (flows.mapM addFlow : Work _) w = .ok added w' ∧
      w'.store = w.store.run (flows.map fun t => Store.joinRequest (flowEdge t)) := by
  induction flows generalizing w with
  | nil => exact ⟨[], w, rfl, rfl⟩
  | cons t flows ih =>
    obtain ⟨src, dst⟩ := plain t (by simp)
    obtain ⟨a, w₁, first, graph⟩ := addFlow_eq_ok src dst
    have grows : w.store.Grows w₁.store := graph ▸ (Store.serve_step w.store _).grows
    have later : ∀ t ∈ flows, w₁.store.isOperand t.2.1 ∧ w₁.store.isOperand t.2.2 := by
      intro t there
      obtain ⟨src, dst⟩ := plain t (List.mem_cons_of_mem _ there)
      exact ⟨grows.isOperand src, grows.isOperand dst⟩
    obtain ⟨as, w₂, rest, graph'⟩ := ih later
    refine ⟨a :: as, w₂, ?_, ?_⟩
    · rw [List.mapM_cons, bind_of_ok first, bind_of_ok rest]
      rfl
    · rw [graph', graph, List.map_cons, Store.run_cons]

/-- Prewiring succeeds on every well-formed graph, and adds the flows of bound windows. -/
theorem prewire_eq_ok {w : Workspace} (wf : w.store.WellFormed) :
    ∃ w', prewire w = .ok () w' ∧ w'.store = w.store.prewired := by
  let flows := w.store.windowBindings.flatMap fun b =>
    b.producers.map fun p => (b.window, p, b.root)
  have edges : flows.map flowEdge = w.store.rootFlows := by
    simp only [flows, Store.rootFlows, List.map_flatMap, List.map_map]
    rfl
  have plain : ∀ t ∈ flows, w.store.isOperand t.2.1 ∧ w.store.isOperand t.2.2 := by
    intro t there
    exact wf.rootFlows (edges ▸ List.mem_map_of_mem there)
  obtain ⟨added, w₁, ran, graph⟩ := mapM_addFlow plain
  have whole : prewire w = (note (.windowsPrewired (added.count true))) w₁ := bind_of_ok ran
  refine ⟨_, whole.trans rfl, ?_⟩
  show w₁.store = w.store.prewired
  rw [graph, Store.prewired, ← edges, List.map_map]
  rfl

/-! ### Passes -/

/-- What a pass does beside its step is to take notes. -/
theorem pass_eq_ok {index : Nat} {name : String} {step : Work α} {w w' : Workspace} {a : α}
    (done : pass index name step w = .ok a w') :
    ∃ w₀ w₁, w₀.store = w.store ∧ step w₀ = .ok a w₁ ∧ w'.store = w₁.store := by
  obtain ⟨_, w₀, started, done⟩ := bind_eq_ok done
  obtain ⟨outcome, w₁, ran, done⟩ := bind_eq_ok done
  obtain ⟨_, w₂, ended, done⟩ := bind_eq_ok done
  cases started
  cases ended
  unfold attempt at ran
  split at ran
  case h_1 b w₃ done' =>
    cases ran
    obtain ⟨_, w₄, finished, done⟩ := bind_eq_ok done
    cases finished
    cases done
    refine ⟨_, _, ?_, done', rfl⟩
    rfl
  case h_2 =>
    cases ran
    cases done

/-- A pass whose step ends, ends as well. -/
theorem pass_of_ok {index : Nat} {name : String} {step : Work α} {w v : Workspace} {a : α}
    (ran : step { w with journal := .passStarted index 5 name :: w.journal } = .ok a v) :
    ∃ journal, pass index name step w = .ok a { v with journal } := by
  have outcome : attempt step { w with journal := .passStarted index 5 name :: w.journal } =
      .ok (.ok a) v := by
    unfold attempt
    rw [ran]
  have started : pass index name step w = _ := bind_of_ok (w := w) rfl
  rw [started, bind_of_ok outcome]
  exact ⟨_, rfl⟩

/-- What the three middle passes find in a graph. -/
def foundPairs (s : Store) (t : Classification) (r : Resolver) : Pairs := fun m k i =>
  visitPairs s (producers s) (producerPairs s t) m k i ∨
  visitPairs s s.windows (windowPairs s t r) m k i ∨
  visitPairs s (s.objects.filter fun n => r.isListenerType n.className) (objectPairs s r) m k i

theorem checkCanceled_eq_ok {canceled : Bool} {w w' : Workspace} {u : Unit}
    (done : checkCanceled canceled w = .ok u w') : canceled = false ∧ w' = w := by
  cases canceled with
  | true => cases done
  | false =>
    cases done
    exact ⟨rfl, rfl⟩

theorem prewire_store {w w' : Workspace} {u : Unit} (wf : w.store.WellFormed)
    (done : prewire w = .ok u w') : w'.store = w.store.prewired := by
  obtain ⟨w₁, ran, graph⟩ := prewire_eq_ok wf
  cases ran.symm.trans done
  exact graph

/-- A pass that looks leaves the graph to the next one. -/
theorem pass_looks {index : Nat} {name : String} {step : Work α} {fails : Fault → Prop}
    {post : α → Prop} (looks : Looks s fails step post) {w w' : Workspace} {a : α}
    (graph : w.store = s) (done : pass index name step w = .ok a w') : w'.store = s ∧ post a := by
  obtain ⟨w₀, w₁, before, ran, after⟩ := pass_eq_ok done
  obtain ⟨graph', answer⟩ := looks.of_ok (before.trans graph) ran
  exact ⟨after.trans graph', answer⟩

/-- The three passes that look. -/
def explore (rules : Rules) (r : Resolver) : Work SolveState := do
  let st ← pass 2 "producers" (producerPass rules {})
  let st ← pass 3 "windows" (windowPass rules r st)
  pass 4 "listener-objects" (listenerPass r st)

/-- The end of a solve: what was found is finished and counted. -/
def report (st : SolveState) : Work Solution := do
  let solution := st.findings.freeze
  solution.counts.forM fun (n, pairs) => note (.mapSize n.text pairs)
  note (.graphSize (← store).stats)
  note (.cacheUsed st.cache.size st.cache.hits)
  return solution

/-- Between the first pass and the last, a solve explores the graph. -/
theorem run_eq (rules : Rules) (r : Resolver) (canceled : Bool) :
    run rules r canceled = (do
      checkCanceled canceled
      pass 1 "prewire" prewire
      let st ← explore rules r
      pass 5 "finalize" (finalize r st.findings)
      report st) := by
  simp only [run, explore, report, bind_assoc]

/-- The stages of a solve that ends. -/
theorem run_eq_ok {rules : Rules} {r : Resolver} {canceled : Bool} {w w' : Workspace}
    {sol : Solution} (solved : run rules r canceled w = .ok sol w') :
    canceled = false ∧ ∃ w₁ st w₂ w₃, pass 1 "prewire" prewire w = .ok () w₁ ∧
      explore rules r w₁ = .ok st w₂ ∧
      pass 5 "finalize" (finalize r st.findings) w₂ = .ok () w₃ ∧ report st w₃ = .ok sol w' := by
  rw [run_eq] at solved
  obtain ⟨_, w₀, ready, rest⟩ := bind_eq_ok solved
  obtain ⟨active, rfl⟩ := checkCanceled_eq_ok ready
  obtain ⟨_, w₁, prewired, rest⟩ := bind_eq_ok rest
  obtain ⟨st, w₂, explored, rest⟩ := bind_eq_ok rest
  obtain ⟨_, w₃, finalized, reported⟩ := bind_eq_ok rest
  exact ⟨active, w₁, st, w₂, w₃, prewired, explored, finalized, reported⟩

/-- Exploring a graph finds what the three passes find there, and leaves the graph as it is. -/
theorem explore_looks {rules : Rules} {r : Resolver} (wf : s.WellFormed) {w w' : Workspace}
    {st : SolveState} (graph : w.store = s) (done : explore rules r w = .ok st w') :
    w'.store = s ∧ Knows s (foundPairs s rules.table r) st := by
  obtain ⟨st₂, w₂, pass₂, done⟩ := bind_eq_ok done
  obtain ⟨graph₂, knows₂⟩ := pass_looks (looks_producerPass wf knows_nothing) graph pass₂
  obtain ⟨st₃, w₃, pass₃, pass₄⟩ := bind_eq_ok done
  obtain ⟨graph₃, knows₃⟩ := pass_looks (looks_windowPass wf knows₂) graph₂ pass₃
  obtain ⟨graph₄, knows₄⟩ := pass_looks (looks_listenerPass wf knows₃) graph₃ pass₄
  refine ⟨graph₄, knows₄.cache, knows₄.ordered, fun m k i => ?_⟩
  rw [knows₄.holds]
  simp [foundPairs, or_assoc]

/-- The first pass leaves the graph prewired. -/
theorem pass_prewire {index : Nat} {name : String} {w w' : Workspace} {u : Unit}
    (wf : w.store.WellFormed) (done : pass index name prewire w = .ok u w') :
    w'.store = w.store.prewired := by
  obtain ⟨v, v', before, wired, after⟩ := pass_eq_ok done
  rw [after, prewire_store (before.symm ▸ wf) wired, before]

/-- The report gives the finished findings, and leaves nothing behind but notes. -/
theorem report_ends {inv : Workspace → Prop} (quiet : IgnoresJournal inv) (st : SolveState) :
    Triple inv (report st) (fun sol w => sol = st.findings.freeze ∧ inv w) fun _ _ => False := by
  have note (n : Notice) : Triple inv (note n) (fun _ => inv) fun _ _ => False :=
    Triple.modify fun w holds => quiet w _ holds
  refine Triple.bind (Triple.forM (I := fun _ => inv) fun _ _ _ _ => note _) fun _ => ?_
  refine Triple.bind (Triple.store.mono fun _ _ holds => holds.2) fun _ => ?_
  refine Triple.bind (note _) fun _ => Triple.bind (note _) fun _ => ?_
  exact Triple.pure fun _ holds => ⟨rfl, holds⟩

/-- A solution has exactly the pairs that the passes find in the prewired graph. -/
theorem mem_ids_of_run {w w' : Workspace} {rules : Rules} {r : Resolver} {canceled : Bool}
    {sol : Solution} (wf : w.store.WellFormed) (solved : run rules r canceled w = .ok sol w')
    (m : MapName) (k i : NodeId) :
    i ∈ (sol.get m).ids k ↔ foundPairs w.store.prewired rules.table r m k i := by
  -- After the graph is explored the findings stay as they are.
  obtain ⟨-, w₁, st, w₂, w₃, prewired, explored, -, reported⟩ := run_eq_ok solved
  obtain ⟨-, knows⟩ := explore_looks wf.prewired (pass_prewire wf prewired) explored
  have quiet : IgnoresJournal fun _ => True := fun _ _ h => h
  obtain ⟨rfl, -⟩ := (report_ends quiet st).of_ok trivial reported
  rw [Findings.mem_ids_freeze, knows.holds]

end Solve

end WidgetFlow
