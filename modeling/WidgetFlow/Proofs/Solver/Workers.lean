import WidgetFlow.Proofs.Solver.Exactness
import WidgetFlow.Proofs.Solver.Run
import WidgetFlow.Proofs.Solver.SharedCache

/-!
# The number of workers does not show

The three passes that look at closures ask for all of them beforehand. Workers may share that task,
and take turns in any way (`precomputeBy`). The caches that come of it may list their entries in
another order than the cache of one worker, but they answer alike and have the same size and the same
hits (`Matches`), since the nodes of a pass are distinct. Nothing else depends on the workers, so a
solve does the same whatever their number and whatever turns they take (`worker_independence`).
-/

namespace WidgetFlow

open Work

variable {w : Workspace} {s : Store} {c c' c'' : ClosureCache} {sources : List NodeId}

/-- What the workers do next, which may depend on everything. -/
abbrev Plan := Workspace → ClosureCache → List NodeId → List ClosureCache.Move

/-- Workers ask for the closures of all sources. They take the moves of the plan; where the plan ends
early, what is left is done step by step. -/
def Work.precomputeBy (workers : Int) (plan : Plan) (c : ClosureCache) (sources : List NodeId) :
    Work ClosureCache := fun w =>
  let p := (ClosureCache.Pool.start c sources).run w.store workers (plan w c sources)
  let p := p.run w.store workers (p.completion w.store workers p.rest)
  .ok p.cache { w with journal := p.computed.map (fun _ => .closureComputed true) ++ w.journal }

/-! ### Caches that answer alike -/

namespace ClosureCache

/-- The caches answer alike, and are as large and as often used as one another. -/
structure Matches (c c' : ClosureCache) : Prop where
  find? : ∀ x, c.find? x = c'.find? x
  size : c.size = c'.size
  hits : c.hits = c'.hits

theorem Matches.refl (c : ClosureCache) : c.Matches c := ⟨fun _ => rfl, rfl, rfl⟩

theorem Matches.remembers (same : c.Matches c') (remembers : c'.Remembers s) : c.Remembers s :=
  fun x set cached => remembers x set ((same.find? x).symm.trans cached)

/-- The closures of the sources have been added to the cache `c`, each where it was missing. -/
structure Filled (s : Store) (c : ClosureCache) (sources : List NodeId) (c' : ClosureCache) :
    Prop where
  find? : ∀ x, c'.find? x =
    if (c.find? x).isSome ∨ x ∈ sources then some (s.reachable x) else none
  hits : c'.hits = c.hits + sources.countP fun x => (c.find? x).isSome
  size : c'.size = c.size + sources.countP fun x => (c.find? x).isNone

theorem Filled.matches {d d' : ClosureCache} (same : c.Matches c') (filled : Filled s c sources d)
    (filled' : Filled s c' sources d') : d.Matches d' where
  find? x := by rw [filled.find?, filled'.find?, same.find?]
  hits := by simp only [filled.hits, filled'.hits, same.hits, same.find?]
  size := by simp only [filled.size, filled'.size, same.size, same.find?]

end ClosureCache

open ClosureCache

/-- The notes of the closures that sources are missing. -/
def closureNotes (c : ClosureCache) (sources : List NodeId) : List Notice :=
  .replicate (sources.countP fun x => (c.find? x).isNone) (.closureComputed true)

/-- Workers fill a cache, in whatever turns. -/
theorem precomputeBy_eq (workers : Int) (plan : Plan) (remembers : c.Remembers w.store)
    (distinct : sources.Nodup) : ∃ c', precomputeBy workers plan c sources w =
      .ok c' { w with journal := closureNotes c sources ++ w.journal } ∧
      Filled w.store c sources c' := by
  let moves := plan w c sources
  let p := (Pool.start c sources).run w.store workers moves
  let p' := p.run w.store workers (p.completion w.store workers p.rest)
  have reached : p' = (Pool.start c sources).run w.store workers
      (moves ++ p.completion w.store workers p.rest) := (Pool.run_append _ _ _ _ _).symm
  have sane : p'.Sane w.store c sources := reached ▸ Pool.sane_run remembers sources workers _
  have tally : p'.Tally c := reached ▸ Pool.tally_run remembers distinct workers _
  have finished : p'.Finished := Pool.finished_completion w.store workers (Nat.le_refl _)
  obtain ⟨hits, size, computed⟩ := tally.of_finished sane finished
  refine ⟨p'.cache, ?_, sane.find?_of_finished finished, hits, size⟩
  have notes : p'.computed.map (fun _ => Notice.closureComputed true) = closureNotes c sources := by
    rw [closureNotes, List.map_const', computed.length_eq, List.countP_eq_length_filter]
  rw [← notes]
  rfl

/-! ### One question after the other -/

namespace ClosureCache

variable {id x : NodeId}

theorem Remembers.find?_reachable (remembers : c.Remembers s) :
    (c.reachable s id).2.find? x = if x = id then some (s.reachable id) else c.find? x := by
  cases look : c.find? id with
  | none =>
    simp only [ClosureCache.reachable, look]
    exact find?_insert look (s.reachable id) x
  | some set =>
    simp only [ClosureCache.reachable, look]
    split
    case isTrue same => exact same ▸ look.trans (congrArg some (remembers id set look))
    case isFalse => rfl

theorem Remembers.find?_reachable_of_mem (remembers : c.Remembers s) (new : id ∉ sources) :
    ∀ x ∈ sources, (c.reachable s id).2.find? x = c.find? x := by
  intro x there
  have other : x ≠ id := fun same => new (same ▸ there)
  rw [remembers.find?_reachable, if_neg other]

theorem hits_reachable (c : ClosureCache) (s : Store) (id : NodeId) :
    (c.reachable s id).2.hits = c.hits + if (c.find? id).isSome then 1 else 0 := by
  cases look : c.find? id with
  | none => simp [reachable, look, hits_insert]
  | some set => simp [reachable, look]

theorem size_reachable (c : ClosureCache) (s : Store) (id : NodeId) :
    (c.reachable s id).2.size = c.size + if (c.find? id).isNone then 1 else 0 := by
  cases look : c.find? id with
  | none => simp [reachable, look, size_insert look]
  | some set => simp [reachable, look, size]

theorem Filled.nil (remembers : c.Remembers s) : Filled s c [] c where
  find? x := by
    cases look : c.find? x with
    | none => simp
    | some set => simp [remembers x set look]
  hits := rfl
  size := rfl

/-- A source is asked for, and the others after it. -/
theorem Filled.cons (remembers : c.Remembers s) (new : id ∉ sources)
    (filled : Filled s (c.reachable s id).2 sources c') : Filled s c (id :: sources) c' := by
  have others := remembers.find?_reachable_of_mem new
  refine ⟨fun x => ?_, ?_, ?_⟩
  · rw [filled.find?, remembers.find?_reachable]
    by_cases same : x = id
    · simp [same]
    · simp [same]
  · rw [filled.hits, hits_reachable, List.countP_cons, List.countP_congr (q := fun x =>
      (c.find? x).isSome) fun x there => by rw [others x there]]
    omega
  · rw [filled.size, size_reachable, List.countP_cons, List.countP_congr (q := fun x =>
      (c.find? x).isNone) fun x there => by rw [others x there]]
    omega

end ClosureCache

theorem reachableCached_eq (c : ClosureCache) (id : NodeId) (w : Workspace) :
    reachableCached c id w =
      .ok (c.reachable w.store id) { w with journal := closureNotes c [id] ++ w.journal } := by
  cases look : c.find? id with
  | none =>
    have notes : closureNotes c [id] = [.closureComputed true] := by simp [closureNotes, look]
    rw [notes, reachableCached, look]
    rfl
  | some set =>
    have notes : closureNotes c [id] = [] := by simp [closureNotes, look]
    rw [notes, reachableCached, look]
    rfl

/-- One worker fills a cache by asking for one closure after the other. -/
theorem precompute_eq (remembers : c.Remembers w.store) (distinct : sources.Nodup) :
    ∃ c', precompute c sources w =
      .ok c' { w with journal := closureNotes c sources ++ w.journal } ∧
      Filled w.store c sources c' := by
  induction sources generalizing c w with
  | nil => exact ⟨c, rfl, .nil remembers⟩
  | cons id rest ih =>
    obtain ⟨new, distinct⟩ := List.nodup_cons.1 distinct
    have asked := reachableCached_eq c id w
    obtain ⟨c', ran, filled⟩ := ih (w := { w with journal := closureNotes c [id] ++ w.journal })
      (remembers.reachable id).2 distinct
    refine ⟨c', ?_, .cons remembers new filled⟩
    have notes : closureNotes (c.reachable w.store id).2 rest ++ closureNotes c [id] =
        closureNotes c (id :: rest) := by
      have others := remembers.find?_reachable_of_mem new
      simp only [closureNotes, List.replicate_append_replicate, List.countP_cons, List.countP_nil]
      rw [List.countP_congr (q := fun x => (c.find? x).isNone) fun x there => by rw [others x there]]
      simp
    rw [precompute, bind_of_ok asked, ran, ← List.append_assoc, notes]

namespace Solve

variable {visit : Node → NodeSet → Findings → Work Findings} {f : Findings} {nodes : List Node}

/-- Where all closures are cached, a visit of the nodes is a fold over them. -/
theorem visitClosures_of_cached {closure : NodeId → NodeSet}
    (cached : ∀ n ∈ nodes, c.find? n.id = some (closure n.id)) :
    visitClosures visit nodes ⟨f, c⟩ = (do
      let f ← nodes.foldlM (fun f n => visit n (closure n.id) f) f
      return ⟨f, { c with hits := c.hits + nodes.length }⟩) := by
  induction nodes generalizing f c with
  | nil => rfl
  | cons n rest ih =>
    funext w
    have answer : c.reachable w.store n.id = (closure n.id, { c with hits := c.hits + 1 }) := by
      rw [ClosureCache.reachable, cached n (by simp)]
    have notes : closureNotes c [n.id] = [] := by simp [closureNotes, cached n (by simp)]
    have asked := reachableCached_eq c n.id w
    rw [answer, notes] at asked
    have later (f : Findings) := ih (f := f) (c := { c with hits := c.hits + 1 }) fun n there =>
      cached n (List.mem_cons_of_mem _ there)
    rw [visitClosures, bind_of_ok asked]
    simp only [later, List.foldlM_cons, bind_assoc, List.length_cons, Nat.add_assoc, Nat.add_comm 1]
    rfl

/-! ### Passes -/

/-- A pass over nodes: their closures are asked for beforehand, all by `pre`. -/
def passOver (pre : ClosureCache → List NodeId → Work ClosureCache) (nodes : Store → List Node)
    (announce : Nat → Work Unit) (reach : Node → NodeSet → Findings → OpNode → Work Findings)
    (st : SolveState) : Work SolveState := do
  let ns := nodes (← store)
  let cache ← pre st.cache (ns.map (·.id))
  announce ns.length
  visitClosures (fun n closure f => do
    (operationsIn (← store) closure).foldlM (reach n closure) f) ns ⟨st.findings, cache⟩

/-- The three passes that look, with closures asked for by `pre`. -/
def exploreBy (pre : ClosureCache → List NodeId → Work ClosureCache) (rules : Rules) (r : Resolver) :
    Work SolveState := do
  let st ← pass 2 "producers" <|
    passOver pre producers (fun n => note (.producersClosed n)) (producerReaches rules) {}
  let st ← pass 3 "windows" <|
    passOver pre Store.windows (fun _ => pure ()) (windowReaches rules r) st
  pass 4 "listener-objects" <|
    passOver pre (fun s => s.objects.filter fun n => r.isListenerType n.className)
      (fun n => note (.listenersFound n)) (listenerReaches r) st

/-- A solve, with closures asked for by `pre`. -/
def runBy (pre : ClosureCache → List NodeId → Work ClosureCache) (rules : Rules) (r : Resolver)
    (canceled : Bool) : Work Solution := do
  checkCanceled canceled
  pass 1 "prewire" prewire
  let st ← exploreBy pre rules r
  pass 5 "finalize" (finalize r st.findings)
  report st

theorem exploreBy_precompute (rules : Rules) (r : Resolver) :
    exploreBy precompute rules r = explore rules r := rfl

/-- A solve asks for one closure after the other. -/
theorem runBy_precompute (rules : Rules) (r : Resolver) (canceled : Bool) :
    runBy precompute rules r canceled = run rules r canceled := by
  rw [run_eq, runBy, exploreBy_precompute]

/-- Two outcomes of a step agree: the findings are the same, and the caches answer alike. -/
def Alongside (x y : EStateM.Result Fault Workspace SolveState) : Prop :=
  match x, y with
  | .ok st v, .ok st' v' => v = v' ∧ st.findings = st'.findings ∧ st.cache.Matches st'.cache
  | .error e v, .error e' v' => e = e' ∧ v = v'
  | _, _ => False

/-- A visit of nodes whose closures are cached does not depend on how the cache came about. -/
theorem visitClosures_alongside {closure : NodeId → NodeSet} (same : c.Matches c')
    (cached : ∀ n ∈ nodes, c'.find? n.id = some (closure n.id)) (w : Workspace) :
    Alongside (visitClosures visit nodes ⟨f, c⟩ w) (visitClosures visit nodes ⟨f, c'⟩ w) := by
  rw [visitClosures_of_cached cached,
    visitClosures_of_cached fun n there => (same.find? n.id).trans (cached n there)]
  cases ran : nodes.foldlM (fun f n => visit n (closure n.id) f) f w with
  | ok f' v =>
    rw [bind_of_ok ran, bind_of_ok ran]
    exact ⟨rfl, rfl, same.find?, same.size, congrArg (· + _) same.hits⟩
  | error e v =>
    rw [bind_of_error ran, bind_of_error ran]
    exact ⟨rfl, rfl⟩

/-- A pass does the same, whether workers ask for its closures or one after the other. -/
theorem passOver_alongside {nodes : Store → List Node} {announce : Nat → Work Unit}
    {reach : Node → NodeSet → Findings → OpNode → Work Findings} {st st' : SolveState}
    (workers : Int) (plan : Plan) (findings : st.findings = st'.findings)
    (same : st.cache.Matches st'.cache) (remembers : st'.cache.Remembers w.store)
    (distinct : ((nodes w.store).map (·.id)).Nodup) :
    Alongside (passOver (precomputeBy workers plan) nodes announce reach st w)
      (passOver precompute nodes announce reach st' w) := by
  obtain ⟨c₁, ran₁, filled₁⟩ :=
    precomputeBy_eq workers plan (same.remembers remembers) distinct
  obtain ⟨c₂, ran₂, filled₂⟩ := precompute_eq remembers distinct
  have filled := filled₁.matches same filled₂
  have notes : closureNotes st.cache ((nodes w.store).map (·.id)) =
      closureNotes st'.cache ((nodes w.store).map (·.id)) := by
    simp only [closureNotes, same.find?]
  have graph : (store : Work Store) w = .ok w.store w := rfl
  have cached : ∀ n ∈ nodes w.store, c₂.find? n.id = some (w.store.reachable n.id) := by
    intro n there
    rw [filled₂.find?, if_pos (.inr (List.mem_map_of_mem there))]
  rw [passOver, passOver, bind_of_ok graph, bind_of_ok graph, bind_of_ok ran₁, bind_of_ok ran₂,
    notes, findings]
  cases said : announce (nodes w.store).length { w with
      journal := closureNotes st'.cache ((nodes w.store).map (·.id)) ++ w.journal } with
  | ok a v =>
    rw [bind_of_ok said, bind_of_ok said]
    exact visitClosures_alongside filled cached v
  | error e v =>
    rw [bind_of_error said, bind_of_error said]
    exact ⟨rfl, rfl⟩

/-- What a pass makes of the outcome of its step. -/
theorem pass_eq {α : Type} (index : Nat) (name : String) (step : Work α) (w : Workspace) :
    pass index name step w =
      match step { w with journal := .passStarted index 5 name :: w.journal } with
      | .ok a v => .ok a { v with
          journal := .passFinished index 5 name :: .passEnded name :: v.journal }
      | .error e v =>
        .error (.within (.pass name) e) { v with journal := .passEnded name :: v.journal } := by
  have started : pass index name step w = _ := bind_of_ok (w := w) rfl
  cases ran : step { w with journal := .passStarted index 5 name :: w.journal } with
  | ok a v =>
    have outcome : attempt step { w with journal := .passStarted index 5 name :: w.journal } =
        .ok (.ok a) v := by
      unfold attempt
      rw [ran]
    rw [started, bind_of_ok outcome]
    rfl
  | error e v =>
    have outcome : attempt step { w with journal := .passStarted index 5 name :: w.journal } =
        .ok (.error e) v := by
      unfold attempt
      rw [ran]
    rw [started, bind_of_ok outcome]
    rfl

theorem Alongside.pass {step step' : Work SolveState} {index : Nat} {name : String}
    (along : Alongside (step { w with journal := .passStarted index 5 name :: w.journal })
      (step' { w with journal := .passStarted index 5 name :: w.journal })) :
    Alongside (pass index name step w) (pass index name step' w) := by
  rw [pass_eq, pass_eq]
  revert along
  cases step { w with journal := .passStarted index 5 name :: w.journal } with
  | ok st v =>
    cases step' { w with journal := .passStarted index 5 name :: w.journal } with
    | ok st' v' =>
      rintro ⟨rfl, same⟩
      exact ⟨rfl, same⟩
    | error => exact False.elim
  | error e v =>
    cases step' { w with journal := .passStarted index 5 name :: w.journal } with
    | ok => exact False.elim
    | error e' v' =>
      rintro ⟨rfl, rfl⟩
      exact ⟨rfl, rfl⟩

theorem Alongside.bind {first first' : Work SolveState} {next next' : SolveState → Work SolveState}
    (along : Alongside (first w) (first' w))
    (rest : ∀ st st' v, first' w = .ok st' v → st.findings = st'.findings →
      st.cache.Matches st'.cache → Alongside (next st v) (next' st' v)) :
    Alongside ((first >>= next) w) ((first' >>= next') w) := by
  cases ran : first w with
  | ok st v =>
    cases ran' : first' w with
    | ok st' v' =>
      rw [ran, ran'] at along
      obtain ⟨rfl, findings, same⟩ := along
      rw [bind_of_ok ran, bind_of_ok ran']
      exact rest st st' v ran' findings same
    | error => rw [ran, ran'] at along; cases along
  | error e v =>
    cases ran' : first' w with
    | ok => rw [ran, ran'] at along; cases along
    | error e' v' =>
      rw [ran, ran'] at along
      rw [bind_of_error ran, bind_of_error ran']
      exact along

theorem nodup_ids_filter (wf : s.WellFormed) (test : Node → Bool) :
    ((s.nodes.filter test).map (·.id)).Nodup :=
  wf.nodup_ids.sublist (List.filter_sublist.map _)

/-- Exploring a graph does the same, whoever asks for the closures: the graph stays as it is, so what
is cached stays right from pass to pass. -/
theorem exploreBy_alongside {rules : Rules} {r : Resolver} (wf : w.store.WellFormed) (workers : Int)
    (plan : Plan) :
    Alongside (exploreBy (precomputeBy workers plan) rules r w) (explore rules r w) := by
  refine Alongside.bind (.pass ?_) fun st₂ st₂' w₂ pass₂ findings₂ same₂ => ?_
  · exact passOver_alongside workers plan rfl (.refl _) remembers_empty (nodup_ids_filter wf _)
  obtain ⟨graph₂, knows₂⟩ := pass_looks (looks_producerPass wf knows_nothing) rfl pass₂
  refine Alongside.bind (.pass ?_) fun st₃ st₃' w₃ pass₃ findings₃ same₃ => ?_
  · refine passOver_alongside workers plan findings₂ same₂ ?_ ?_
    · exact graph₂ ▸ knows₂.cache
    · exact nodup_ids_filter (graph₂ ▸ wf) _
  obtain ⟨graph₃, knows₃⟩ := pass_looks (looks_windowPass wf knows₂) graph₂ pass₃
  refine .pass (passOver_alongside workers plan findings₃ same₃ ?_ ?_)
  · exact graph₃ ▸ knows₃.cache
  · show (((w₃.store.nodes.filter _).filter _).map _).Nodup
    rw [List.filter_filter]
    exact nodup_ids_filter (graph₃ ▸ wf) _

/-- A report depends on the findings, and on the size and the hits of the cache. -/
theorem report_congr {st st' : SolveState} (findings : st.findings = st'.findings)
    (same : st.cache.Matches st'.cache) : report st = report st' := by
  rw [report, report, findings, same.size, same.hits]

/-- A solve does the same, whoever asks for the closures. -/
theorem runBy_precomputeBy (wf : w.store.WellFormed) (workers : Int) (plan : Plan) (rules : Rules)
    (r : Resolver) (canceled : Bool) :
    runBy (precomputeBy workers plan) rules r canceled w = run rules r canceled w := by
  rw [run_eq, runBy]
  refine bind_congr_rest fun _ w₀ active => ?_
  obtain ⟨-, rfl⟩ := checkCanceled_eq_ok active
  refine bind_congr_rest fun _ w₁ prewired => ?_
  have graph := pass_prewire wf prewired
  have wf₁ : w₁.store.WellFormed := graph ▸ wf.prewired
  have along : Alongside (exploreBy (precomputeBy workers plan) rules r w₁) (explore rules r w₁) :=
    exploreBy_alongside wf₁ workers plan
  cases ran : exploreBy (precomputeBy workers plan) rules r w₁ with
  | ok st v =>
    cases ran' : explore rules r w₁ with
    | ok st' v' =>
      rw [ran, ran'] at along
      obtain ⟨rfl, findings, same⟩ := along
      rw [bind_of_ok ran, bind_of_ok ran', findings, report_congr findings same]
    | error => rw [ran, ran'] at along; cases along
  | error e v =>
    cases ran' : explore rules r w₁ with
    | ok => rw [ran, ran'] at along; cases along
    | error e' v' =>
      rw [ran, ran'] at along
      obtain ⟨rfl, rfl⟩ := along
      rw [bind_of_error ran, bind_of_error ran']

/-- A report says last how large the cache is and how often it was used. -/
theorem journal_of_report {st : SolveState} {sol : Solution} {w' : Workspace}
    (reported : report st w = .ok sol w') :
    w'.journal.head? = some (.cacheUsed st.cache.size st.cache.hits) := by
  obtain ⟨_, _, _, rest⟩ := bind_eq_ok reported
  obtain ⟨_, _, _, rest⟩ := bind_eq_ok rest
  obtain ⟨_, _, _, rest⟩ := bind_eq_ok rest
  obtain ⟨_, _, noted, answered⟩ := bind_eq_ok rest
  cases noted
  cases answered
  rfl

theorem journal_of_runBy {pre : ClosureCache → List NodeId → Work ClosureCache} {rules : Rules}
    {r : Resolver} {canceled : Bool} {sol : Solution} {w' : Workspace}
    (solved : runBy pre rules r canceled w = .ok sol w') :
    ∃ v st v', exploreBy pre rules r v = .ok st v' ∧
      w'.journal.head? = some (.cacheUsed st.cache.size st.cache.hits) := by
  obtain ⟨_, _, _, rest⟩ := bind_eq_ok solved
  obtain ⟨_, w₁, _, rest⟩ := bind_eq_ok rest
  obtain ⟨st, w₂, explored, rest⟩ := bind_eq_ok rest
  obtain ⟨_, _, _, reported⟩ := bind_eq_ok rest
  exact ⟨w₁, st, w₂, explored, journal_of_report reported⟩

end Solve

/-- However many workers fill a cache and whatever turns they take, the answers are the closures of
the graph, an entry stays as it is, and in the end the cache has what it had before and the closures
of the sources. If the sources are distinct, the closures that were missing have been computed once
each, and the hits are the sources that were not missing. So neither the workers nor their turns show
in what a solve does: its answer, its graph and its journal are the same. -/
theorem worker_independence :
    (∀ (s : Store) (c : ClosureCache) (sources : List NodeId) (workers : Int)
      (moves : List ClosureCache.Move), c.Remembers s →
      let p := (Pool.start c sources).run s workers moves
      (∀ q ∈ p.queries, ∀ set, q.stage = .answered set → set = s.reachable q.source) ∧
      (∀ more x set, p.cache.find? x = some set →
        (p.run s workers more).cache.find? x = some set) ∧
      (∃ more, (p.run s workers more).Finished) ∧
      (p.Finished →
        (∀ x, p.cache.find? x =
          if (c.find? x).isSome ∨ x ∈ sources then some (s.reachable x) else none) ∧
        (sources.Nodup → p.computed.Perm (sources.filter fun x => (c.find? x).isNone) ∧
          p.cache.hits = c.hits + sources.countP (fun x => (c.find? x).isSome) ∧
          p.cache.size = c.size + sources.countP fun x => (c.find? x).isNone))) ∧
    ∀ (qs : List StoreRequest) (w : Workspace), w.store = Store.empty.run qs →
      ∀ workers plan rules r canceled,
        Solve.runBy (precomputeBy workers plan) rules r canceled w =
          Solve.run rules r canceled w ∧
        ∀ sol w', Solve.runBy (precomputeBy workers plan) rules r canceled w = .ok sol w' →
          ∃ v st v', Solve.exploreBy (precomputeBy workers plan) rules r v = .ok st v' ∧
            w'.journal.head? = some (.cacheUsed st.cache.size st.cache.hits) := by
  refine ⟨fun s c sources workers moves remembers => ?_,
    fun qs w built workers plan rules r canceled => ⟨?_, fun _ _ => Solve.journal_of_runBy⟩⟩
  · intro p
    have sane : p.Sane s c sources := Pool.sane_run remembers sources workers moves
    refine ⟨fun q there set => sane.answer there, fun more x set cached => ?_, ?_,
      fun finished => ⟨sane.find?_of_finished finished, fun distinct => ?_⟩⟩
    · exact find?_run cached workers more
    · exact ⟨_, Pool.finished_completion s workers (Nat.le_refl _)⟩
    · obtain ⟨hits, size, computed⟩ :=
        (Pool.tally_run remembers distinct workers moves).of_finished sane finished
      exact ⟨computed, hits, size⟩
  · exact Solve.runBy_precomputeBy (built ▸ Store.wellFormed_run qs) workers plan rules r canceled

/-- A chain of four values. -/
def chain : Store := Store.empty.run
  [.internLocal ⟨"m", "a"⟩, .internLocal ⟨"m", "b"⟩, .internLocal ⟨"m", "c"⟩,
   .internLocal ⟨"m", "d"⟩, .addEdge 1 2 {}, .addEdge 2 3 {}, .addEdge 3 4 {}]

/-- The closure of the second value is known already. -/
def chainCache : ClosureCache := (({} : ClosureCache).reachable chain 2).2

/-- Two workers begin with the first two values; the second is done at once, so that a query of the
third value begins before the first value has been computed. -/
def chainMoves : List ClosureCache.Move :=
  [.begin, .step 0, .begin, .step 1, .begin, .step 2, .step 2, .step 0, .step 2, .step 0]

theorem worker_independence_chain :
    let p := (Pool.start chainCache [1, 2, 3]).run chain 2 chainMoves
    (∀ q ∈ p.queries, ∀ set, q.stage = .answered set → set = chain.reachable q.source) ∧
    (∀ x, p.cache.find? x =
      if (chainCache.find? x).isSome ∨ x ∈ [1, 2, 3] then some (chain.reachable x) else none) ∧
    p.computed.Perm [1, 3] ∧ p.cache.hits = 1 ∧ p.cache.size = 3 ∧
    ∃ sol w', Solve.runBy (precomputeBy 2 fun _ _ _ => chainMoves) {} Solve.lookupResolver false
        Solve.lookupWorkspace = .ok sol w' ∧
      Solve.run {} Solve.lookupResolver false Solve.lookupWorkspace = .ok sol w' := by
  obtain ⟨pool, solve⟩ := worker_independence
  have remembers : chainCache.Remembers chain := (ClosureCache.remembers_empty.reachable 2).2
  have finished : ((Pool.start chainCache [1, 2, 3]).run chain 2 chainMoves).Finished := by
    decide +kernel
  obtain ⟨answers, -, -, filled⟩ := pool chain chainCache [1, 2, 3] 2 chainMoves remembers
  obtain ⟨entries, once⟩ := filled finished
  obtain ⟨computed, hits, size⟩ := once (by decide)
  obtain ⟨sol, w', solved, -⟩ := Solve.lookup_solved
  obtain ⟨same, -⟩ := solve Solve.lookupRequests Solve.lookupWorkspace Solve.lookup_built 2
    (fun _ _ _ => chainMoves) {} Solve.lookupResolver false
  refine ⟨answers, entries, ?_, ?_, ?_, sol, w', same.trans solved, solved⟩
  · rwa [show ([1, 2, 3] : List NodeId).filter (fun x => (chainCache.find? x).isNone) = [1, 3] by
      decide +kernel] at computed
  · rw [hits]
    decide +kernel
  · rw [size]
    decide +kernel

/-- Two workers that ask for one source at the same time both miss it: hits are only independent of
the workers if the sources are distinct. -/
example :
    ((Pool.start {} [1, 1]).run chain 2 [.begin, .begin, .step 0, .step 1, .step 0, .step 1, .step 0,
      .step 1]).cache.hits = 0 ∧
    ((Pool.start {} [1, 1]).run chain 1 [.begin, .step 0, .step 0, .step 0, .begin, .step 0,
      .step 1]).cache.hits = 1 := by
  decide +kernel

end WidgetFlow
