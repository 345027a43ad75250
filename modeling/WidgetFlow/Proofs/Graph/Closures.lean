import WidgetFlow.Proofs.Graph.Flow

/-!
# Closures and paths

A path is a chain of edges, whatever nodes it passes; a cycle is a closed chain that leaves no node
twice. The closures of a node are said by paths: what a path of one or more edges leads to, and what
one comes from (`closures_exact`). Only a node on a cycle is in its own closure.

A closure can be collected by any search that meets the start and all that is linked to it. Such a
search says nothing about the start, which it meets in any case; so the start is left out at first,
and added again if something that was collected leads back to it (`walk`). What is collected in this
way is the closure, forwards and backwards.
-/

namespace WidgetFlow

/-- Sets that list the same numbers are equal. -/
theorem NodeSet.eq_of_mem_iff {s t : NodeSet} (left : s.ids.Pairwise (· < ·))
    (right : t.ids.Pairwise (· < ·)) (same : ∀ x, x ∈ s.ids ↔ x ∈ t.ids) : s = t := by
  have once {ids : List NodeId} (ascends : ids.Pairwise (· < ·)) : ids.Nodup :=
    ascends.imp fun {_ _} lt => Int.ne_of_lt lt
  have perm := (List.perm_ext_iff_of_nodup (once left) (once right)).2 same
  have equal := perm.eq_of_pairwise (fun a b _ _ ab ba => absurd ba (Int.lt_asymm ab)) left right
  cases s
  cases t
  exact congrArg NodeSet.mk equal

namespace Store

variable {s : Store}

/-! ### Paths -/

/-- The edges lead from one node to another, each from where the one before it leads to. -/
inductive Path (s : Store) : NodeId → List Edge → NodeId → Prop where
  | nil {x : NodeId} : Path s x [] x
  | cons {e : Edge} {es : List Edge} {y : NodeId} (there : e ∈ s.edges) (rest : Path s e.dst es y) :
      Path s e.src (e :: es) y

namespace Path

variable {x y z : NodeId} {e : Edge} {es later : List Edge}

theorem append (first : s.Path x es y) (second : s.Path y later z) : s.Path x (es ++ later) z := by
  induction first with
  | nil => exact second
  | cons there _ ih => exact .cons there (ih second)

theorem split (path : s.Path x (es ++ later) z) : ∃ y, s.Path x es y ∧ s.Path y later z := by
  induction es generalizing x with
  | nil => exact ⟨x, .nil, path⟩
  | cons e es ih =>
    cases path with
    | cons there rest =>
      obtain ⟨y, first, second⟩ := ih rest
      exact ⟨y, .cons there first, second⟩

/-- A path passes through the source of each of its edges. -/
theorem through (path : s.Path x (es ++ e :: later) z) :
    s.Path x es e.src ∧ s.Path e.src (e :: later) z := by
  obtain ⟨y, first, second⟩ := path.split
  cases second with
  | cons there rest => exact ⟨first, .cons there rest⟩

/-- Going in circles is not needed: a path can be made to leave no node twice, nor its end at all. -/
theorem exists_simple (path : s.Path x es y) :
    ∃ es', s.Path x es' y ∧ (es'.map (·.src)).Nodup ∧ y ∉ es'.map (·.src) := by
  induction path with
  | nil => exact ⟨[], .nil, List.nodup_nil, List.not_mem_nil⟩
  | @cons e es y there rest ih =>
    obtain ⟨es', path, once, apart⟩ := ih
    by_cases atEnd : e.src = y
    · subst atEnd
      exact ⟨[], .nil, List.nodup_nil, List.not_mem_nil⟩
    · by_cases again : e.src ∈ es'.map (·.src)
      · -- The path comes back to where it starts; what lies before is cut off.
        obtain ⟨e', listed, same⟩ := List.mem_map.1 again
        obtain ⟨before, after, rfl⟩ := List.append_of_mem listed
        rw [List.map_append, List.nodup_append] at once
        rw [List.map_append, List.mem_append, not_or] at apart
        exact ⟨e' :: after, same ▸ path.through.2, once.2.1, apart.2⟩
      · refine ⟨e :: es', .cons there path, List.nodup_cons.2 ⟨again, once⟩, ?_⟩
        rw [List.map_cons, List.mem_cons, not_or]
        exact ⟨fun same => atEnd same.symm, apart⟩

end Path

/-- The edges lead back to where they start, and leave no node twice. -/
structure Cycle (s : Store) (es : List Edge) : Prop where
  closed : ∃ x, s.Path x es x
  nonempty : es ≠ []
  once : (es.map (·.src)).Nodup

/-- A closed path of one or more edges leads from a node to itself exactly if a cycle leaves it. -/
theorem exists_closed_iff {x : NodeId} :
    (∃ es, es ≠ [] ∧ s.Path x es x) ↔ ∃ es, s.Cycle es ∧ x ∈ es.map (·.src) := by
  constructor
  · rintro ⟨es, nonempty, path⟩
    cases path with
    | nil => exact absurd rfl nonempty
    | @cons e _ _ there rest =>
      obtain ⟨es, path, once, apart⟩ := rest.exists_simple
      refine ⟨e :: es, ⟨⟨e.src, .cons there path⟩, List.cons_ne_nil e es, ?_⟩, List.mem_cons_self⟩
      exact List.nodup_cons.2 ⟨apart, once⟩
  · rintro ⟨es, ⟨⟨y, path⟩, -, -⟩, left⟩
    obtain ⟨e, listed, rfl⟩ := List.mem_map.1 left
    obtain ⟨before, after, rfl⟩ := List.append_of_mem listed
    obtain ⟨first, second⟩ := path.through
    exact ⟨e :: after ++ before, by simp, second.append first⟩

/-! ### Closures -/

theorem WellFormed.linked_of_path (wf : s.WellFormed) {x y : NodeId} {es : List Edge}
    (path : s.Path x es y) : es = [] ∧ x = y ∨ Linked s.targets x y := by
  induction path with
  | nil => exact .inl ⟨rfl, rfl⟩
  | @cons e es y there rest ih =>
    have near : e.dst ∈ s.targets e.src := wf.mem_targets_iff_exists_edge.2 ⟨e, there, rfl, rfl⟩
    rcases ih with ⟨-, rfl⟩ | linked
    · exact .inr (.step near)
    · exact .inr ((Linked.step near).append linked)

/-- Nodes are linked exactly by the paths of one or more edges. -/
theorem WellFormed.linked_iff (wf : s.WellFormed) {x y : NodeId} :
    Linked s.targets x y ↔ ∃ es, es ≠ [] ∧ s.Path x es y := by
  constructor
  · intro linked
    induction linked with
    | step near =>
      obtain ⟨e, there, rfl, rfl⟩ := wf.mem_targets_iff_exists_edge.1 near
      exact ⟨[e], List.cons_ne_nil e [], .cons there .nil⟩
    | trans _ near ih =>
      obtain ⟨es, -, path⟩ := ih
      obtain ⟨e, there, rfl, rfl⟩ := wf.mem_targets_iff_exists_edge.1 near
      exact ⟨es ++ [e], by simp, path.append (.cons there .nil)⟩
  · rintro ⟨es, nonempty, path⟩
    exact (wf.linked_of_path path).resolve_left fun h => nonempty h.1

theorem WellFormed.mem_sources_iff_mem_targets (wf : s.WellFormed) {x y : NodeId} :
    x ∈ s.sources y ↔ y ∈ s.targets x :=
  wf.mem_sources_iff.trans wf.mem_targets_iff_exists_edge.symm

theorem WellFormed.linked_sources_iff (wf : s.WellFormed) {x y : NodeId} :
    Linked s.sources y x ↔ Linked s.targets x y :=
  ⟨.reverse fun _ _ => wf.mem_sources_iff_mem_targets.1,
    .reverse fun _ _ => wf.mem_sources_iff_mem_targets.2⟩

/-- What is linked exists at both ends. -/
theorem WellFormed.isSome_of_linked (wf : s.WellFormed) {x y : NodeId}
    (linked : Linked s.targets x y) : (s.node? x).isSome ∧ (s.node? y).isSome := by
  constructor
  · obtain ⟨es, nonempty, path⟩ := wf.linked_iff.1 linked
    cases path with
    | nil => exact absurd rfl nonempty
    | cons there => exact (wf.hasEnds there).1
  · cases linked with
    | step near => exact wf.isSome_of_mem_targets near
    | trans _ near => exact wf.isSome_of_mem_targets near

/-- A node that does not exist has empty closures. -/
theorem WellFormed.closures_eq_empty (wf : s.WellFormed) {id : NodeId} (unknown : s.node? id = none) :
    s.reachable id = .empty ∧ s.reaching id = .empty := by
  have absent : ¬ (s.node? id).isSome := by simp [unknown]
  refine ⟨NodeSet.eq_of_mem_iff (NodeSet.pairwise_ofList _) .nil fun x => ?_,
    NodeSet.eq_of_mem_iff (NodeSet.pairwise_ofList _) .nil fun x => ?_⟩
  · refine iff_of_false (fun there => absent ?_) List.not_mem_nil
    exact (wf.isSome_of_linked (wf.mem_reachable_iff.1 there)).1
  · refine iff_of_false (fun there => absent ?_) List.not_mem_nil
    exact (wf.isSome_of_linked (wf.linked_sources_iff.1 (wf.mem_reaching_iff.1 there))).2

/-! ### Collecting a closure -/

/-- The search meets the start and all that is linked to it, as long as the links stay in the graph. -/
def Visits (s : Store) (visit : (NodeId → List NodeId) → NodeId → List NodeId) : Prop :=
  ∀ next, (∀ a, ∀ b ∈ next a, (s.node? b).isSome) → ∀ x, (s.node? x).isSome → ∀ y,
    y ∈ visit next x ↔ y = x ∨ Linked next x y

theorem WellFormed.visits_breadthFirst (wf : s.WellFormed) :
    s.Visits fun next x => breadthFirst next (s.size + 1) [x] [x] := by
  intro next inside x _ y
  refine mem_breadthFirst_iff (fun a b near => wf.mem_ids (inside a b near)) ?_
  rw [wf.numbered, List.length_map, List.length_range]
  exact Nat.lt_succ_self _

/-- Collects what the search meets, but not the start; the start is added if it, or something that was
collected, leads back to it. -/
def walk (s : Store) (visit : (NodeId → List NodeId) → NodeId → List NodeId)
    (next prev : NodeId → List NodeId) (start : NodeId) : NodeSet :=
  if (s.node? start).isSome then
    let out := NodeSet.ofList ((visit next start).filter (· ≠ start))
    if (prev start).any fun p => p = start || out.has p then out.insert start else out
  else .empty

/-- What leads back to a node is the node itself, or something else that is linked to it. -/
theorem linked_self_iff {next prev : NodeId → List NodeId}
    (mirrored : ∀ a b, a ∈ prev b ↔ b ∈ next a) {x : NodeId} :
    Linked next x x ↔ ∃ p ∈ prev x, p = x ∨ p ≠ x ∧ Linked next x p := by
  constructor
  · intro linked
    cases linked with
    | step near => exact ⟨x, (mirrored _ _).2 near, .inl rfl⟩
    | trans linked near =>
      rename_i p
      refine ⟨p, (mirrored _ _).2 near, ?_⟩
      by_cases same : p = x
      · exact .inl same
      · exact .inr ⟨same, linked⟩
  · rintro ⟨p, back, rfl | ⟨-, linked⟩⟩
    · exact .step ((mirrored _ _).1 back)
    · exact .trans linked ((mirrored _ _).1 back)

theorem mem_walk_iff {visit : (NodeId → List NodeId) → NodeId → List NodeId} (visits : s.Visits visit)
    {next prev : NodeId → List NodeId} (inside : ∀ a, ∀ b ∈ next a, (s.node? b).isSome)
    (mirrored : ∀ a b, a ∈ prev b ↔ b ∈ next a) {x y : NodeId} (known : (s.node? x).isSome) :
    y ∈ (s.walk visit next prev x).ids ↔ Linked next x y := by
  have collected (p : NodeId) : p ∈ (NodeSet.ofList ((visit next x).filter (· ≠ x))).ids ↔
      p ≠ x ∧ Linked next x p := by
    simp only [NodeSet.mem_ofList, List.mem_filter, visits next inside x known, decide_eq_true_eq]
    constructor
    · rintro ⟨same | linked, other⟩
      · exact absurd same other
      · exact ⟨other, linked⟩
    · rintro ⟨other, linked⟩
      exact ⟨.inr linked, other⟩
  have back : ((prev x).any fun p => p = x ||
      (NodeSet.ofList ((visit next x).filter (· ≠ x))).has p) = true ↔ Linked next x x := by
    rw [linked_self_iff mirrored]
    simp only [List.any_eq_true, Bool.or_eq_true, decide_eq_true_eq, NodeSet.has_iff, collected]
  simp only [walk, known, if_true]
  by_cases cyclic : Linked next x x
  · rw [if_pos (back.2 cyclic), NodeSet.mem_insert, collected]
    constructor
    · rintro (rfl | ⟨-, linked⟩)
      · exact cyclic
      · exact linked
    · intro linked
      by_cases same : y = x
      · exact .inl same
      · exact .inr ⟨same, linked⟩
  · rw [if_neg fun h => cyclic (back.1 h), collected]
    refine and_iff_right_of_imp fun linked same => cyclic ?_
    rwa [same] at linked

theorem pairwise_walk (s : Store) (visit : (NodeId → List NodeId) → NodeId → List NodeId)
    (next prev : NodeId → List NodeId) (x : NodeId) :
    (s.walk visit next prev x).ids.Pairwise (· < ·) := by
  unfold walk
  split
  · dsimp only
    split
    · exact NodeSet.pairwise_insertAscending (NodeSet.pairwise_ofList _)
    · exact NodeSet.pairwise_ofList _
  · exact .nil

/-- Walks collect the closures. -/
theorem WellFormed.walk_eq (wf : s.WellFormed)
    {visit : (NodeId → List NodeId) → NodeId → List NodeId} (visits : s.Visits visit) (x : NodeId) :
    s.walk visit s.targets s.sources x = s.reachable x ∧
      s.walk visit s.sources s.targets x = s.reaching x := by
  by_cases known : (s.node? x).isSome
  · refine ⟨NodeSet.eq_of_mem_iff (pairwise_walk ..) (NodeSet.pairwise_ofList _) fun y => ?_,
      NodeSet.eq_of_mem_iff (pairwise_walk ..) (NodeSet.pairwise_ofList _) fun y => ?_⟩
    · rw [mem_walk_iff visits (fun _ _ => wf.isSome_of_mem_targets)
        (fun _ _ => wf.mem_sources_iff_mem_targets) known, wf.mem_reachable_iff]
    · have inside (a b : NodeId) (near : b ∈ s.sources a) : (s.node? b).isSome := by
        obtain ⟨e, there, rfl, rfl⟩ := wf.mem_sources_iff.1 near
        exact (wf.hasEnds there).1
      rw [mem_walk_iff visits inside (fun _ _ => wf.mem_sources_iff_mem_targets.symm) known,
        wf.mem_reaching_iff]
  · have unknown : s.node? x = none := by simpa using known
    obtain ⟨forward, backward⟩ := wf.closures_eq_empty unknown
    simp only [walk, if_neg known, forward, backward, and_self]

/-- The result of an operation is what its only edge leads to. -/
theorem WellFormed.result_mem_targets (wf : s.WellFormed) {op v : NodeId}
    (operand : s.operand op .result = .ok v) (given : v ≠ 0) : v ∈ s.targets op := by
  obtain ⟨o, there, declared⟩ := operand_eq_ok operand
  obtain ⟨i, wired⟩ := wf.wired there
  obtain rfl : i.result = v := Except.ok.inj ((wired.operand there declared).symm.trans operand)
  rw [mem_targets_iff, wired.succs, resultEdges, if_pos given]
  exact ⟨_, List.mem_singleton_self _, rfl⟩

/-- The closures of a node, as they are collected by any search that meets all that is linked to its
start: the forward closure has the nodes that a path of one or more edges leads to, and the backward
closure those that one comes from, so each is the other from the far end. A node is in its own closures
exactly if it lies on a cycle; operations are passed like all nodes, in at the operands and out at the
result; and a node that does not exist has empty closures. -/
theorem closures_exact (qs : List StoreRequest)
    {visit : (NodeId → List NodeId) → NodeId → List NodeId} (visits : (empty.run qs).Visits visit) :
    let s := empty.run qs
    let forward := s.walk visit s.targets s.sources
    let backward := s.walk visit s.sources s.targets
    (∀ n, forward n = s.reachable n ∧ backward n = s.reaching n) ∧
    (∀ n m, m ∈ (forward n).ids ↔ ∃ es, es ≠ [] ∧ s.Path n es m) ∧
    (∀ n m, m ∈ (backward n).ids ↔ ∃ es, es ≠ [] ∧ s.Path m es n) ∧
    (∀ n m, m ∈ (forward n).ids ↔ n ∈ (backward m).ids) ∧
    (∀ n, n ∈ (forward n).ids ↔ ∃ es, s.Cycle es ∧ n ∈ es.map (·.src)) ∧
    (∀ n, n ∈ (backward n).ids ↔ ∃ es, s.Cycle es ∧ n ∈ es.map (·.src)) ∧
    (∀ op role v, s.operand op role = .ok v → v ≠ 0 →
      if role = .result then v ∈ (forward op).ids ∧ op ∈ (backward v).ids
      else op ∈ (forward v).ids ∧ v ∈ (backward op).ids) ∧
    ∀ n, s.node? n = none → forward n = .empty ∧ backward n = .empty := by
  intro s forward backward
  have wf : s.WellFormed := wellFormed_run qs
  have ahead (n : NodeId) : forward n = s.reachable n := (wf.walk_eq visits n).1
  have back (n : NodeId) : backward n = s.reaching n := (wf.walk_eq visits n).2
  have leadsTo (n m : NodeId) : m ∈ (forward n).ids ↔ Linked s.targets n m := by
    rw [ahead, wf.mem_reachable_iff]
  have comesFrom (n m : NodeId) : m ∈ (backward n).ids ↔ Linked s.targets m n := by
    rw [back, wf.mem_reaching_iff, wf.linked_sources_iff]
  refine ⟨fun n => ⟨ahead n, back n⟩, fun n m => (leadsTo n m).trans wf.linked_iff,
    fun n m => (comesFrom n m).trans wf.linked_iff,
    fun n m => (leadsTo n m).trans (comesFrom m n).symm,
    fun n => ((leadsTo n n).trans wf.linked_iff).trans exists_closed_iff,
    fun n => ((comesFrom n n).trans wf.linked_iff).trans exists_closed_iff,
    fun op role v operand given => ?_, fun n unknown => ?_⟩
  · split
    case isTrue result =>
      subst result
      have linked : Linked s.targets op v := .step (wf.result_mem_targets operand given)
      exact ⟨(leadsTo op v).2 linked, (comesFrom v op).2 linked⟩
    case isFalse input =>
      have linked : Linked s.targets v op := .step (wf.operand operand input).2
      exact ⟨(leadsTo v op).2 linked, (comesFrom op v).2 linked⟩
  · rw [ahead, back]
    exact wf.closures_eq_empty unknown

/-- Two slots that flow into each other and one that flows into itself, searched breadth first. -/
theorem closures_exact_breadthFirst :
    let slot (name : String) : StoreRequest := .internLocal ⟨"m", name⟩
    let qs : List StoreRequest :=
      [slot "a", slot "b", slot "c", .addEdge 1 2 {}, .addEdge 2 1 {}, .addEdge 3 3 {}]
    let s := empty.run qs
    let visit := fun next x => breadthFirst next (s.size + 1) [x] [x]
    s.Visits visit ∧ (s.walk visit s.targets s.sources 1).ids = [1, 2] ∧
      (s.walk visit s.sources s.targets 3).ids = [3] ∧ s.walk visit s.targets s.sources 4 = .empty ∧
      (∃ es, s.Cycle es ∧ 1 ∈ es.map (·.src)) ∧ ∃ es, s.Cycle es ∧ 3 ∈ es.map (·.src) := by
  intro slot qs s visit
  have visits : s.Visits visit := (wellFormed_run qs).visits_breadthFirst
  obtain ⟨-, -, -, -, onCycle, onCycleBack, -, unknown⟩ := closures_exact qs visits
  have pair : (s.walk visit s.targets s.sources 1).ids = [1, 2] := by decide
  have loop : (s.walk visit s.sources s.targets 3).ids = [3] := by decide
  exact ⟨visits, pair, loop, (unknown 4 rfl).1, (onCycle 1).1 (pair ▸ by decide),
    (onCycleBack 3).1 (loop ▸ by decide)⟩

end Store

end WidgetFlow
