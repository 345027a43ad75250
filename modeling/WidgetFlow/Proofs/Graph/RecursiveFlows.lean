import Mathlib.Data.List.Sort
import WidgetFlow.Graph.Cycle
import WidgetFlow.Proofs.Component
import WidgetFlow.Proofs.Graph.Closures

/-!
# Recursive flows are the strongly connected components

The nodes of a recursive flow are joined by paths in both directions, and nothing else is. The search
for them follows the distinct neighbours of the nodes; what it finds is put in order, so that the answer
depends on the paths of the graph only (`Store.WellFormed.mem_componentsWithin_iff`), not on how deep
visits may be nested as long as there are as many as nodes.
-/

namespace WidgetFlow

namespace Store

variable {s : Store}

/-- Two or more nodes in ascending order, and with each of them all nodes that paths lead to and lead
back from. -/
structure Recursive (s : Store) (c : List NodeId) : Prop where
  ascending : c.Pairwise (· < ·)
  several : 1 < c.length
  joined : ∀ x ∈ c, ∀ y, y ∈ c ↔ (∃ es, s.Path x es y) ∧ ∃ es, s.Path y es x

theorem WellFormed.leads_iff (wf : s.WellFormed) {x y : NodeId} :
    Leads s.targets x y ↔ ∃ es, s.Path x es y := by
  rw [WidgetFlow.leads_iff]
  constructor
  · rintro (rfl | linked)
    · exact ⟨[], .nil⟩
    · obtain ⟨es, -, path⟩ := wf.linked_iff.1 linked
      exact ⟨es, path⟩
  · rintro ⟨es, path⟩
    exact (wf.linked_of_path path).imp_left And.right

theorem WellFormed.mutual_iff (wf : s.WellFormed) {x y : NodeId} :
    Mutual s.targets x y ↔ (∃ es, s.Path x es y) ∧ ∃ es, s.Path y es x :=
  and_congr wf.leads_iff wf.leads_iff

/-- Different nodes that lead to each other exist. -/
theorem WellFormed.mem_ids_of_mutual (wf : s.WellFormed) {x y : NodeId}
    (both : Mutual s.targets x y) (other : y ≠ x) : x ∈ s.nodes.map (·.id) := by
  apply wf.mem_ids
  have linked := (WidgetFlow.leads_iff.1 both.1).resolve_left (Ne.symm other)
  exact (wf.isSome_of_linked linked).1

/-- The search starts from every node, and there are as many nodes as the graph is large. -/
theorem WellFormed.search_exact (wf : s.WellFormed) {depth : Nat} (enough : s.size ≤ depth) :
    let found := DepthFirst.search s.targets depth (s.nodes.map (·.id))
    (∀ c ∈ found, Component s.targets c) ∧
      (∀ x ∈ s.nodes.map (·.id), ∀ y, y ≠ x → Mutual s.targets x y → ∃ c ∈ found, x ∈ c) ∧
      found.Pairwise List.Disjoint := by
  apply DepthFirst.search_exact
  · intro x y near
    exact wf.mem_ids (wf.isSome_of_mem_targets near)
  · rwa [wf.numbered, List.length_map, List.length_range]

/-- A component of the search, put in order. -/
theorem WellFormed.recursive_ofList (wf : s.WellFormed) {c : List NodeId}
    (component : Component s.targets c) : s.Recursive (NodeSet.ofList c).ids where
  ascending := NodeSet.pairwise_ofList c
  several := Nat.lt_of_lt_of_le component.several
    (component.once.length_le_of_subset fun _ => NodeSet.mem_ofList.2)
  joined x there y := by
    rw [NodeSet.mem_ofList] at there ⊢
    exact (component.joined x there y).trans wf.mutual_iff

namespace Recursive

variable {c d : List NodeId}

theorem nodup (recursive : s.Recursive c) : c.Nodup :=
  recursive.ascending.imp fun lt => Int.ne_of_lt lt

/-- A node is not alone. -/
theorem exists_other (recursive : s.Recursive c) (x : NodeId) : ∃ y ∈ c, y ≠ x := by
  by_contra none
  have alone : c ⊆ [x] := fun y there => by
    by_contra other
    exact none ⟨y, there, fun same => other (List.mem_singleton.2 same)⟩
  exact absurd (recursive.nodup.length_le_of_subset alone) (Nat.not_le.2 recursive.several)

/-- Lists that share a node are equal. -/
theorem eq_of_mem (left : s.Recursive c) (right : s.Recursive d) {x : NodeId} (there : x ∈ c)
    (also : x ∈ d) : c = d :=
  congrArg NodeSet.ids <| NodeSet.eq_of_mem_iff (s := ⟨c⟩) (t := ⟨d⟩) left.ascending right.ascending
    fun y => (left.joined x there y).trans (right.joined x also y).symm

theorem headD_mem (recursive : s.Recursive c) : c.headD 0 ∈ c := by
  cases c with
  | nil => exact absurd recursive.several (Nat.not_lt_zero 1)
  | cons x c => exact List.mem_cons_self

/-- The first node is the smallest. -/
theorem headD_le (recursive : s.Recursive c) {x : NodeId} (there : x ∈ c) : c.headD 0 ≤ x := by
  cases c with
  | nil => cases there
  | cons y c =>
    rcases List.mem_cons.1 there with rfl | there
    · exact Int.le_refl _
    · exact Int.le_of_lt ((List.pairwise_cons.1 recursive.ascending).1 x there)

end Recursive

theorem WellFormed.recursive_of_mem (wf : s.WellFormed) {depth : Nat} (enough : s.size ≤ depth)
    {c : List NodeId} (found : c ∈ s.componentsWithin depth) : s.Recursive c := by
  obtain ⟨sound, -⟩ := wf.search_exact enough
  rw [componentsWithin, List.mem_mergeSort, List.mem_map] at found
  obtain ⟨c, found, rfl⟩ := found
  exact wf.recursive_ofList (sound c found)

/-- A node that leads to another one and back is in a component. -/
theorem WellFormed.exists_component (wf : s.WellFormed) {depth : Nat} (enough : s.size ≤ depth)
    {x y : NodeId} (other : y ≠ x) (both : Mutual s.targets x y) :
    ∃ c ∈ s.componentsWithin depth, x ∈ c := by
  obtain ⟨-, complete, -⟩ := wf.search_exact enough
  obtain ⟨c, found, there⟩ := complete x (wf.mem_ids_of_mutual both other) y other both
  refine ⟨(NodeSet.ofList c).ids, ?_, NodeSet.mem_ofList.2 there⟩
  rw [componentsWithin, List.mem_mergeSort]
  exact List.mem_map_of_mem found

/-- What the search finds is exact, whatever order it finds it in. -/
theorem WellFormed.mem_componentsWithin_iff (wf : s.WellFormed) {depth : Nat}
    (enough : s.size ≤ depth) {c : List NodeId} : c ∈ s.componentsWithin depth ↔ s.Recursive c := by
  constructor
  · exact wf.recursive_of_mem enough
  · intro recursive
    obtain ⟨y, there, other⟩ := recursive.exists_other (c.headD 0)
    have both := (recursive.joined _ recursive.headD_mem y).1 there
    obtain ⟨d, found, also⟩ := wf.exists_component enough other (wf.mutual_iff.2 both)
    rwa [← (wf.recursive_of_mem enough found).eq_of_mem recursive also recursive.headD_mem]

theorem WellFormed.nodup_componentsWithin (wf : s.WellFormed) {depth : Nat}
    (enough : s.size ≤ depth) : (s.componentsWithin depth).Nodup := by
  obtain ⟨sound, -, apart⟩ := wf.search_exact enough
  rw [componentsWithin, (List.mergeSort_perm _ _).nodup_iff, List.Nodup, List.pairwise_map]
  refine apart.imp_of_mem fun {c d} found _ disjoint same => ?_
  have there : (NodeSet.ofList c).ids.headD 0 ∈ (NodeSet.ofList c).ids :=
    (wf.recursive_ofList (sound c found)).headD_mem
  exact disjoint (NodeSet.mem_ofList.1 there) (NodeSet.mem_ofList.1 (same ▸ there))

/-- The components come in the order of their smallest nodes. -/
theorem WellFormed.pairwise_componentsWithin (wf : s.WellFormed) {depth : Nat}
    (enough : s.size ≤ depth) :
    (s.componentsWithin depth).Pairwise fun c d => c.headD 0 < d.headD 0 := by
  have ascends : (s.componentsWithin depth).Pairwise fun c d => c.headD 0 ≤ d.headD 0 := by
    refine (List.pairwise_mergeSort (fun c d e cd de => ?_) (fun c d => ?_) _).imp of_decide_eq_true
    · simp only [decide_eq_true_eq] at cd de ⊢
      exact Int.le_trans cd de
    · simp only [Bool.or_eq_true, decide_eq_true_eq]
      exact Int.le_total _ _
  refine (ascends.and (wf.nodup_componentsWithin enough)).imp_of_mem fun {c d} left right h => ?_
  have leftRecursive := (wf.mem_componentsWithin_iff enough).1 left
  have rightRecursive := (wf.mem_componentsWithin_iff enough).1 right
  apply lt_of_le_of_ne h.1
  -- Components with the same smallest node are the same.
  intro same
  apply h.2
  exact leftRecursive.eq_of_mem rightRecursive leftRecursive.headD_mem
    (same ▸ rightRecursive.headD_mem)

/-- The order leaves no choice, so visits need not be nested deeper than there are nodes. -/
theorem WellFormed.componentsWithin_eq (wf : s.WellFormed) {depth : Nat} (enough : s.size ≤ depth) :
    s.componentsWithin depth = s.components := by
  have least : s.size ≤ s.size := Nat.le_refl _
  have perm : (s.componentsWithin depth).Perm s.components := by
    refine (List.perm_ext_iff_of_nodup (wf.nodup_componentsWithin enough)
      (wf.nodup_componentsWithin least)).2 fun c => ?_
    exact (wf.mem_componentsWithin_iff enough).trans (wf.mem_componentsWithin_iff least).symm
  exact perm.eq_of_pairwise (fun c d _ _ cd dc => absurd dc (Int.lt_asymm cd))
    (wf.pairwise_componentsWithin enough) (wf.pairwise_componentsWithin least)

theorem WellFormed.exists_flow_iff (wf : s.WellFormed) {c : List NodeId} :
    (∃ f ∈ s.recursiveFlows, f.nodes = c) ↔ s.Recursive c := by
  rw [← wf.mem_componentsWithin_iff (Nat.le_refl _)]
  simp [recursiveFlows, components]

theorem Path.eq_of_nil {x y : NodeId} (path : s.Path x [] y) : x = y := by
  cases path with
  | nil => rfl

/-- A path to another node leaves the node where it starts for good at some edge. -/
theorem Path.exists_leaving {x y : NodeId} {es : List Edge} (path : s.Path x es y) (other : x ≠ y) :
    ∃ e ∈ s.edges, e.src = x ∧ e.dst ≠ x ∧ ∃ later, s.Path e.dst later y := by
  induction path with
  | nil => exact absurd rfl other
  | @cons e es y there rest ih =>
    by_cases loop : e.dst = e.src
    · rw [loop] at ih
      exact ih other
    · exact ⟨e, there, rfl, loop, es, rest⟩

/-- A node that is not alone lies on a cycle of more than one edge. -/
theorem Recursive.exists_cycle {c : List NodeId} (recursive : s.Recursive c) {x : NodeId}
    (there : x ∈ c) : ∃ es, s.Cycle es ∧ x ∈ es.map (·.src) ∧ ∀ e, es ≠ [e] := by
  obtain ⟨y, also, other⟩ := recursive.exists_other x
  obtain ⟨⟨out, away⟩, back, home⟩ := (recursive.joined x there y).1 also
  obtain ⟨e, inStore, rfl, leaves, later, onward⟩ := away.exists_leaving (Ne.symm other)
  obtain ⟨es, path, once, apart⟩ := (onward.append home).exists_simple
  refine ⟨e :: es, ⟨⟨e.src, .cons inStore path⟩, List.cons_ne_nil e es, ?_⟩, List.mem_cons_self, ?_⟩
  · exact List.nodup_cons.2 ⟨apart, once⟩
  · intro e' alone
    obtain ⟨rfl, rfl⟩ := List.cons.inj alone
    exact leaves path.eq_of_nil

/-- The recursive flows of a graph are its strongly connected components with two or more nodes. The
search ends: nesting visits deeper than there are nodes finds nothing else. Different nodes are in the
same flow exactly if paths lead from each to the other; no node is in two flows; flows list their nodes
in ascending order, with their labels, and come in the order of their smallest nodes. A node with no
cycles but single edges is in no flow. -/
theorem recursiveFlows_exact (qs : List StoreRequest) :
    let s := empty.run qs
    let flows := s.recursiveFlows
    (∀ depth, s.size ≤ depth → s.componentsWithin depth = s.components) ∧
    (∀ c, (∃ f ∈ flows, f.nodes = c) ↔ s.Recursive c) ∧
    (∀ x y, x ≠ y → ((∃ f ∈ flows, x ∈ f.nodes ∧ y ∈ f.nodes) ↔
      (∃ es, s.Path x es y) ∧ ∃ es, s.Path y es x)) ∧
    (∀ f ∈ flows, ∀ g ∈ flows, ∀ x, x ∈ f.nodes → x ∈ g.nodes → f = g) ∧
    (∀ f ∈ flows, 1 < f.nodes.length ∧ f.nodes.Pairwise (· < ·) ∧ f.labels = f.nodes.map s.label) ∧
    flows.Pairwise (fun f g => ∃ x ∈ f.nodes, ∀ y ∈ g.nodes, x < y) ∧
    ∀ x, (∀ es, s.Cycle es → x ∈ es.map (·.src) → ∃ e, es = [e]) → ∀ f ∈ flows, x ∉ f.nodes := by
  intro s flows
  have wf : s.WellFormed := wellFormed_run qs
  have recursive {f : RecursiveFlow} (reported : f ∈ flows) : s.Recursive f.nodes :=
    wf.exists_flow_iff.1 ⟨f, reported, rfl⟩
  have shape {f : RecursiveFlow} (reported : f ∈ flows) : f = ⟨f.nodes, f.nodes.map s.label⟩ := by
    obtain ⟨c, -, rfl⟩ := List.mem_map.1 reported
    rfl
  refine ⟨fun depth enough => wf.componentsWithin_eq enough, fun c => wf.exists_flow_iff,
    fun x y other => ?_, fun f left g right x there also => ?_, fun f reported => ?_, ?_,
    fun x loops f reported there => ?_⟩
  · constructor
    · rintro ⟨f, reported, there, also⟩
      exact ((recursive reported).joined x there y).1 also
    · intro both
      obtain ⟨c, found, there⟩ :=
        wf.exists_component (Nat.le_refl _) (Ne.symm other) (wf.mutual_iff.2 both)
      have component := wf.recursive_of_mem (Nat.le_refl _) found
      exact ⟨⟨c, c.map s.label⟩, List.mem_map_of_mem found, there, (component.joined x there y).2 both⟩
  · have same : f.nodes = g.nodes := (recursive left).eq_of_mem (recursive right) there also
    rw [shape left, shape right, same]
  · exact ⟨(recursive reported).several, (recursive reported).ascending,
      congrArg RecursiveFlow.labels (shape reported)⟩
  · rw [show flows = s.components.map fun c => ⟨c, c.map s.label⟩ from rfl, List.pairwise_map]
    refine (wf.pairwise_componentsWithin (Nat.le_refl _)).imp_of_mem fun {c d} left right lt => ?_
    have first := (wf.mem_componentsWithin_iff (Nat.le_refl _)).1 left
    have second := (wf.mem_componentsWithin_iff (Nat.le_refl _)).1 right
    exact ⟨c.headD 0, first.headD_mem, fun y there => Int.lt_of_lt_of_le lt (second.headD_le there)⟩
  · obtain ⟨es, cycle, left, long⟩ := (recursive reported).exists_cycle there
    obtain ⟨e, single⟩ := loops es cycle left
    exact long e single

/-- Two slots that flow into each other, and on into one that flows into itself only. -/
theorem recursiveFlows_exact_loop :
    let slot (name : String) : StoreRequest := .internLocal ⟨"m", name⟩
    let qs : List StoreRequest := [slot "a", slot "b", slot "c",
      .addEdge 2 3 {}, .addEdge 1 2 {}, .addEdge 3 3 {}, .addEdge 2 1 {}]
    let s := empty.run qs
    s.recursiveFlows.map (·.nodes) = [[1, 2]] ∧ s.componentsWithin 9 = s.components ∧
      (∃ f ∈ s.recursiveFlows, f.nodes = [1, 2] ∧ f.labels = [s.label 1, s.label 2]) ∧
      (∃ es, s.Path 1 es 2) ∧ ∃ es, s.Path 2 es 1 := by
  intro slot qs s
  have reported : s.recursiveFlows.map (·.nodes) = [[1, 2]] := by decide +kernel
  obtain ⟨f, listed, nodes⟩ : ∃ f ∈ s.recursiveFlows, f.nodes = [1, 2] :=
    List.mem_map.1 (reported ▸ List.mem_singleton_self _)
  obtain ⟨deeper, -, together, -, shape, -⟩ := recursiveFlows_exact qs
  have labels := (shape f listed).2.2
  rw [nodes] at labels
  refine ⟨reported, deeper 9 (by decide), ⟨f, listed, nodes, labels⟩, ?_⟩
  exact (together 1 2 (by decide)).1 ⟨f, listed, by simp [nodes], by simp [nodes]⟩

end Store

end WidgetFlow
