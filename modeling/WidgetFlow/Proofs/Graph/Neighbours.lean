import Mathlib.Data.List.Basic
import Mathlib.Tactic.TFAE
import WidgetFlow.Proofs.Graph.Closures

/-!
# Neighbours in the plain graph

An edge is listed at both of its ends, and the plain graph reads the targets of a node off one list
and the sources of a node off the other, dropping the repetitions of parallel edges. In a
well-formed store the two lists have the same edges, so that both directions, and every way of
asking for an edge, tell the same (`Store.WellFormed.tfae_adjacency`).
-/

namespace WidgetFlow

/-- Without repetitions, elements stand in the order of their first places. -/
theorem pairwise_distinct {α : Type} [DecidableEq α] (l : List α) :
    (distinct l).Pairwise fun x y => l.idxOf x < l.idxOf y := by
  induction l with
  | nil => exact .nil
  | cons a l ih =>
    have later {x : α} (there : x ∈ (distinct l).filter (· ≠ a)) :
        (a :: l).idxOf x = l.idxOf x + 1 := by
      have other : x ≠ a := by simpa using (List.mem_filter.1 there).2
      exact List.idxOf_cons_ne _ other.symm
    refine List.pairwise_cons.2 ⟨fun y there => ?_, ?_⟩
    · rw [later there, List.idxOf_cons_self]
      exact Nat.succ_pos _
    · refine (ih.filter _).imp_of_mem fun here there less => ?_
      rw [later here, later there]
      exact Nat.succ_lt_succ less

namespace Store

variable {s : Store}

/-- The distinct ends of edges stand in the order of the first edges that have them. -/
theorem pairwise_distinct_ends (edges : List Edge) (far : Edge → NodeId) :
    (distinct (edges.map far)).Pairwise fun x y =>
      edges.findIdx (far · = x) < edges.findIdx (far · = y) := by
  refine (pairwise_distinct (edges.map far)).imp fun {x y} less => ?_
  have place (z : NodeId) : (edges.map far).idxOf z = edges.findIdx (far · = z) := by
    rw [List.idxOf, List.findIdx_map]
    rfl
  rwa [place, place] at less

theorem hasEdge_iff {x y : NodeId} : s.hasEdge x y = true ↔ y ∈ s.targets x := by
  simp [hasEdge, mem_targets_iff]

theorem edge?_eq_some_iff {x y : NodeId} {p : NodeId × NodeId} :
    s.edge? x y = some p ↔ s.hasEdge x y = true ∧ p = (x, y) := by
  unfold edge?
  split
  case isTrue there => simp [there, eq_comm]
  case isFalse absent => simp [absent]

/-- The edges between two nodes are those of the index. -/
theorem WellFormed.mem_edgesBetween_iff (wf : s.WellFormed) {x y : NodeId} {e : Edge} :
    e ∈ s.edgesBetween x y ↔ e ∈ s.edges ∧ e.src = x ∧ e.dst = y := by
  rw [edgesBetween, List.mem_filter, decide_eq_true_iff]
  constructor
  · rintro ⟨there, rfl⟩
    obtain rfl := (wf.succEnds there).1
    exact ⟨wf.mem_edges_iff.2 there, rfl, rfl⟩
  · rintro ⟨there, rfl, rfl⟩
    exact ⟨wf.mem_edges_iff.1 there, rfl⟩

/-- All ways to say that an edge leads from one node to another. -/
def adjacency (s : Store) (x y : NodeId) : List Prop :=
  [∃ site, ⟨x, y, site⟩ ∈ s.edges,
   y ∈ s.targets x,
   x ∈ s.sources y,
   s.hasEdge x y = true,
   s.edge? x y = some (x, y),
   s.edge? x y ≠ none,
   s.edgesBetween x y ≠ []]

theorem WellFormed.tfae_adjacency (wf : s.WellFormed) (x y : NodeId) :
    (s.adjacency x y).TFAE := by
  unfold adjacency
  tfae_have 1 ↔ 2 := by
    rw [wf.mem_targets_iff_exists_edge]
    constructor
    · rintro ⟨site, there⟩
      exact ⟨_, there, rfl, rfl⟩
    · rintro ⟨⟨src, dst, site⟩, there, rfl, rfl⟩
      exact ⟨site, there⟩
  tfae_have 2 ↔ 3 := wf.mem_sources_iff_mem_targets.symm
  tfae_have 2 ↔ 4 := hasEdge_iff.symm
  tfae_have 4 → 5 := fun there => edge?_eq_some_iff.2 ⟨there, rfl⟩
  tfae_have 5 → 6 := fun found => by simp [found]
  tfae_have 6 → 4 := fun found => by
    obtain ⟨p, found⟩ := Option.ne_none_iff_exists'.1 found
    exact (edge?_eq_some_iff.1 found).1
  tfae_have 2 ↔ 7 := by
    rw [wf.mem_targets_iff_exists_edge, ne_eq, List.eq_nil_iff_forall_not_mem, not_forall_not]
    simp only [wf.mem_edgesBetween_iff]
  tfae_finish

/-- A node that has a neighbour exists. -/
theorem WellFormed.isSome_of_adjacent (wf : s.WellFormed) {x y : NodeId} (near : y ∈ s.targets x) :
    (s.node? x).isSome ∧ (s.node? y).isSome :=
  wf.isSome_of_linked (.step near)

/-- Seen as a plain graph, every store that requests lead to is consistent: the neighbours of a node
are listed once each, in the order of their first edges; both directions and every way to ask for an
edge tell the same; and neighbours exist, so that a number without a node has none. -/
theorem view_exact (qs : List StoreRequest) (u v : NodeId) :
    let s := empty.run qs
    ((s.targets u).Nodup ∧ (s.targets u).Pairwise fun x y =>
      (s.succs u).findIdx (·.dst = x) < (s.succs u).findIdx (·.dst = y)) ∧
    ((s.sources v).Nodup ∧ (s.sources v).Pairwise fun x y =>
      (s.preds v).findIdx (·.src = x) < (s.preds v).findIdx (·.src = y)) ∧
    (s.adjacency u v).TFAE ∧
    (s.isJoined u v = true ↔ v ∈ s.targets u ∨ u ∈ s.targets v) ∧
    (∀ x ∈ s.targets u ++ s.sources v, (s.node? x).isSome ∧ x ∈ s.nodes.map (·.id)) ∧
    (s.node? u = none → s.targets u = [] ∧ s.sources u = []) := by
  intro s
  have wf : s.WellFormed := wellFormed_run qs
  refine ⟨⟨nodup_distinct _, pairwise_distinct_ends _ _⟩,
    ⟨nodup_distinct _, pairwise_distinct_ends _ _⟩, wf.tfae_adjacency u v, ?_, ?_, ?_⟩
  · rw [isJoined, Bool.or_eq_true, hasEdge_iff, hasEdge_iff]
  · intro x there
    have known : (s.node? x).isSome := by
      rcases List.mem_append.1 there with target | source
      · exact (wf.isSome_of_adjacent target).2
      · exact (wf.isSome_of_adjacent (wf.mem_sources_iff_mem_targets.1 source)).1
    exact ⟨known, wf.mem_ids known⟩
  · intro unknown
    have absent : ¬ (s.node? u).isSome := by simp [unknown]
    constructor
    · refine List.eq_nil_iff_forall_not_mem.2 fun x target => absurd ?_ absent
      exact (wf.isSome_of_adjacent target).1
    · refine List.eq_nil_iff_forall_not_mem.2 fun x source => absurd ?_ absent
      exact (wf.isSome_of_adjacent (wf.mem_sources_iff_mem_targets.1 source)).2

/-- Of parallel edges only the first one counts, even if others come between them. -/
example :
    let slot (name : String) : StoreRequest := .internLocal ⟨"m", name⟩
    let s := empty.run [slot "a", slot "b", slot "c", .addEdge 1 3 {}, .addEdge 1 2 {},
      .addEdge 1 3 ⟨"m", 1⟩]
    s.targets 1 = [3, 2] ∧ s.sources 3 = [1] ∧ (s.edgesBetween 1 3).length = 2 := by
  decide +kernel

end Store

end WidgetFlow
