import WidgetFlow.Proofs.Graph.Flow
import WidgetFlow.Proofs.Graph.Naming
import WidgetFlow.Proofs.Workspace.Serving

/-!
# Nothing is ever taken back

A store grows at its ends only: nodes are appended, edge lists get longer at the end, and a name keeps
its node (`Extends`). That is shown for one step of a request, and carries over to all work that is
done by requests. Since edges are not lost, no flow is: the closures of a node can only get larger
(`append_only`).
-/

namespace WidgetFlow

namespace Store

variable {s s' s'' : Store}

/-- One store comes from another by appending to it. -/
structure Extends (s s' : Store) : Prop extends Grows s s' where
  succs : ∀ id, s.succs id <+: s'.succs id
  preds : ∀ id, s.preds id <+: s'.preds id
  recalls : s.Recalls s'

namespace Extends

theorem refl (s : Store) : s.Extends s where
  toGrows := .refl s
  succs _ := List.prefix_refl _
  preds _ := List.prefix_refl _
  recalls := .refl s

theorem trans (first : s.Extends s') (second : s'.Extends s'') : s.Extends s'' where
  toGrows := first.toGrows.trans second.toGrows
  succs id := (first.succs id).trans (second.succs id)
  preds id := (first.preds id).trans (second.preds id)
  recalls := first.recalls.trans second.recalls

theorem targets_subset (longer : s.Extends s') (id : NodeId) : s.targets id ⊆ s'.targets id := by
  intro x near
  obtain ⟨e, there, rfl⟩ := mem_targets_iff.1 near
  exact mem_targets_iff.2 ⟨e, (longer.succs id).subset there, rfl⟩

theorem sources_subset (longer : s.Extends s') (id : NodeId) : s.sources id ⊆ s'.sources id := by
  intro x near
  simp only [sources, mem_distinct] at near ⊢
  exact ((longer.preds id).map _).subset near

/-- The closures of a node have what they had. -/
theorem closures_subset (longer : s.Extends s') (wf : s.WellFormed) (wf' : s'.WellFormed)
    (id : NodeId) : (s.reachable id).ids ⊆ (s'.reachable id).ids ∧
      (s.reaching id).ids ⊆ (s'.reaching id).ids := by
  constructor
  · intro x there
    exact wf'.mem_reachable_iff.2 ((wf.mem_reachable_iff.1 there).mono longer.targets_subset)
  · intro x there
    exact wf'.mem_reaching_iff.2 ((wf.mem_reaching_iff.1 there).mono longer.sources_subset)

end Extends

theorem prefix_succs_link {e : Edge} (ends : s.HasEnds e) (id : NodeId) :
    s.succs id <+: (s.link e).succs id := by
  rw [succs_link ends]
  split
  · exact List.prefix_append _ _
  · exact List.prefix_refl _

theorem prefix_preds_link {e : Edge} (ends : s.HasEnds e) (id : NodeId) :
    s.preds id <+: (s.link e).preds id := by
  rw [preds_link ends]
  split
  · exact List.prefix_append _ _
  · exact List.prefix_refl _

theorem PlainStep.extends (step : PlainStep s s') : s.Extends s' := by
  have lists : (∀ id, s.succs id <+: s'.succs id) ∧ ∀ id, s.preds id <+: s'.preds id := by
    cases step with
    | named e fresh =>
      exact ⟨fun id => succs_push s (.entity e) id ▸ List.prefix_refl _,
        fun id => preds_push s (.entity e) id ▸ List.prefix_refl _⟩
    | madeUp c k =>
      exact ⟨fun id => succs_push s _ id ▸ List.prefix_refl _,
        fun id => preds_push s _ id ▸ List.prefix_refl _⟩
    | joined e src dst fresh =>
      have ends : s.HasEnds e := ⟨isSome_of_isOperand src, isSome_of_isOperand dst⟩
      exact ⟨prefix_succs_link ends, prefix_preds_link ends⟩
    | _ => exact ⟨fun _ => List.prefix_refl _, fun _ => List.prefix_refl _⟩
  exact ⟨step.grows, lists.1, lists.2, step.recalls⟩

/-- Every step appends to the store. -/
theorem Step.extends (step : Step s s') : s.Extends s' := by
  cases step with
  | plain step => exact step.extends
  | operated o i fits =>
    refine ⟨.operated fits, fun id => ?_, fun id => ?_, (Step.operated o i fits).recalls⟩
    · rw [succs_operated fits]
      exact List.prefix_append _ _
    · rw [preds_operated fits]
      exact List.prefix_append _ _

theorem run_extends (s : Store) (qs : List StoreRequest) : s.Extends (s.run qs) :=
  run_induction (P := s.Extends) (.refl s) (fun _ _ longer step => longer.trans step.extends) qs

end Store

theorem Served.extends {s : Store} {w : Workspace} (served : Served s w) : s.Extends w.store := by
  obtain ⟨qs, graph⟩ := served
  exact graph ▸ Store.run_extends s qs

/-- Whatever was done before and whatever is done afterwards: the nodes that there are stay, with their
numbers and all that they say; their edge lists get longer at the end only, and those of operations
not at all; names keep their nodes; and closures lose nothing. -/
theorem append_only (p : Program) (before : List Activity) (p' : Program) (after : List Activity) :
    let w := Workspace.run p {} before
    let s := w.store
    let s' := (w.run p' after).store
    (s.nodes <+: s'.nodes ∧ ∀ id n, s.node? id = some n → s'.node? id = some n) ∧
    (∀ id, s.succs id <+: s'.succs id ∧ s.preds id <+: s'.preds id) ∧
    (∀ op o, s.operationAt op = some o → s'.succs op = s.succs op ∧ s'.preds op = s.preds op) ∧
    (∀ k id, s.lookup? k = some id → s'.lookup? k = some id) ∧
    ∀ id, (s.reachable id).ids ⊆ (s'.reachable id).ids ∧
      (s.reaching id).ids ⊆ (s'.reaching id).ids := by
  intro w s s'
  obtain ⟨qs, first⟩ : Served .empty w := served_run p {} before
  obtain ⟨more, second⟩ : Served s (w.run p' after) := served_run p' w after
  have wf : s.WellFormed := by
    show w.store.WellFormed
    rw [first]
    exact Store.wellFormed_run qs
  have wf' : s'.WellFormed := by
    show (w.run p' after).store.WellFormed
    rw [second]
    exact Store.run_induction wf (fun _ _ ok step => step.wellFormed ok) more
  have longer : s.Extends s' := by
    show s.Extends (w.run p' after).store
    rw [second]
    exact Store.run_extends s more
  exact ⟨⟨longer.nodes, fun _ _ known => longer.toGrows.node? known⟩,
    fun id => ⟨longer.succs id, longer.preds id⟩, fun _ _ there => longer.fixed there,
    longer.recalls, longer.closures_subset wf wf'⟩

/-- An assignment, and then another one and a solve: the closure of the first value grows. -/
theorem append_only_assigned :
    let slot (name : String) : Ref := .ofSlot ⟨"m", name⟩
    let w := Workspace.run {} {} [.assign (slot "b") (slot "a") {}]
    let w' := w.run {} [.assign (slot "c") (slot "b") {}, .solve {} false]
    2 ∈ (w.store.reachable 1).ids ∧ 2 ∈ (w'.store.reachable 1).ids ∧
      3 ∉ (w.store.reachable 1).ids ∧ 3 ∈ (w'.store.reachable 1).ids := by
  intro slot w w'
  have near : 2 ∈ (w.store.reachable 1).ids := by decide +kernel
  obtain ⟨-, -, -, -, closures⟩ := append_only {} [.assign (slot "b") (slot "a") {}] {}
    [.assign (slot "c") (slot "b") {}, .solve {} false]
  exact ⟨near, (closures 1).1 near, by decide +kernel, by decide +kernel⟩

end WidgetFlow
