import Mathlib.Data.List.Forall2
import WidgetFlow.Proofs.Listener.Feeds

/-!
# Menus that are handed to handlers

A menu is made up for one handler, and handed to the slot of its menu parameter at once: that is a
`Gift`. Afterwards the menu is left alone. All other work names entities and joins them, and no name
leads to an object that was made up; such work is `Spared` for the menus. So in a graph that has been
built this way the objects that were made up are the menus of the gifts, one for each (`Gave`), and
each has one edge, to the slot that it was handed to (`Given`).
-/

namespace WidgetFlow

/-- A fresh menu for a slot of a handler. -/
structure Gift where
  slot : Local
  site : Site
  deriving DecidableEq, Inhabited

/-- The node is a context menu. -/
def Node.IsMenu (n : Node) : Prop := n.object? = some .contextMenu ∧ n.className = contextMenuClass

/-- The edge starts or ends at the node. -/
def Edge.Touches (e : Edge) (id : NodeId) : Prop := e.src = id ∨ e.dst = id

/-- Lists that go together element by element go together in whatever way follows for the members. -/
theorem forall₂_imp_of_mem {α β : Type} {R S : α → β → Prop} {as : List α} {bs : List β}
    (together : List.Forall₂ R as bs) (imp : ∀ a ∈ as, ∀ b, R a b → S a b) : List.Forall₂ S as bs :=
  ((List.forall₂_and_left as bs).2 ⟨fun _ listed => listed, together⟩).imp
    fun a b ⟨listed, related⟩ => imp a listed b related

namespace Store

variable {s t u : Store} {id : NodeId} {e : Edge}

/-! ### Entities and objects that were made up -/

/-- The nodes that were made up, in the order in which they were. -/
def madeUp (s : Store) : List Node := s.nodes.filter (·.isSynthetic)

/-- An entity of the program stands at the number. -/
def IsEntity (s : Store) (id : NodeId) : Prop := ∃ x, s.node? id = some ⟨id, .entity x⟩

theorem IsEntity.isOperand (entity : s.IsEntity id) : s.isOperand id := by
  obtain ⟨x, there⟩ := entity
  exact isOperand_of_node? there rfl

theorem IsEntity.grow (entity : s.IsEntity id) (grows : s.Grows t) : t.IsEntity id := by
  obtain ⟨x, there⟩ := entity
  exact ⟨x, grows.node? there⟩

/-- What a name stands for is an entity. -/
theorem Named.isEntity (named : s.Named) {k : Entity.Key} (known : s.lookup? k = some id) :
    s.IsEntity id := by
  obtain ⟨x, there, -⟩ := (named k id).1 known
  exact ⟨x, there⟩

theorem isEntity_internEntity (named : s.Named) (x : Entity) :
    (s.internEntity x).2.IsEntity (s.internEntity x).1 :=
  ((internEntity_step s x).keepsNames named).isEntity (lookup?_internEntity s x)

theorem WellFormed.node?_of_mem_madeUp (ok : s.WellFormed) {n : Node} (there : n ∈ s.madeUp) :
    s.node? n.id = some n ∧ n.isSynthetic :=
  ⟨ok.mem_nodes_iff.1 (List.mem_filter.1 there).1, (List.mem_filter.1 there).2⟩

/-- No name leads to an object that was made up. -/
theorem WellFormed.ne_of_isEntity (ok : s.WellFormed) {n : Node} (there : n ∈ s.madeUp)
    (entity : s.IsEntity id) : id ≠ n.id := by
  rintro rfl
  obtain ⟨x, named⟩ := entity
  obtain ⟨at_id, madeUp⟩ := ok.node?_of_mem_madeUp there
  rw [Option.some.inj (at_id.symm.trans named)] at madeUp
  cases madeUp

theorem WellFormed.ne_nextId_of_mem_madeUp (ok : s.WellFormed) {n : Node} (there : n ∈ s.madeUp) :
    s.nextId ≠ n.id :=
  (nextId_ne_of_isSome (by rw [(ok.node?_of_mem_madeUp there).1]; rfl)).symm

/-! ### Joining -/

/-- The graph with an edge added, unless it is there. -/
def join (s : Store) (e : Edge) : Store := if e ∈ s.edges then s else s.link e

theorem mem_edges_join {e' : Edge} : e' ∈ (s.join e).edges ↔ e' = e ∨ e' ∈ s.edges := by
  unfold join
  split
  case isTrue there =>
    refine ⟨.inr, ?_⟩
    rintro (rfl | before)
    · exact there
    · exact before
  case isFalse => rw [edges_link, List.mem_cons]

@[simp] theorem lookup?_join (s : Store) (e : Edge) (k : Entity.Key) :
    (s.join e).lookup? k = s.lookup? k := by
  unfold join
  split
  · rfl
  · exact lookup?_link s e k

@[simp] theorem nodes_join (s : Store) (e : Edge) : (s.join e).nodes = s.nodes := by
  unfold join
  split
  · rfl
  · exact nodes_link s e

/-- Plain nodes are joined; whether the edge is new makes no difference. -/
theorem addEdge_eq_join {src dst : NodeId} (plain : s.isOperand src) (plain' : s.isOperand dst)
    (site : Site) : ∃ added, s.addEdge src dst site = .ok (added, s.join ⟨src, dst, site⟩) := by
  rw [addEdge_of_plain (e := ⟨src, dst, site⟩) plain plain', join]
  split
  · exact ⟨_, rfl⟩
  · exact ⟨_, rfl⟩

theorem join_step (plain : s.isOperand e.src) (plain' : s.isOperand e.dst) :
    PlainStep s (s.join e) := by
  obtain ⟨added, granted⟩ := addEdge_eq_join plain plain' e.site
  exact addEdge_step granted

/-! ### Work that spares what was made up -/

/-- From `s` to `t`, the objects that were made up have stayed as they were. -/
structure Spared (s t : Store) : Prop where
  wellFormed : s.WellFormed → t.WellFormed
  named : s.Named → t.Named
  grows : s.Grows t
  recalls : s.Recalls t
  madeUp : t.madeUp = s.madeUp
  edges : ∀ n ∈ s.madeUp, ∀ e : Edge, e.Touches n.id → (e ∈ t.edges ↔ e ∈ s.edges)

namespace Spared

theorem of_step (step : Step s t) (madeUp : t.madeUp = s.madeUp)
    (edges : ∀ n ∈ s.madeUp, ∀ e : Edge, e.Touches n.id → (e ∈ t.edges ↔ e ∈ s.edges)) :
    Spared s t :=
  ⟨step.wellFormed, step.keepsNames, step.grows, step.recalls, madeUp, edges⟩

theorem refl (s : Store) : Spared s s :=
  of_step (.plain .same) rfl fun _ _ _ _ => .rfl

theorem trans (first : Spared s t) (second : Spared t u) : Spared s u where
  wellFormed ok := second.wellFormed (first.wellFormed ok)
  named ok := second.named (first.named ok)
  grows := first.grows.trans second.grows
  recalls := first.recalls.trans second.recalls
  madeUp := second.madeUp.trans first.madeUp
  edges n there e touches :=
    (second.edges n (first.madeUp ▸ there) e touches).trans (first.edges n there e touches)

theorem internEntity (s : Store) (x : Entity) : Spared s (s.internEntity x).2 := by
  refine of_step (.plain (internEntity_step s x)) ?_ fun _ _ e _ => by rw [edges_internEntity]
  unfold Store.internEntity
  split
  · rfl
  · have nodes : (s.register x).nodes = s.nodes ++ [⟨s.nextId, .entity x⟩] := nodes_push s _
    rw [Store.madeUp, nodes, List.filter_append]
    exact List.append_nil _

/-- Entities are joined to entities only. -/
theorem join (ok : s.WellFormed) (src : s.IsEntity e.src) (dst : s.IsEntity e.dst) :
    Spared s (s.join e) := by
  refine of_step (.plain (join_step src.isOperand dst.isOperand)) (by simp [Store.madeUp]) ?_
  intro n there e' touches
  rw [mem_edges_join, or_iff_right]
  rintro rfl
  rcases touches with same | same
  · exact ok.ne_of_isEntity there src same
  · exact ok.ne_of_isEntity there dst same

/-- The operands of an operation are entities. -/
theorem operated (ok : s.WellFormed) {o : Operation} {i : Operands}
    (fits : s.Fits o.kind.signature i)
    (entities : ∀ role, i.get role ≠ 0 → s.IsEntity (i.get role)) :
    Spared s ((s.push (.operation o)).linkOperands s.nextId o i) := by
  refine of_step (.operated o i fits) ?_ fun n there e touches => ?_
  · rw [Store.madeUp, nodes_operated, List.filter_append]
    exact List.append_nil _
  have known (role : Role) (given : i.get role ≠ 0) : i.get role ≠ n.id :=
    ok.ne_of_isEntity there (entities role given)
  have new := ok.ne_nextId_of_mem_madeUp there
  have zero : s.isOperand 0 = false := rfl
  rw [mem_edges_operated, or_iff_right]
  intro listed
  rcases List.mem_append.1 listed with operand | result
  · obtain ⟨role, inLayout, rfl⟩ := mem_operandEdges_iff.1 operand
    have filled := fits.filled role inLayout
    have given : i.get role ≠ 0 := fun none => by rw [none, zero] at filled; cases filled
    rcases touches with same | same
    · exact known role given same
    · exact new same
  · obtain ⟨given, rfl⟩ := mem_resultEdges_iff.1 result
    rcases touches with same | same
    · exact new same
    · exact known .result given same

/-- Only entities are fed to handlers. -/
theorem of_fed (ok : s.WellFormed) {fs : List Feed} (fed : s.Fed fs t)
    (srcs : ∀ f ∈ fs, s.IsEntity f.src) : Spared s t where
  wellFormed _ := fed.wellFormed
  named _ := fed.named
  grows := fed.grows
  recalls := fed.recalls
  madeUp := by
    obtain ⟨new, nodes⟩ := fed.grows.nodes
    have once := fed.wellFormed.nodup_ids
    rw [← nodes, List.map_append, List.nodup_append] at once
    have plain : new.filter (·.isSynthetic) = [] := by
      refine List.filter_eq_nil_iff.2 fun n there madeUp => ?_
      rcases fed.nodes n (nodes ▸ List.mem_append_right _ there) with old | ⟨f, -, body⟩
      · exact once.2.2 _ (List.mem_map_of_mem old) _ (List.mem_map_of_mem there) rfl
      · simp [Node.isSynthetic, body] at madeUp
    rw [Store.madeUp, ← nodes, List.filter_append, plain, List.append_nil]
    rfl
  edges n there e touches := by
    rw [fed.edges, or_iff_left]
    rintro ⟨f, new, src, slot, -⟩
    obtain ⟨at_id, madeUp⟩ := ok.node?_of_mem_madeUp there
    rcases touches with same | same
    · exact ok.ne_of_isEntity there (srcs f new) (src.symm.trans same)
    · rw [same, fed.grows.node? at_id] at slot
      rw [Option.some.inj slot] at madeUp
      cases madeUp

end Spared

/-! ### Gifts -/

/-- The node is the menu of the gift: it has one edge, to the slot. -/
structure Holds (s : Store) (n : Node) (g : Gift) : Prop where
  isMenu : n.IsMenu
  handed : ∃ dst, s.lookup? (.slot g.slot) = some dst ∧
    ∀ e : Edge, e ∈ s.edges ∧ e.Touches n.id ↔ e = ⟨n.id, dst, g.site⟩

/-- The objects that were made up are the menus of these gifts. -/
def Gave (s : Store) (gs : List Gift) : Prop := List.Forall₂ s.Holds s.madeUp gs

/-- The objects that were made up are the menus of these gifts, and one menu more, which has not been
handed out yet. -/
structure Offers (s : Store) (gs : List Gift) (menu : NodeId) : Prop where
  gave : ∃ before n, s.madeUp = before ++ [n] ∧ List.Forall₂ s.Holds before gs ∧ n.id = menu ∧
    n.IsMenu ∧ ∀ m ∈ before, m.id ≠ menu
  untouched : ∀ e ∈ s.edges, ¬ e.Touches menu

variable {gs : List Gift} {n : Node} {g : Gift} {menu : NodeId}

theorem gave_empty : empty.Gave [] := List.Forall₂.nil

theorem Holds.spared (holds : s.Holds n g) (there : n ∈ s.madeUp) (spared : Spared s t) :
    t.Holds n g := by
  obtain ⟨isMenu, dst, known, edges⟩ := holds
  refine ⟨isMenu, dst, spared.recalls _ _ known, fun e => ?_⟩
  rw [← edges e]
  exact and_congr_left fun touches => spared.edges n there e touches

/-- What holds of menus that are there holds of them while they are spared. -/
theorem holds_spared {ns : List Node} (there : ns ⊆ s.madeUp) (holds : List.Forall₂ s.Holds ns gs)
    (spared : Spared s t) : List.Forall₂ t.Holds ns gs :=
  forall₂_imp_of_mem holds fun _ listed _ holds => holds.spared (there listed) spared

theorem Gave.spared (gave : s.Gave gs) (spared : Spared s t) : t.Gave gs := by
  unfold Gave
  rw [spared.madeUp]
  exact holds_spared (List.Subset.refl _) gave spared

theorem Offers.spared (offers : s.Offers gs menu) (spared : Spared s t) : t.Offers gs menu := by
  obtain ⟨⟨before, n, madeUp, holds, rfl, isMenu, apart⟩, untouched⟩ := offers
  have there : n ∈ s.madeUp := by simp [madeUp]
  have earlier : before ⊆ s.madeUp := by simp [madeUp]
  refine ⟨⟨before, n, spared.madeUp.trans madeUp, holds_spared earlier holds spared, rfl, isMenu,
    apart⟩, fun e listed touches => ?_⟩
  exact untouched e ((spared.edges n there e touches).1 listed) touches

/-- A menu is made up. -/
theorem Gave.offer (ok : s.WellFormed) (gave : s.Gave gs) :
    (s.newAllocation contextMenuClass .contextMenu).2.Offers gs s.nextId := by
  have madeUp : (s.newAllocation contextMenuClass .contextMenu).2.madeUp = s.madeUp ++
      [⟨s.nextId, .synthetic (s.stats.synthetic + 1) contextMenuClass .contextMenu⟩] := by
    rw [Store.madeUp, newAllocation, nodes_push, List.filter_append]
    rfl
  refine ⟨⟨s.madeUp, _, madeUp, ?_, rfl, ⟨rfl, rfl⟩, fun m there =>
    (ok.ne_nextId_of_mem_madeUp there).symm⟩, fun e listed touches => ?_⟩
  · exact gave.imp fun n g holds => ⟨holds.isMenu, holds.handed⟩
  · -- Edges have ends that are there, and the menu has just been made.
    obtain ⟨src, dst⟩ := ok.hasEnds (e := e) listed
    rcases touches with same | same
    · exact nextId_ne_of_isSome src same
    · exact nextId_ne_of_isSome dst same

/-- The menu is handed to a slot. -/
theorem Offers.give (ok : s.WellFormed) (named : s.Named) (offers : s.Offers gs menu) {dst : NodeId}
    (known : s.lookup? (.slot g.slot) = some dst) :
    (s.join ⟨menu, dst, g.site⟩).Gave (gs ++ [g]) := by
  obtain ⟨⟨before, n, madeUp, holds, rfl, isMenu, apart⟩, untouched⟩ := offers
  have there : n ∈ s.madeUp := by simp [madeUp]
  have earlier : before ⊆ s.madeUp := by simp [madeUp]
  have slot := named.isEntity known
  have old : List.Forall₂ (s.join ⟨n.id, dst, g.site⟩).Holds before gs := by
    refine forall₂_imp_of_mem holds fun m listed h ⟨isMenu, d, handed, edges⟩ =>
      ⟨isMenu, d, ?_, fun e => ?_⟩
    · rw [lookup?_join]
      exact handed
    · rw [← edges e, mem_edges_join]
      refine and_congr_left fun touches => or_iff_right ?_
      rintro rfl
      rcases touches with same | same
      · exact apart m listed same.symm
      · exact ok.ne_of_isEntity (earlier listed) slot same
  have new : (s.join ⟨n.id, dst, g.site⟩).Holds n g := by
    refine ⟨isMenu, dst, (lookup?_join _ _ _).trans known, fun e => ?_⟩
    rw [mem_edges_join]
    constructor
    · rintro ⟨rfl | listed, touches⟩
      · rfl
      · exact absurd touches (untouched e listed)
    · rintro rfl
      exact ⟨.inl rfl, .inl rfl⟩
  have all : (s.join ⟨n.id, dst, g.site⟩).madeUp = before ++ [n] := by
    rw [← madeUp, Store.madeUp, nodes_join]
    rfl
  rw [Gave, all]
  exact List.rel_append old (.cons new .nil)

/-! ### Graphs with more gifts -/

/-- The store `t` is the store `s` with the menus of these gifts; whatever else has been done has spared
the menus. -/
structure Endowed (s : Store) (gs : List Gift) (t : Store) : Prop where
  wellFormed : t.WellFormed
  named : t.Named
  grows : s.Grows t
  gave : ∀ before, s.Gave before → t.Gave (before ++ gs)

theorem Endowed.refl (ok : s.WellFormed) (named : s.Named) : s.Endowed [] s :=
  ⟨ok, named, .refl s, fun before gave => (List.append_nil before).symm ▸ gave⟩

theorem Endowed.spared (endowed : s.Endowed gs t) (spared : Spared t u) : s.Endowed gs u where
  wellFormed := spared.wellFormed endowed.wellFormed
  named := spared.named endowed.named
  grows := endowed.grows.trans spared.grows
  gave before gave := (endowed.gave before gave).spared spared

theorem Endowed.trans {hs : List Gift} (first : s.Endowed gs t) (second : t.Endowed hs u) :
    s.Endowed (gs ++ hs) u where
  wellFormed := second.wellFormed
  named := second.named
  grows := first.grows.trans second.grows
  gave before gave := by
    rw [← List.append_assoc]
    exact second.gave _ (first.gave before gave)

theorem Spared.endowed (ok : s.WellFormed) (named : s.Named) (spared : Spared s t) :
    s.Endowed [] t :=
  (Endowed.refl ok named).spared spared

/-- Where no gift is added, nothing is made up. -/
theorem Endowed.madeUp_eq (endowed : s.Endowed [] t) (gave : s.Gave gs) : t.madeUp = s.madeUp := by
  obtain ⟨new, nodes⟩ := endowed.grows.nodes
  have longer : s.madeUp <+: t.madeUp := by
    rw [Store.madeUp, Store.madeUp, ← nodes, List.filter_append]
    exact List.prefix_append _ _
  have after : t.Gave gs := List.append_nil gs ▸ endowed.gave gs gave
  exact (longer.eq_of_length (gave.length_eq.trans after.length_eq.symm)).symm

/-- A fresh menu makes a gift, once it has been handed to the slot. -/
theorem endowed_give (ok : s.WellFormed) (named : s.Named)
    (spared : Spared (s.newAllocation contextMenuClass .contextMenu).2 t) {dst : NodeId}
    (known : t.lookup? (.slot g.slot) = some dst) :
    s.Endowed [g] (t.join ⟨s.nextId, dst, g.site⟩) := by
  have made : PlainStep s (s.newAllocation contextMenuClass .contextMenu).2 := .madeUp _ _
  have ok₁ := spared.wellFormed (made.wellFormed ok)
  have named₁ := spared.named (made.keepsNames named)
  have menu : (s.newAllocation contextMenuClass .contextMenu).2.isOperand s.nextId :=
    isOperand_of_node? (node?_push_nextId _ _) rfl
  have joined : PlainStep t (t.join ⟨s.nextId, dst, g.site⟩) :=
    join_step (spared.grows.isOperand menu) (named₁.isEntity known).isOperand
  exact ⟨joined.wellFormed ok₁, joined.keepsNames named₁,
    (made.grows.trans spared.grows).trans joined.grows,
    fun before gave => ((gave.offer ok).spared spared).give ok₁ named₁ known⟩

/-! ### The edges of a menu -/

/-- The menu of the gift flows into the slot and nowhere else, and nothing flows into the menu. -/
structure Given (s : Store) (n : Node) (g : Gift) : Prop where
  isMenu : n.IsMenu
  preds : s.preds n.id = []
  succs : ∃ dst, s.lookup? (.slot g.slot) = some dst ∧ s.succs n.id = [⟨n.id, dst, g.site⟩]

theorem Holds.given (ok : s.WellFormed) (named : s.Named) (there : n ∈ s.madeUp)
    (holds : s.Holds n g) : s.Given n g := by
  obtain ⟨isMenu, dst, known, edges⟩ := holds
  obtain ⟨at_id, madeUp⟩ := ok.node?_of_mem_madeUp there
  have slot := named.isEntity known
  have only (e : Edge) (listed : e ∈ s.edges) (touches : e.Touches n.id) :
      e = ⟨n.id, dst, g.site⟩ := (edges e).1 ⟨listed, touches⟩
  have listed := ((edges ⟨n.id, dst, g.site⟩).2 rfl).1
  refine ⟨isMenu, List.eq_nil_iff_forall_not_mem.2 fun e entering => ?_, dst, known, ?_⟩
  · -- An edge into the menu would be the one that leads out of it.
    have target := (ok.predEnds entering).1
    have count : 0 < (s.succs e.src).count e := by
      rw [ok.mirrored, target]
      exact List.count_pos_iff.2 entering
    have there' := ok.mem_edges_iff.2 (List.count_pos_iff.1 count)
    have same := congrArg Edge.dst (only e there' (.inr target))
    exact ok.ne_of_isEntity there slot (same.symm.trans target)
  · have all : ∀ e ∈ s.succs n.id, e = ⟨n.id, dst, g.site⟩ := fun e leaving => by
      have source := (ok.succEnds leaving).1
      exact only e (ok.mem_edges_iff.2 (source.symm ▸ leaving)) (.inl source)
    have plain : n.operation? = none := by
      unfold Node.operation?
      split
      case h_1 o body => simp [Node.isSynthetic, body] at madeUp
      case h_2 => rfl
    have atMost : (s.succs n.id).count ⟨n.id, dst, g.site⟩ ≤ 1 := by
      rw [← ok.indexed ⟨n.id, dst, g.site⟩]
      exact ok.plainOnce (isOperand_of_node? at_id plain) slot.isOperand
    have atLeast : 0 < (s.succs n.id).count ⟨n.id, dst, g.site⟩ :=
      List.count_pos_iff.2 (ok.mem_edges_iff.1 listed)
    have length : (s.succs n.id).length = 1 := by
      rw [← List.count_eq_length.2 fun e leaving => (all e leaving).symm]
      omega
    exact List.eq_replicate_iff.2 ⟨length, all⟩

/-- The menus of gifts are never shared. -/
theorem Gave.given (ok : s.WellFormed) (named : s.Named) (gave : s.Gave gs) :
    List.Forall₂ s.Given s.madeUp gs :=
  forall₂_imp_of_mem gave fun _ there _ holds => holds.given ok named there

end Store

end WidgetFlow
