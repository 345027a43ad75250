import WidgetFlow.Proofs.Facts.Events

/-!
# Events in another order

Two replays whose sketches have the same strokes have built the same graph and the same queue, up to
the numbers of the nodes (`Drawn.exists_renaming`): by the census of the sketch the casts have the
same figures, so that nodes which stand for the same figure can be matched, and everything else is
read off the figures.

The sketch of a document in another order has the same strokes, and an event that breaks a contract
breaks it wherever it stands. So the order of the events does not matter
(`Facts.replayEvents_perm`).
-/

namespace WidgetFlow

open Work

/-! ### Renamings -/

/-- The nodes differ in their numbers only. Made-up objects may differ in their serial numbers. -/
structure Node.Alike (n n' : Node) : Prop where
  kind : n'.kind = n.kind
  entity : ∀ e, n'.body = .entity e ↔ n.body = .entity e
  synthetic : n'.isSynthetic = n.isSynthetic
  className : n'.className = n.className
  object : n'.object? = n.object?
  operation : n'.operation? = n.operation?

/-- The task for the renamed nodes. -/
def DispatchTask.rename (φ : NodeId → NodeId) (t : DispatchTask) : DispatchTask :=
  { t with listener := φ t.listener, view := φ t.view, op := φ t.op }

/-- The renaming takes the graph and the queue of one workspace to those of another. Zero, which
stands for no node, keeps its name. -/
structure Workspace.Renames (φ : NodeId → NodeId) (w w' : Workspace) : Prop where
  zero : φ 0 = 0
  bijective : Set.BijOn φ {x | (w.store.node? x).isSome} {x | (w'.store.node? x).isSome}
  alike : ∀ x n, w.store.node? x = some n → ∃ n', w'.store.node? (φ x) = some n' ∧ n.Alike n'
  operand : ∀ x role, (w.store.node? x).isSome →
    (w'.store.operand (φ x) role).toOption = (w.store.operand x role).toOption.map φ
  flows : w'.store.Joined = Relation.Map w.store.Joined φ φ
  pending : w'.dispatcher.pending.Perm (w.dispatcher.pending.map (·.rename φ))

/-! ### Casts of the same figures -/

namespace Cast

/-- Numbers that stand for the same figures can be matched. -/
theorem exists_renaming {cast cast' : Cast} (once : (cast.map (·.1)).Nodup)
    (positive : 0 ∉ cast.map (·.1)) (same : (cast.map (·.2)).Perm (cast'.map (·.2))) :
    ∃ φ : NodeId → NodeId, φ 0 = 0 ∧ (cast.map (Prod.map φ id)).Perm cast' := by
  induction cast generalizing cast' with
  | nil =>
    obtain rfl : cast' = [] := by simpa using same.symm
    exact ⟨id, rfl, .nil⟩
  | cons member rest ih =>
    obtain ⟨x, f⟩ := member
    rw [List.map_cons, List.nodup_cons] at once
    rw [List.map_cons, List.mem_cons, not_or] at positive
    obtain ⟨fresh, once⟩ := once
    obtain ⟨⟨y, _⟩, there, rfl⟩ := List.mem_map.1 (same.subset List.mem_cons_self)
    have split := List.perm_cons_erase there
    obtain ⟨φ, zero, matched⟩ := ih once positive.2 ((same.trans (split.map _)).cons_inv)
    refine ⟨Function.update φ x y, by rw [Function.update_of_ne positive.1, zero], ?_⟩
    have others : rest.map (Prod.map (Function.update φ x y) id) = rest.map (Prod.map φ id) := by
      refine List.map_congr_left fun ⟨z, g⟩ listed => ?_
      have other : z ≠ x := fun same => fresh (same ▸ List.mem_map.2 ⟨_, listed, rfl⟩)
      rw [Prod.map_apply, Prod.map_apply, Function.update_of_ne other]
    rw [List.map_cons, others, Prod.map_apply, Function.update_self]
    exact (matched.cons _).trans split.symm

end Cast

section Match

variable {p : Program} {allocs : List AllocSite} {sk sk' : Sketch} {cast cast' : Cast}
  {w w' : Workspace} {φ : NodeId → NodeId} {x y : NodeId} {f g : Figure}

/-- The strokes of a picture tell how many nodes there are for each figure. -/
theorem Pictures.figures_perm {s s' : Store} {loose loose' : List NodeId}
    (pic : Pictures allocs sk cast loose s) (pic' : Pictures allocs sk' cast' loose' s')
    (same : sk.Perm sk') : (cast.map (·.2)).Perm (cast'.map (·.2)) := by
  refine List.perm_iff_count.2 fun f => ?_
  rw [pic.census, pic'.census, same.count_eq]

/-- What stands for the same figure is alike. -/
theorem Store.Shows.alike {s s' : Store} {n : Node} (shows : s.Shows x f) (shows' : s'.Shows y f)
    (there : s.node? x = some n) : ∃ n', s'.node? y = some n' ∧ n.Alike n' := by
  cases f with
  | entity e =>
    cases shows.symm.trans there
    exact ⟨_, shows', rfl, fun _ => .rfl, rfl, rfl, rfl, rfl⟩
  | override | menu =>
    obtain ⟨serial, menu⟩ := shows
    obtain ⟨serial', menu'⟩ := shows'
    cases menu.symm.trans there
    exact ⟨_, menu', rfl, fun e => by simp, rfl, rfl, rfl, rfl⟩
  | call c =>
    cases shows.node.symm.trans there
    exact ⟨_, shows'.node, rfl, fun e => by simp, rfl, rfl, rfl, rfl⟩

variable (drawn : Drawn p allocs sk cast [] w) (drawn' : Drawn p allocs sk' cast' [] w')
  (zero : φ 0 = 0) (matched : (cast.map (Prod.map φ id)).Perm cast')

theorem Drawn.exists_figure {p : Program} {w : Workspace} (drawn : Drawn p allocs sk cast [] w) :
    (w.store.node? x).isSome ↔ ∃ f, (x, f) ∈ cast := by
  rw [drawn.picture.present]
  simp

include matched

theorem Cast.mem_renamed (there : (x, f) ∈ cast) : (φ x, f) ∈ cast' :=
  matched.subset (List.mem_map.2 ⟨_, there, rfl⟩)

theorem Cast.exists_of_mem_renamed (there : (y, f) ∈ cast') : ∃ x, (x, f) ∈ cast ∧ φ x = y := by
  obtain ⟨⟨x, _⟩, listed, same⟩ := List.mem_map.1 (matched.symm.subset there)
  cases same
  exact ⟨x, listed, rfl⟩

include drawn drawn'

namespace Drawn

theorem bijOn : Set.BijOn φ {x | (w.store.node? x).isSome} {x | (w'.store.node? x).isSome} := by
  have once : ((cast.map (·.1)).map φ).Nodup := by
    have once' := (matched.map (·.1)).nodup_iff.2 drawn'.picture.once
    simpa [Function.comp_def] using once'
  refine ⟨fun x known => ?_, fun x known y known' same => ?_, fun y known => ?_⟩
  · obtain ⟨f, there⟩ := drawn.exists_figure.1 known
    exact drawn'.exists_figure.2 ⟨f, Cast.mem_renamed matched there⟩
  · obtain ⟨f, there⟩ := drawn.exists_figure.1 known
    obtain ⟨g, there'⟩ := drawn.exists_figure.1 known'
    exact List.inj_on_of_nodup_map once (List.mem_map.2 ⟨_, there, rfl⟩)
      (List.mem_map.2 ⟨_, there', rfl⟩) same
  · obtain ⟨f, there⟩ := drawn'.exists_figure.1 known
    obtain ⟨x, listed, rfl⟩ := Cast.exists_of_mem_renamed matched there
    exact ⟨x, drawn.exists_figure.2 ⟨f, listed⟩, rfl⟩

include zero

theorem idOf_renamed {c : RecognizedCall} (there : (x, .call c) ∈ cast) (role : Role) :
    w'.store.idOf (c.operand role) = φ (w.store.idOf (c.operand role)) := by
  cases operand : c.operand role with
  | none => exact zero.symm
  | some e =>
    have mentioned := drawn.picture.closed.mentions (drawn.picture.drawn_of_mem there) e
      (RecognizedCall.mem_mentions operand)
    obtain ⟨y, listed⟩ := drawn.picture.exists_of_drawn mentioned
    have listed' := Cast.mem_renamed matched listed
    simp only [Store.idOf, Option.bind_some, drawn.picture.lookup?_of_mem listed,
      drawn'.picture.lookup?_of_mem listed', Option.getD_some]

theorem operand_renamed (known : (w.store.node? x).isSome) (role : Role) :
    (w'.store.operand (φ x) role).toOption = (w.store.operand x role).toOption.map φ := by
  obtain ⟨f, there⟩ := drawn.exists_figure.1 known
  have there' := Cast.mem_renamed matched there
  have shows := drawn.picture.shows _ _ there
  have shows' := drawn'.picture.shows _ _ there'
  by_cases call : ∃ c, f = .call c
  · obtain ⟨c, rfl⟩ := call
    by_cases declared : c.operation.kind.signature.has role
    · rw [shows.operand role declared, shows'.operand role declared,
        drawn.idOf_renamed drawn' zero matched there]
      rfl
    · have operation := Store.operationAt_eq_some_iff.2 ⟨_, shows.node, rfl⟩
      have operation' := Store.operationAt_eq_some_iff.2 ⟨_, shows'.node, rfl⟩
      rw [Store.operand_of_not_has operation declared,
        Store.operand_of_not_has operation' declared]
      rfl
  · have plain {s : Store} {y : NodeId} (shows : s.Shows y f) : s.operationAt y = none := by
      obtain ⟨n, node, noOperation⟩ := Store.isOperand_iff.1 (shows.isOperand (by simpa using call))
      rw [Store.operationAt, node]
      exact noOperation
    rw [Store.operand_of_operationAt_eq_none (plain shows),
      Store.operand_of_operationAt_eq_none (plain shows')]
    rfl

/-- Tasks wait for the same calls. -/
theorem pending_renamed :
    w'.dispatcher.pending.Perm (w.dispatcher.pending.map (·.rename φ)) := by
  have tasks : (cast.map (Prod.map φ id)).filterMap w'.store.task? =
      (cast.filterMap w.store.task?).map (·.rename φ) := by
    rw [List.filterMap_map, List.map_filterMap]
    refine List.filterMap_congr fun ⟨x, f⟩ there => ?_
    cases f with
    | call c =>
      have parameter := drawn.idOf_renamed drawn' zero matched there .parameter
      have receiver := drawn.idOf_renamed drawn' zero matched there .receiver
      simp only [RecognizedCall.operand] at parameter receiver
      cases bound : c.bound? with
      | none => simp [Store.task?, bound]
      | some type => simp [Store.task?, bound, parameter, receiver, DispatchTask.rename]
    | entity | override | menu => rfl
  refine drawn'.queued.trans ((matched.symm.filterMap _).trans ?_)
  rw [tasks]
  exact (drawn.queued.map _).symm

omit zero

/-- Flows join the same figures. -/
theorem joined_renamed (same : sk.Perm sk') :
    w'.store.Joined = Relation.Map w.store.Joined φ φ := by
  have joins (f g : Figure) : sk.Joins f g ↔ sk'.Joins f g :=
    Sketch.joins_congr (fun _ => same.mem_iff) f g
  funext a b
  refine propext (drawn'.picture.joined a b |>.trans ⟨?_, ?_⟩)
  · rintro ⟨f, g, left, right, flow⟩
    obtain ⟨x, listed, rfl⟩ := Cast.exists_of_mem_renamed matched left
    obtain ⟨y, listed', rfl⟩ := Cast.exists_of_mem_renamed matched right
    exact ⟨x, y, (drawn.picture.joined x y).2 ⟨f, g, listed, listed', (joins f g).2 flow⟩, rfl, rfl⟩
  · rintro ⟨x, y, flow, rfl, rfl⟩
    obtain ⟨f, g, listed, listed', flow⟩ := (drawn.picture.joined x y).1 flow
    exact ⟨f, g, Cast.mem_renamed matched listed, Cast.mem_renamed matched listed',
      (joins f g).1 flow⟩

omit matched

/-- Sketches of the same strokes have been drawn alike. -/
theorem exists_renaming (same : sk.Perm sk') : ∃ φ, w.Renames φ w' := by
  have positive : 0 ∉ cast.map (·.1) := by
    rintro there
    obtain ⟨⟨_, f⟩, listed, rfl⟩ := List.mem_map.1 there
    exact absurd (Store.pos_of_isSome (drawn.picture.shows _ _ listed).isSome) (lt_irrefl _)
  obtain ⟨φ, zero, matched⟩ := Cast.exists_renaming drawn.picture.once positive
    (drawn.picture.figures_perm drawn'.picture same)
  refine ⟨φ, zero, drawn.bijOn drawn' matched, fun x n there => ?_, fun x role known => ?_,
    drawn.joined_renamed drawn' matched same, drawn.pending_renamed drawn' zero matched⟩
  · obtain ⟨f, listed⟩ := drawn.exists_figure.1 (Option.isSome_iff_exists.2 ⟨n, there⟩)
    have listed' := Cast.mem_renamed matched listed
    exact (drawn.picture.shows _ _ listed).alike (drawn'.picture.shows _ _ listed') there
  · exact drawn.operand_renamed drawn' zero matched known role

end Drawn

end Match

/-! ### Documents -/

namespace Facts

/-- References to allocations with the same expression agree on the class and on the kind, which is
plain where it is left open. -/
def AllocationsAgree (events : List FlowEvent) : Prop :=
  ∀ r ∈ events.flatMap FlowEvent.refs, ∀ r' ∈ events.flatMap FlowEvent.refs,
    r.kind = .allocation → r'.kind = .allocation → r.alloc.expr = r'.alloc.expr →
      r.alloc.className = r'.alloc.className ∧ r.alloc.kind.orPlain = r'.alloc.kind.orPlain

/-- The allocations that events name. -/
def allocations (events : List FlowEvent) : List AllocSite :=
  (events.flatMap FlowEvent.refs).filterMap Ref.allocation?

theorem within_allocations {events : List FlowEvent} {ev : FlowEvent} (listed : ev ∈ events)
    {r : Ref} (named : r ∈ ev.refs) {e : Entity} (entity : r.entity? = some e) :
    e.Within (allocations events) := by
  rintro a rfl
  refine List.mem_filterMap.2 ⟨r, List.mem_flatMap.2 ⟨ev, listed, named⟩, ?_⟩
  rw [Ref.allocation?, entity]

theorem AllocationsAgree.agree {events : List FlowEvent} (agree : AllocationsAgree events) :
    Agree (allocations events) := by
  have named {r : Ref} {a : AllocSite} (names : r.allocation? = some a) :
      r.kind = .allocation ∧ a = { r.alloc with kind := r.alloc.kind.orPlain } := by
    unfold Ref.allocation? at names
    split at names
    case h_1 entity =>
      cases names
      cases Ref.resolves_of_entity? entity with
      | allocation kind => exact ⟨kind, rfl⟩
    case h_2 => cases names
  intro a listed b listed' same
  obtain ⟨r, there, names⟩ := List.mem_filterMap.1 listed
  obtain ⟨r', there', names'⟩ := List.mem_filterMap.1 listed'
  obtain ⟨kind, rfl⟩ := named names
  obtain ⟨kind', rfl⟩ := named names'
  obtain ⟨className, object⟩ := agree r there r' there' kind kind' same
  exact AllocSite.mk.injEq .. ▸ ⟨same, className, object⟩

/-- Whether a replay ends, and what it builds, does not depend on the order of the events, except
for the numbers of the nodes and the sites of the edges: if allocations with the same expression
agree and the class oracle is a table, and the events can be replayed, then they can be replayed in
any other order, and the nodes of the two graphs match so that nodes, operands, flows and waiting
registrations are the same. -/
theorem replayEvents_perm {p : Program} (static : p.Static) {events events' : List FlowEvent}
    (agree : AllocationsAgree events) (perm : events.Perm events') {journal : List Notice}
    {w : Workspace} (replayed : replayEvents p 0 events { journal } = .ok () w) :
    ∃ w', replayEvents p 0 events' { journal } = .ok () w' ∧ ∃ φ, w.Renames φ w' := by
  have fresh := Drawn.fresh p (allocations events) journal
  have within : ∀ ev ∈ events, ∀ r ∈ ev.refs, ∀ e, r.entity? = some e →
      e.Within (allocations events) := fun _ listed _ named _ => within_allocations listed named
  have sound := isSome_of_replayEvents static agree.agree within fresh replayed
  obtain ⟨⟨⟩, _, cast, ran, -, drawn, -⟩ :=
    draws_replayEvents static agree.agree within sound 0 _ _ fresh
  cases replayed.symm.trans ran
  obtain ⟨⟨⟩, w', cast', replayed', -, drawn', -⟩ :=
    draws_replayEvents static agree.agree (fun ev listed => within ev (perm.symm.subset listed))
      (fun ev listed => sound ev (perm.symm.subset listed)) 0 _ _ fresh
  exact ⟨w', replayed', drawn.exists_renaming drawn' (perm.flatMap_right _)⟩

/-- Forwards and backwards, the view of the waiting registration has different numbers. -/
theorem view_replayed : ∃ w w', replayEvents viewProgram 0 menuFacts.events {} = .ok () w ∧
    replayEvents viewProgram 0 menuFacts.events.reverse {} = .ok () w' ∧
    w.dispatcher.pending.map (·.view) = [2] ∧ w'.dispatcher.pending.map (·.view) = [1] := by
  have forwards : endsWith (replayEvents viewProgram 0 menuFacts.events {})
      (fun _ w => w.dispatcher.pending.map (·.view) == [2]) = true := by decide +kernel
  have backwards : endsWith (replayEvents viewProgram 0 menuFacts.events.reverse {})
      (fun _ w => w.dispatcher.pending.map (·.view) == [1]) = true := by decide +kernel
  obtain ⟨⟨⟩, w, replayed, view⟩ := exists_of_endsWith forwards
  obtain ⟨⟨⟩, w', replayed', view'⟩ := exists_of_endsWith backwards
  exact ⟨w, w', replayed, replayed', eq_of_beq view, eq_of_beq view'⟩

theorem replayEvents_perm_reversed : ∃ w w' φ,
    replayEvents viewProgram 0 menuFacts.events {} = .ok () w ∧
    replayEvents viewProgram 0 menuFacts.events.reverse {} = .ok () w' ∧ w.Renames φ w' ∧
    w.dispatcher.pending.map (·.view) = [2] ∧ w'.dispatcher.pending.map (·.view) = [1] := by
  obtain ⟨w, w', replayed, replayed', view, view'⟩ := view_replayed
  have static : viewProgram.Static := ⟨viewProgram.resolver.hierarchy, rfl⟩
  have agree : AllocationsAgree menuFacts.events := by
    unfold AllocationsAgree
    decide +kernel
  obtain ⟨_, again, φ, renames⟩ :=
    replayEvents_perm static agree (List.reverse_perm _).symm replayed
  cases replayed'.symm.trans again
  exact ⟨w, w', φ, replayed, replayed', renames, view, view'⟩

end Facts

end WidgetFlow
