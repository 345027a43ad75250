import WidgetFlow.Proofs.Facts.Sketch

/-!
# Graphs that show a sketch

A graph shows a sketch if its nodes can be cast: every node stands for one figure, every figure has
as many nodes as its strokes ask for, and there is an edge between two nodes exactly if the sketch
joins their figures (`Pictures`). A menu is made before the edge that says which handler it is for;
until then it is `loose`, and is not cast.

Every request that intake sends to the store adds its strokes to the picture. There is one lemma for
each request, and one for all that put a new node into the cast (`Pictures.enter`).
-/

namespace WidgetFlow

/-- Which figure a node stands for. -/
abbrev Cast := List (NodeId × Figure)

/-- The number is that of the entity, and zero for none. -/
def Cast.Fills (cast : Cast) (x : NodeId) : Option Entity → Prop
  | none => x = 0
  | some e => (x, .entity e) ∈ cast

theorem Cast.Fills.mono {cast cast' : Cast} (more : cast ⊆ cast') {x : NodeId} {e? : Option Entity}
    (fills : cast.Fills x e?) : cast'.Fills x e? := by
  cases e? with
  | none => exact fills
  | some e => exact more fills

namespace Store

/-- At least one edge leads from one node to the other. -/
def Joined (s : Store) (x y : NodeId) : Prop := ∃ site, ⟨x, y, site⟩ ∈ s.edges

/-- The node of an entity, and zero for none. -/
def idOf (s : Store) (e? : Option Entity) : NodeId := (e?.bind fun e => s.lookup? e.key).getD 0

/-- A menu stands at the number. -/
def MenuAt (s : Store) (x : NodeId) : Prop :=
  ∃ serial, s.node? x = some ⟨x, .synthetic serial contextMenuClass .contextMenu⟩

/-- The operands of the operation are the nodes of the entities. -/
structure Casts (s : Store) (x : NodeId) (c : RecognizedCall) : Prop where
  node : s.node? x = some ⟨x, .operation c.operation⟩
  known : ∀ role e, c.operand role = some e → (s.lookup? e.key).isSome
  operand : ∀ role, c.operation.kind.signature.has role →
    s.operand x role = .ok (s.idOf (c.operand role))

/-- The node stands for the figure. -/
def Shows (s : Store) (x : NodeId) : Figure → Prop
  | .entity e => s.node? x = some ⟨x, .entity e⟩
  | .override .. | .menu _ => s.MenuAt x
  | .call c => s.Casts x c

variable {s t : Store} {x : NodeId}

theorem MenuAt.grow (menu : s.MenuAt x) (grows : s.Grows t) : t.MenuAt x := by
  obtain ⟨serial, there⟩ := menu
  exact ⟨serial, grows.node? there⟩

theorem MenuAt.isOperand (menu : s.MenuAt x) : s.isOperand x := by
  obtain ⟨serial, there⟩ := menu
  exact isOperand_of_node? there rfl

theorem not_menuAt_of_entity {e : Entity} (there : s.node? x = some ⟨x, .entity e⟩) :
    ¬ s.MenuAt x := by
  rintro ⟨serial, menu⟩
  rw [there] at menu
  cases menu

theorem joined_link {y a b : NodeId} {site : Site} :
    (s.link ⟨x, y, site⟩).Joined a b ↔ a = x ∧ b = y ∨ s.Joined a b := by
  simp only [Joined, edges_link, List.mem_cons, Edge.mk.injEq]
  grind

theorem idOf_grow (recalls : s.Recalls t) {e? : Option Entity}
    (known : ∀ e, e? = some e → (s.lookup? e.key).isSome) : t.idOf e? = s.idOf e? := by
  cases e? with
  | none => rfl
  | some e =>
    obtain ⟨y, found⟩ := Option.isSome_iff_exists.1 (known e rfl)
    simp only [idOf, Option.bind_some, found, recalls _ _ found]

theorem Shows.grow (wf : s.WellFormed) (grows : s.Grows t) (recalls : s.Recalls t) {f : Figure}
    (shows : s.Shows x f) : t.Shows x f := by
  cases f with
  | entity e => exact grows.node? shows
  | override | menu => exact MenuAt.grow shows grows
  | call c =>
    refine ⟨grows.node? shows.node, fun role e operand => ?_, fun role declared => ?_⟩
    · obtain ⟨y, found⟩ := Option.isSome_iff_exists.1 (shows.known role e operand)
      rw [recalls _ _ found]
      rfl
    · rw [idOf_grow recalls (shows.known role)]
      exact wf.operand_grow grows (shows.operand role declared)

theorem Shows.isSome {f : Figure} (shows : s.Shows x f) : (s.node? x).isSome := by
  cases f with
  | entity e => exact Option.isSome_iff_exists.2 ⟨_, shows⟩
  | override | menu =>
    obtain ⟨serial, there⟩ := shows
    exact Option.isSome_iff_exists.2 ⟨_, there⟩
  | call c => exact Option.isSome_iff_exists.2 ⟨_, shows.node⟩

/-- What is no call is plain. -/
theorem Shows.isOperand {f : Figure} (shows : s.Shows x f) (plain : ∀ c, f ≠ .call c) :
    s.isOperand x := by
  cases f with
  | entity e => exact isOperand_of_node? shows rfl
  | override | menu => exact MenuAt.isOperand shows
  | call c => exact absurd rfl (plain c)

end Store

/-- The graph shows the sketch. The nodes in `cast` stand for its figures; the nodes in `loose` are
menus that have no edges yet. Its allocations are among `allocs`. -/
structure Pictures (allocs : List AllocSite) (sk : Sketch) (cast : Cast) (loose : List NodeId)
    (s : Store) : Prop where
  wellFormed : s.WellFormed
  named : s.Named
  closed : sk.Closed
  within : ∀ e, .node (.entity e) ∈ sk → e.Within allocs
  present : ∀ x, (s.node? x).isSome ↔ x ∈ loose ∨ ∃ f, (x, f) ∈ cast
  once : (cast.map (·.1)).Nodup
  apart : ∀ x ∈ loose, s.MenuAt x ∧ ∀ f, (x, f) ∉ cast
  shows : ∀ x f, (x, f) ∈ cast → s.Shows x f
  census : ∀ f, (cast.map (·.2)).count f = f.due (sk.count (.node f))
  joined : ∀ x y, s.Joined x y ↔ ∃ f g, (x, f) ∈ cast ∧ (y, g) ∈ cast ∧ sk.Joins f g

namespace Pictures

variable {allocs : List AllocSite} {sk : Sketch} {cast : Cast} {loose : List NodeId} {s t : Store}
  {x y : NodeId} {e e' : Entity} {f g : Figure}

theorem empty (allocs : List AllocSite) : Pictures allocs [] [] [] {} where
  wellFormed := Store.wellFormed_empty
  named := Store.named_empty
  closed := Sketch.closed_nil
  within _ drawn := absurd drawn List.not_mem_nil
  present x := by
    have bound : ¬ (({} : Store).node? x).isSome := fun known =>
      absurd (Store.le_size_of_isSome known) (Int.not_le.2 (Store.pos_of_isSome known))
    simp [bound]
  once := List.nodup_nil
  apart _ there := absurd there List.not_mem_nil
  shows _ _ there := absurd there List.not_mem_nil
  census f := by unfold Figure.due; split <;> rfl
  joined x y := by simp [Store.Joined]

/-- A node stands for one figure only. -/
theorem eq_of_mem (pic : Pictures allocs sk cast loose s) (there : (x, f) ∈ cast)
    (there' : (x, g) ∈ cast) : f = g :=
  congrArg Prod.snd (List.inj_on_of_nodup_map pic.once there there' rfl)

theorem drawn_of_mem (pic : Pictures allocs sk cast loose s) (there : (x, f) ∈ cast) :
    .node f ∈ sk := by
  have counted : 0 < (cast.map (·.2)).count f :=
    List.count_pos_iff.2 (List.mem_map.2 ⟨_, there, rfl⟩)
  rw [pic.census, Figure.due] at counted
  split at counted <;> exact List.count_pos_iff.1 (by omega)

theorem exists_of_drawn (pic : Pictures allocs sk cast loose s) (drawn : .node f ∈ sk) :
    ∃ x, (x, f) ∈ cast := by
  have counted : 0 < (cast.map (·.2)).count f := by
    have asked := List.count_pos_iff.2 drawn
    rw [pic.census, Figure.due]
    split <;> omega
  obtain ⟨⟨x, _⟩, there, rfl⟩ := List.mem_map.1 (List.count_pos_iff.1 counted)
  exact ⟨x, there⟩

theorem lookup?_of_mem (pic : Pictures allocs sk cast loose s) (there : (x, .entity e) ∈ cast) :
    s.lookup? e.key = some x :=
  (pic.named _ _).2 ⟨e, pic.shows _ _ there, rfl⟩

theorem mem_of_lookup? (pic : Pictures allocs sk cast loose s) (agree : Agree allocs)
    (within : e.Within allocs) (found : s.lookup? e.key = some x) : (x, .entity e) ∈ cast := by
  obtain ⟨e', there, same⟩ := (pic.named _ _).1 found
  rcases (pic.present x).1 (by rw [there]; rfl) with free | ⟨f, listed⟩
  · exact absurd (pic.apart x free).1 (Store.not_menuAt_of_entity there)
  · have shows := pic.shows _ _ listed
    cases f with
    | entity e'' =>
      obtain rfl : e'' = e' := by simpa [Store.Shows, there] using shows.symm
      rwa [agree.eq_of_key within (pic.within _ (pic.drawn_of_mem listed)) same.symm]
    | override | menu => exact absurd shows (Store.not_menuAt_of_entity there)
    | call c =>
      have call := shows.node
      rw [there] at call
      cases call

/-- Strokes that are there already and have no effect the second time leave the picture as it is. -/
theorem redraw (pic : Pictures allocs sk cast loose s) {more : Sketch}
    (again : ∀ t ∈ more, t ∈ sk ∧ t.isSingle) : Pictures allocs (sk ++ more) cast loose s := by
  have same (t : Stroke) : t ∈ sk ↔ t ∈ sk ++ more := by
    rw [List.mem_append]
    exact ⟨.inl, fun drawn => drawn.elim id fun drawn => (again t drawn).1⟩
  refine { pic with
    closed := pic.closed.congr same
    within := fun e drawn => pic.within e ((same _).2 drawn)
    census := fun f => ?_
    joined := fun x y => ?_ }
  · rw [pic.census, List.count_append, Figure.due, Figure.due]
    by_cases drawn : .node f ∈ more
    · have single : f.isSingle = true := (again _ drawn).2
      have before := List.count_pos_iff.2 (again _ drawn).1
      rw [if_pos single, if_pos single]
      omega
    · rw [List.count_eq_zero_of_not_mem drawn, Nat.add_zero]
  · simp only [pic.joined, Sketch.joins_congr same]

/-- A node enters the cast: it is new there, and its edges are those that the sketch asks for. -/
theorem enter (pic : Pictures allocs sk cast loose s) (wf : t.WellFormed) (named : t.Named)
    (grows : s.Grows t) (recalls : s.Recalls t) {free : List NodeId}
    (mentioned : ∀ e ∈ f.mentions, .node (.entity e) ∈ sk)
    (overridden : ∀ v m, f = .override v m → .flow v (.slot (.this m)) ∈ sk)
    (within : ∀ e, f = .entity e → e.Within allocs)
    (once : f.isSingle → .node f ∉ sk)
    (newcomer : ∀ g, (x, g) ∉ cast)
    (present : ∀ y, (t.node? y).isSome ↔ y ∈ free ∨ y = x ∨ ∃ g, (y, g) ∈ cast)
    (apart : ∀ y ∈ free, y ∈ loose ∧ y ≠ x)
    (shows : t.Shows x f)
    (alone : ¬ sk.Joins f f)
    (joined : ∀ a b, t.Joined a b ↔ s.Joined a b ∨ (a = x ∧ ∃ g, (b, g) ∈ cast ∧ sk.Joins f g) ∨
      (b = x ∧ ∃ g, (a, g) ∈ cast ∧ sk.Joins g f)) :
    Pictures allocs (sk ++ [.node f]) ((x, f) :: cast) free t where
  wellFormed := wf
  named := named
  closed := pic.closed.append_node mentioned overridden
  within e drawn := by
    rcases List.mem_append.1 drawn with before | new
    · exact pic.within e before
    · exact within e (by simpa using Eq.symm (List.mem_singleton.1 new))
  present y := by
    rw [present]
    simp only [List.mem_cons, Prod.mk.injEq]
    grind
  once := by
    refine List.nodup_cons.2 ⟨fun listed => ?_, pic.once⟩
    obtain ⟨⟨_, g⟩, there, rfl⟩ := List.mem_map.1 listed
    exact newcomer g there
  apart y there := by
    obtain ⟨free, other⟩ := apart y there
    obtain ⟨menu, uncast⟩ := pic.apart y free
    refine ⟨menu.grow grows, fun g listed => ?_⟩
    rcases List.mem_cons.1 listed with new | before
    · exact other (congrArg Prod.fst new)
    · exact uncast g before
  shows y g there := by
    rcases List.mem_cons.1 there with new | before
    · cases new
      exact shows
    · exact (pic.shows y g before).grow pic.wellFormed grows recalls
  census g := by
    have counted := pic.census g
    simp only [List.map_cons, List.count_cons, List.count_append, counted, Figure.due]
    by_cases same : g = f
    · subst same
      by_cases single : g.isSingle = true
      · simp [single, List.count_eq_zero_of_not_mem (once single)]
      · simp [single]
    · simp [Ne.symm same]
  joined a b := by
    simp only [joined, pic.joined, List.mem_cons, Prod.mk.injEq, Sketch.joins_append_node]
    constructor
    · rintro (⟨g, g', left, right, joins⟩ | ⟨rfl, g, right, joins⟩ | ⟨rfl, g, left, joins⟩)
      · exact ⟨g, g', .inr left, .inr right, joins⟩
      · exact ⟨f, g, .inl ⟨rfl, rfl⟩, .inr right, joins⟩
      · exact ⟨g, f, .inr left, .inl ⟨rfl, rfl⟩, joins⟩
    · rintro ⟨g, g', ⟨rfl, rfl⟩ | left, ⟨rfl, rfl⟩ | right, joins⟩
      · exact absurd joins alone
      · exact .inr (.inl ⟨rfl, g', right, joins⟩)
      · exact .inr (.inr ⟨rfl, g, left, joins⟩)
      · exact .inl ⟨g, g', left, right, joins⟩

/-- A figure that the picture does not have and that mentions nobody has no flows. -/
theorem not_joins_of_fresh (pic : Pictures allocs sk cast loose s)
    (fresh : .node (.entity e) ∉ sk) (there : (x, g) ∈ cast) :
    ¬ sk.Joins (.entity e) g ∧ ¬ sk.Joins g (.entity e) := by
  have drawn := pic.drawn_of_mem there
  exact ⟨fun joins => fresh ((pic.closed.joins joins).1 e rfl drawn),
    fun joins => fresh ((pic.closed.joins joins).2 e rfl drawn)⟩

/-- An entity that is named for the first time gets a node. -/
theorem register (pic : Pictures allocs sk cast loose s) (within : e.Within allocs)
    (fresh : s.lookup? e.key = none) :
    Pictures allocs (sk ++ [.node (.entity e)]) ((s.nextId, .entity e) :: cast) loose
      (s.register e) := by
  have step : s.PlainStep (s.register e) := .named e fresh
  have undrawn : .node (.entity e) ∉ sk := by
    intro drawn
    obtain ⟨x, there⟩ := pic.exists_of_drawn drawn
    rw [pic.lookup?_of_mem there] at fresh
    cases fresh
  have newcomer (y : NodeId) (known : (s.node? y).isSome) : y ≠ s.nextId :=
    Store.nextId_ne_of_isSome known
  refine pic.enter (step.wellFormed pic.wellFormed) (step.keepsNames pic.named) step.grows
    step.recalls (by simp [Figure.mentions]) (by simp) (fun e' same => ?_) (fun _ => undrawn)
    (fun g there => ?_) (fun y => ?_) (fun y free => ?_) ?_ ?_ fun a b => ?_
  · cases same
    exact within
  · exact newcomer _ (pic.shows _ _ there).isSome rfl
  · rw [Store.node?_register]
    by_cases new : y = s.nextId
    · simp [new]
    · simp [new, pic.present]
  · exact ⟨free, newcomer y ((pic.present y).2 (.inl free))⟩
  · exact (Store.node?_register s e _).trans (if_pos rfl)
  · exact fun joins => undrawn (pic.closed.flow joins).1
  · have unjoined : ∀ g y, (y, g) ∈ cast → ¬ sk.Joins (.entity e) g ∧ ¬ sk.Joins g (.entity e) :=
      fun g y there => pic.not_joins_of_fresh undrawn there
    have edges : (s.register e).Joined a b ↔ s.Joined a b := .rfl
    grind

theorem id_eq_of_mem (pic : Pictures allocs sk cast loose s) (there : (x, .entity e) ∈ cast)
    (there' : (y, .entity e) ∈ cast) : x = y :=
  Option.some.inj ((pic.lookup?_of_mem there).symm.trans (pic.lookup?_of_mem there'))

/-- A flow between two entities is drawn by an edge, unless there is one already. -/
theorem join (pic : Pictures allocs sk cast loose s) (src : (x, .entity e) ∈ cast)
    (dst : (y, .entity e') ∈ cast) (site : Site) :
    ∃ added t, s.addEdge x y site = .ok (added, t) ∧ s.PlainStep t ∧
      Pictures allocs (sk ++ [.flow e e']) cast loose t := by
  have plainSrc : s.isOperand x := (pic.shows _ _ src).isOperand (by simp)
  have plainDst : s.isOperand y := (pic.shows _ _ dst).isOperand (by simp)
  have granted := Store.addEdge_of_plain (e := ⟨x, y, site⟩) plainSrc plainDst
  by_cases there : ⟨x, y, site⟩ ∈ s.edges
  · rw [if_pos there] at granted
    refine ⟨_, _, granted, .same, pic.redraw fun t new => ?_⟩
    obtain rfl := List.mem_singleton.1 new
    obtain ⟨f, g, left, right, joins⟩ := (pic.joined x y).1 ⟨site, there⟩
    obtain rfl := pic.eq_of_mem left src
    obtain rfl := pic.eq_of_mem right dst
    exact ⟨joins, rfl⟩
  · rw [if_neg there] at granted
    have step : s.PlainStep (s.link ⟨x, y, site⟩) := .joined _ plainSrc plainDst there
    refine ⟨_, _, granted, step, ?_⟩
    refine
      { wellFormed := step.wellFormed pic.wellFormed
        named := step.keepsNames pic.named
        closed := pic.closed.append_flow (pic.drawn_of_mem src) (pic.drawn_of_mem dst)
        within := fun e drawn => pic.within e (by simpa using drawn)
        present := fun z => by rw [Store.node?_link, pic.present]
        once := pic.once
        apart := fun z free => (pic.apart z free).imp_left (·.grow step.grows)
        shows := fun z f listed =>
          (pic.shows z f listed).grow pic.wellFormed step.grows step.recalls
        census := fun f => by simp [pic.census]
        joined := fun a b => ?_ }
    rw [Store.joined_link, pic.joined]
    constructor
    · rintro (⟨rfl, rfl⟩ | ⟨f, g, left, right, joins⟩)
      · exact ⟨_, _, src, dst, Sketch.joins_append_flow.2 (.inr ⟨rfl, rfl⟩)⟩
      · exact ⟨f, g, left, right, Sketch.joins_append_flow.2 (.inl joins)⟩
    · rintro ⟨f, g, left, right, joins⟩
      rcases Sketch.joins_append_flow.1 joins with before | ⟨rfl, rfl⟩
      · exact .inr ⟨f, g, left, right, before⟩
      · exact .inl ⟨pic.id_eq_of_mem left src, pic.id_eq_of_mem right dst⟩

/-- A menu that has just been made is loose. -/
theorem madeUp (pic : Pictures allocs sk cast loose s) :
    Pictures allocs sk cast (s.nextId :: loose)
      (s.newAllocation contextMenuClass .contextMenu).2 := by
  have step : s.PlainStep (s.newAllocation contextMenuClass .contextMenu).2 := .madeUp _ _
  have node (y : NodeId) : (s.newAllocation contextMenuClass .contextMenu).2.node? y =
      if y = s.nextId then some ⟨s.nextId, _⟩ else s.node? y := Store.node?_push s _ y
  refine { pic with
    wellFormed := step.wellFormed pic.wellFormed
    named := step.keepsNames pic.named
    present := fun y => ?_
    apart := fun y free => ?_
    shows := fun y f listed => (pic.shows y f listed).grow pic.wellFormed step.grows step.recalls }
  · rw [node, List.mem_cons]
    by_cases new : y = s.nextId
    · simp [new]
    · simp [new, pic.present]
  · rcases List.mem_cons.1 free with rfl | before
    · refine ⟨⟨_, (node _).trans (if_pos rfl)⟩, fun f listed => ?_⟩
      exact Store.nextId_ne_of_isSome (pic.shows _ _ listed).isSome rfl
    · exact (pic.apart y before).imp_left (·.grow step.grows)

/-- A loose menu enters the cast with the edge to the slot that it is for. -/
theorem give (pic : Pictures allocs sk cast [x] s) {l : Local} (dst : (y, .entity (.slot l)) ∈ cast)
    (site : Site) (slot : ∀ g, sk.Joins f g ↔ g = .entity (.slot l)) (sink : ∀ g, ¬ sk.Joins g f)
    (menu : ∀ t : Store, t.Shows x f ↔ t.MenuAt x)
    (mentioned : ∀ e ∈ f.mentions, .node (.entity e) ∈ sk)
    (overridden : ∀ v m, f = .override v m → .flow v (.slot (.this m)) ∈ sk)
    (once : f.isSingle → .node f ∉ sk) :
    ∃ added t, s.addEdge x y site = .ok (added, t) ∧ s.PlainStep t ∧
      Pictures allocs (sk ++ [.node f]) ((x, f) :: cast) [] t := by
  obtain ⟨there, uncast⟩ := pic.apart x (List.mem_singleton.2 rfl)
  have plainSrc : s.isOperand x := there.isOperand
  have plainDst : s.isOperand y := (pic.shows _ _ dst).isOperand (by simp)
  have fresh : ⟨x, y, site⟩ ∉ s.edges := fun old => by
    obtain ⟨f, _, listed, -⟩ := (pic.joined x y).1 ⟨site, old⟩
    exact uncast f listed
  have granted := Store.addEdge_of_plain (e := ⟨x, y, site⟩) plainSrc plainDst
  rw [if_neg fresh] at granted
  have step : s.PlainStep (s.link ⟨x, y, site⟩) := .joined _ plainSrc plainDst fresh
  refine ⟨_, _, granted, step, ?_⟩
  refine pic.enter (step.wellFormed pic.wellFormed) (step.keepsNames pic.named) step.grows
    step.recalls mentioned overridden (fun e same => ?_) once uncast (fun z => ?_) (by simp) ?_
    (sink f) fun a b => ?_
  · have shows := (menu s).2 there
    subst same
    exact absurd there (Store.not_menuAt_of_entity shows)
  · rw [Store.node?_link, pic.present]
    simp
  · exact (menu _).2 (there.grow step.grows)
  · simp only [Store.joined_link, slot, sink]
    constructor
    · rintro (⟨rfl, rfl⟩ | old)
      · exact .inr (.inl ⟨rfl, _, dst, rfl⟩)
      · exact .inl old
    · rintro (old | ⟨rfl, g, listed, rfl⟩ | ⟨-, g, -, never⟩)
      · exact .inr old
      · exact .inl ⟨rfl, pic.id_eq_of_mem listed dst⟩
      · exact never.elim

/-! ### Operations -/

theorem idOf_of_fills (pic : Pictures allocs sk cast loose s) {e? : Option Entity}
    (fills : cast.Fills x e?) : s.idOf e? = x := by
  cases e? with
  | none => exact fills.symm
  | some e => simp [Store.idOf, pic.lookup?_of_mem fills]

theorem isOperand_of_fills (pic : Pictures allocs sk cast loose s) {e? : Option Entity}
    (fills : cast.Fills x e?) : s.isOperand x = e?.isSome := by
  cases e? with
  | none =>
    obtain rfl : x = 0 := fills
    rfl
  | some e => exact (pic.shows _ _ fills).isOperand (by simp)

theorem eq_zero_iff_of_fills (pic : Pictures allocs sk cast loose s) {e? : Option Entity}
    (fills : cast.Fills x e?) : x = 0 ↔ e? = none := by
  have operand := pic.isOperand_of_fills fills
  constructor
  · rintro rfl
    exact Option.not_isSome_iff_eq_none.1 (operand ▸ Bool.false_ne_true)
  · rintro rfl
    exact fills

section Operate

variable {c : RecognizedCall} {i : Operands}
  (fills : ∀ role, cast.Fills (i.get role) (c.operand role))
  (fits : s.Fits c.operation.kind.signature i)

include fills

theorem mem_iff_of_fills (pic : Pictures allocs sk cast loose s) {role : Role}
    (operand : c.operand role = some e) : (y, .entity e) ∈ cast ↔ i.get role = y := by
  have own := fills role
  rw [operand] at own
  exact ⟨pic.id_eq_of_mem own, fun same => same ▸ own⟩

include fits

/-- The edges of a new operation are those that a sketch asks for. -/
theorem operationEdges_iff (pic : Pictures allocs sk cast loose s) (op a b : NodeId) :
    (∃ site, (⟨a, b, site⟩ : Edge) ∈ Store.operandEdges op c.operation i ++
      Store.resultEdges op c.operation i) ↔
    (a = op ∧ ∃ g, (b, g) ∈ cast ∧ sk.Joins (.call c) g) ∨
      (b = op ∧ ∃ g, (a, g) ∈ cast ∧ sk.Joins g (.call c)) := by
  have result : i.result = 0 ↔ c.result = none := pic.eq_zero_iff_of_fills (fills .result)
  constructor
  · rintro ⟨site, new⟩
    rcases List.mem_append.1 new with new | new
    · obtain ⟨role, there, same⟩ := Store.mem_operandEdges_iff.1 new
      cases same
      have given : (c.operand role).isSome :=
        (pic.isOperand_of_fills (fills role)).symm.trans (fits.filled role there)
      obtain ⟨e, operand⟩ := Option.isSome_iff_exists.1 given
      exact .inr ⟨rfl, .entity e, (pic.mem_iff_of_fills fills operand).2 rfl, role, there, operand⟩
    · obtain ⟨given, same⟩ := Store.mem_resultEdges_iff.1 new
      cases same
      obtain ⟨e, operand⟩ : ∃ e, c.operand .result = some e :=
        Option.ne_none_iff_exists'.1 fun none => given (result.2 none)
      exact .inl ⟨rfl, .entity e, (pic.mem_iff_of_fills fills operand).2 rfl, operand⟩
  · rintro (⟨rfl, g, listed, joins⟩ | ⟨rfl, g, listed, joins⟩)
    · cases g with
      | entity e =>
        have operand : c.operand .result = some e := joins
        obtain rfl : i.result = b := (pic.mem_iff_of_fills fills operand).1 listed
        have given : i.result ≠ 0 := fun none => by
          simp [result.1 none, RecognizedCall.operand] at operand
        exact ⟨c.operation.site, List.mem_append_right _ (Store.mem_resultEdges_iff.2 ⟨given, rfl⟩)⟩
      | override | menu | call => exact joins.elim
    · cases g with
      | entity e =>
        obtain ⟨role, there, operand⟩ := joins
        obtain rfl := (pic.mem_iff_of_fills fills operand).1 listed
        exact ⟨_, List.mem_append_left _ (Store.mem_operandEdges_iff.2 ⟨role, there, rfl⟩)⟩
      | override | menu | call => exact joins.elim

/-- A new operation whose operands are given by what they are enters the cast. -/
theorem operate (pic : Pictures allocs sk cast loose s) :
    Pictures allocs (sk ++ [.node (.call c)]) ((s.nextId, .call c) :: cast) loose
      ((s.push (.operation c.operation)).linkOperands s.nextId c.operation i) := by
  have step : s.Step ((s.push (.operation c.operation)).linkOperands s.nextId c.operation i) :=
    .operated _ _ fits
  have here := (Store.node?_operated s c.operation i s.nextId).trans (if_pos rfl)
  have known (role : Role) (e : Entity) (operand : c.operand role = some e) :
      s.lookup? e.key = some (i.get role) :=
    pic.lookup?_of_mem ((pic.mem_iff_of_fills fills operand).2 rfl)
  refine pic.enter (step.wellFormed pic.wellFormed) (step.keepsNames pic.named) step.grows
    step.recalls (fun e mentioned => ?_) (by simp) (by simp) (by simp [Figure.isSingle])
    (fun g listed => ?_) (fun y => ?_) (fun y free => ?_) ?_ (fun joins => joins) fun a b => ?_
  · obtain ⟨role, operand⟩ := RecognizedCall.exists_operand mentioned
    exact pic.drawn_of_mem ((pic.mem_iff_of_fills fills operand).2 rfl)
  · exact Store.nextId_ne_of_isSome (pic.shows _ _ listed).isSome rfl
  · rw [Store.node?_operated]
    by_cases new : y = s.nextId
    · simp [new]
    · simp [new, pic.present]
  · exact ⟨free, Store.nextId_ne_of_isSome ((pic.present y).2 (.inl free))⟩
  · refine ⟨here, fun role e operand => ?_, fun role declared => ?_⟩
    · rw [step.recalls _ _ (known role e operand)]
      rfl
    · have there := Store.operationAt_eq_some_iff.2 ⟨_, here, rfl⟩
      rw [fits.wired.operand there declared, ← pic.idOf_of_fills (fills role)]
      refine congrArg _ (Store.idOf_grow step.recalls fun e operand => ?_).symm
      rw [known role e operand]
      rfl
  · rw [← pic.operationEdges_iff fills fits s.nextId a b]
    simp only [Store.Joined, Store.mem_edges_operated]
    grind

end Operate

end Pictures

end WidgetFlow
