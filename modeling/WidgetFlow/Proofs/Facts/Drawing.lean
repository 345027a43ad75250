import WidgetFlow.Proofs.Facts.Picture

/-!
# Intake draws its events

`Drawn` says of a whole workspace that its graph shows a sketch, that one registration waits for
every call that asks for it, and that the overrides which are settled are those that have been
drawn. `Draws` is the contract of a step: wherever a sketch has been drawn the step ends, and has
drawn its strokes after it. What it answers is told by the cast, which only grows. There is one rule
for each way of building steps, and one lemma for each step of intake.
-/

namespace WidgetFlow

open Work

variable {α β : Type}

/-- The registration that waits for a node of the cast, if it is a call that asks for one. -/
def Store.task? (s : Store) : NodeId × Figure → Option DispatchTask
  | (x, .call c) => c.bound?.map fun bound =>
    { listenerClass := c.operation.listener, parameterType := bound, listener := s.idOf c.parameter
      view := s.idOf c.receiver, op := x, site := c.operation.site, contextMenu := false }
  | _ => none

/-- The sketch has been drawn in the workspace. -/
structure Drawn (p : Program) (allocs : List AllocSite) (sk : Sketch) (cast : Cast)
    (loose : List NodeId) (w : Workspace) : Prop where
  picture : Pictures allocs sk cast loose w.store
  queued : w.dispatcher.pending.Perm (cast.filterMap w.store.task?)
  settled : ∀ {x v m}, (x, .entity v) ∈ cast → p.overriding? v = some m →
    (x ∈ w.intake.settled ↔ .node (.override v m) ∈ sk)
  known : ∀ x ∈ w.intake.settled, (w.store.node? x).isSome

namespace Drawn

variable {p : Program} {allocs : List AllocSite} {sk : Sketch} {cast : Cast} {loose : List NodeId}
  {w w' : Workspace} {x y : NodeId} {e e' : Entity}

theorem fresh (p : Program) (allocs : List AllocSite) (journal : List Notice) :
    Drawn p allocs [] [] [] { journal } where
  picture := .empty allocs
  queued := .nil
  settled there := absurd there List.not_mem_nil
  known _ there := absurd there List.not_mem_nil

theorem congr (drawn : Drawn p allocs sk cast loose w) (store : w'.store = w.store)
    (pending : w'.dispatcher.pending = w.dispatcher.pending)
    (settled : w'.intake.settled = w.intake.settled) : Drawn p allocs sk cast loose w' where
  picture := store ▸ drawn.picture
  queued := by
    rw [pending, store]
    exact drawn.queued
  settled := settled ▸ drawn.settled
  known := by
    rw [settled, store]
    exact drawn.known

theorem redraw (drawn : Drawn p allocs sk cast loose w) {more : Sketch}
    (again : ∀ t ∈ more, t ∈ sk ∧ t.isSingle) : Drawn p allocs (sk ++ more) cast loose w where
  picture := drawn.picture.redraw again
  queued := drawn.queued
  settled there overrides := by
    rw [drawn.settled there overrides, List.mem_append]
    exact ⟨.inl, fun listed => listed.elim id fun listed => (again _ listed).1⟩
  known := drawn.known

theorem tasks_grow (drawn : Drawn p allocs sk cast loose w) {t : Store}
    (recalls : w.store.Recalls t) : cast.filterMap t.task? = cast.filterMap w.store.task? := by
  refine List.filterMap_congr fun ⟨x, f⟩ listed => ?_
  cases f with
  | call c =>
    have known := (drawn.picture.shows _ _ listed).known
    have parameter : t.idOf c.parameter = w.store.idOf c.parameter :=
      Store.idOf_grow recalls (known .parameter)
    have receiver : t.idOf c.receiver = w.store.idOf c.receiver :=
      Store.idOf_grow recalls (known .receiver)
    simp only [Store.task?, parameter, receiver]
  | entity | override | menu => rfl

theorem queued_grow (drawn : Drawn p allocs sk cast loose w) (w' : Workspace) (new : Cast)
    (recalls : w.store.Recalls w'.store)
    (pending : w'.dispatcher.pending = w.dispatcher.pending ++ new.filterMap w'.store.task?) :
    w'.dispatcher.pending.Perm ((new ++ cast).filterMap w'.store.task?) := by
  rw [pending, List.filterMap_append, drawn.tasks_grow recalls]
  exact (drawn.queued.append_right _).trans List.perm_append_comm

/-- A step on the graph that draws no override adds newcomers to the cast, and their tasks to the
queue. -/
theorem advance (drawn : Drawn p allocs sk cast loose w) (w' : Workspace) (new : Cast)
    {more : Sketch} {free : List NodeId} (grows : w.store.Grows w'.store)
    (recalls : w.store.Recalls w'.store)
    (picture : Pictures allocs (sk ++ more) (new ++ cast) free w'.store)
    (newcomers : ∀ x v, (x, .entity v) ∈ new → w.store.node? x = none)
    (plain : ∀ v m, .node (.override v m) ∉ more)
    (pending : w'.dispatcher.pending = w.dispatcher.pending ++ new.filterMap w'.store.task?)
    (settled : w'.intake.settled = w.intake.settled) :
    Drawn p allocs (sk ++ more) (new ++ cast) free w' where
  picture := picture
  queued := drawn.queued_grow w' new recalls pending
  settled {x v m} there overrides := by
    have old : .node (.override v m) ∈ sk ++ more ↔ .node (.override v m) ∈ sk := by
      simp [plain v m]
    rw [settled, old]
    rcases List.mem_append.1 there with newcomer | before
    · have unknown := newcomers x _ newcomer
      refine iff_of_false (fun there => ?_) fun overridden => ?_
      · have known := drawn.known x there
        rw [unknown] at known
        cases known
      · -- A view whose override has been drawn is in the cast, where it stands under one number.
        have view := drawn.picture.closed.mentions overridden v (by simp [Figure.mentions])
        obtain ⟨y, listed⟩ := drawn.picture.exists_of_drawn view
        have same := picture.id_eq_of_mem (List.mem_append_right _ listed) there
        have known := (drawn.picture.shows _ _ listed).isSome
        rw [same, unknown] at known
        cases known
    · exact drawn.settled before overrides
  known x there := grows.isSome (drawn.known x (settled ▸ there))

/-- Naming an entity adds it to the cast, unless it is there. -/
theorem name (drawn : Drawn p allocs sk cast loose w) (agree : Agree allocs)
    (within : e.Within allocs) :
    ∃ cast', cast ⊆ cast' ∧ ((w.store.internEntity e).1, .entity e) ∈ cast' ∧
      Drawn p allocs (sk ++ [.node (.entity e)]) cast' loose
        { w with store := (w.store.internEntity e).2 } := by
  unfold Store.internEntity
  cases found : w.store.lookup? e.key with
  | some x =>
    have there := drawn.picture.mem_of_lookup? agree within found
    refine ⟨cast, List.Subset.refl _, there, drawn.redraw fun t new => ?_⟩
    obtain rfl := List.mem_singleton.1 new
    exact ⟨drawn.picture.drawn_of_mem there, rfl⟩
  | none =>
    have step : w.store.PlainStep (w.store.register e) := .named e found
    refine ⟨(w.store.nextId, .entity e) :: cast, List.subset_cons_self _ _, List.mem_cons_self, ?_⟩
    refine drawn.advance _ [(w.store.nextId, .entity e)] step.grows step.recalls
      (drawn.picture.register within found) (fun x f new => ?_) (by simp)
      (by simp [Store.task?]) rfl
    cases List.mem_singleton.1 new
    exact Store.node?_nextId _

theorem join (drawn : Drawn p allocs sk cast loose w) (src : (x, .entity e) ∈ cast)
    (dst : (y, .entity e') ∈ cast) (site : Site) :
    ∃ added s, w.store.addEdge x y site = .ok (added, s) ∧
      Drawn p allocs (sk ++ [.flow e e']) cast loose { w with store := s } := by
  obtain ⟨added, s, granted, step, picture⟩ := drawn.picture.join src dst site
  refine ⟨added, s, granted, ?_⟩
  exact drawn.advance { w with store := s } [] step.grows step.recalls picture
    (by simp) (by simp) (by simp) rfl

theorem madeUp (drawn : Drawn p allocs sk cast loose w) :
    Drawn p allocs sk cast (w.store.nextId :: loose)
      { w with store := (w.store.newAllocation contextMenuClass .contextMenu).2 } := by
  have step : w.store.PlainStep (w.store.newAllocation contextMenuClass .contextMenu).2 :=
    .madeUp _ _
  have picture := drawn.picture.madeUp
  rw [← List.append_nil sk] at picture ⊢
  exact drawn.advance { w with store := (w.store.newAllocation _ _).2 } [] step.grows step.recalls
    picture (by simp) (by simp) (by simp) rfl

/-- The menu of a registration gets its edge. -/
theorem give (drawn : Drawn p allocs sk cast [x] w) {l : Local}
    (dst : (y, .entity (.slot l)) ∈ cast) (site : Site) :
    ∃ added s, w.store.addEdge x y site = .ok (added, s) ∧
      Drawn p allocs (sk ++ [.node (.menu l)]) ((x, .menu l) :: cast) [] { w with store := s } := by
  have drawnSlot := drawn.picture.drawn_of_mem dst
  obtain ⟨added, s, granted, step, picture⟩ := drawn.picture.give (f := .menu l) dst site
    (fun g => by cases g <;> simp [Sketch.Joins]) (fun g => by cases g <;> simp [Sketch.Joins])
    (fun t => .rfl) (by simpa [Figure.mentions] using drawnSlot) (by simp)
    (by simp [Figure.isSingle])
  refine ⟨added, s, granted, ?_⟩
  exact drawn.advance { w with store := s } [(x, .menu l)] step.grows step.recalls
    picture (by simp) (by simp) (by simp [Store.task?]) rfl

/-- The menu of an override gets its edge, and with it the override of the view is settled. -/
theorem override (drawn : Drawn p allocs sk cast [x] w) {view : NodeId} {v : Entity} {m : String}
    (there : (view, .entity v) ∈ cast) (overrides : p.overriding? v = some m)
    (unsettled : view ∉ w.intake.settled) (dst : (y, .entity (.slot (.param m 0))) ∈ cast)
    (this : .node (.entity (.slot (.this m))) ∈ sk) (flow : .flow v (.slot (.this m)) ∈ sk)
    (site : Site) :
    ∃ added s, w.store.addEdge x y site = .ok (added, s) ∧
      Drawn p allocs (sk ++ [.node (.override v m)]) ((x, .override v m) :: cast) []
        { w with store := s, intake := { w.intake with settled := view :: w.intake.settled } } := by
  have drawnSlot := drawn.picture.drawn_of_mem dst
  have drawnView := drawn.picture.drawn_of_mem there
  obtain ⟨added, s, granted, step, picture⟩ := drawn.picture.give (f := .override v m) dst site
    (fun g => by cases g <;> simp [Sketch.Joins]) (fun g => by cases g <;> simp [Sketch.Joins])
    (fun t => .rfl) (by simpa [Figure.mentions] using ⟨drawnView, this, drawnSlot⟩)
    (by simpa using flow) fun _ before => unsettled ((drawn.settled there overrides).2 before)
  refine ⟨added, s, granted, picture, ?_, fun {z u m'} cast' overrides' => ?_, fun z settled => ?_⟩
  · exact drawn.queued_grow { w with store := s } [(x, .override v m)]
      step.recalls (by simp [Store.task?])
  · have listed : (z, .entity u) ∈ cast := by simpa using cast'
    have before := drawn.settled listed overrides'
    simp only [List.mem_cons, List.mem_append, List.not_mem_nil, or_false, ← before,
      Stroke.node.injEq, Figure.override.injEq]
    constructor
    · rintro (rfl | settled)
      · cases drawn.picture.eq_of_mem listed there
        exact .inr ⟨rfl, Option.some.inj (overrides'.symm.trans overrides)⟩
      · exact .inl settled
    · rintro (settled | ⟨rfl, -⟩)
      · exact .inr settled
      · exact .inl (drawn.picture.id_eq_of_mem listed there)
  · rcases List.mem_cons.1 settled with rfl | before
    · exact step.grows.isSome (drawn.picture.shows _ _ there).isSome
    · exact step.grows.isSome (drawn.known z before)

/-- A view whose class has no override may be settled. -/
theorem settle (drawn : Drawn p allocs sk cast loose w) {view : NodeId} {v : Entity}
    (there : (view, .entity v) ∈ cast) (inherits : p.overriding? v = none) :
    Drawn p allocs sk cast loose
      { w with intake := { w.intake with settled := view :: w.intake.settled } } where
  picture := drawn.picture
  queued := drawn.queued
  settled {z u m} listed overrides := by
    have other : z ≠ view := by
      rintro rfl
      cases drawn.picture.eq_of_mem listed there
      rw [inherits] at overrides
      cases overrides
    simpa [other] using drawn.settled listed overrides
  known z settled := by
    rcases List.mem_cons.1 settled with rfl | before
    · exact (drawn.picture.shows _ _ there).isSome
    · exact drawn.known z before

/-- A new operation enters the cast, and its task the queue. -/
theorem operate (drawn : Drawn p allocs sk cast loose w) {c : RecognizedCall} {i : Operands}
    (fills : ∀ role, cast.Fills (i.get role) (c.operand role))
    (fits : w.store.Fits c.operation.kind.signature i)
    (store : w'.store =
      (w.store.push (.operation c.operation)).linkOperands w.store.nextId c.operation i)
    (pending : w'.dispatcher.pending = w.dispatcher.pending ++ (c.bound?.map fun bound =>
      { listenerClass := c.operation.listener, parameterType := bound, listener := i.parameter
        view := i.receiver, op := w.store.nextId, site := c.operation.site
        contextMenu := false }).toList)
    (settled : w'.intake.settled = w.intake.settled) :
    Drawn p allocs (sk ++ [.node (.call c)]) ((w.store.nextId, .call c) :: cast) loose w' := by
  have step : w.store.Step w'.store := store ▸ .operated _ _ fits
  have picture : Pictures allocs (sk ++ [.node (.call c)]) ((w.store.nextId, .call c) :: cast) loose
      w'.store := store ▸ drawn.picture.operate fills fits
  refine drawn.advance w' [(w.store.nextId, .call c)] step.grows step.recalls picture (by simp)
    (by simp) ?_ settled
  have later {role : Role} : cast.Fills (i.get role) (c.operand role) →
      Cast.Fills ((w.store.nextId, .call c) :: cast) (i.get role) (c.operand role) :=
    Cast.Fills.mono (List.subset_cons_self _ _)
  have parameter : w'.store.idOf c.parameter = i.parameter :=
    picture.idOf_of_fills (later (fills .parameter))
  have receiver : w'.store.idOf c.receiver = i.receiver :=
    picture.idOf_of_fills (later (fills .receiver))
  rw [pending]
  cases bound : c.bound? with
  | none => simp [Store.task?, bound]
  | some type => simp [Store.task?, bound, parameter, receiver]

end Drawn

/-! ### Contracts of drawing -/

/-- Wherever a sketch has been drawn with the cast, the step ends, has drawn the strokes after it,
and answers as the grown cast tells. -/
def Draws (p : Program) (allocs : List AllocSite) (cast : Cast) (step : Work α) (strokes : Sketch)
    (post : α → Cast → Prop) : Prop :=
  ∀ sk w, Drawn p allocs sk cast [] w → ∃ a w' cast', step w = .ok a w' ∧ cast ⊆ cast' ∧
    Drawn p allocs (sk ++ strokes) cast' [] w' ∧ post a cast'

namespace Draws

variable {p : Program} {allocs : List AllocSite} {cast : Cast} {step : Work α}
  {strokes strokes' : Sketch} {post post' : α → Cast → Prop}

/-- What holds wherever a sketch has been drawn may be assumed. -/
theorem assuming {fact : Prop} (holds : ∀ sk w, Drawn p allocs sk cast [] w → fact)
    (draws : fact → Draws p allocs cast step strokes post) :
    Draws p allocs cast step strokes post :=
  fun sk w drawn => draws (holds sk w drawn) sk w drawn

theorem pure {a : α} (holds : post a cast) : Draws p allocs cast (Pure.pure a) [] post := by
  intro sk w drawn
  exact ⟨a, w, cast, rfl, List.Subset.refl _, by rwa [List.append_nil], holds⟩

theorem bind {next : α → Work β} {post' : β → Cast → Prop}
    (first : Draws p allocs cast step strokes post)
    (rest : ∀ a cast', cast ⊆ cast' → post a cast' →
      Draws p allocs cast' (next a) strokes' post') :
    Draws p allocs cast (step >>= next) (strokes ++ strokes') post' := by
  intro sk w drawn
  obtain ⟨a, w₁, cast₁, done, more, drawn₁, holds⟩ := first sk w drawn
  obtain ⟨b, w₂, cast₂, done', more', drawn₂, holds'⟩ := rest a cast₁ more holds _ w₁ drawn₁
  refine ⟨b, w₂, cast₂, (bind_of_ok done).trans done', List.Subset.trans more more', ?_, holds'⟩
  rwa [← List.append_assoc]

/-- What draws nothing may come first. -/
theorem after {next : α → Work β} {post' : β → Cast → Prop}
    (first : Draws p allocs cast step [] post)
    (rest : ∀ a cast', cast ⊆ cast' → post a cast' → Draws p allocs cast' (next a) strokes post') :
    Draws p allocs cast (step >>= next) strokes post' := bind first rest

/-- What draws nothing may come last. -/
theorem before {next : α → Work β} {post' : β → Cast → Prop}
    (first : Draws p allocs cast step strokes post)
    (rest : ∀ a cast', cast ⊆ cast' → post a cast' → Draws p allocs cast' (next a) [] post') :
    Draws p allocs cast (step >>= next) strokes post' := by
  have both := bind first rest
  rwa [List.append_nil] at both

theorem modify {change : Workspace → Workspace} {post : PUnit → Cast → Prop}
    (store : ∀ w, (change w).store = w.store)
    (pending : ∀ w, (change w).dispatcher.pending = w.dispatcher.pending)
    (settled : ∀ w, (change w).intake.settled = w.intake.settled) (holds : post ⟨⟩ cast) :
    Draws p allocs cast (modify change) [] post := by
  intro sk w drawn
  refine ⟨⟨⟩, change w, cast, rfl, List.Subset.refl _, ?_, holds⟩
  rw [List.append_nil]
  exact drawn.congr (store w) (pending w) (settled w)

theorem note (n : Notice) : Draws p allocs cast (note n) [] fun _ _ => True :=
  modify (fun _ => rfl) (fun _ => rfl) (fun _ => rfl) trivial

theorem countIntake (f : IntakeStats → IntakeStats) :
    Draws p allocs cast (countIntake f) [] fun _ _ => True :=
  modify (fun _ => rfl) (fun _ => rfl) (fun _ => rfl) trivial

theorem countDispatch (f : DispatchStats → DispatchStats) :
    Draws p allocs cast (countDispatch f) [] fun _ _ => True :=
  modify (fun _ => rfl) (fun _ => rfl) (fun _ => rfl) trivial

theorem within {stage : Stage} (draws : Draws p allocs cast step strokes post) :
    Draws p allocs cast (within stage step) strokes post := by
  intro sk w drawn
  obtain ⟨a, w', cast', done, rest⟩ := draws sk w drawn
  exact ⟨a, w', cast', by rw [Work.within, done], rest⟩

/-- A step that ends cannot be told from its attempt. -/
theorem attempt (draws : Draws p allocs cast step strokes post) :
    Draws p allocs cast (attempt step) strokes fun outcome cast' =>
      ∃ a, outcome = .ok a ∧ post a cast' := by
  intro sk w drawn
  obtain ⟨a, w', cast', done, more, drawn', holds⟩ := draws sk w drawn
  exact ⟨.ok a, w', cast', by rw [Work.attempt, done], more, drawn', a, rfl, holds⟩

theorem onStore {f : Store → Except Fault (α × Store)}
    (grants : ∀ sk w, Drawn p allocs sk cast [] w → ∃ a s cast', f w.store = .ok (a, s) ∧
      cast ⊆ cast' ∧ Drawn p allocs (sk ++ strokes) cast' [] { w with store := s } ∧ post a cast') :
    Draws p allocs cast (onStore f) strokes post := by
  intro sk w drawn
  obtain ⟨a, s, cast', granted, rest⟩ := grants sk w drawn
  exact ⟨a, _, cast', by rw [Work.onStore, granted], rest⟩

/-- A loop draws what its rounds draw. -/
theorem forM {β : Type} {l : List β} {round : β → Work PUnit} {drawing : β → Sketch}
    (each : ∀ b ∈ l, ∀ cast', cast ⊆ cast' →
      Draws p allocs cast' (round b) (drawing b) fun _ _ => True) :
    Draws p allocs cast (l.forM round) (l.flatMap drawing) fun _ _ => True := by
  induction l generalizing cast with
  | nil => exact pure trivial
  | cons b l ih =>
    rw [List.flatMap_cons]
    refine bind (each b List.mem_cons_self cast (List.Subset.refl _)) fun _ cast₁ more _ => ?_
    exact ih fun b' listed cast' more' =>
      each b' (List.mem_cons_of_mem _ listed) cast' (List.Subset.trans more more')

end Draws

/-- The step draws the strokes, or fails if there are none. -/
def Renders (p : Program) (allocs : List AllocSite) (cast : Cast) (step : Work α) :
    Option Sketch → Prop
  | some strokes => Draws p allocs cast step strokes fun _ _ => True
  | none => ∀ sk w, Drawn p allocs sk cast [] w → ∃ e w', step w = .error e w'

namespace Renders

variable {p : Program} {allocs : List AllocSite} {cast : Cast} {step : Work α} {strokes : Sketch}
  {outcome : Option Sketch} {post : α → Cast → Prop}

theorem after {next : α → Work β} (first : Draws p allocs cast step strokes post)
    (rest : ∀ a cast', cast ⊆ cast' → post a cast' → Renders p allocs cast' (next a) outcome) :
    Renders p allocs cast (step >>= next) (outcome.map (strokes ++ ·)) := by
  cases outcome with
  | some strokes' => exact first.bind rest
  | none =>
    intro sk w drawn
    obtain ⟨a, w₁, cast₁, done, more, drawn₁, holds⟩ := first sk w drawn
    obtain ⟨e, w', failed⟩ := rest a cast₁ more holds _ w₁ drawn₁
    exact ⟨e, w', (bind_of_ok done).trans failed⟩

theorem afterNothing {next : α → Work β} (first : Draws p allocs cast step [] post)
    (rest : ∀ a cast', cast ⊆ cast' → post a cast' → Renders p allocs cast' (next a) outcome) :
    Renders p allocs cast (step >>= next) outcome := by
  have both := after first rest
  cases outcome <;> exact both

theorem before {next : α → Work β} (first : Renders p allocs cast step outcome)
    (rest : ∀ a cast', Draws p allocs cast' (next a) [] fun _ _ => True) :
    Renders p allocs cast (step >>= next) outcome := by
  cases outcome with
  | some strokes => exact Draws.before first fun a cast' _ _ => rest a cast'
  | none =>
    intro sk w drawn
    obtain ⟨e, w', failed⟩ := first sk w drawn
    exact ⟨e, w', bind_of_error failed⟩

theorem within {stage : Stage} (renders : Renders p allocs cast step outcome) :
    Renders p allocs cast (within stage step) outcome := by
  cases outcome with
  | some strokes => exact Draws.within renders
  | none =>
    intro sk w drawn
    obtain ⟨e, w', failed⟩ := renders sk w drawn
    exact ⟨.within stage e, w', by rw [Work.within, failed]⟩

end Renders

end WidgetFlow
