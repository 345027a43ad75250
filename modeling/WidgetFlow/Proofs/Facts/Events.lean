import WidgetFlow.Proofs.Facts.Drawing
import WidgetFlow.Proofs.Graph.Replies
import WidgetFlow.Proofs.Hierarchy.Dispatch

/-!
# Every event draws its sketch

Step by step, intake draws what the sketch of an event says (`Facts.replayEvent_renders`): names
are interned, flows become edges, the override of a view is wired with the first flow out of it, an
operation is created with its operands, and its registration is wired or queued. Whether the event
breaks a contract is settled by its sketch, too.
-/

namespace WidgetFlow

open Work

variable {α : Type}

namespace Store

variable {s : Store} {r : Ref} {e : Entity}

/-- A reference that names something is interned. -/
theorem intern_of_entity? (named : r.entity? = some e) : s.intern r = .ok (s.internEntity e) := by
  rw [intern_eq, named]

/-- One that names nothing is unresolved. -/
theorem intern_of_entity?_eq_none (unnamed : r.entity? = none) :
    ∃ what detail, s.intern r = .error (.unresolved what detail) := by
  obtain ⟨what, detail, refused⟩ := r.refusal_unresolved
  exact ⟨what, detail, by rw [intern_eq, unnamed, refused]⟩

theorem internLocal_of_isNamed {l : Local} (named : l.isNamed) :
    s.internLocal l = .ok (s.internEntity (.slot l)) := by
  rw [internLocal, Entity.ofLocal?, if_pos named]
  rfl

end Store

theorem onStore_of_ok {f : Store → Except Fault (α × Store)} {w : Workspace} {a : α} {s : Store}
    (granted : f w.store = .ok (a, s)) : onStore f w = .ok a { w with store := s } := by
  rw [onStore, granted]

variable {p : Program} {allocs : List AllocSite} {cast : Cast} {e e' : Entity} {x y : NodeId}

/-! ### Names and edges -/

namespace Draws

theorem internEntity (agree : Agree allocs) (within : e.Within allocs)
    {f : Store → Except Fault (NodeId × Store)} (grants : ∀ s, f s = .ok (s.internEntity e)) :
    Draws p allocs cast (Work.onStore f) [.node (.entity e)] fun x cast' =>
      (x, .entity e) ∈ cast' := by
  refine onStore fun sk w drawn => ?_
  obtain ⟨cast', more, there, drawn'⟩ := drawn.name agree within
  exact ⟨_, _, cast', grants _, more, drawn', there⟩

theorem internLocal (agree : Agree allocs) {l : Local} (named : l.isNamed) :
    Draws p allocs cast (Work.onStore (·.internLocal l)) [.node (.entity (.slot l))]
      fun x cast' => (x, .entity (.slot l)) ∈ cast' :=
  internEntity agree (Entity.within_slot allocs l) fun _ => Store.internLocal_of_isNamed named

theorem addEdge (src : (x, .entity e) ∈ cast) (dst : (y, .entity e') ∈ cast) (site : Site) :
    Draws p allocs cast (Work.onStore (·.addEdge x y site)) [.flow e e'] fun _ _ => True := by
  refine onStore fun sk w drawn => ?_
  obtain ⟨added, s, granted, drawn'⟩ := drawn.join src dst site
  exact ⟨added, s, cast, granted, List.Subset.refl _, drawn', trivial⟩

end Draws

namespace Intake

theorem draws_skip (event : String) (fault : Fault) :
    Draws p allocs cast (skip event fault) [] fun _ _ => True :=
  .after (.countIntake _) fun _ _ _ _ => .note _

theorem internOrSkip_of_entity? (event : String) {r : Ref} {e : Entity}
    (named : r.entity? = some e) (w : Workspace) : internOrSkip event r w =
      .ok (some (w.store.internEntity e).1) { w with store := (w.store.internEntity e).2 } := by
  have tried : attempt (onStore (·.intern r)) w =
      .ok (.ok (w.store.internEntity e).1) { w with store := (w.store.internEntity e).2 } := by
    rw [attempt, onStore, Store.intern_of_entity? named]
  exact bind_of_ok tried

theorem internOrSkip_of_entity?_eq_none (event : String) {r : Ref} (unnamed : r.entity? = none)
    (w : Workspace) :
    ∃ fault, internOrSkip event r w = (do skip event fault; return none : Work _) w := by
  obtain ⟨what, detail, refused⟩ := w.store.intern_of_entity?_eq_none unnamed
  have tried : attempt (onStore (·.intern r)) w = .ok (.error (.unresolved what detail)) w := by
    rw [attempt, onStore, refused]
  exact ⟨_, bind_of_ok tried⟩

/-- A reference is named, if it names something. -/
theorem draws_internOrSkip (agree : Agree allocs) (event : String) {r : Ref}
    (within : ∀ e, r.entity? = some e → e.Within allocs) :
    Draws p allocs cast (internOrSkip event r) r.strokes fun x? cast' =>
      x? = none ∧ r.entity? = none ∨ ∃ x e, x? = some x ∧ r.entity? = some e ∧
        (x, .entity e) ∈ cast' := by
  cases named : r.entity? with
  | some e =>
    have interned : Draws p allocs cast (onStore (·.intern r)) r.strokes fun x cast' =>
        (x, .entity e) ∈ cast' := by
      simp only [Ref.strokes, named]
      exact .internEntity agree (within e named) fun _ => Store.intern_of_entity? named
    refine .before interned.attempt fun outcome cast' _ ⟨x, ended, there⟩ => ?_
    subst ended
    exact .pure (.inr ⟨x, e, rfl, rfl, there⟩)
  | none =>
    have strokes : r.strokes = [] := by simp [Ref.strokes, named]
    rw [strokes]
    intro sk w drawn
    obtain ⟨fault, skips⟩ := internOrSkip_of_entity?_eq_none event named w
    obtain ⟨⟨⟩, w', cast', skipped, more, drawn', -⟩ := draws_skip event fault sk w drawn
    exact ⟨none, w', cast', skips.trans (bind_of_ok skipped), more, drawn', .inl ⟨rfl, rfl⟩⟩

end Intake

/-! ### Handlers that are wired at once -/

namespace Dispatch

/-- A value flows into a slot of a handler. -/
theorem draws_edgeToLocal (agree : Agree allocs) (src : (x, .entity e) ∈ cast) {l : Local}
    (named : l.isNamed) (site : Site) :
    Draws p allocs cast (edgeToLocal x l site) (e.feedStrokes l) fun _ _ => True := by
  unfold Entity.feedStrokes
  refine .bind (.internLocal agree named) fun dst cast₁ more there => ?_
  refine .before (.within (.addEdge (more src) there site)) fun added _ _ _ => ?_
  split
  · exact .countDispatch _
  · exact .pure trivial

/-- How an edge into a slot runs, for a node that need not be in the cast. -/
theorem edgeToLocal_eq {w : Workspace} {l : Local} (named : l.isNamed) {site : Site} {added : Bool}
    {s : Store} (granted : (w.store.internEntity (.slot l)).2.addEdge x
      (w.store.internEntity (.slot l)).1 site = .ok (added, s)) :
    ∃ w', edgeToLocal x l site w = .ok () w' ∧ w'.store = s ∧
      w'.dispatcher.pending = w.dispatcher.pending ∧ w'.intake = w.intake := by
  have interned : onStore (·.internLocal l) w = .ok (w.store.internEntity (.slot l)).1
      { w with store := (w.store.internEntity (.slot l)).2 } := by
    rw [onStore, Store.internLocal_of_isNamed named]
  have joined : within (.wiring l.method)
      (onStore (·.addEdge x (w.store.internEntity (.slot l)).1 site))
      { w with store := (w.store.internEntity (.slot l)).2 } =
        .ok added { w with store := s } := by
    rw [within, onStore, granted]
  unfold edgeToLocal
  rw [bind_of_ok interned, bind_of_ok joined]
  cases added
  · exact ⟨_, rfl, rfl, rfl, rfl⟩
  · exact ⟨_, rfl, rfl, rfl, rfl⟩

variable {t : Target} {listener view : NodeId} {listener? view? : Option Entity}

theorem isNamed_this (named : t.method ≠ "") : (Local.this t.method).isNamed := by
  simp [Local.isNamed, Local.this, named]

theorem isNamed_param (named : t.method ≠ "") (i : Int) : (Local.param t.method i).isNamed := by
  simp [Local.isNamed, Local.param, named]

/-- The listener flows into the receiver of a handler, and the view into its view parameter. -/
theorem draws_connect (agree : Agree allocs) (named : t.method ≠ "")
    (listens : cast.Fills listener listener?) (views : cast.Fills view view?) (site : Site) :
    Draws p allocs cast (connect t listener view site)
      ((listener?.elim [] fun e => e.feedStrokes (.this t.method)) ++
        match t.handler.viewParam? with
        | some i => view?.elim [] fun e => e.feedStrokes (.param t.method i)
        | none => []) fun _ _ => True := by
  have viewed (cast' : Cast) (more : cast ⊆ cast') : Draws p allocs cast'
      (match t.handler.viewParam? with
        | some i => if view ≠ 0 then edgeToLocal view (.param t.method i) site else pure ()
        | none => pure ())
      (match t.handler.viewParam? with
        | some i => view?.elim [] fun e => e.feedStrokes (.param t.method i)
        | none => []) fun _ _ => True := by
    cases t.handler.viewParam? with
    | none => exact .pure trivial
    | some i =>
      refine .assuming (fun _ _ drawn => drawn.picture.eq_zero_iff_of_fills (views.mono more))
        fun absent => ?_
      cases view? with
      | none =>
        simp only [ne_eq, absent, not_true_eq_false, if_false]
        exact .pure trivial
      | some e =>
        simp only [ne_eq, absent, reduceCtorEq, not_false_eq_true, if_true]
        exact draws_edgeToLocal agree (more views) (isNamed_param named i) site
  refine .assuming (fun _ _ drawn => drawn.picture.eq_zero_iff_of_fills listens) fun absent => ?_
  unfold connect
  cases listener? with
  | none =>
    simp only [ne_eq, absent, not_true_eq_false, if_false]
    exact viewed cast (List.Subset.refl _)
  | some e =>
    simp only [ne_eq, absent, reduceCtorEq, not_false_eq_true, if_true]
    exact .bind (draws_edgeToLocal agree listens (isNamed_this named) site)
      fun _ cast' more _ => viewed cast' more

/-- A menu is made, and then given to the handler that it is for. -/
theorem draws_giveMenu (agree : Agree allocs) (named : t.method ≠ "") (site : Site) :
    Draws p allocs cast (giveMenu t site)
      (match t.handler.menuParam? with
      | some i => [.node (.entity (.slot (.param t.method i))), .node (.menu (.param t.method i))]
      | none => []) fun _ _ => True := by
  unfold giveMenu
  cases t.handler.menuParam? with
  | none => exact .pure trivial
  | some i =>
    intro sk w drawn
    obtain ⟨cast₁, more, there, drawn₁⟩ := drawn.madeUp.name agree
      (Entity.within_slot allocs (.param t.method i))
    obtain ⟨added, s, granted, drawn₂⟩ := drawn₁.give there site
    obtain ⟨w', ran, store, pending, intake⟩ := edgeToLocal_eq
      (w := { w with store := (w.store.newAllocation contextMenuClass .contextMenu).2 })
      (isNamed_param named i) granted
    rw [List.append_assoc] at drawn₂
    refine ⟨(), w', (w.store.nextId, .menu (.param t.method i)) :: cast₁, ran,
      List.Subset.trans more (List.subset_cons_self _ _), ?_, trivial⟩
    exact drawn₂.congr store pending (congrArg _ intake)

theorem draws_reportUnresolved (className : String) (methods : List String) :
    Draws p allocs cast (reportUnresolved className methods) [] fun _ _ => True := by
  unfold reportUnresolved
  split
  · exact .after (.countDispatch _) fun _ _ _ _ => .note _
  · exact .pure trivial

theorem draws_registration {r : Resolver} {op : NodeId} {c : RecognizedCall} {reg : Registration}
    (there : (op, .call c) ∈ cast) (listed : r.table.byInterface? c.operation.listener = some reg) :
    Draws p allocs cast (registration r op) [] fun found _ => found = reg := by
  intro sk w drawn
  have node := (drawn.picture.shows _ _ there).node
  have entry : r.registrationAt? w.store op = some reg := by
    simp [Resolver.registrationAt?, Store.operationAt, node, Node.operation?, listed]
  exact ⟨reg, w, cast, registration_eq entry, List.Subset.refl _, by rwa [List.append_nil], rfl⟩

/-- A registration of a context menu is wired by the first entry of its interface, and hands out a
menu to every handler that takes one. -/
theorem draws_resolveContextMenu (agree : Agree allocs) {r : Resolver} {task : DispatchTask}
    {c : RecognizedCall} {reg : Registration} (there : (task.op, .call c) ∈ cast)
    (listed : r.table.byInterface? c.operation.listener = some reg)
    (listens : cast.Fills task.listener listener?) (views : cast.Fills task.view view?) :
    Draws p allocs cast (resolveContextMenu r task)
      ((r.targets reg task.listenerClass).flatMap (·.strokes listener? view?))
      fun _ _ => True := by
  unfold resolveContextMenu
  refine .after (draws_registration there listed) fun found cast₁ more₁ same => ?_
  subst same
  refine .after (draws_reportUnresolved _ _) fun _ cast₂ more₂ _ => ?_
  refine .forM fun t target cast₃ more₃ => ?_
  have more := List.Subset.trans more₁ (List.Subset.trans more₂ more₃)
  have named : t.method ≠ "" := method_ne_of_mem_targets target
  exact .bind (draws_connect agree named (listens.mono more) (views.mono more) _)
    fun _ _ _ _ => draws_giveMenu agree named _

end Dispatch

/-! ### Flows -/

namespace Intake

variable {view : NodeId} {v : Entity}

/-- The first flow out of a view wires the override of its class. -/
theorem wireOverride_draws (agree : Agree allocs) {sk : Sketch} {w : Workspace}
    (drawn : Drawn p allocs sk cast [] w) (there : (view, .entity v) ∈ cast)
    (unsettled : view ∉ w.intake.settled) {className m : String}
    (method : methodName className viewContextMenu = m) (overrides : p.overriding? v = some m)
    (site : Site) :
    ∃ w' cast', wireOverride ⟨view, .entity v⟩ className site w = .ok () w' ∧ cast ⊆ cast' ∧
      Drawn p allocs (sk ++ p.overrideStrokes v) cast' [] w' := by
  have named : m ≠ "" := method ▸ methodName_ne _ _
  have isThis : (Local.this m).isNamed := by simp [Local.isNamed, Local.this, named]
  have isParam : (Local.param m 0).isNamed := by simp [Local.isNamed, Local.param, named]
  obtain ⟨cast₁, more₁, this, drawn₁⟩ := drawn.name agree (Entity.within_slot allocs (.this m))
  obtain ⟨cast₂, more₂, param, drawn₂⟩ := drawn₁.name agree (Entity.within_slot allocs (.param m 0))
  have there₂ := more₂ (more₁ there)
  obtain ⟨joined, s₄, joins, drawn₄⟩ := drawn₂.madeUp.join there₂ (more₂ this) site
  obtain ⟨given, s₅, gives, drawn₅⟩ := drawn₄.override there₂ overrides unsettled param
    (by simp) (by simp) site
  have ran : ∃ w', wireOverride ⟨view, .entity v⟩ className site w = .ok () w' ∧ w'.store = s₅ ∧
      w'.dispatcher = w.dispatcher ∧ w'.intake.settled = view :: w.intake.settled := by
    unfold wireOverride
    simp only [method]
    rw [bind_of_ok (onStore_of_ok (Store.internLocal_of_isNamed isThis)),
      bind_of_ok (onStore_of_ok (Store.internLocal_of_isNamed isParam))]
    exact ⟨_, (bind_of_ok (onStore_of_ok joins)).trans (bind_of_ok (onStore_of_ok gives)), rfl, rfl,
      rfl⟩
  obtain ⟨w', ran, store, dispatcher, settled⟩ := ran
  have strokes : p.overrideStrokes v = [.node (.entity (.slot (.this m)))] ++
      ([.node (.entity (.slot (.param m 0)))] ++ ([.flow v (.slot (.this m))] ++
        [.node (.override v m)])) := by
    simp [Program.overrideStrokes, overrides]
  have drawn' := drawn₅.congr store (congrArg _ dispatcher) settled
  simp only [List.append_assoc, ← strokes] at drawn'
  exact ⟨w', _, ran, List.subset_cons_of_subset _ (List.Subset.trans more₁ more₂), drawn'⟩

end Intake

/-- A static oracle answers alike at all times, and with a class. -/
theorem Program.Static.oracle (static : p.Static) (n : Nat) (method c : String) :
    p.oracle n method c = p.oracle 0 method c ∧ p.oracle n method c ≠ some "" := by
  obtain ⟨h, static⟩ := static
  rw [static]
  exact ⟨rfl, fun empty => Hierarchy.dispatch?_ne empty rfl⟩

/-- What the node of an entity shows of it says whether its class overrides its context menu. -/
theorem Program.overriding?_eq (p : Program) (x : NodeId) (v : Entity) :
    p.overriding? v = if (Node.mk x (.entity v)).object?.any (·.isView) then
      (p.oracle 0 viewContextMenu (Node.mk x (.entity v)).className).map
        (methodName · viewContextMenu) else none := by
  cases v with
  | allocation a => rfl
  | window w =>
    obtain ⟨kind, _, _⟩ := w
    cases kind <;> rfl
  | _ => rfl

namespace Intake

variable {view : NodeId} {v : Entity}

/-- What has been drawn with the first flow out of a view is not drawn again. -/
theorem redraw_override {sk : Sketch} {w : Workspace} (drawn : Drawn p allocs sk cast [] w)
    (there : (view, .entity v) ∈ cast) (settled : view ∈ w.intake.settled) :
    Drawn p allocs (sk ++ p.overrideStrokes v) cast [] w := by
  refine drawn.redraw fun t new => ?_
  unfold Program.overrideStrokes at new
  split at new
  case h_1 => cases new
  case h_2 m overrides =>
    have before := (drawn.settled there overrides).1 settled
    have closed := drawn.picture.closed
    have this := closed.mentions before (.slot (.this m)) (by simp [Figure.mentions])
    have param := closed.mentions before (.slot (.param m 0)) (by simp [Figure.mentions])
    have flow := closed.override before
    simp only [List.mem_cons, List.not_mem_nil, or_false] at new
    rcases new with rfl | rfl | rfl | rfl
    · exact ⟨this, rfl⟩
    · exact ⟨param, rfl⟩
    · exact ⟨flow, rfl⟩
    · exact ⟨before, rfl⟩

/-- The class oracle is asked about a view whose override is not settled. -/
theorem wireViewContextMenu_eq {w : Workspace} {n : Node} (node : w.store.node? view = some n)
    (site : Site) : wireViewContextMenu p view site w =
      if n.object?.any (·.isView) && view ∉ w.intake.settled then
        (match p.oracle w.intake.asked viewContextMenu n.className with
          | none => settle view
          | some "" =>
            throw (Fault.unresolved "dispatch target" (n.className ++ "." ++ viewContextMenu))
          | some c => wireOverride n c site)
        { w with intake := { w.intake with asked := w.intake.asked + 1 } }
      else .ok () w := by
  unfold wireViewContextMenu
  rw [bind_of_ok (show (get : Work Workspace) w = .ok w w from rfl)]
  simp only [node]
  split
  · exact (bind_of_ok (show ask p viewContextMenu n.className w = .ok _ _ from rfl)).trans rfl
  · rfl

/-- Only the first flow out of a view wires something, and flows out of other objects never do. -/
theorem draws_wireViewContextMenu (static : p.Static) (agree : Agree allocs)
    (there : (view, .entity v) ∈ cast) (site : Site) :
    Draws p allocs cast (wireViewContextMenu p view site) (p.overrideStrokes v)
      fun _ _ => True := by
  intro sk w drawn
  rw [wireViewContextMenu_eq (drawn.picture.shows _ _ there)]
  have overriding := p.overriding?_eq view v
  have nothing (inherits : p.overriding? v = none) : p.overrideStrokes v = [] := by
    simp [Program.overrideStrokes, inherits]
  by_cases isView : (Node.mk view (.entity v)).object?.any (·.isView) = true
  case neg =>
    refine ⟨(), w, cast, by simp [isView], List.Subset.refl _, ?_, trivial⟩
    rwa [nothing (overriding.trans (if_neg isView)), List.append_nil]
  by_cases settled : view ∈ w.intake.settled
  case pos =>
    refine ⟨(), w, cast, by simp [settled], List.Subset.refl _, ?_, trivial⟩
    exact redraw_override drawn there settled
  rw [if_pos (by simp [isView, settled])]
  obtain ⟨same, resolved⟩ := static.oracle w.intake.asked viewContextMenu
    (Node.mk view (.entity v)).className
  rw [if_pos isView, ← same] at overriding
  have asked : Drawn p allocs sk cast []
      { w with intake := { w.intake with asked := w.intake.asked + 1 } } := drawn.congr rfl rfl rfl
  generalize p.oracle w.intake.asked viewContextMenu _ = answer at overriding resolved ⊢
  split
  case h_1 =>
    have inherits : p.overriding? v = none := overriding
    refine ⟨(), _, cast, rfl, List.Subset.refl _, ?_, trivial⟩
    rw [nothing inherits, List.append_nil]
    exact asked.settle there inherits
  case h_2 => exact absurd rfl resolved
  case h_3 c _ =>
    have overrides : p.overriding? v = some (methodName c viewContextMenu) := overriding
    obtain ⟨w', cast', ran, more, drawn'⟩ :=
      wireOverride_draws agree asked there settled rfl overrides site
    exact ⟨(), w', cast', ran, more, drawn', trivial⟩

/-- After a flow out of an allocation its override is wired; other flows are left alone. -/
theorem draws_afterFlow (static : p.Static) (agree : Agree allocs) {source : Ref}
    (named : source.entity? = some v) (there : (view, .entity v) ∈ cast) (site : Site) :
    Draws p allocs cast (afterFlow p source view site) (p.overrideStrokes v) fun _ _ => True := by
  unfold afterFlow
  split
  case isTrue =>
    refine .before (draws_wireViewContextMenu static agree there site).attempt
      fun outcome cast' _ ⟨_, ended, _⟩ => ?_
    subst ended
    exact .pure trivial
  case isFalse other =>
    have inherits : p.overriding? v = none := by
      cases Ref.resolves_of_entity? named with
      | allocation kind => exact absurd kind other
      | _ => rfl
    rw [Program.overrideStrokes, inherits]
    exact .pure trivial

/-- A flow draws its ends, its edge, and what comes with it. -/
theorem draws_flow (static : p.Static) (agree : Agree allocs) (event : String) {source target : Ref}
    (within : ∀ e, source.entity? = some e → e.Within allocs)
    (within' : ∀ e, target.entity? = some e → e.Within allocs) (site : Site) :
    Draws p allocs cast (flow p event source target site) (p.flowStrokes source target)
      fun _ _ => True := by
  unfold flow Program.flowStrokes
  refine .after (.countIntake _) fun _ cast₁ _ _ => ?_
  refine .bind (draws_internOrSkip agree event within) fun src? cast₂ _ source? => ?_
  obtain ⟨rfl, unnamed⟩ | ⟨src, e, rfl, named, there⟩ := source?
  · rw [unnamed]
    exact .pure trivial
  rw [named]
  refine .bind (draws_internOrSkip agree event within') fun dst? cast₃ more₃ target? => ?_
  obtain ⟨rfl, unnamed⟩ | ⟨dst, e', rfl, named', there'⟩ := target?
  · rw [unnamed]
    exact .pure trivial
  rw [named']
  refine .bind (.within (.addEdge (more₃ there) there' site)) fun added cast₄ more₄ _ => ?_
  have last (cast' : Cast) (more : cast₄ ⊆ cast') :
      Draws p allocs cast' (afterFlow p source src site) (p.overrideStrokes e) fun _ _ => True :=
    draws_afterFlow static agree named (more (more₄ (more₃ there))) site
  cases added with
  | true => exact .after (.countIntake _) fun _ cast₅ more₅ _ => last cast₅ more₅
  | false => exact last cast₄ (List.Subset.refl _)

/-! ### Recognized calls -/

theorem entity?_of_isNone {r : Ref} (none : r.isNone = true) : r.entity? = Option.none := by
  unfold Ref.isNone at none
  unfold Ref.entity?
  cases kind : r.kind <;> simp_all [NodeKind.name]

/-- A role gets the node of what it names, zero if it names nothing, and nothing if it is in the
way of the operation. -/
theorem draws_internRole (agree : Agree allocs) (event : String) (sig : Signature) (role : Role)
    {r : Ref} (within : ∀ e, r.entity? = some e → e.Within allocs) :
    Draws p allocs cast (internRole event sig role r) r.strokes fun x? cast' =>
      if r.blocks sig role then x? = none else ∃ x, x? = some x ∧ cast'.Fills x r.entity? := by
  unfold internRole
  split
  case isTrue none =>
    have unnamed := entity?_of_isNone none
    have strokes : r.strokes = [] := by simp [Ref.strokes, unnamed]
    rw [strokes]
    refine .pure ?_
    rw [if_neg (by simp [Ref.blocks, none]), unnamed]
    exact ⟨0, rfl, rfl⟩
  case isFalse given =>
    refine .before (draws_internOrSkip agree event within) fun x? cast' _ answer => ?_
    obtain ⟨rfl, unnamed⟩ | ⟨x, e, rfl, named, there⟩ := answer
    · have blocks : r.blocks sig role = (sig.has role && role ≠ .result) := by
        simp [Ref.blocks, given, unnamed]
      refine .pure ?_
      rw [blocks, unnamed]
      by_cases needed : (sig.has role && role ≠ .result) = true
      · rw [if_pos needed, if_pos needed]
      · rw [if_neg needed, if_neg needed]
        exact ⟨0, rfl, rfl⟩
    · refine .pure ?_
      rw [if_neg (by simp [Ref.blocks, named]), named]
      exact ⟨x, rfl, there⟩

/-- Names the roles of an event, up to one that is in the way. -/
def nameRoles (ev : OpEvent) (sig : Signature) : Work (Option Operands) := do
  let some receiver ← internRole ev.kind sig .receiver ev.receiver | return none
  let some parameter ← internRole ev.kind sig .parameter ev.parameter | return none
  let some result ← internRole ev.kind sig .result ev.result | return none
  return some ⟨receiver, parameter, result⟩

/-- A recognized call first names its roles. -/
theorem recognize_eq (p : Program) (ev : OpEvent) : recognize p ev = (do
    countIntake fun t => { t with events := t.events + 1 }
    let some kind := OpKind.ofName? ev.kind
      | throw (.contract 0 ev.kind "" (.unknownKind ev.kind))
    let some operands ← nameRoles ev kind.signature | return 0
    if kind.signature.listener then
      match p.resolver.table.byMethod? ev.listener with
      | none =>
        skip ev.kind (.unresolved "listener registration" ev.listener)
        return 0
      | some reg => createOperation p ev operands (some reg)
    else createOperation p ev operands none) := by
  unfold recognize
  refine bind_congr fun _ => ?_
  cases OpKind.ofName? ev.kind with
  | none => rfl
  | some kind =>
    simp only [nameRoles, bind_assoc]
    refine bind_congr fun receiver? => ?_
    cases receiver? with
    | none => rfl
    | some receiver =>
      simp only [bind_assoc]
      refine bind_congr fun parameter? => ?_
      cases parameter? with
      | none => rfl
      | some parameter =>
        simp only [bind_assoc]
        refine bind_congr fun result? => ?_
        cases result? with
        | none => rfl
        | some result => rfl

/-- The roles of an event are named, if none is in the way. -/
theorem draws_nameRoles (agree : Agree allocs) {ev : OpEvent} (sig : Signature)
    (within : ∀ r ∈ ev.refs, ∀ e, r.entity? = some e → e.Within allocs) :
    Draws p allocs cast (nameRoles ev sig) (ev.roleStrokes sig) fun i? cast' =>
      if ev.isBlocked sig then i? = none
      else ∃ i, i? = some i ∧ ∀ role, cast'.Fills (i.get role) (ev.ref role).entity? := by
  unfold nameRoles OpEvent.roleStrokes OpEvent.isBlocked
  refine .bind (draws_internRole agree _ sig .receiver (within _ (by simp [OpEvent.refs])))
    fun receiver? cast₁ _ named => ?_
  split at named
  case isTrue blocks =>
    subst named
    rw [if_pos blocks]
    exact .pure (by simp [blocks])
  case isFalse free =>
    obtain ⟨receiver, rfl, receives⟩ := named
    rw [if_neg free]
    refine .bind (draws_internRole agree _ sig .parameter (within _ (by simp [OpEvent.refs])))
      fun parameter? cast₂ more₂ named => ?_
    split at named
    case isTrue blocks =>
      subst named
      rw [if_pos blocks]
      exact .pure (by simp [blocks])
    case isFalse free' =>
      obtain ⟨parameter, rfl, takes⟩ := named
      rw [if_neg free']
      refine .before (draws_internRole agree _ sig .result (within _ (by simp [OpEvent.refs])))
        fun result? cast₃ more₃ named => ?_
      rw [if_neg (by simp [Ref.blocks])] at named
      obtain ⟨result, rfl, yields⟩ := named
      refine .pure ?_
      rw [if_neg (by simp [free, free'])]
      refine ⟨_, rfl, fun role => ?_⟩
      cases role with
      | receiver => exact receives.mono (List.Subset.trans more₂ more₃)
      | parameter => exact takes.mono more₃
      | result => exact yields
      | other => rfl

/-- Whether the operands suit the signature can be read off the event, if each of them is what the
event names for its role. -/
theorem fits_iff_suits {ev : OpEvent} {sig : Signature} {i : Operands} {s : Store}
    (absent : ∀ role, i.get role = 0 ↔ (ev.ref role).entity? = none)
    (plain : ∀ role, s.isOperand (i.get role) = (ev.ref role).entity?.isSome) :
    s.Fits sig i ↔ ev.suits sig = true := by
  have suits : ev.suits sig = true ↔
      (∀ role ∈ [Role.receiver, .parameter, .result], i.get role ≠ 0 → sig.has role) ∧
        ∀ role ∈ sig.layout, s.isOperand (i.get role) := by
    simp only [OpEvent.suits, Bool.and_eq_true, List.all_eq_true, plain, ne_eq, absent,
      Bool.or_eq_true, Option.isNone_iff_eq_none]
    grind
  rw [suits]
  constructor
  · exact fun fits => ⟨fun role _ given => fits.declared role given, fits.filled⟩
  · rintro ⟨declared, filled⟩
    refine ⟨fun role given => ?_, filled, fun given => ?_⟩
    · cases role with
      | other => exact absurd rfl given
      | _ => exact declared _ (by simp) given
    · have present := plain .result
      rw [show i.get .result = i.result from rfl] at present
      rw [present]
      exact Option.isSome_iff_ne_none.2 fun none => given ((absent .result).2 none)

theorem fits_iff {ev : OpEvent} {sig : Signature} {i : Operands} {sk : Sketch}
    {loose : List NodeId} {s : Store} (pic : Pictures allocs sk cast loose s)
    (fills : ∀ role, cast.Fills (i.get role) (ev.ref role).entity?) :
    s.Fits sig i ↔ ev.suits sig = true :=
  fits_iff_suits (fun role => pic.eq_zero_iff_of_fills (fills role))
    fun role => pic.isOperand_of_fills (fills role)

section Create

variable {ev : OpEvent} {kind : OpKind} {i : Operands} {reg? : Option Registration}
  {reg : Registration}

/-- How an operation whose operands suit is made. -/
theorem makeOperation_eq (known : OpKind.ofName? ev.kind = some kind)
    (reg? : Option Registration) {w : Workspace}
    (fits : w.store.Fits kind.signature i) :
    ∃ v, makeOperation ev i reg? w = .ok w.store.nextId v ∧
      v.store = (w.store.push (.operation (ev.call kind reg?).operation)).linkOperands
        w.store.nextId (ev.call kind reg?).operation i ∧
      v.dispatcher = w.dispatcher ∧ v.intake.settled = w.intake.settled := by
  obtain ⟨s, store, granted⟩ : ∃ s, s = _ ∧
      w.store.createOperation (operationRequest ev i reg?) = .ok (w.store.nextId, s) :=
    ⟨_, rfl, Store.createOperation_eq_ok_iff.2 ⟨kind, known, fits, rfl, rfl⟩⟩
  have made : within (.event ev.kind ev.site)
      (onStore (·.createOperation (operationRequest ev i reg?))) w =
        .ok w.store.nextId { w with store := s } := by
    rw [within, onStore_of_ok granted]
  exact ⟨_, (bind_of_ok made).trans rfl, store, rfl, rfl⟩

/-- An operation whose operands do not suit is refused. -/
theorem makeOperation_fails (known : OpKind.ofName? ev.kind = some kind)
    (reg? : Option Registration) {w : Workspace}
    (unfit : ¬ w.store.Fits kind.signature i) : ∃ e, makeOperation ev i reg? w = .error e w := by
  cases answer : w.store.createOperation (operationRequest ev i reg?) with
  | ok granted =>
    obtain ⟨kind', known', fits, -⟩ := Store.createOperation_eq_ok_iff.1 answer
    cases known.symm.trans known'
    exact absurd fits unfit
  | error e =>
    have refused : within (.event ev.kind ev.site)
        (onStore (·.createOperation (operationRequest ev i reg?))) w =
          .error (.within (.event ev.kind ev.site) e) w := by
      rw [within, onStore, answer]
    exact ⟨_, bind_of_error refused⟩

/-- The class that handles a context-menu registration can be read off the event. -/
theorem contextMenuHandler_eq {sk : Sketch} {loose : List NodeId} {s : Store} {x : NodeId}
    (pic : Pictures allocs sk cast loose s) (fills : cast.Fills x ev.parameter.entity?) :
    contextMenuHandler s ev x = ev.handlerClass := by
  unfold contextMenuHandler OpEvent.handlerClass
  split
  · rfl
  · cases named : ev.parameter.entity? with
    | none =>
      rw [named] at fills
      obtain rfl : x = 0 := fills
      rfl
    | some e =>
      rw [named] at fills
      have node : s.node? x = some ⟨x, .entity e⟩ := pic.shows _ _ fills
      rw [node]
      cases e <;> rfl

/-- What the dispatcher is to wire for a registration of a context menu. -/
def menuTask (s : Store) (ev : OpEvent) (i : Operands) (op : NodeId) : DispatchTask where
  listenerClass := contextMenuHandler s ev i.parameter
  parameterType := ev.parameterType
  listener := i.parameter
  view := i.receiver
  op := op
  site := ev.site
  contextMenu := true

theorem registerListener_of_menu (p : Program) (ev : OpEvent) (i : Operands) (op : NodeId)
    (w : Workspace) (menu : reg.contextMenu = true) :
    registerListener p ev i op reg w = (do
      Dispatch.register p.resolver (menuTask w.store ev i op)
      countIntake fun t => { t with registrations := t.registrations + 1 } : Work Unit) w := by
  unfold registerListener
  rw [bind_of_ok (show store w = .ok w.store w from rfl)]
  simp only [menu, if_true]
  rfl

/-- A registration of a context menu is wired at once. -/
theorem draws_registerListener (agree : Agree allocs) {op : NodeId}
    (there : (op, .call (ev.call kind (some reg))) ∈ cast)
    (fills : ∀ role, cast.Fills (i.get role) (ev.ref role).entity?) (menu : reg.contextMenu = true)
    (listed : ∃ first, p.resolver.table.byInterface? reg.interface = some first) :
    Draws p allocs cast (registerListener p ev i op reg) (ev.menuStrokes p reg)
      fun _ _ => True := by
  intro sk w drawn
  obtain ⟨first, listed⟩ := listed
  have handler : contextMenuHandler w.store ev i.parameter = ev.handlerClass :=
    contextMenuHandler_eq drawn.picture (fills .parameter)
  have register : Draws p allocs cast (Dispatch.register p.resolver (menuTask w.store ev i op))
      (ev.menuStrokes p reg) fun _ _ => True := by
    unfold Dispatch.register OpEvent.menuStrokes menuTask
    rw [handler, listed]
    refine .after (.countDispatch _) fun _ cast₁ more _ => ?_
    exact Dispatch.draws_resolveContextMenu agree (more there) listed
      ((fills .parameter).mono more) ((fills .receiver).mono more)
  have body := register.before fun _ _ _ _ =>
    .countIntake fun t => { t with registrations := t.registrations + 1 }
  obtain ⟨a, w', cast', ran, rest⟩ := body sk w drawn
  exact ⟨a, w', cast', (registerListener_of_menu p ev i op w menu).trans ran, rest⟩

/-- Any other registration waits. -/
theorem registerListener_eq (p : Program) (ev : OpEvent) (i : Operands) (op : NodeId)
    (w : Workspace) (later : ¬ reg.contextMenu = true) :
    ∃ w', registerListener p ev i op reg w = .ok () w' ∧ w'.store = w.store ∧
      w'.dispatcher.pending = w.dispatcher.pending ++
        [{ listenerClass := reg.interface, parameterType := ev.parameterType
           listener := i.parameter, view := i.receiver, op := op, site := ev.site
           contextMenu := false }] ∧
      w'.intake.settled = w.intake.settled := by
  have later : reg.contextMenu = false := Bool.not_eq_true _ ▸ later
  unfold registerListener
  rw [bind_of_ok (show store w = .ok w.store w from rfl)]
  simp only [later, Bool.false_eq_true, if_false]
  exact ⟨_, rfl, rfl, rfl, rfl⟩

/-- An operation whose operands suit is created and registered; any other is refused. -/
theorem createOperation_renders (agree : Agree allocs)
    (known : OpKind.ofName? ev.kind = some kind) (entry : EntryFor p ev kind reg?)
    (fills : ∀ role, cast.Fills (i.get role) (ev.ref role).entity?) :
    Renders p allocs cast (createOperation p ev i reg?)
      (if ev.suits kind.signature then some (ev.callStrokes p kind reg?) else none) := by
  rw [createOperation_eq]
  by_cases suits : ev.suits kind.signature = true
  case neg =>
    rw [if_neg suits]
    intro sk w drawn
    obtain ⟨e, failed⟩ := makeOperation_fails known reg? fun fits =>
      suits ((fits_iff drawn.picture fills).1 fits)
    exact ⟨e, w, bind_of_error failed⟩
  rw [if_pos suits]
  intro sk w drawn
  have fits := (fits_iff drawn.picture fills).2 suits
  obtain ⟨v, made, store, dispatcher, settled⟩ := makeOperation_eq known reg? fits
  rw [bind_of_ok made]
  have callFills : ∀ role, cast.Fills (i.get role) ((ev.call kind reg?).operand role) := by
    intro role
    cases role <;> exact fills _
  have later {role : Role} : Cast.Fills ((w.store.nextId, .call (ev.call kind reg?)) :: cast)
      (i.get role) (ev.ref role).entity? := (fills role).mono (List.subset_cons_self _ _)
  unfold OpEvent.callStrokes
  cases reg? with
  | none =>
    have drawn₁ := drawn.operate callFills fits store (by simp [dispatcher, OpEvent.call]) settled
    exact ⟨_, v, _, rfl, List.subset_cons_self _ _, drawn₁, trivial⟩
  | some reg =>
    have listed : ∃ first, p.resolver.table.byInterface? reg.interface = some first := by
      obtain ⟨-, ⟨⟩⟩ | ⟨-, _, found, ⟨⟩⟩ := entry
      exact ListenerTable.exists_byInterface? found
    by_cases menu : reg.contextMenu = true
    · have drawn₁ := drawn.operate callFills fits store
        (by simp [dispatcher, OpEvent.call, menu]) settled
      obtain ⟨⟨⟩, w', cast', ran, more, drawn', -⟩ :=
        draws_registerListener agree List.mem_cons_self (fun _ => later) menu listed _ v drawn₁
      simp only [menu, if_true]
      rw [List.append_assoc] at drawn'
      exact ⟨_, w', cast', bind_of_ok ran, fun _ there => more (List.mem_cons_of_mem _ there),
        drawn', trivial⟩
    · obtain ⟨w', ran, store', pending, settled'⟩ :=
        registerListener_eq p ev i w.store.nextId v menu
      have drawn₁ := drawn.operate callFills fits (store'.trans store)
        (by simp [pending, dispatcher, OpEvent.call, menu, operationRequest,
          OperationRequest.operation]) (settled'.trans settled)
      simp only [menu, Bool.false_eq_true, if_false]
      exact ⟨_, w', _, bind_of_ok ran, List.subset_cons_self _ _, drawn₁, trivial⟩

end Create

/-- A recognized call draws its sketch, or breaks a contract if it has none. -/
theorem recognize_renders (agree : Agree allocs) {ev : OpEvent}
    (within : ∀ r ∈ ev.refs, ∀ e, r.entity? = some e → e.Within allocs) :
    Renders p allocs cast (recognize p ev) (ev.strokes? p) := by
  rw [recognize_eq]
  refine .afterNothing (.countIntake _) fun _ cast₁ _ _ => ?_
  unfold OpEvent.strokes?
  cases known : OpKind.ofName? ev.kind with
  | none => exact fun sk w _ => ⟨_, w, rfl⟩
  | some kind =>
    have named : Draws p allocs cast₁ (nameRoles ev kind.signature) _ _ :=
      draws_nameRoles agree kind.signature within
    by_cases blocked : ev.isBlocked kind.signature = true
    · simp only [blocked, if_true] at named ⊢
      refine Draws.before named fun i? cast₂ _ none => ?_
      subst none
      exact .pure trivial
    simp only [blocked, Bool.false_eq_true, if_false] at named ⊢
    unfold OpEvent.entry?
    have created (reg? : Option Registration) (entry : EntryFor p ev kind reg?) (i : Operands)
        (cast₂ : Cast) (fills : ∀ role, cast₂.Fills (i.get role) (ev.ref role).entity?) :=
      createOperation_renders (p := p) agree known entry fills
    have outcome (reg? : Option Registration) :
        (if ev.suits kind.signature = true then
          some (ev.roleStrokes kind.signature ++ ev.callStrokes p kind reg?) else none) =
        (if ev.suits kind.signature = true then some (ev.callStrokes p kind reg?) else none).map
          (ev.roleStrokes kind.signature ++ ·) := by
      split <;> rfl
    by_cases listens : kind.signature.listener = true
    · simp only [listens, if_true]
      cases found : p.resolver.table.byMethod? ev.listener with
      | none =>
        refine Draws.before named fun i? cast₂ _ ⟨i, given, _⟩ => ?_
        subst given
        exact .after (draws_skip _ _) fun _ _ _ _ => .pure trivial
      | some reg =>
        simp only [Option.map_some, outcome]
        refine .after named fun i? cast₂ _ ⟨i, given, fills⟩ => ?_
        subst given
        exact created (some reg) (.inr ⟨listens, reg, found, rfl⟩) i cast₂ fills
    · simp only [listens, Bool.false_eq_true, if_false, outcome]
      refine .after named fun i? cast₂ _ ⟨i, given, fills⟩ => ?_
      subst given
      exact created none (.inl ⟨Bool.not_eq_true _ ▸ listens, rfl⟩) i cast₂ fills

/-- A tab host draws the look-up of its part. -/
theorem tabHost_renders (agree : Agree allocs) {host target : Ref} (part : String) (site : Site)
    (within : ∀ e, host.entity? = some e → e.Within allocs)
    (within' : ∀ e, target.entity? = some e → e.Within allocs) :
    Renders p allocs cast (tabHost p host part target site)
      (match p.resource? part with
      | none => some []
      | some id => (partCall host target id site).strokes? p) := by
  unfold tabHost
  cases p.resource? part with
  | none =>
    exact Draws.after (.countIntake _) fun _ _ _ _ =>
      .after (draws_skip _ _) fun _ _ _ _ => .pure trivial
  | some id =>
    have refs : ∀ r ∈ (partCall host target id site).refs,
        ∀ e, r.entity? = some e → e.Within allocs := by
      intro r listed
      simp only [OpEvent.refs, partCall, List.mem_cons, List.not_mem_nil, or_false] at listed
      rcases listed with rfl | rfl | rfl
      · exact within
      · intro e named
        cases Ref.resolves_of_entity? named with
        | resource => rintro a ⟨⟩
        | _ kind => cases kind
      · exact within'
    exact recognize_renders agree refs

end Intake

/-! ### Replay -/

namespace Facts

/-- An event draws its sketch, or breaks a contract if it has none. -/
theorem replayEvent_renders (static : p.Static) (agree : Agree allocs) {ev : FlowEvent}
    (within : ∀ r ∈ ev.refs, ∀ e, r.entity? = some e → e.Within allocs) :
    Renders p allocs cast (replayEvent p ev) (ev.strokes? p) := by
  have target : ∀ e, ev.target.entity? = some e → e.Within allocs :=
    within _ (by simp [FlowEvent.refs])
  have source : ∀ e, ev.source.entity? = some e → e.Within allocs :=
    within _ (by simp [FlowEvent.refs])
  have host : ∀ e, ev.host.entity? = some e → e.Within allocs :=
    within _ (by simp [FlowEvent.refs])
  unfold replayEvent
  split <;> unfold FlowEvent.strokes?
  case h_1 kind | h_2 kind | h_3 kind =>
    rw [kind]
    exact Intake.draws_flow static agree _ source target _
  case h_4 kind =>
    rw [kind]
    cases op : ev.op with
    | none => exact Draws.note _
    | some op' =>
      refine .before (Intake.recognize_renders agree fun r listed => within r ?_)
        fun _ _ => .pure trivial
      have same : (operationAt op' ev.site).refs = op'.refs := by
        unfold operationAt
        split <;> rfl
      rw [same] at listed
      exact List.mem_append_right _ (by simpa [op] using listed)
  case h_5 kind =>
    rw [kind]
    exact .before (Intake.tabHost_renders agree _ _ host target) fun _ _ => .pure trivial
  case h_6 =>
    split
    case h_6 => exact Draws.note _
    all_goals contradiction

/-- Events that have sketches are replayed, and draw them. -/
theorem draws_replayEvents (static : p.Static) (agree : Agree allocs) {events : List FlowEvent}
    (within : ∀ ev ∈ events, ∀ r ∈ ev.refs, ∀ e, r.entity? = some e → e.Within allocs)
    (sound : ∀ ev ∈ events, (ev.strokes? p).isSome) (index : Nat) :
    Draws p allocs cast (replayEvents p index events) (sketch p events) fun _ _ => True := by
  induction events generalizing index cast with
  | nil => exact .pure trivial
  | cons ev rest ih =>
    obtain ⟨strokes, has⟩ := Option.isSome_iff_exists.1 (sound ev List.mem_cons_self)
    have first : Renders p allocs cast (replayEvent p ev) (ev.strokes? p) :=
      replayEvent_renders static agree (within ev List.mem_cons_self)
    rw [has] at first
    rw [sketch, List.flatMap_cons, has]
    refine .bind first.within fun _ cast' _ _ => ?_
    exact ih (fun ev' listed => within ev' (List.mem_cons_of_mem _ listed))
      (fun ev' listed => sound ev' (List.mem_cons_of_mem _ listed)) (index + 1)

/-- Events that have been replayed have sketches. -/
theorem isSome_of_replayEvents (static : p.Static) (agree : Agree allocs)
    {events : List FlowEvent}
    (within : ∀ ev ∈ events, ∀ r ∈ ev.refs, ∀ e, r.entity? = some e → e.Within allocs)
    {index : Nat} {sk : Sketch} {w w' : Workspace} (drawn : Drawn p allocs sk cast [] w)
    (replayed : replayEvents p index events w = .ok () w') :
    ∀ ev ∈ events, (ev.strokes? p).isSome := by
  induction events generalizing index cast sk w with
  | nil => exact fun _ listed => absurd listed List.not_mem_nil
  | cons ev rest ih =>
    obtain ⟨⟨⟩, v, first, later⟩ := bind_eq_ok replayed
    have renders : Renders p allocs cast (Work.within (.replay index ev.kind) (replayEvent p ev))
        (ev.strokes? p) :=
      .within (replayEvent_renders static agree (within ev List.mem_cons_self))
    cases has : ev.strokes? p with
    | none =>
      rw [has] at renders
      obtain ⟨e, u, failed⟩ := renders sk w drawn
      cases first.symm.trans failed
    | some strokes =>
      rw [has] at renders
      obtain ⟨⟨⟩, u, cast', ran, -, drawn', -⟩ := renders sk w drawn
      cases first.symm.trans ran
      intro ev' listed
      rcases List.mem_cons.1 listed with rfl | listed
      · rw [has]
        rfl
      · exact ih (fun ev' listed => within ev' (List.mem_cons_of_mem _ listed)) drawn' later ev'
          listed

end Facts

end WidgetFlow
