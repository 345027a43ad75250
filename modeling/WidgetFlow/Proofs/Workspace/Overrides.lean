import WidgetFlow.Proofs.Workspace.AppendOnly
import WidgetFlow.Proofs.Workspace.Plain

/-!
# Context-menu overrides of views

A flow out of a view may make intake ask the class oracle which class overrides the handler of
context menus. What a flow asks and what it draws can be read off the flow and the workspace
(`Passage.question?`, `Passage.draw`), and a flow does that and nothing else (`flow_draws`). So the
questions of a run are the whole history of its overrides: a view is open as long as all answers about
it were empty (`Heard.isOpen_iff`), and only open views are asked about. Hence an answer that is not
empty is the last one about its view (`override_wired_once`).
-/

namespace WidgetFlow

open Work

/-! ### What flows draw -/

namespace Store

/-- The graph in which a flow from one entity to another is recorded. -/
def record (s : Store) (source target : Entity) (site : Site) : Store :=
  let (src, s) := s.internEntity source
  let (dst, s) := s.internEntity target
  s.join ⟨src, dst, site⟩

/-- The graph in which a view flows into an override, and a fresh menu into its first parameter. -/
def override (s : Store) (view : NodeId) (method : String) (site : Site) : Store :=
  let (this, s) := s.internEntity (.slot (.this method))
  let (param, s) := s.internEntity (.slot (.param method 0))
  let (menu, s) := s.newAllocation contextMenuClass .contextMenu
  (s.join ⟨view, this, site⟩).join ⟨menu, param, site⟩

end Store

/-- What intake asks the class oracle about the override of a view, and the answer. -/
structure Question where
  view : NodeId
  className : String
  site : Site
  answer : Option String
  deriving DecidableEq, Inhabited

namespace Question

/-- An answer settles the override, unless it names an empty class. -/
def settles (q : Question) : Bool := q.answer ≠ some ""

/-- The overriding method that the answer leads to. -/
def method? (q : Question) : Option String :=
  (q.answer.filter (· ≠ "")).map (methodName · viewContextMenu)

theorem method?_of_ne {className : String} (named : className ≠ "") (x : NodeId) (c : String)
    (site : Site) : (Question.mk x c site (some className)).method? =
      some (methodName className viewContextMenu) := by
  simp [method?, Option.filter, named]

theorem settles_of_method? {q : Question} (wired : q.method?.isSome) : q.settles := by
  refine decide_eq_true fun empty => ?_
  simp [method?, empty, Option.filter] at wired

/-- The graph after the answer: the override is wired, if the answer leads to one. -/
def draw (q : Question) (s : Store) : Store :=
  match q.method? with
  | some method => s.override q.view method q.site
  | none => s

end Question

/-- The question that intake has about a node, if it is a view whose override is not settled. -/
def Workspace.question? (p : Program) (w : Workspace) (x : NodeId) (site : Site) :
    Option Question :=
  match w.store.node? x with
  | none => none
  | some n =>
    if (n.object?.any (·.isView)) && x ∉ w.intake.settled then
      some ⟨x, n.className, site, p.oracle w.intake.asked viewContextMenu n.className⟩
    else none

/-- A value passes from one place to another; `word` tells the cause. -/
structure Passage where
  word : String
  source : Ref
  target : Ref
  site : Site

namespace Passage

/-- Intake of the passage. -/
def work (p : Program) (f : Passage) : Work Unit := Intake.flow p f.word f.source f.target f.site

/-- The question that intake has when the passage comes in. -/
def question? (p : Program) (w : Workspace) (f : Passage) : Option Question :=
  match f.source.entity?, f.target.entity? with
  | some e, some _ =>
    if f.source.kind = .allocation then
      let (src, s) := w.store.internEntity e
      { w with store := s : Workspace }.question? p src f.site
    else none
  | _, _ => none

/-- The graph after the passage: its source and its target are named, as far as they can be, the flow is
recorded, and the override of the source may be wired. -/
def draw (p : Program) (w : Workspace) (f : Passage) : Store :=
  match f.source.entity?, f.target.entity? with
  | none, _ => w.store
  | some e, none => (w.store.internEntity e).2
  | some e, some e' =>
    let s := w.store.record e e' f.site
    (f.question? p w).elim s (·.draw s)

end Passage

/-! ### Questions and answers -/

/-- The two states of intake differ at most in counts that have nothing to do with overrides. -/
structure Intake.SameOverrides (i j : Intake) : Prop where
  asked : j.asked = i.asked
  settled : j.settled = i.settled
  overrides : j.stats.overrides = i.stats.overrides

/-- From one state of intake to another, these questions were asked and answered, and nothing else has
happened to overrides. -/
structure Heard (qs : List Question) (i j : Intake) : Prop where
  asked : j.asked = i.asked + qs.length
  settled : ∀ x, x ∈ j.settled ↔ x ∈ i.settled ∨ ∃ q ∈ qs, q.view = x ∧ q.settles
  overrides : j.stats.overrides = i.stats.overrides + qs.countP (·.method?.isSome)

namespace Heard

variable {qs qs' : List Question} {i j k : Intake}

theorem none (same : i.SameOverrides j) : Heard [] i j :=
  ⟨same.asked, by simp [same.settled], same.overrides⟩

theorem single {q : Question} (asked : j.asked = i.asked + 1)
    (settled : j.settled = if q.settles then q.view :: i.settled else i.settled)
    (overrides : j.stats.overrides = i.stats.overrides + q.method?.isSome.toNat) :
    Heard [q] i j where
  asked := asked
  settled x := by
    rw [settled]
    simp only [List.mem_singleton, exists_eq_left]
    split
    case isTrue settles => rw [List.mem_cons, or_comm, eq_comm, and_iff_left settles]
    case isFalse open_ => simp [open_]
  overrides := by
    rw [overrides, List.countP_singleton]
    cases q.method?.isSome <;> rfl

theorem trans (first : Heard qs i j) (second : Heard qs' j k) : Heard (qs ++ qs') i k where
  asked := by
    rw [second.asked, first.asked, List.length_append]
    omega
  settled x := by
    rw [second.settled, first.settled]
    simp only [List.mem_append]
    grind
  overrides := by
    rw [second.overrides, first.overrides, List.countP_append]
    omega

/-- Counts of other things do not matter. -/
theorem congr (heard : Heard qs i j) (same : j.SameOverrides k) : Heard qs i k := by
  simpa using heard.trans (.none same)

end Heard

/-! ### How a flow runs -/

namespace Intake

variable {p : Program} {w : Workspace} {x : NodeId} {xs : List NodeId}

/-- The wiring of an override, from any plain node. -/
theorem wireOverride_eq {view : Node} (plain : Plain xs w) (there : view.id ∈ xs)
    {className m : String} (method : methodName className viewContextMenu = m) (site : Site) :
    wireOverride view className site w = .ok ()
      { w with
        store := w.store.override view.id m site
        intake := { w.intake with
          settled := view.id :: w.intake.settled
          stats := { w.intake.stats with overrides := w.intake.stats.overrides + 1 } }
        journal := .overrideWired view.label m :: w.journal } := by
  have named : m ≠ "" := method ▸ methodName_ne _ _
  have isThis : (Local.this m).isNamed := by simp [Local.isNamed, Local.this, named]
  have isParam : (Local.param m 0).isNamed := by simp [Local.isNamed, Local.param, named]
  -- The nodes stay plain while names are given and the menu is made, so both edges are granted.
  have plain₁ := plain.name (.slot (.this m))
  have plain₂ := plain₁.name (.slot (.param m 0))
  have plain₃ := plain₂.madeUp contextMenuClass .contextMenu
  obtain ⟨_, joined⟩ :=
    plain₃.addEdge_eq (x := view.id) (by simp [there]) (.tail _ (.tail _ (.head _))) site
  have plain₄ := plain₃.join (x := view.id) (by simp [there]) (.tail _ (.tail _ (.head _))) site
  obtain ⟨_, given⟩ := plain₄.addEdge_eq (.head _) (.tail _ (.head _)) site
  unfold wireOverride
  simp only [method]
  rw [bind_of_ok (onStore_of_ok (Store.internLocal_of_isNamed isThis)),
    bind_of_ok (onStore_of_ok (Store.internLocal_of_isNamed isParam))]
  exact (bind_of_ok joined).trans (bind_of_ok given)

/-- The oracle is asked about a view that is open, and what it answers is done. -/
theorem wireViewContextMenu_draws (plain : Plain xs w) (there : x ∈ xs) (site : Site) :
    ∃ w' outcome, attempt (wireViewContextMenu p x site) w = .ok outcome w' ∧
      (∀ e, outcome = .error e → e.isUnresolved) ∧
      w'.store = (w.question? p x site).elim w.store (·.draw w.store) ∧
      w'.dispatcher = w.dispatcher ∧ Heard (w.question? p x site).toList w.intake w'.intake := by
  obtain ⟨n, node, -⟩ := Store.isOperand_iff.1 (plain.holds x there)
  have number : n.id = x := plain.wellFormed.id_of_node? node
  unfold attempt
  rw [wireViewContextMenu_eq node, Workspace.question?]
  simp only [node]
  by_cases unsettled : (n.object?.any (·.isView) && x ∉ w.intake.settled) = true
  case neg =>
    rw [if_neg unsettled, if_neg unsettled]
    exact ⟨w, .ok (), rfl, by simp, rfl, rfl, .none ⟨rfl, rfl, rfl⟩⟩
  rw [if_pos unsettled, if_pos unsettled]
  generalize p.oracle w.intake.asked viewContextMenu n.className = answer
  match answer with
  | none => exact ⟨_, .ok (), rfl, by simp, rfl, rfl, .single rfl rfl rfl⟩
  | some answer =>
    by_cases empty : answer = ""
    · subst empty
      exact ⟨_, .error _, rfl, by rintro e ⟨⟩; rfl, rfl, rfl, .single rfl rfl rfl⟩
    · have asked : Plain xs
          { w with intake := { w.intake with asked := w.intake.asked + 1 } } := plain
      simp only
      rw [wireOverride_eq asked (number ▸ there) rfl site, number]
      refine ⟨_, .ok (), rfl, by simp, ?_, rfl, .single rfl ?_ ?_⟩
      · simp only [Option.elim_some, Question.draw, Question.method?_of_ne empty]
      · simp [Question.settles, empty]
      · simp [Question.method?_of_ne empty]

/-- After a flow out of an allocation, the question about it is asked and its answer is done. -/
theorem afterFlow_draws (plain : Plain xs w) (there : x ∈ xs) {source : Ref}
    (isAllocation : source.kind = .allocation) (site : Site) :
    ∃ w', afterFlow p source x site w = .ok () w' ∧
      w'.store = (w.question? p x site).elim w.store (·.draw w.store) ∧
      w'.dispatcher = w.dispatcher ∧ Heard (w.question? p x site).toList w.intake w'.intake := by
  obtain ⟨w', outcome, tried, unresolved, graph, dispatcher, heard⟩ :=
    wireViewContextMenu_draws plain there site
  unfold afterFlow
  rw [if_pos isAllocation, bind_of_ok tried]
  cases outcome with
  | ok => exact ⟨w', rfl, graph, dispatcher, heard⟩
  | error e =>
    simp only [unresolved e rfl, if_true]
    exact ⟨_, rfl, graph, dispatcher, heard.congr ⟨rfl, rfl, rfl⟩⟩

/-- A node says what it says from the start, so a question about it stays the same while flows are
recorded. -/
theorem question?_of_grows {v w : Workspace} (grows : v.store.Grows w.store)
    (known : (v.store.node? x).isSome) (settled : w.intake.settled = v.intake.settled)
    (asked : w.intake.asked = v.intake.asked) (site : Site) :
    w.question? p x site = v.question? p x site := by
  obtain ⟨n, node⟩ := Option.isSome_iff_exists.1 known
  simp only [Workspace.question?, node, grows.node? node, settled, asked]

/-- A reference that names nothing skips the event, and does nothing else. -/
theorem internOrSkip_skips (event : String) {r : Ref} (unnamed : r.entity? = none) (w : Workspace) :
    ∃ w', internOrSkip event r w = .ok none w' ∧ w'.store = w.store ∧
      w'.dispatcher = w.dispatcher ∧ w.intake.SameOverrides w'.intake := by
  obtain ⟨fault, skips⟩ := internOrSkip_of_entity?_eq_none event unnamed w
  exact ⟨_, skips, rfl, rfl, rfl, rfl, rfl⟩

/-- A flow between two entities is recorded before the question about its source comes up. -/
theorem flow_records (plain : Plain [] w) {f : Passage} {e e' : Entity}
    (source : f.source.entity? = some e) (target : f.target.entity? = some e') :
    ∃ v, f.work p w = afterFlow p f.source (w.store.internEntity e).1 f.site v ∧
      Plain [(w.store.internEntity e).1] v ∧ (w.store.internEntity e).2.Extends v.store ∧
      v.store = w.store.record e e' f.site ∧ v.dispatcher = w.dispatcher ∧
      w.intake.SameOverrides v.intake := by
  let counted : Workspace := { w with intake := { w.intake with
    stats := { w.intake.stats with events := w.intake.stats.events + 1 } } }
  have count : (countIntake fun t => { t with events := t.events + 1 }) w = .ok () counted := rfl
  have start : Plain [] counted := plain
  have plain₁ := start.name e
  have plain₂ := plain₁.name e'
  obtain ⟨added, granted⟩ := plain₂.addEdge_eq (.tail _ (.head _)) (.head _) f.site
  have plain₃ := plain₂.join (.tail _ (.head _)) (.head _) f.site
  have longer := (Store.internEntity_step _ e').extends.trans (Store.join_step
    (e := ⟨_, _, f.site⟩) (plain₂.holds _ (.tail _ (.head _))) (plain₂.holds _ (.head _))).extends
  have spared : Plain [(w.store.internEntity e).1] _ :=
    ⟨plain₃.wellFormed, plain₃.named, fun x there => plain₃.holds x (.tail _ there)⟩
  have first := internOrSkip_of_entity? f.word source counted
  have second := internOrSkip_of_entity? f.word target
    { counted with store := (counted.store.internEntity e).2 }
  have ran : f.work p w = _ := (bind_of_ok count).trans ((bind_of_ok first).trans
    ((bind_of_ok second).trans (bind_of_ok (within_of_ok _ granted))))
  rw [ran]
  cases added with
  | false => exact ⟨_, rfl, spared, longer, rfl, rfl, rfl, rfl, rfl⟩
  | true => exact ⟨_, rfl, spared, longer, rfl, rfl, rfl, rfl, rfl⟩

/-- A flow never fails; it draws what it should and asks what it should. -/
theorem flow_draws (plain : Plain [] w) (f : Passage) :
    ∃ w', f.work p w = .ok () w' ∧ w'.store = f.draw p w ∧ w'.dispatcher = w.dispatcher ∧
      Heard (f.question? p w).toList w.intake w'.intake := by
  let counted : Workspace := { w with intake := { w.intake with
    stats := { w.intake.stats with events := w.intake.stats.events + 1 } } }
  have count : (countIntake fun t => { t with events := t.events + 1 }) w = .ok () counted := rfl
  rw [Passage.draw, Passage.question?]
  cases source : f.source.entity? with
  | none =>
    obtain ⟨w', skipped, graph, dispatcher, same⟩ := internOrSkip_skips f.word source counted
    refine ⟨w', ?_, graph, dispatcher, .none ⟨same.asked, same.settled, same.overrides⟩⟩
    exact (bind_of_ok count).trans (bind_of_ok skipped)
  | some e =>
    cases target : f.target.entity? with
    | none =>
      have first := internOrSkip_of_entity? f.word source counted
      obtain ⟨w', skipped, graph, dispatcher, same⟩ := internOrSkip_skips f.word target
        { counted with store := (w.store.internEntity e).2 }
      refine ⟨w', ?_, graph, dispatcher, .none ⟨same.asked, same.settled, same.overrides⟩⟩
      exact (bind_of_ok count).trans ((bind_of_ok first).trans (bind_of_ok skipped))
    | some e' =>
      obtain ⟨v, recorded, plain', longer, graph, dispatcher, same⟩ :=
        flow_records (p := p) plain source target
      rw [recorded]
      by_cases isAllocation : f.source.kind = .allocation
      · obtain ⟨w', done, drawn, untouched, heard⟩ :=
          afterFlow_draws (p := p) plain' (.head _) isAllocation f.site
        have known := Store.isSome_of_isOperand ((plain.name e).holds _ (.head _))
        have asks := question?_of_grows (p := p) (w := v) longer.toGrows known same.settled
          same.asked f.site
        simp only [if_pos isAllocation]
        rw [asks, graph] at drawn
        rw [asks] at heard
        exact ⟨w', done, drawn, untouched.trans dispatcher, (Heard.none same).trans heard⟩
      · simp only [if_neg isAllocation, afterFlow]
        exact ⟨v, rfl, graph, dispatcher, .none same⟩

/-- A flow names its source, and goes on from there. -/
theorem flow_extends (plain : Plain [] w) {f : Passage} {e : Entity}
    (source : f.source.entity? = some e) {w' : Workspace} (done : f.work p w = .ok () w') :
    (w.store.internEntity e).2.Extends w'.store := by
  cases target : f.target.entity? with
  | none =>
    obtain ⟨v, ran, graph, -⟩ := flow_draws (p := p) plain f
    cases done.symm.trans ran
    simp only [graph, Passage.draw, source, target]
    exact .refl _
  | some e' =>
    obtain ⟨v, recorded, -, longer, -⟩ := flow_records (p := p) plain source target
    rw [recorded] at done
    obtain ⟨qs, graph⟩ : Served v.store w' :=
      (Served.lasting.afterFlow p f.source _ f.site).of_ok ⟨[], rfl⟩ done
    exact longer.trans (graph ▸ Store.run_extends v.store qs)

end Intake

/-! ### Questions of a run -/

/-- The node of the source of a passage is a view of the class: both ends of the passage name something,
and its source is an allocation. The node may be made for the passage. -/
def Passage.Leaves (f : Passage) (s : Store) (x : NodeId) (className : String) : Prop :=
  f.source.kind = .allocation ∧ f.target.entity?.isSome ∧ ∃ e, f.source.entity? = some e ∧
    (s.internEntity e).1 = x ∧ ∃ n, (s.internEntity e).2.node? x = some n ∧
      n.object?.any (·.isView) ∧ n.className = className

/-- A passage raises a question if it leaves a view that is not settled. -/
theorem Passage.question?_eq_some_iff {p : Program} {w : Workspace} {f : Passage} {q : Question} :
    f.question? p w = some q ↔ f.Leaves w.store q.view q.className ∧ q.view ∉ w.intake.settled ∧
      q.site = f.site ∧ q.answer = p.oracle w.intake.asked viewContextMenu q.className := by
  obtain ⟨x, className, site, answer⟩ := q
  unfold question? Leaves
  cases source : f.source.entity? with
  | none => simp
  | some e =>
    cases target : f.target.entity? with
    | none => simp
    | some e' =>
      by_cases isAllocation : f.source.kind = .allocation
      · simp only [if_pos isAllocation, Workspace.question?]
        cases node : (w.store.internEntity e).2.node? (w.store.internEntity e).1 <;> grind
      · simp [isAllocation]

/-- These questions come up one after the other, from a state of intake on: none is about a view that
is settled by then, and the oracle gives its answers in this order. -/
structure Answered (p : Program) (i : Intake) (qs : List Question) : Prop where
  unsettled : ∀ q ∈ qs, q.view ∉ i.settled
  answers : ∀ k q, qs[k]? = some q →
    q.answer = p.oracle (i.asked + k) viewContextMenu q.className
  once : qs.Pairwise fun q later => q.settles → later.view ≠ q.view

theorem Answered.trans {p : Program} {i j : Intake} {qs qs' : List Question}
    (first : Answered p i qs) (heard : Heard qs i j) (second : Answered p j qs') :
    Answered p i (qs ++ qs') where
  unsettled q listed settled := by
    obtain early | late := List.mem_append.1 listed
    · exact first.unsettled q early settled
    · exact second.unsettled q late ((heard.settled _).2 (.inl settled))
  answers k q listed := by
    by_cases early : k < qs.length
    · rw [List.getElem?_append_left early] at listed
      exact first.answers k q listed
    · have place : i.asked + k = j.asked + (k - qs.length) := by
        rw [heard.asked]
        omega
      rw [List.getElem?_append_right (Nat.le_of_not_lt early)] at listed
      rw [place]
      exact second.answers _ q listed
  once := by
    refine List.pairwise_append.2 ⟨first.once, second.once, fun q early later late settles same => ?_⟩
    exact second.unsettled later late ((heard.settled _).2 (.inr ⟨q, early, same.symm, settles⟩))

/-- No override is wired twice. -/
theorem Answered.nodup_wired {p : Program} {i : Intake} {qs : List Question}
    (answered : Answered p i qs) : ((qs.filter (·.method?.isSome)).map (·.view)).Nodup := by
  refine List.pairwise_map.2 ((answered.once.filter _).imp_of_mem ?_)
  intro q later listed _ apart same
  exact apart (Question.settles_of_method? (List.mem_filter.1 listed).2) same.symm

/-- From the start, a view is open as long as all answers about it were empty. -/
theorem Heard.isOpen_iff {qs : List Question} {j : Intake} (heard : Heard qs {} j) {x : NodeId} :
    x ∉ j.settled ↔ ∀ q ∈ qs, q.view = x → q.answer = some "" := by
  simp only [heard.settled, Question.settles, List.not_mem_nil, false_or, not_exists, not_and,
    decide_eq_true_eq, not_not]

namespace Activity

/-- The passage that an activity reports. -/
def passage? : Activity → Option Passage
  | .assign target source site => some ⟨"assign", source, target, site⟩
  | .bindParameter formal actual site => some ⟨"param", actual, formal, site⟩
  | .bindReturn target returned site => some ⟨"return", returned, target, site⟩
  | _ => none

variable {p : Program} {w : Workspace} {a : Activity}

theorem work_of_passage? {f : Passage} (reports : a.passage? = some f) : a.work p = f.work p := by
  cases a <;> cases reports <;> rfl

/-- The question that an activity raises. -/
def question? (p : Program) (w : Workspace) (a : Activity) : Option Question :=
  a.passage?.bind (·.question? p w)

theorem answered_question? : Answered p w.intake (a.question? p w).toList := by
  cases raised : a.question? p w with
  | none => exact ⟨by simp, by simp, List.Pairwise.nil⟩
  | some q =>
    obtain ⟨f, -, raised⟩ := Option.bind_eq_some_iff.1 raised
    obtain ⟨-, isOpen, -, answer⟩ := Passage.question?_eq_some_iff.1 raised
    refine ⟨by simpa using isOpen, fun k q' listed => ?_, List.pairwise_singleton _ _⟩
    obtain ⟨rfl, rfl⟩ : k = 0 ∧ q = q' := by
      cases k <;> simp_all
    exact answer

/-- Only passages have to do with overrides. -/
theorem keeps_overrides (building : a.builds) (silent : a.passage? = none) (i : Intake) :
    Keeps (fun v => i.SameOverrides v.intake) (a.work p) := by
  have steady : Steady (fun i => (i.asked, i.settled, i.stats.overrides))
      fun v => i.SameOverrides v.intake := by
    refine ⟨fun same _ => same, fun {v v'} same _ _ _ part => ?_⟩
    obtain ⟨asked, settled, overrides⟩ : v'.intake.asked = v.intake.asked ∧
        v'.intake.settled = v.intake.settled ∧
        v'.intake.stats.overrides = v.intake.stats.overrides := by simpa using part
    exact ⟨asked.trans same.asked, settled.trans same.settled, overrides.trans same.overrides⟩
  have creates (ev : OpEvent) (i' : Operands) (reg? : Option Registration) :
      Keeps (fun v => i.SameOverrides v.intake) (Intake.createOperation p ev i' reg?) :=
    steady.createOperation (fun _ => .modify fun _ same => same) (fun _ => rfl)
      (fun _ => Triple.onStore (fun _ _ _ same _ => same) fun _ _ same _ => same) (fun _ => rfl)
      ev i' reg?
  have calls (ev : OpEvent) : Keeps (fun v => i.SameOverrides v.intake) (Intake.recognize p ev) :=
    steady.recognize (fun _ => rfl) (fun _ => rfl) (fun _ same => same) (fun _ same => same)
      fun _ i' reg? _ _ => creates ev i' reg?
  cases a with
  | recognize ev => exact .bind (calls ev) fun _ => .pure
  | tabHost =>
    exact .bind (steady.tabHost (fun _ => rfl) (fun _ => rfl) calls _ _ _ _) fun _ => .pure
  | bindViews => exact steady.bindViews _ _
  | windowRoot => exact steady.windowRoot _ _
  | complete => exact steady.complete (fun _ same => same) p _
  | assign | bindParameter | bindReturn => cases silent
  | _ => cases building

/-- An activity of intake asks what it should, and nothing else happens to overrides. -/
theorem hears (plain : Plain [] w) (building : a.builds) :
    Heard (a.question? p w).toList w.intake (w.perform p a).intake := by
  cases reports : a.passage? with
  | some f =>
    obtain ⟨w', done, -, -, heard⟩ := Intake.flow_draws (p := p) plain f
    simp only [Workspace.perform, question?, work_of_passage? reports, reports, done,
      Option.bind_some]
    exact heard
  | none =>
    simp only [question?, reports, Option.bind_none, Option.toList_none]
    exact .none (Workspace.perform_of_triple (keeps_overrides building reports w.intake)
      (w := w) ⟨rfl, rfl, rfl⟩)

end Activity

namespace Workspace

/-- The questions that come up while activities are done. -/
def questions (p : Program) (w : Workspace) : List Activity → List Question
  | [] => []
  | a :: acts => (a.question? p w).toList ++ (w.perform p a).questions p acts

/-- The questions of a run are the whole history of its overrides. -/
theorem heard_of_run {p : Program} {w : Workspace} (served : Served .empty w) {acts : List Activity}
    (building : ∀ a ∈ acts, a.builds) : Heard (w.questions p acts) w.intake (w.run p acts).intake ∧
      Answered p w.intake (w.questions p acts) := by
  induction acts generalizing w with
  | nil => exact ⟨.none ⟨rfl, rfl, rfl⟩, by simp [questions], by simp [questions], .nil⟩
  | cons a acts ih =>
    have first := Activity.hears (p := p) served.plain (building a List.mem_cons_self)
    obtain ⟨heard, answered⟩ := ih (served_perform p served a)
      fun a' later => building a' (List.mem_cons_of_mem _ later)
    exact ⟨first.trans heard, Activity.answered_question?.trans first answered⟩

end Workspace

/-! ### Overrides in the graph -/

namespace Store

/-- The view flows into the receiver of the method. -/
def FlowsInto (s : Store) (view : NodeId) (method : String) (site : Site) : Prop :=
  ∃ this, s.lookup? (.slot (.this method)) = some this ∧ ⟨view, this, site⟩ ∈ s.succs view

theorem FlowsInto.extend {s t : Store} {view : NodeId} {method : String} {site : Site}
    (flows : s.FlowsInto view method site) (longer : s.Extends t) : t.FlowsInto view method site := by
  obtain ⟨this, known, there⟩ := flows
  exact ⟨this, longer.recalls _ _ known, (longer.succs view).subset there⟩

/-- Where an override is wired, the view flows into its receiver. -/
theorem flowsInto_override {s : Store} {view : NodeId} {method : String} {site : Site}
    (wf : (s.override view method site).WellFormed) :
    (s.override view method site).FlowsInto view method site := by
  let this := s.internEntity (.slot (.this method))
  let param := this.2.internEntity (.slot (.param method 0))
  have known : param.2.lookup? (.slot (.this method)) = some this.1 :=
    (internEntity_step this.2 _).recalls _ _ (lookup?_internEntity s (.slot (.this method)))
  refine ⟨this.1, ?_, (wf.mem_edges_iff (e := ⟨view, this.1, site⟩)).1 ?_⟩
  · simp only [override, lookup?_join]
    exact known
  · exact mem_edges_join.2 (.inr (mem_edges_join.2 (.inl rfl)))

end Store

/-- A passage draws the override that the answer to its question leads to. -/
theorem Passage.flowsInto_draw {p : Program} {w : Workspace} {f : Passage} {q : Question} {m : String}
    (raised : f.question? p w = some q) (method : q.method? = some m)
    (wf : (f.draw p w).WellFormed) : (f.draw p w).FlowsInto q.view m q.site := by
  obtain ⟨⟨-, named, e, source, -⟩, -⟩ := question?_eq_some_iff.1 raised
  obtain ⟨e', target⟩ := Option.isSome_iff_exists.1 named
  have drawn : f.draw p w = (w.store.record e e' f.site).override q.view m q.site := by
    simp only [draw, source, target, raised, Option.elim_some, Question.draw, method]
  rw [drawn] at wf ⊢
  exact Store.flowsInto_override wf

/-- Every override that a run wires is in its graph. -/
theorem Workspace.flowsInto_of_run {p : Program} {w : Workspace} (served : Served .empty w)
    {acts : List Activity} {q : Question} (asked : q ∈ w.questions p acts) {m : String}
    (method : q.method? = some m) : (w.run p acts).store.FlowsInto q.view m q.site := by
  induction acts generalizing w with
  | nil => cases asked
  | cons a acts ih =>
    have next := served_perform p served a
    obtain now | later := List.mem_append.1 asked
    · -- The override is wired by the first activity, and nothing is taken back afterwards.
      obtain ⟨f, reports, raised⟩ := Option.bind_eq_some_iff.1 (Option.mem_toList.1 now)
      obtain ⟨w', done, graph, -⟩ := Intake.flow_draws (p := p) served.plain f
      have performed : w.perform p a = w' := by
        simp only [Workspace.perform, Activity.work_of_passage? reports, done]
      rw [performed] at next
      obtain ⟨qs, more⟩ : Served w'.store (w'.run p acts) := served_run p w' acts
      rw [show w.run p (a :: acts) = (w.perform p a).run p acts from rfl, performed, more]
      refine Store.FlowsInto.extend ?_ (Store.run_extends w'.store qs)
      have wf := next.plain.wellFormed
      rw [graph] at wf ⊢
      exact Passage.flowsInto_draw raised method wf
    · exact ih next later

/-- The override of a view is wired at most once, and is tried again as long as it cannot be. Whatever
events come in, whenever construction is ended, and whatever the oracle answers: the oracle is asked
these questions in this order, and not again about a view after an answer that is not empty. The
override count says how many views are wired, each of which flows into its override. A further flow
always comes to its end, draws what it should and nothing else, and asks about the view that it leaves
exactly if all answers about this view so far were empty. -/
theorem override_wired_once (p : Program) (acts : List Activity) (building : ∀ a ∈ acts, a.builds) :
    let w := Workspace.run p {} acts
    let qs := Workspace.questions p {} acts
    let wired := qs.filter (·.method?.isSome)
    (w.intake.asked = qs.length ∧
      ∀ k q, qs[k]? = some q → q.answer = p.oracle k viewContextMenu q.className) ∧
    (qs.Pairwise fun q later => q.answer ≠ some "" → later.view ≠ q.view) ∧
    ((wired.map (·.view)).Nodup ∧ w.intake.stats.overrides = wired.length) ∧
    (∀ q ∈ wired, ∀ m, q.method? = some m → w.store.FlowsInto q.view m q.site) ∧
    ∀ (a : Activity) f, a.passage? = some f → ∃ w', a.work p w = .ok () w' ∧ w'.store = f.draw p w ∧
      w'.intake.asked = w.intake.asked + (f.question? p w).toList.length ∧
      ∀ q, f.question? p w = some q ↔ f.Leaves w.store q.view q.className ∧
        (∀ earlier ∈ qs, earlier.view = q.view → earlier.answer = some "") ∧ q.site = f.site ∧
        q.answer = p.oracle qs.length viewContextMenu q.className := by
  intro w qs wired
  have start : Served .empty ({} : Workspace) := ⟨[], rfl⟩
  obtain ⟨heard, answered⟩ := Workspace.heard_of_run start building
  have asked : w.intake.asked = qs.length := heard.asked.trans (Nat.zero_add _)
  have once : qs.Pairwise fun q later => q.answer ≠ some "" → later.view ≠ q.view :=
    answered.once.imp fun apart settles => apart (decide_eq_true settles)
  refine ⟨⟨asked, fun k q listed => ?_⟩, once, ⟨?_, ?_⟩, fun q listed m method => ?_,
    fun a f reports => ?_⟩
  · rw [answered.answers k q listed, Nat.zero_add]
  · exact answered.nodup_wired
  · rw [heard.overrides, List.countP_eq_length_filter]
    exact Nat.zero_add _
  · exact Workspace.flowsInto_of_run start (List.mem_filter.1 listed).1 method
  · obtain ⟨w', done, graph, -, more⟩ :=
      Intake.flow_draws (p := p) (served_run p {} acts).plain f
    refine ⟨w', (Activity.work_of_passage? reports ▸ done), graph, more.asked, fun q => ?_⟩
    rw [Passage.question?_eq_some_iff, heard.isOpen_iff, asked]

/-- A program whose class oracle is not ready for its first `n` questions and answers them with an
empty class. -/
def Program.notReadyFor (p : Program) (n : Nat) : Program :=
  { p with oracle := fun k m c => if k < n then some "" else p.oracle k m c }

/-- The oracle is not ready for the first of two flows out of a view. The second flow asks again, and a
third one does not. -/
theorem override_wired_once_retried :
    let view : Ref := .ofAlloc ⟨"new V", "V", .view⟩
    let flow (name : String) : Activity := .assign (.ofSlot ⟨"m", name⟩) view {}
    let p := Facts.viewProgram.notReadyFor 1
    let w := Workspace.run p {} [flow "a", flow "b"]
    (∀ a ∈ [flow "a", flow "b"], a.builds) ∧ w.intake.asked = 2 ∧
      w.intake.stats.overrides = 1 ∧ w.store.FlowsInto 1 (methodName "V" viewContextMenu) {} ∧
      ∃ w', (flow "c").work p w = .ok () w' ∧ w'.intake.asked = 2 := by
  intro view flow p w
  have building : ∀ a ∈ [flow "a", flow "b"], a.builds := by
    simp [flow, Activity.builds, Activity.isEvent]
  have history : Workspace.questions p {} [flow "a", flow "b"] =
      [⟨1, "V", {}, some ""⟩, ⟨1, "V", {}, some "V"⟩] := by decide +kernel
  have wired : [Question.mk 1 "V" {} (some ""), ⟨1, "V", {}, some "V"⟩].filter (·.method?.isSome) =
      [⟨1, "V", {}, some "V"⟩] := by decide +kernel
  have reached : Workspace.run p {} [flow "a", flow "b"] = w := rfl
  obtain ⟨⟨asked, -⟩, -, ⟨-, overrides⟩, flows, further⟩ := override_wired_once p _ building
  rw [reached, history] at asked
  rw [reached, history, wired] at overrides flows
  obtain ⟨w', done, -, more, -⟩ := further (flow "c") _ rfl
  have quiet : Passage.question? p w ⟨"assign", view, .ofSlot ⟨"m", "c"⟩, {}⟩ = none := by
    decide +kernel
  have flowing := flows ⟨1, "V", {}, some "V"⟩ List.mem_cons_self _
    (Question.method?_of_ne (by decide) 1 "V" {})
  refine ⟨building, asked, overrides, flowing, w', done, ?_⟩
  rw [more, quiet, asked]
  rfl

end WidgetFlow
