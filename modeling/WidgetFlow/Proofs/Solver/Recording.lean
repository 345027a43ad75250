import WidgetFlow.Proofs.Solver.Findings
import WidgetFlow.Solver.Passes

/-!
# Steps that look and record

The middle passes of a solve read the graph and never change it. `Looks` is the contract of such a
step: on the graph `s` it leaves the graph as it is, its answer satisfies a postcondition, and if it
fails its fault satisfies another. One rule for each way of building steps, and one for each step
that the passes are built from, is enough to reason about the passes without running them.

A step that takes findings to findings `Records` a set of pairs if it adds these and no others.
Sets of pairs add up along sequences and folds, so what a pass records is the union of what its
single visits record.
-/

namespace WidgetFlow

open Work

variable {α β : Type} {s : Store} {fails : Fault → Prop}

/-- On the graph `s` the step leaves the graph as it is; its answer satisfies `post`, and if it
fails, its fault satisfies `fails`. -/
def Looks (s : Store) (fails : Fault → Prop) (step : Work α) (post : α → Prop) : Prop :=
  ∀ w, w.store = s →
    match step w with
    | .ok a w' => w'.store = s ∧ post a
    | .error e w' => w'.store = s ∧ fails e

namespace Looks

/-! ### Rules -/

theorem of_ok {step : Work α} {post : α → Prop} (looks : Looks s fails step post) {w w' : Workspace}
    {a : α} (graph : w.store = s) (done : step w = .ok a w') : w'.store = s ∧ post a := by
  have h := looks w graph
  rwa [done] at h

theorem mono {step : Work α} {post post' : α → Prop} (looks : Looks s fails step post)
    (weaker : ∀ a, post a → post' a) : Looks s fails step post' := by
  intro w graph
  have h := looks w graph
  cases done : step w with
  | ok a w' =>
    rw [done] at h
    exact ⟨h.1, weaker a h.2⟩
  | error e w' =>
    rw [done] at h
    exact h

theorem pure {a : α} {post : α → Prop} (holds : post a) : Looks s fails (Pure.pure a) post :=
  fun _ graph => ⟨graph, holds⟩

theorem throw {e : Fault} {post : α → Prop} (expected : fails e) :
    Looks s fails (MonadExcept.throw e) post :=
  fun _ graph => ⟨graph, expected⟩

theorem bind {first : Work α} {next : α → Work β} {mid : α → Prop} {post : β → Prop}
    (looks : Looks s fails first mid) (rest : ∀ a, mid a → Looks s fails (next a) post) :
    Looks s fails (first >>= next) post := by
  intro w graph
  have h := looks w graph
  show match EStateM.bind first next w with
    | .ok a w' => w'.store = s ∧ post a
    | .error e w' => w'.store = s ∧ fails e
  cases done : first w with
  | ok a w' =>
    rw [done] at h
    simp only [EStateM.bind, done]
    exact rest a h.2 w' h.1
  | error e w' =>
    rw [done] at h
    simp only [EStateM.bind, done]
    exact h

/-- A change of the workspace that spares the graph. -/
theorem modify {change : Workspace → Workspace} (spares : ∀ w, (change w).store = w.store) :
    Looks s fails (modify change) fun _ => True :=
  fun w graph => ⟨(spares w).trans graph, trivial⟩

theorem note (n : Notice) : Looks s fails (note n) fun _ => True := modify fun _ => rfl

theorem store : Looks s fails store (· = s) := fun _ graph => ⟨graph, graph⟩

theorem get : Looks s fails get (·.store = s) := fun _ graph => ⟨graph, graph⟩

theorem set {w : Workspace} (graph : w.store = s) : Looks s fails (set w) fun _ => True :=
  fun _ _ => ⟨graph, trivial⟩

theorem forM {l : List α} {step : α → Work Unit}
    (looks : ∀ a ∈ l, Looks s fails (step a) fun _ => True) :
    Looks s fails (l.forM step) fun _ => True := by
  induction l with
  | nil => exact pure trivial
  | cons a l ih =>
    refine bind (looks a (by simp)) fun _ _ => ?_
    exact ih fun b there => looks b (List.mem_cons_of_mem _ there)

/-! ### The steps that passes are built from -/

theorem countDispatch (f : DispatchStats → DispatchStats) :
    Looks s fails (countDispatch f) fun _ => True := modify fun _ => rfl

theorem operandOf {op v : NodeId} {role : Role} (there : s.operand op role = .ok v) :
    Looks s fails (Solve.operandOf op role) (· = v) := by
  refine bind store fun _ same => ?_
  rw [same, there]
  exact pure rfl

/-- A verdict of the table is passed on; without one the answer is no, or a fault. -/
theorem judge {rules : Rules} {p op : NodeId} {object : ObjectKind} {kind : String} {role : Role}
    (strict : rules.strict = true → rules.table.lookup? object kind role = none →
      fails (.unclassified p object.name op kind role.name)) :
    Looks s fails (rules.judge p object op kind role) fun valid =>
      (valid = true ↔ rules.table.lookup? object kind role = some .accept) := by
  unfold Rules.judge
  cases verdict : rules.table.lookup? object kind role with
  | some v => exact pure (by simp)
  | none =>
    refine bind (note _) fun _ _ => ?_
    by_cases severe : rules.strict = true
    · rw [if_pos severe]
      exact throw (strict severe verdict)
    · rw [if_neg severe]
      exact pure (by simp)

theorem requestWire (k : Wire) : Looks s fails (Dispatch.requestWire k) fun _ => True := by
  refine bind get fun w graph => ?_
  split
  case isTrue => exact bind (countDispatch _) fun _ _ => bind (note _) fun _ _ => pure trivial
  case isFalse =>
    split
    case isTrue => exact bind (countDispatch _) fun _ _ => bind (note _) fun _ _ => pure trivial
    case isFalse => exact bind (set graph) fun _ _ => pure trivial

theorem requestWires (f : Findings) (op listener : NodeId) :
    Looks s fails (Solve.requestWires f op listener) fun _ => True := by
  unfold Solve.requestWires
  split
  case h_1 => exact bind (requestWire _) fun _ _ => pure trivial
  case h_2 => exact forM fun v _ => bind (requestWire _) fun _ _ => pure trivial

end Looks

/-! ### Remembered closures -/

/-- What is remembered are closures in the graph `s`. -/
def ClosureCache.Remembers (c : ClosureCache) (s : Store) : Prop :=
  ∀ id set, c.find? id = some set → set = s.reachable id

namespace ClosureCache

variable {c : ClosureCache}

theorem remembers_empty : Remembers {} s := by
  intro id set found
  cases found

theorem Remembers.insert (ok : c.Remembers s) (id : NodeId) :
    (c.insert id (s.reachable id)).Remembers s := by
  unfold ClosureCache.insert
  split
  case h_1 => exact ok
  case h_2 =>
    intro j set found
    simp only [find?, List.lookup_cons] at found
    split at found
    case h_1 same =>
      rw [beq_iff_eq.1 same]
      exact (Option.some.inj found).symm
    case h_2 => exact ok j set found

/-- A closure is answered as the graph has it, from memory or not. -/
theorem Remembers.reachable (ok : c.Remembers s) (id : NodeId) :
    (c.reachable s id).1 = s.reachable id ∧ (c.reachable s id).2.Remembers s := by
  unfold ClosureCache.reachable
  split
  case h_1 set found => exact ⟨ok id set found, ok⟩
  case h_2 => exact ⟨rfl, ok.insert id⟩

end ClosureCache

namespace Looks

theorem reachableCached {c : ClosureCache} (ok : c.Remembers s) (id : NodeId) :
    Looks s fails (reachableCached c id) fun a => a.1 = s.reachable id ∧ a.2.Remembers s := by
  have answer : Looks s fails (do return c.reachable (← Work.store) id : Work _)
      fun a => a.1 = s.reachable id ∧ a.2.Remembers s := by
    refine bind store fun _ same => pure ?_
    rw [same]
    exact ok.reachable id
  unfold Work.reachableCached
  split
  case isTrue => exact bind (note _) fun _ _ => answer
  case isFalse => exact answer

theorem precompute {c : ClosureCache} (ok : c.Remembers s) (ids : List NodeId) :
    Looks s fails (precompute c ids) (·.Remembers s) := by
  induction ids generalizing c with
  | nil => exact pure ok
  | cons id ids ih => exact bind (reachableCached ok id) fun _ known => ih known.2

end Looks

/-! ### Recording -/

/-- A set of pairs for each map. -/
abbrev Pairs := MapName → NodeId → NodeId → Prop

/-- The findings `f'` are `f` and a set of pairs. -/
structure Findings.Adds (f : Findings) (new : Pairs) (f' : Findings) : Prop where
  ordered : f'.Ordered
  holds : ∀ m k i, f'.Holds m k i ↔ f.Holds m k i ∨ new m k i

/-- The step adds a set of pairs to findings, whatever these are. -/
def Records (s : Store) (fails : Fault → Prop) (step : Findings → Work Findings) (new : Pairs) :
    Prop :=
  ∀ f, f.Ordered → Looks s fails (step f) (f.Adds new)

namespace Records

variable {step : Findings → Work Findings} {new : Pairs}

theorem congr {new' : Pairs} (records : Records s fails step new)
    (same : ∀ m k i, new m k i ↔ new' m k i) : Records s fails step new' := by
  intro f ordered
  refine (records f ordered).mono fun f' adds => ⟨adds.ordered, fun m k i => ?_⟩
  rw [adds.holds, same]

/-- A step that hands the findings on. -/
theorem nothing : Records s fails (Pure.pure ·) fun _ _ _ => False :=
  fun _ ordered => .pure ⟨ordered, by simp⟩

/-- What a step does before it touches the findings does not matter. -/
theorem after {first : Work α} {mid : α → Prop} {next : α → Findings → Work Findings}
    (looks : Looks s fails first mid) (records : ∀ a, mid a → Records s fails (next a) new) :
    Records s fails (fun f => first >>= fun a => next a f) new :=
  fun f ordered => looks.bind fun a known => records a known f ordered

/-- One pair, and then what the rest of the step adds. -/
theorem insert (m : MapName) (k i : NodeId) (records : Records s fails step new) :
    Records s fails (fun f => step (f.insert m k i)) fun m' k' i' =>
      (m' = m ∧ k' = k ∧ i' = i) ∨ new m' k' i' := by
  intro f ordered
  refine (records _ (ordered.insert m k i)).mono fun f' adds => ⟨adds.ordered, fun m' k' i' => ?_⟩
  rw [adds.holds, ordered.holds_insert, or_assoc]

theorem pair (m : MapName) (k i : NodeId) :
    Records s fails (fun f => Pure.pure (f.insert m k i)) fun m' k' i' =>
      m' = m ∧ k' = k ∧ i' = i :=
  (nothing.insert m k i).congr (by simp)

/-- A step that adds its pairs under a condition, and otherwise nothing. -/
theorem guarded {c : Prop} (yes : c → Records s fails step new)
    (no : ¬ c → Records s fails step fun _ _ _ => False) :
    Records s fails step fun m k i => c ∧ new m k i := by
  by_cases holds : c
  · exact (yes holds).congr (by simp [holds])
  · exact (no holds).congr (by simp [holds])

theorem andThen {step' : Findings → Work Findings} {new' : Pairs}
    (first : Records s fails step new) (second : Records s fails step' new') :
    Records s fails (fun f => step f >>= step') fun m k i => new m k i ∨ new' m k i := by
  intro f ordered
  refine (first f ordered).bind fun f₁ adds₁ => ?_
  refine (second f₁ adds₁.ordered).mono fun f₂ adds₂ => ⟨adds₂.ordered, fun m k i => ?_⟩
  rw [adds₂.holds, adds₁.holds, or_assoc]

/-- A fold adds what its steps add. -/
theorem foldlM {l : List α} {visit : Findings → α → Work Findings} {each : α → Pairs}
    (records : ∀ a ∈ l, Records s fails (visit · a) (each a)) :
    Records s fails (fun f => l.foldlM visit f) fun m k i => ∃ a ∈ l, each a m k i := by
  induction l with
  | nil => exact nothing.congr (by simp)
  | cons a l ih =>
    have first := records a (by simp)
    have rest := ih fun b there => records b (List.mem_cons_of_mem _ there)
    exact (first.andThen rest).congr (by simp)

end Records

end WidgetFlow
