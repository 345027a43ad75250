import WidgetFlow.Workspace

/-!
# Contracts of steps

A `Triple` says of a step of an analysis where it may start, what holds of its answer and its
workspace where it ends, and what holds of its fault and its workspace where it fails. There is one
rule for each way of building steps, so that a proof about a step follows the text of the step and
never runs it. A step that keeps one fact of the workspace, whether it ends or fails, `Keeps` it.
-/

namespace WidgetFlow

open Work

variable {α β : Type}

/-! ### Sequences of steps -/

theorem bind_of_ok {first : Work α} {next : α → Work β} {w w₁ : Workspace} {a : α}
    (ran : first w = .ok a w₁) : (first >>= next) w = next a w₁ := by
  show EStateM.bind first next w = next a w₁
  simp only [EStateM.bind, ran]

theorem bind_of_error {first : Work α} {next : α → Work β} {w w' : Workspace} {e : Fault}
    (failed : first w = .error e w') : (first >>= next) w = .error e w' := by
  show EStateM.bind first next w = .error e w'
  simp only [EStateM.bind, failed]

theorem bind_congr_first {first first' : Work α} {next : α → Work β} {w : Workspace}
    (same : first w = first' w) : (first >>= next) w = (first' >>= next) w := by
  show EStateM.bind first next w = EStateM.bind first' next w
  simp only [EStateM.bind, same]

theorem bind_congr_rest {first : Work α} {next next' : α → Work β} {w : Workspace}
    (same : ∀ a v, first w = .ok a v → next a v = next' a v) :
    (first >>= next) w = (first >>= next') w := by
  cases ran : first w with
  | ok a v => rw [bind_of_ok ran, bind_of_ok ran, same a v ran]
  | error e v => rw [bind_of_error ran, bind_of_error ran]

theorem bind_eq_ok {first : Work α} {next : α → Work β} {w w' : Workspace} {b : β}
    (done : (first >>= next) w = .ok b w') :
    ∃ a w₁, first w = .ok a w₁ ∧ next a w₁ = .ok b w' := by
  have run : EStateM.bind first next w = .ok b w' := done
  unfold EStateM.bind at run
  split at run
  case h_1 a w₁ ran => exact ⟨a, w₁, ran, run⟩
  case h_2 => cases run

theorem bind_eq_error {first : Work α} {next : α → Work β} {w w' : Workspace} {e : Fault}
    (failed : (first >>= next) w = .error e w') :
    first w = .error e w' ∨ ∃ a v, first w = .ok a v ∧ next a v = .error e w' := by
  have run : EStateM.bind first next w = .error e w' := failed
  unfold EStateM.bind at run
  split at run
  case h_1 a v ran => exact .inr ⟨a, v, ran, run⟩
  case h_2 e' v ran =>
    cases run
    exact .inl ran

theorem within_of_ok {step : Work α} {w w' : Workspace} {a : α} (stage : Stage)
    (done : step w = .ok a w') : within stage step w = .ok a w' := by
  rw [within, done]

/-- A loop that fails has done a part of its list, and fails at what comes next. -/
theorem forM_eq_error {l : List α} {step : α → Work PUnit} {w w' : Workspace} {e : Fault}
    (failed : l.forM step w = .error e w') :
    ∃ done a rest v, l = done ++ a :: rest ∧ done.forM step w = .ok ⟨⟩ v ∧
      step a v = .error e w' := by
  induction l generalizing w with
  | nil => cases failed
  | cons a l ih =>
    rcases bind_eq_error failed with first | ⟨⟨⟩, v, first, later⟩
    · exact ⟨[], a, l, w, rfl, rfl, first⟩
    · obtain ⟨done, a', rest, v', rfl, before, last⟩ := ih later
      exact ⟨a :: done, a', rest, v', rfl, (bind_of_ok first).trans before, last⟩

/-! ### Steps that can be run -/

/-- The step has ended, and the test holds of its answer and its workspace. -/
def endsWith (ran : EStateM.Result Fault Workspace α) (test : α → Workspace → Bool) : Bool :=
  match ran with
  | .ok a w => test a w
  | .error _ _ => false

theorem exists_of_endsWith {ran : EStateM.Result Fault Workspace α} {test : α → Workspace → Bool}
    (ended : endsWith ran test = true) : ∃ a w, ran = .ok a w ∧ test a w = true := by
  cases ran with
  | ok a w => exact ⟨a, w, rfl, ended⟩
  | error => cases ended

theorem exists_error_of_endsWith {ran : EStateM.Result Fault Workspace α}
    (failed : endsWith ran (fun _ _ => true) = false) : ∃ e w, ran = .error e w := by
  cases ran with
  | ok => cases failed
  | error e w => exact ⟨e, w, rfl⟩

/-! ### Triples -/

/-- Started where `pre` holds, the step ends where `post` holds of its answer, or fails where `fail`
holds of its fault. -/
def Triple (pre : Workspace → Prop) (step : Work α) (post : α → Workspace → Prop)
    (fail : Fault → Workspace → Prop) : Prop :=
  ∀ w, pre w →
    match step w with
    | .ok a w' => post a w'
    | .error e w' => fail e w'

namespace Triple

variable {pre pre' : Workspace → Prop} {post post' : α → Workspace → Prop}
  {fail fail' : Fault → Workspace → Prop} {step : Work α}

theorem of_ok (triple : Triple pre step post fail) {w w' : Workspace} {a : α} (start : pre w)
    (done : step w = .ok a w') : post a w' := by
  have h := triple w start
  rwa [done] at h

/-- A triple whose failure condition is absurd is a promise that the step ends. -/
theorem exists_ok (triple : Triple pre step post fun _ _ => False) {w : Workspace} (start : pre w) :
    ∃ a w', step w = .ok a w' ∧ post a w' := by
  have h := triple w start
  cases done : step w with
  | ok a w' =>
    rw [done] at h
    exact ⟨a, w', rfl, h⟩
  | error e w' =>
    rw [done] at h
    exact absurd h id

theorem conseq (triple : Triple pre step post fail) (start : ∀ w, pre' w → pre w)
    (ends : ∀ a w, post a w → post' a w) (fails : ∀ e w, fail e w → fail' e w) :
    Triple pre' step post' fail' := by
  intro w holds
  have h := triple w (start w holds)
  cases done : step w with
  | ok a w' =>
    rw [done] at h
    exact ends a w' h
  | error e w' =>
    rw [done] at h
    exact fails e w' h

theorem and {post₂ : α → Workspace → Prop} {fail₂ : Fault → Workspace → Prop}
    (first : Triple pre step post fail) (second : Triple pre step post₂ fail₂) :
    Triple pre step (fun a w => post a w ∧ post₂ a w) fun e w => fail e w ∧ fail₂ e w := by
  intro w start
  have h := first w start
  have h₂ := second w start
  cases done : step w with
  | ok a w' =>
    rw [done] at h h₂
    exact ⟨h, h₂⟩
  | error e w' =>
    rw [done] at h h₂
    exact ⟨h, h₂⟩

theorem mono (triple : Triple pre step post fail) (ends : ∀ a w, post a w → post' a w) :
    Triple pre step post' fail :=
  triple.conseq (fun _ holds => holds) ends fun _ _ holds => holds

/-- A fact of the precondition that is not about the workspace may be assumed. -/
theorem assuming {fact : Prop} (triple : fact → Triple pre step post fail) :
    Triple (fun w => fact ∧ pre w) step post fail := fun w start => triple start.1 w start.2

/-- What holds where the step fails may be forgotten. -/
theorem relax (triple : Triple pre step post fail) : Triple pre step post fun _ _ => True :=
  triple.conseq (fun _ holds => holds) (fun _ _ holds => holds) fun _ _ _ => trivial

/-- Of a step that cannot fail, anything may be said about where it fails. -/
theorem unfailing (triple : Triple pre step post fun _ _ => False) : Triple pre step post fail :=
  triple.conseq (fun _ holds => holds) (fun _ _ holds => holds) fun _ _ never => never.elim

/-! ### One rule for each way of building steps -/

theorem pure {a : α} (holds : ∀ w, pre w → post a w) : Triple pre (Pure.pure a) post fail := holds

theorem throw {e : Fault} (holds : ∀ w, pre w → fail e w) :
    Triple pre (MonadExcept.throw e : Work α) post fail := holds

theorem bind {next : α → Work β} {M : α → Workspace → Prop} {post : β → Workspace → Prop}
    (first : Triple pre step M fail) (rest : ∀ a, Triple (M a) (next a) post fail) :
    Triple pre (step >>= next) post fail := by
  intro w start
  have h := first w start
  show match EStateM.bind step next w with
    | .ok a w' => post a w'
    | .error e w' => fail e w'
  cases done : step w with
  | ok a w' =>
    rw [done] at h
    simp only [EStateM.bind, done]
    exact rest a w' h
  | error e w' =>
    rw [done] at h
    simp only [EStateM.bind, done]
    exact h

theorem modify {change : Workspace → Workspace} {post : PUnit → Workspace → Prop}
    (holds : ∀ w, pre w → post ⟨⟩ (change w)) : Triple pre (modify change) post fail := holds

theorem get : Triple pre (get : Work Workspace) (fun a w => a = w ∧ pre w) fail :=
  fun _ start => ⟨rfl, start⟩

theorem set {new : Workspace} {post : PUnit → Workspace → Prop}
    (holds : ∀ w, pre w → post ⟨⟩ new) : Triple pre (set new) post fail := holds

theorem store : Triple pre store (fun s w => s = w.store ∧ pre w) fail :=
  fun _ start => ⟨rfl, start⟩

theorem onStore {f : Store → Except Fault (α × Store)}
    (ends : ∀ w a s, pre w → f w.store = .ok (a, s) → post a { w with store := s })
    (fails : ∀ w e, pre w → f w.store = .error e → fail e w) :
    Triple pre (onStore f) post fail := by
  intro w start
  unfold Work.onStore
  cases granted : f w.store with
  | ok p => exact ends w p.1 p.2 start granted
  | error e => exact fails w e start granted

theorem within {stage : Stage} (triple : Triple pre step post fun e w => fail (.within stage e) w) :
    Triple pre (within stage step) post fail := by
  intro w start
  have h := triple w start
  unfold Work.within
  cases done : step w with
  | ok a w' =>
    rw [done] at h
    exact h
  | error e w' =>
    rw [done] at h
    exact h

theorem attempt (triple : Triple pre step post fail) :
    Triple pre (attempt step)
      (fun outcome w => match outcome with
        | .ok a => post a w
        | .error e => fail e w) fail' := by
  intro w start
  have h := triple w start
  unfold Work.attempt
  cases done : step w with
  | ok a w' =>
    rw [done] at h
    exact h
  | error e w' =>
    rw [done] at h
    exact h

theorem ite {c : Prop} [Decidable c] {step' : Work α} (yes : c → Triple pre step post fail)
    (no : ¬c → Triple pre step' post fail) : Triple pre (if c then step else step') post fail := by
  split
  · exact yes ‹c›
  · exact no ‹¬c›

/-- A loop whose invariant tells how much of the list is done. -/
theorem forM {l : List α} {step : α → Work PUnit} {I : List α → Workspace → Prop}
    (each : ∀ done a rest, l = done ++ a :: rest →
      Triple (I done) (step a) (fun _ => I (done ++ [a])) fail) :
    Triple (I []) (l.forM step) (fun _ => I l) fail := by
  have rest (todo : List α) : ∀ done, l = done ++ todo →
      Triple (I done) (todo.forM step) (fun _ => I l) fail := by
    induction todo with
    | nil =>
      rintro done rfl
      rw [List.append_nil]
      exact pure fun _ holds => holds
    | cons a todo ih =>
      intro done split
      exact bind (each done a todo split) fun _ => ih (done ++ [a]) (by simpa using split)
  exact rest l [] rfl

/-- A fold whose invariant speaks of what has been collected. -/
theorem foldlM {l : List α} {step : β → α → Work β} {I : β → Workspace → Prop}
    (each : ∀ b, ∀ a ∈ l, Triple (I b) (step b a) I fail) (b : β) :
    Triple (I b) (l.foldlM step b) I fail := by
  induction l generalizing b with
  | nil => exact pure fun _ holds => holds
  | cons a l ih =>
    refine bind (each b a (by simp)) fun b' => ?_
    exact ih (fun b a there => each b a (List.mem_cons_of_mem _ there)) b'

end Triple

/-! ### Facts that are kept -/

/-- The step keeps a fact of the workspace, whether it ends or fails. -/
def Keeps (inv : Workspace → Prop) (step : Work α) : Prop :=
  Triple inv step (fun _ => inv) fun _ => inv

namespace Keeps

variable {inv : Workspace → Prop}

/-- From a workspace in which the fact holds, the step leads to where it holds. -/
theorem startedAt {step : Work α} (keeps : Keeps inv step) {w : Workspace} (holds : inv w) :
    Triple (· = w) step (fun _ => inv) fun _ => inv :=
  Triple.conseq keeps (fun _ same => same ▸ holds) (fun _ _ holds => holds) fun _ _ holds => holds

theorem pure {a : α} : Keeps inv (Pure.pure a) := Triple.pure fun _ holds => holds

theorem throw {e : Fault} : Keeps inv (MonadExcept.throw e : Work α) :=
  Triple.throw fun _ holds => holds

theorem bind {step : Work α} {next : α → Work β} (first : Keeps inv step)
    (rest : ∀ a, Keeps inv (next a)) : Keeps inv (step >>= next) := Triple.bind first rest

theorem modify {change : Workspace → Workspace} (keeps : ∀ w, inv w → inv (change w)) :
    Keeps inv (modify change) := Triple.modify keeps

theorem get : Keeps inv (get : Work Workspace) := Triple.get.mono fun _ _ holds => holds.2

theorem store : Keeps inv store := Triple.store.mono fun _ _ holds => holds.2

theorem within {stage : Stage} {step : Work α} (keeps : Keeps inv step) :
    Keeps inv (within stage step) := Triple.within keeps

theorem attempt {step : Work α} (keeps : Keeps inv step) : Keeps inv (attempt step) :=
  (Triple.attempt keeps).mono fun outcome _ holds => by cases outcome <;> exact holds

theorem ite {c : Prop} [Decidable c] {step step' : Work α} (yes : Keeps inv step)
    (no : Keeps inv step') : Keeps inv (if c then step else step') :=
  Triple.ite (fun _ => yes) fun _ => no

theorem forM {l : List α} {step : α → Work PUnit} (each : ∀ a ∈ l, Keeps inv (step a)) :
    Keeps inv (l.forM step) :=
  Triple.forM (I := fun _ => inv) fun _ a _ split => each a (by simp [split])

theorem foldlM {l : List α} {step : β → α → Work β} (each : ∀ b a, Keeps inv (step b a)) (b : β) :
    Keeps inv (l.foldlM step b) :=
  Triple.foldlM (I := fun _ => inv) (fun b a _ => each b a) b

theorem mapM {l : List α} {step : α → Work β} (each : ∀ a, Keeps inv (step a)) :
    Keeps inv (l.mapM step) := by
  induction l with
  | nil => exact pure
  | cons a l ih =>
    rw [List.mapM_cons]
    exact bind (each a) fun _ => bind ih fun _ => pure

end Keeps

/-! ### Contracts that add up -/

/-- Wherever `inv` holds of some list, it holds after the step of that list with `new` added. -/
def Accrues (inv : List β → Workspace → Prop) (fail : Fault → Workspace → Prop) (step : Work Unit)
    (new : List β) : Prop :=
  ∀ old, Triple (inv old) step (fun _ => inv (old ++ new)) fail

namespace Accrues

variable {inv : List β → Workspace → Prop} {fail : Fault → Workspace → Prop} {step step' : Work Unit}
  {new new' : List β}

theorem nothing (keeps : ∀ old, Triple (inv old) step (fun _ => inv old) fail) :
    Accrues inv fail step [] := by
  intro old
  rw [List.append_nil]
  exact keeps old

theorem andThen (first : Accrues inv fail step new) (second : Accrues inv fail step' new') :
    Accrues inv fail (step >>= fun _ => step') (new ++ new') := by
  intro old
  rw [← List.append_assoc]
  exact Triple.bind (first old) fun _ => second (old ++ new)

theorem ite {c : Prop} [Decidable c] (yes : c → Accrues inv fail step new)
    (no : ¬ c → Accrues inv fail step' new) : Accrues inv fail (if c then step else step') new :=
  fun old => Triple.ite (fun h => yes h old) fun h => no h old

/-- A loop adds what its rounds add. -/
theorem forM {l : List α} {step : α → Work Unit} {new : α → List β}
    (each : ∀ a ∈ l, Accrues inv fail (step a) (new a)) :
    Accrues inv fail (l.forM step) (l.flatMap new) := by
  intro old
  have loop : Triple (inv (old ++ [].flatMap new)) (l.forM step)
      (fun _ => inv (old ++ l.flatMap new)) fail := by
    refine Triple.forM (I := fun done => inv (old ++ done.flatMap new)) ?_
    intro done a rest split
    rw [List.flatMap_append, List.flatMap_singleton, ← List.append_assoc]
    exact each a (by simp [split]) _
  simpa using loop

end Accrues

/-! ### Steps beside the graph -/

/-- The step ends, and leaves the graph alone. -/
def Spares (step : Work α) : Prop :=
  ∀ (P : Store → Prop) (fail : Fault → Workspace → Prop),
    Triple (fun w => P w.store) step (fun _ w => P w.store) fail

namespace Spares

theorem pure {a : α} : Spares (Pure.pure a) := fun _ _ => Triple.pure fun _ holds => holds

theorem bind {step : Work α} {next : α → Work β} (first : Spares step)
    (rest : ∀ a, Spares (next a)) : Spares (step >>= next) :=
  fun P fail => Triple.bind (first P fail) fun a => rest a P fail

theorem ite {c : Prop} [Decidable c] {step step' : Work α} (yes : Spares step) (no : Spares step') :
    Spares (if c then step else step') :=
  fun P fail => Triple.ite (fun _ => yes P fail) fun _ => no P fail

theorem modify {change : Workspace → Workspace} (spares : ∀ w, (change w).store = w.store) :
    Spares (modify change) :=
  fun P _ => Triple.modify fun w holds => (congrArg P (spares w)).mpr holds

theorem note (n : Notice) : Spares (note n) := modify fun _ => rfl

theorem countDispatch (f : DispatchStats → DispatchStats) : Spares (countDispatch f) :=
  modify fun _ => rfl

end Spares

end WidgetFlow
