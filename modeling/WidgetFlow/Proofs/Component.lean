import Mathlib.Data.List.Nodup
import Mathlib.Logic.Relation
import WidgetFlow.Component
import WidgetFlow.Proofs.Search

/-!
# Depth-first search finds the strongly connected components

While visits are in progress, the elements being visited lie on the stack in the order of the visits,
and everything on the stack is joined to them: an element being visited leads to all that is above it,
and everything leads back to some element being visited below it (`Visiting`). What has left the stack
is settled for good: its successors have left it as well, and the components found so far are the
components of what has left it (`Settled`).

A visit answers a low link. Either nothing above the element leads to the stack below it, or the low
link is the rank of an element on the stack that it leads to; in any case it bounds the rank of
whatever on the stack below can be entered from above (`Connected`). So when the low link of an element
is its own rank, the part of the stack from the element upwards has no way out but to what is settled,
which never leads back, and is a component. When it is lower, everything above the element leads to an
element visited before it.
-/

namespace WidgetFlow

variable {α : Type} {next : α → List α}

/-- Reachable by any number of steps of `next`. -/
def Leads (next : α → List α) : α → α → Prop := Relation.ReflTransGen fun a b => b ∈ next a

theorem leads_iff {x y : α} : Leads next x y ↔ x = y ∨ Linked next x y := by
  constructor
  · intro leads
    induction leads with
    | refl => exact .inl rfl
    | tail _ near ih =>
      rcases ih with rfl | linked
      · exact .inr (.step near)
      · exact .inr (.trans linked near)
  · rintro (rfl | linked)
    · exact .refl
    · induction linked with
      | step near => exact .single near
      | trans _ near ih => exact ih.tail near

/-- What a set does not let out cannot be reached from it. -/
theorem Leads.stays (inside : α → Prop) (closed : ∀ a, inside a → ∀ b ∈ next a, inside b) {x y : α}
    (leads : Leads next x y) (start : inside x) : inside y := by
  induction leads with
  | refl => exact start
  | tail _ near ih => exact closed _ ih _ near

/-- Each leads to the other. -/
def Mutual (next : α → List α) (x y : α) : Prop := Leads next x y ∧ Leads next y x

theorem Mutual.symm {x y : α} (both : Mutual next x y) : Mutual next y x := And.symm both

theorem Mutual.trans {x y z : α} (first : Mutual next x y) (second : Mutual next y z) :
    Mutual next x z :=
  ⟨Relation.ReflTransGen.trans first.1 second.1, Relation.ReflTransGen.trans second.2 first.2⟩

/-- The list has two or more elements, and with each of them all that it leads to and that leads to
it. -/
structure Component (next : α → List α) (c : List α) : Prop where
  several : 1 < c.length
  once : c.Nodup
  joined : ∀ x ∈ c, ∀ y, y ∈ c ↔ Mutual next x y

namespace DepthFirst

variable {path : List α} {st st' st'' : DepthFirst α} {x y : α}

/-! ### How a search goes on -/

/-- What the search does from one state to a later one, between which no visit ends that was in
progress at the first: more is met, and only on top of the stack anything has changed. -/
structure Beyond (st st' : DepthFirst α) : Prop where
  met : st.met <:+ st'.met
  stack : st.stack <:+ st'.stack
  /-- What has been met before does not come back to the stack. -/
  fresh : ∀ z ∈ st'.stack, z ∈ st.met → z ∈ st.stack

namespace Beyond

theorem refl (st : DepthFirst α) : Beyond st st :=
  ⟨List.suffix_rfl, List.suffix_rfl, fun _ there _ => there⟩

theorem trans (first : Beyond st st') (second : Beyond st' st'') : Beyond st st'' where
  met := first.met.trans second.met
  stack := first.stack.trans second.stack
  fresh z there old := first.fresh z (second.fresh z there (first.met.subset old)) old

theorem enter (new : x ∉ st.met) : Beyond st (st.enter x) where
  met := List.suffix_cons x st.met
  stack := List.suffix_cons x st.stack
  fresh z there old := by
    rcases List.mem_cons.1 there with rfl | there
    · exact absurd old new
    · exact there

end Beyond

/-! ### What has left the stack -/

/-- What has left the stack has been dealt with. -/
structure Settled (next : α → List α) (st : DepthFirst α) : Prop where
  closed : ∀ x ∈ st.met, x ∉ st.stack → ∀ y ∈ next x, y ∈ st.met ∧ y ∉ st.stack
  sound : ∀ c ∈ st.found, Component next c
  off : ∀ c ∈ st.found, ∀ x ∈ c, x ∈ st.met ∧ x ∉ st.stack
  complete : ∀ x ∈ st.met, x ∉ st.stack → ∀ y, y ≠ x → Mutual next x y → ∃ c ∈ st.found, x ∈ c
  apart : st.found.Pairwise List.Disjoint

/-- What has left the stack leads only to what has left it. -/
theorem Settled.stays (settled : Settled next st) (leads : Leads next x y)
    (there : x ∈ st.met ∧ x ∉ st.stack) : y ∈ st.met ∧ y ∉ st.stack :=
  leads.stays (fun z => z ∈ st.met ∧ z ∉ st.stack) (fun z h => settled.closed z h.1 h.2) there

theorem Settled.enter (settled : Settled next st) (new : x ∉ st.met) : Settled next (st.enter x) := by
  have keeps {y : α} (h : y ∈ st.met ∧ y ∉ st.stack) :
      y ∈ (st.enter x).met ∧ y ∉ (st.enter x).stack := by
    refine ⟨List.mem_cons_of_mem x h.1, fun there => ?_⟩
    rcases List.mem_cons.1 there with rfl | there
    · exact new h.1
    · exact h.2 there
  have before {y : α} (met : y ∈ (st.enter x).met) (off : y ∉ (st.enter x).stack) :
      y ∈ st.met ∧ y ∉ st.stack := by
    have other : y ≠ x := fun same => off (same ▸ List.mem_cons_self)
    exact ⟨(List.mem_cons.1 met).resolve_left other, fun there => off (List.mem_cons_of_mem x there)⟩
  exact {
    closed := fun z met off y near =>
      keeps (settled.closed z (before met off).1 (before met off).2 y near)
    sound := settled.sound
    off := fun c found z there => keeps (settled.off c found z there)
    complete := fun z met off => settled.complete z (before met off).1 (before met off).2
    apart := settled.apart }

variable [DecidableEq α]

/-! ### Ranks -/

theorem rank_cons_self (x : α) (l : List α) : rank (x :: l) x = l.length := if_pos rfl

theorem rank_lt {l : List α} (there : x ∈ l) : rank l x < l.length := by
  induction l with
  | nil => cases there
  | cons a l ih =>
    rw [rank, List.length_cons]
    split
    case isTrue => exact Nat.lt_succ_self _
    case isFalse other =>
      exact Nat.lt_succ_of_lt (ih ((List.mem_cons.1 there).resolve_left (Ne.symm other)))

/-- What is met later does not change the rank of what has been met. -/
theorem rank_eq_of_suffix {l l' : List α} (suffix : l <:+ l') (once : l'.Nodup) (there : x ∈ l) :
    rank l' x = rank l x := by
  obtain ⟨later, rfl⟩ := suffix
  induction later with
  | nil => rfl
  | cons a later ih =>
    rw [List.cons_append, List.nodup_cons] at once
    have other : a ≠ x := fun same => once.1 (same ▸ List.mem_append_right later there)
    rw [List.cons_append, rank, if_neg other, ih once.2]

theorem Beyond.rank (beyond : Beyond st st') (once : st'.met.Nodup) (there : x ∈ st.met) :
    rank st'.met x = rank st.met x :=
  rank_eq_of_suffix beyond.met once there

/-- What is met later has at least the rank of the next to be met. -/
theorem le_rank_of_suffix {l l' : List α} (suffix : l <:+ l') (there : x ∈ l') (new : x ∉ l) :
    l.length ≤ rank l' x := by
  obtain ⟨later, rfl⟩ := suffix
  induction later with
  | nil => exact absurd there new
  | cons a later ih =>
    rw [List.cons_append, rank]
    split
    case isTrue => exact (List.suffix_append later l).length_le
    case isFalse other => exact ih ((List.mem_cons.1 there).resolve_left (Ne.symm other))

/-! ### The invariant of a search -/

/-- The state of a search while the elements of `path` are being visited, the newest first. -/
structure Visiting (next : α → List α) (path : List α) (st : DepthFirst α) : Prop where
  once : st.met.Nodup
  stacked : st.stack.Sublist st.met
  active : path.Sublist st.stack
  followed : ∀ x ∈ st.met, x ∉ path → ∀ y ∈ next x, y ∈ st.met
  /-- What is being visited leads to all that is above it. -/
  above : ∀ x ∈ path, ∀ y ∈ st.stack, rank st.met x ≤ rank st.met y → Leads next x y
  /-- All that is on the stack leads back to something being visited. -/
  back : ∀ y ∈ st.stack, ∃ x ∈ path, rank st.met x ≤ rank st.met y ∧ Leads next y x
  settled : Settled next st

theorem Visiting.start : Visiting next [] ({} : DepthFirst α) where
  once := .nil
  stacked := .slnil
  active := .slnil
  followed _ h := nomatch h
  above _ h := nomatch h
  back _ h := nomatch h
  settled := {
    closed := fun _ h => nomatch h
    sound := fun _ h => nomatch h
    off := fun _ h => nomatch h
    complete := fun _ h => nomatch h
    apart := .nil }

theorem Visiting.enter (visiting : Visiting next path st) (new : x ∉ st.met)
    (leads : ∀ p ∈ path, Leads next p x) : Visiting next (x :: path) (st.enter x) := by
  have once : (st.enter x).met.Nodup := List.nodup_cons.2 ⟨new, visiting.once⟩
  have same {y : α} (there : y ∈ st.stack) : rank (st.enter x).met y = rank st.met y :=
    (Beyond.enter new).rank once (visiting.stacked.subset there)
  have low {y : α} (there : y ∈ st.stack) : rank (st.enter x).met y < st.met.length :=
    same there ▸ rank_lt (visiting.stacked.subset there)
  exact {
    once := once
    stacked := visiting.stacked.cons_cons x
    active := visiting.active.cons_cons x
    followed := fun z met idle y near => by
      rw [List.mem_cons, not_or] at idle
      exact List.mem_cons_of_mem x
        (visiting.followed z ((List.mem_cons.1 met).resolve_left idle.1) idle.2 y near)
    above := fun p there y onStack le => by
      rcases List.mem_cons.1 onStack with rfl | older
      · rcases List.mem_cons.1 there with rfl | there
        · exact .refl
        · exact leads p there
      · rcases List.mem_cons.1 there with rfl | there
        · have own : rank (st.enter p).met p = st.met.length := rank_cons_self p st.met
          exact absurd (low older) (Nat.not_lt.2 (own ▸ le))
        · rw [same older, same (visiting.active.subset there)] at le
          exact visiting.above p there y older le
    back := fun y onStack => by
      rcases List.mem_cons.1 onStack with rfl | older
      · exact ⟨y, List.mem_cons_self, Nat.le_refl _, .refl⟩
      · obtain ⟨p, there, le, back⟩ := visiting.back y older
        refine ⟨p, List.mem_cons_of_mem x there, ?_, back⟩
        rwa [same older, same (visiting.active.subset there)]
    settled := visiting.settled.enter new }

/-! ### Closing a component -/

theorem close_eq {above rest : List α} (stack : st.stack = above ++ x :: rest) (apart : x ∉ above) :
    st.close x =
      { met := st.met
        stack := rest
        found := if 1 < (above ++ [x]).length then st.found ++ [above ++ [x]] else st.found } := by
  have before : ∀ a ∈ above, decide (a ≠ x) = true := fun a there =>
    decide_eq_true fun same => apart (same ▸ there)
  have top : st.stack.takeWhile (· ≠ x) = above := by
    rw [stack, List.takeWhile_append_of_pos before, List.takeWhile_cons_of_neg (by simp),
      List.append_nil]
  have below : (st.stack.dropWhile (· ≠ x)).tail = rest := by
    rw [stack, List.dropWhile_append_of_pos before, List.dropWhile_cons_of_neg (by simp),
      List.tail_cons]
  rw [close, top, below]

/-- The part of the stack that is to be closed: it has no way out but to what has left the stack. -/
structure Closing (next : α → List α) (path : List α) (st : DepthFirst α) (x : α)
    (above rest : List α) : Prop where
  visiting : Visiting next (x :: path) st
  stack : st.stack = above ++ x :: rest
  /-- All that is still being visited lies below. -/
  active : path.Sublist rest
  lower : ∀ p ∈ rest, rank st.met p < rank st.met x
  higher : ∀ z ∈ above, rank st.met x ≤ rank st.met z
  exits : ∀ z ∈ above ++ [x], ∀ u ∈ next z, u ∈ st.met ∧ u ∉ rest

namespace Closing

variable {above rest : List α}

theorem nodup (closing : Closing next path st x above rest) :
    (above ++ [x]).Nodup ∧ rest.Nodup ∧ (above ++ [x]).Disjoint rest := by
  have once := closing.visiting.stacked.nodup closing.visiting.once
  rw [closing.stack, List.append_cons, List.nodup_append'] at once
  exact once

theorem mem_stack (closing : Closing next path st x above rest) {z : α} :
    z ∈ st.stack ↔ z ∈ above ++ [x] ∨ z ∈ rest := by
  rw [closing.stack]
  simp [or_assoc]

theorem mem_met (closing : Closing next path st x above rest) {z : α} (there : z ∈ st.stack) :
    z ∈ st.met :=
  closing.visiting.stacked.subset there

/-- What is closed is joined to its root. -/
theorem mutual_root (closing : Closing next path st x above rest) {z : α}
    (there : z ∈ above ++ [x]) : Mutual next x z := by
  have onStack : z ∈ st.stack := closing.mem_stack.2 (.inl there)
  have le : rank st.met x ≤ rank st.met z := by
    rcases List.mem_append.1 there with there | there
    · exact closing.higher z there
    · exact Nat.le_of_eq (by rw [List.mem_singleton.1 there])
  refine ⟨closing.visiting.above x List.mem_cons_self z onStack le, ?_⟩
  -- It leads back to something being visited, and that leads to the root, which is above it.
  obtain ⟨p, active, -, back⟩ := closing.visiting.back z onStack
  have rootOnStack : x ∈ st.stack := closing.mem_stack.2 (.inl (by simp))
  rcases List.mem_cons.1 active with rfl | active
  · exact back
  · have lower := closing.lower p (closing.active.subset active)
    exact Relation.ReflTransGen.trans back
      (closing.visiting.above p (List.mem_cons_of_mem x active) x rootOnStack (Nat.le_of_lt lower))

/-- What is joined to the root is closed with it. -/
theorem mem_of_mutual_root (closing : Closing next path st x above rest) {z : α}
    (both : Mutual next x z) : z ∈ above ++ [x] := by
  have stays : z ∈ above ++ [x] ∨ z ∈ st.met ∧ z ∉ st.stack := by
    refine both.1.stays (fun z => z ∈ above ++ [x] ∨ z ∈ st.met ∧ z ∉ st.stack)
      (fun a inside b near => ?_) (.inl (by simp))
    rcases inside with closed | ⟨met, off⟩
    · obtain ⟨met, notBelow⟩ := closing.exits a closed b near
      by_cases onStack : b ∈ st.stack
      · exact .inl ((closing.mem_stack.1 onStack).resolve_right notBelow)
      · exact .inr ⟨met, onStack⟩
    · exact .inr (closing.visiting.settled.closed a met off b near)
  refine stays.resolve_right fun settled => ?_
  exact (closing.visiting.settled.stays both.2 settled).2 (closing.mem_stack.2 (.inl (by simp)))

theorem mem_iff_mutual (closing : Closing next path st x above rest) {y z : α}
    (there : y ∈ above ++ [x]) : z ∈ above ++ [x] ↔ Mutual next y z := by
  have root := closing.mutual_root there
  exact ⟨fun also => root.symm.trans (closing.mutual_root also),
    fun both => closing.mem_of_mutual_root (root.trans both)⟩

/-- What has left the stack after closing is what is closed and what had left it before. -/
theorem settled_iff (closing : Closing next path st x above rest) {z : α} :
    z ∈ st.met ∧ z ∉ rest ↔ z ∈ above ++ [x] ∨ z ∈ st.met ∧ z ∉ st.stack := by
  rw [closing.mem_stack]
  constructor
  · rintro ⟨met, notBelow⟩
    by_cases closed : z ∈ above ++ [x]
    · exact .inl closed
    · exact .inr ⟨met, not_or.2 ⟨closed, notBelow⟩⟩
  · rintro (closed | ⟨met, off⟩)
    · exact ⟨closing.mem_met (closing.mem_stack.2 (.inl closed)), closing.nodup.2.2 closed⟩
    · exact ⟨met, fun below => off (.inr below)⟩

theorem component (closing : Closing next path st x above rest)
    (several : 1 < (above ++ [x]).length) : Component next (above ++ [x]) where
  several := several
  once := closing.nodup.1
  joined _ there _ := closing.mem_iff_mutual there

theorem close_eq (closing : Closing next path st x above rest) : st.close x =
    { met := st.met
      stack := rest
      found := if 1 < (above ++ [x]).length then st.found ++ [above ++ [x]] else st.found } :=
  DepthFirst.close_eq closing.stack fun there =>
    (List.nodup_append'.1 closing.nodup.1).2.2 there (List.mem_singleton_self x)

theorem mem_found (closing : Closing next path st x above rest) {c : List α} :
    c ∈ (st.close x).found ↔ c ∈ st.found ∨ 1 < (above ++ [x]).length ∧ c = above ++ [x] := by
  rw [closing.close_eq]
  dsimp only
  split
  case isTrue several => rw [List.mem_append, List.mem_singleton, and_iff_right several]
  case isFalse alone => exact (or_iff_left fun h => alone h.1).symm

theorem settled (closing : Closing next path st x above rest) : Settled next (st.close x) := by
  have old := closing.visiting.settled
  have shape := closing.close_eq
  have met : (st.close x).met = st.met := by rw [shape]
  have stack : (st.close x).stack = rest := by rw [shape]
  refine ⟨?closed, ?sound, ?off, ?complete, ?apart⟩ <;> try simp only [met, stack]
  case closed =>
    intro z met off y near
    rcases closing.settled_iff.1 ⟨met, off⟩ with closed | ⟨met, off⟩
    · exact closing.exits z closed y near
    · exact closing.settled_iff.2 (.inr (old.closed z met off y near))
  case sound =>
    intro c found
    rcases closing.mem_found.1 found with found | ⟨several, rfl⟩
    · exact old.sound c found
    · exact closing.component several
  case off =>
    intro c found z there
    rcases closing.mem_found.1 found with found | ⟨-, rfl⟩
    · exact closing.settled_iff.2 (.inr (old.off c found z there))
    · exact closing.settled_iff.2 (.inl there)
  case complete =>
    intro z met off y other both
    rcases closing.settled_iff.1 ⟨met, off⟩ with closed | ⟨met, off⟩
    · -- Two elements are closed together, so there is a component to keep.
      have also : y ∈ above ++ [x] := (closing.mem_iff_mutual closed).2 both
      have several : 1 < (above ++ [x]).length := by
        have pair : [y, z].Nodup := by simpa using other
        refine pair.length_le_of_subset fun a there => ?_
        rcases List.mem_cons.1 there with rfl | there
        · exact also
        · exact List.mem_singleton.1 there ▸ closed
      exact ⟨_, closing.mem_found.2 (.inr ⟨several, rfl⟩), closed⟩
    · obtain ⟨c, found, there⟩ := old.complete z met off y other both
      exact ⟨c, closing.mem_found.2 (.inl found), there⟩
  case apart =>
    rw [shape]
    dsimp only
    split
    case isTrue =>
      refine List.pairwise_append.2 ⟨old.apart, List.pairwise_singleton _ _, fun c found d last => ?_⟩
      rw [List.mem_singleton.1 last]
      exact fun z there closed => (old.off c found z there).2 (closing.mem_stack.2 (.inl closed))
    case isFalse => exact old.apart

theorem close (closing : Closing next path st x above rest) : Visiting next path (st.close x) := by
  have old := closing.visiting
  have shape := closing.close_eq
  have met : (st.close x).met = st.met := by rw [shape]
  have stack : (st.close x).stack = rest := by rw [shape]
  have onStack {z : α} (there : z ∈ rest) : z ∈ st.stack := closing.mem_stack.2 (.inr there)
  refine ⟨?once, ?stacked, ?active, ?followed, ?above, ?back, closing.settled⟩ <;>
    simp only [met, stack]
  case once => exact old.once
  case stacked =>
    have below : rest.Sublist st.stack := by
      rw [closing.stack, List.append_cons]
      exact List.sublist_append_right (above ++ [x]) rest
    exact below.trans old.stacked
  case active => exact closing.active
  case followed =>
    intro z met idle y near
    by_cases same : z = x
    · exact (closing.exits z (by simp [same]) y near).1
    · refine old.followed z met ?_ y near
      rw [List.mem_cons, not_or]
      exact ⟨same, idle⟩
  case above =>
    exact fun p there y below => old.above p (List.mem_cons_of_mem x there) y (onStack below)
  case back =>
    intro y below
    obtain ⟨p, there, le, back⟩ := old.back y (onStack below)
    have other : p ≠ x := by
      rintro rfl
      exact absurd (closing.lower y below) (Nat.not_lt.2 le)
    exact ⟨p, (List.mem_cons.1 there).resolve_left other, le, back⟩

end Closing

/-! ### Low links -/

/-- A visit to `x` that began in `st` has ended with a low link and a state. -/
structure Connected (next : α → List α) (path : List α) (st : DepthFirst α) (x : α)
    (after : Nat × DepthFirst α) : Prop where
  visiting : Visiting next path after.2
  beyond : Beyond st after.2
  met : x ∈ after.2.met
  /-- The low link, unless it is the rank of the element, is that of something it leads to. -/
  reaches : after.1 = st.met.length ∨
    ∃ w ∈ after.2.stack, rank after.2.met w = after.1 ∧ Leads next x w
  /-- What the visit has left on the stack enters the stack below no lower than at the low link. -/
  bound : ∀ z ∈ after.2.stack, z ∉ st.met → ∀ u ∈ next z, u ∈ st.stack → after.1 ≤ rank st.met u

/-- A visit to `x` that began in `st` has followed the successors `done`. -/
structure Following (next : α → List α) (path : List α) (st : DepthFirst α) (x : α) (done : List α)
    (sofar : Nat × DepthFirst α) : Prop where
  visiting : Visiting next (x :: path) sofar.2
  beyond : Beyond (st.enter x) sofar.2
  met : ∀ y ∈ done, y ∈ sofar.2.met
  low_le : sofar.1 ≤ st.met.length
  reaches : ∃ w ∈ sofar.2.stack, rank sofar.2.met w = sofar.1 ∧ Leads next x w
  own : ∀ u ∈ done, u ∈ st.stack → sofar.1 ≤ rank st.met u
  bound : ∀ z ∈ sofar.2.stack, z ∉ st.met → z ≠ x → ∀ u ∈ next z, u ∈ st.stack →
    sofar.1 ≤ rank st.met u

/-- The visits meet what they have to, as long as at most `depth` of `all` are still unseen. -/
def Connects (next : α → List α) (all : List α) (depth : Nat)
    (visit : α → DepthFirst α → Nat × DepthFirst α) : Prop :=
  ∀ path st x, Visiting next path st → x ∈ all → x ∉ st.met → (∀ p ∈ path, Leads next p x) →
    (unseen all st.met).length ≤ depth → Connected next path st x (visit x st)

theorem Following.start (visiting : Visiting next path st) (new : x ∉ st.met)
    (leads : ∀ p ∈ path, Leads next p x) :
    Following next path st x [] (st.met.length, st.enter x) where
  visiting := visiting.enter new leads
  beyond := .refl _
  met _ h := nomatch h
  low_le := Nat.le_refl _
  reaches := ⟨x, List.mem_cons_self, rank_cons_self x st.met, .refl⟩
  own _ h := nomatch h
  bound z there unmet other := by
    rcases List.mem_cons.1 there with rfl | there
    · exact absurd rfl other
    · exact absurd (visiting.stacked.subset there) unmet

/-- The state of the search that the visit began in, and what it met by then. -/
theorem Following.since {done : List α} {sofar : Nat × DepthFirst α}
    (following : Following next path st x done sofar) (new : x ∉ st.met) : Beyond st sofar.2 :=
  (Beyond.enter new).trans following.beyond

/-- A successor that has been met changes the low link at most. -/
theorem Following.known {done : List α} {low low' : Nat} {now : DepthFirst α}
    (following : Following next path st x done (low, now)) (known : y ∈ now.met) (le : low' ≤ low)
    (reaches : ∃ w ∈ now.stack, rank now.met w = low' ∧ Leads next x w)
    (bound : y ∈ st.stack → low' ≤ rank st.met y) :
    Following next path st x (done ++ [y]) (low', now) where
  visiting := following.visiting
  beyond := following.beyond
  met u there := by
    rcases List.mem_append.1 there with there | last
    · exact following.met u there
    · exact List.mem_singleton.1 last ▸ known
  low_le := Nat.le_trans le following.low_le
  reaches := reaches
  own u there below := by
    rcases List.mem_append.1 there with there | last
    · exact Nat.le_trans le (following.own u there below)
    · obtain rfl := List.mem_singleton.1 last
      exact bound below
  bound z onStack unmet other u near below :=
    Nat.le_trans le (following.bound z onStack unmet other u near below)

/-- A successor that is met for the first time has been visited. -/
theorem Following.visited {done : List α} {low low' : Nat} {now later : DepthFirst α}
    (following : Following next path st x done (low, now)) (new : x ∉ st.met)
    (stacked : st.stack.Sublist st.met) (near : y ∈ next x) (unmet : y ∉ now.met)
    (connected : Connected next (x :: path) now y (low', later)) :
    Following next path st x (done ++ [y]) (min low low', later) where
  visiting := connected.visiting
  beyond := following.beyond.trans connected.beyond
  met u there := by
    rcases List.mem_append.1 there with there | last
    · exact connected.beyond.met.subset (following.met u there)
    · exact List.mem_singleton.1 last ▸ connected.met
  low_le := Nat.le_trans (Nat.min_le_left _ _) following.low_le
  reaches := by
    rcases Nat.le_total low low' with le | le
    · obtain ⟨w, onStack, rank, leads⟩ := following.reaches
      rw [Nat.min_eq_left le]
      refine ⟨w, connected.beyond.stack.subset onStack, ?_, leads⟩
      rw [connected.beyond.rank connected.visiting.once (following.visiting.stacked.subset onStack)]
      exact rank
    · rw [Nat.min_eq_right le]
      rcases connected.reaches with root | ⟨w, onStack, rank, leads⟩
      · -- The successor is the root of a component, and was met after the element.
        have later : st.met.length < now.met.length := following.beyond.met.length_le
        exact absurd (Nat.lt_of_le_of_lt following.low_le later)
          (Nat.not_lt.2 (show now.met.length ≤ low from root ▸ le))
      · exact ⟨w, onStack, rank, .head near leads⟩
  own u there below := by
    rcases List.mem_append.1 there with there | last
    · exact Nat.le_trans (Nat.min_le_left _ _) (following.own u there below)
    · obtain rfl := List.mem_singleton.1 last
      exact absurd ((following.since new).met.subset (stacked.subset below)) unmet
  bound z onStack unmet' other u near' below := by
    by_cases old : z ∈ now.met
    · exact Nat.le_trans (Nat.min_le_left _ _)
        (following.bound z (connected.beyond.fresh z onStack old) unmet' other u near' below)
    · refine Nat.le_trans (Nat.min_le_right _ _) ?_
      have since := following.since new
      rw [← since.rank following.visiting.once (stacked.subset below)]
      exact connected.bound z onStack old u near' (since.stack.subset below)

theorem Following.step {all : List α} {depth : Nat}
    {visit : α → DepthFirst α → Nat × DepthFirst α} (connects : Connects next all depth visit)
    {done : List α} {sofar : Nat × DepthFirst α} (stacked : st.stack.Sublist st.met)
    (new : x ∉ st.met) (leads : ∀ p ∈ path, Leads next p x)
    (enough : (unseen all (st.enter x).met).length ≤ depth)
    (following : Following next path st x done sofar) (near : y ∈ next x) (inAll : y ∈ all) :
    Following next path st x (done ++ [y]) (follow visit sofar y) := by
  obtain ⟨low, now⟩ := sofar
  have since := following.since new
  rw [follow]
  split
  case isTrue unmet =>
    have visits : ∀ p ∈ x :: path, Leads next p y := by
      intro p there
      rcases List.mem_cons.1 there with rfl | there
      · exact .single near
      · exact Relation.ReflTransGen.tail (leads p there) near
    have few : (unseen all now.met).length ≤ depth :=
      Nat.le_trans (length_unseen_mono following.beyond.met.subset) enough
    exact following.visited new stacked near unmet
      (connects (x :: path) now y following.visiting inAll unmet visits few)
  case isFalse met =>
    have known : y ∈ now.met := not_not.1 met
    split
    case isTrue onStack =>
      refine following.known known (Nat.min_le_left _ _) ?_ fun below => ?_
      · rcases Nat.le_total low (rank now.met y) with le | le
        · exact (Nat.min_eq_left le).symm ▸ following.reaches
        · exact (Nat.min_eq_right le).symm ▸ ⟨y, onStack, rfl, .single near⟩
      · rw [← since.rank following.visiting.once (stacked.subset below)]
        exact Nat.min_le_right _ _
    case isFalse off =>
      exact following.known known (Nat.le_refl _) following.reaches
        fun below => absurd (since.stack.subset below) off

theorem Following.foldl {all : List α} {depth : Nat}
    {visit : α → DepthFirst α → Nat × DepthFirst α} (connects : Connects next all depth visit)
    (stacked : st.stack.Sublist st.met) (new : x ∉ st.met) (leads : ∀ p ∈ path, Leads next p x)
    (enough : (unseen all (st.enter x).met).length ≤ depth) {ys done : List α}
    (near : ys ⊆ next x) (inAll : ys ⊆ all) {sofar : Nat × DepthFirst α}
    (following : Following next path st x done sofar) :
    Following next path st x (done ++ ys) (ys.foldl (follow visit) sofar) := by
  induction ys generalizing done sofar with
  | nil => rwa [List.append_nil]
  | cons y ys ih =>
    rw [List.cons_subset] at near inAll
    rw [List.foldl_cons, List.append_cons]
    exact ih near.2 inAll.2 (following.step connects stacked new leads enough near.1 inAll.1)

/-! ### Ending a visit -/

theorem Following.rank_self {done : List α} {sofar : Nat × DepthFirst α}
    (following : Following next path st x done sofar) : rank sofar.2.met x = st.met.length := by
  rw [following.beyond.rank following.visiting.once List.mem_cons_self]
  exact rank_cons_self x st.met

/-- An element whose low link is its own rank is the root of a component. -/
theorem Following.closing {now : DepthFirst α} (visiting : Visiting next path st) (new : x ∉ st.met)
    (following : Following next path st x (next x) (st.met.length, now)) :
    ∃ above, Closing next path now x above st.stack := by
  have once := following.visiting.once
  have stacked := visiting.stacked
  have since := following.since new
  have self : rank now.met x = st.met.length := following.rank_self
  obtain ⟨above, stack⟩ := following.beyond.stack
  have stack : now.stack = above ++ x :: st.stack := stack.symm
  have onStack {z : α} (there : z ∈ above ++ [x]) : z ∈ now.stack := by
    rw [stack, List.append_cons]
    exact List.mem_append_left _ there
  -- Nothing on the part to be closed was met before the visit.
  have late {z : α} (there : z ∈ above ++ [x]) : z ∉ st.met := by
    intro old
    have nodup := following.visiting.stacked.nodup once
    rw [stack, List.append_cons, List.nodup_append'] at nodup
    exact nodup.2.2 there (since.fresh z (onStack there) old)
  refine ⟨above, following.visiting, stack, visiting.active, fun p below => ?_, fun z there => ?_,
    fun z there u near => ⟨?_, fun below => ?_⟩⟩
  · rw [self, since.rank once (stacked.subset below)]
    exact rank_lt (stacked.subset below)
  · have there : z ∈ above ++ [x] := List.mem_append_left _ there
    rw [self]
    exact le_rank_of_suffix since.met (following.visiting.stacked.subset (onStack there)) (late there)
  · by_cases same : z = x
    · exact following.met u (same ▸ near)
    · refine following.visiting.followed z (following.visiting.stacked.subset (onStack there)) ?_ u near
      rw [List.mem_cons, not_or]
      exact ⟨same, fun active => late there (stacked.subset (visiting.active.subset active))⟩
  · have low : st.met.length ≤ rank st.met u := by
      by_cases same : z = x
      · exact following.own u (same ▸ near) below
      · exact following.bound z (onStack there) (late there) same u near below
    exact absurd (rank_lt (stacked.subset below)) (Nat.not_lt.2 low)

/-- The visit to the root of a component ends by closing the component. -/
theorem Following.root {now : DepthFirst α} (visiting : Visiting next path st) (new : x ∉ st.met)
    (following : Following next path st x (next x) (st.met.length, now)) :
    Connected next path st x (st.met.length, now.close x) := by
  obtain ⟨above, closing⟩ := following.closing visiting new
  have since := following.since new
  have shape := closing.close_eq
  have met : (now.close x).met = now.met := by rw [shape]
  have stack : (now.close x).stack = st.stack := by rw [shape]
  exact {
    visiting := closing.close
    beyond := {
      met := met.symm ▸ since.met
      stack := stack.symm ▸ List.suffix_rfl
      fresh := fun _ onStack _ => stack ▸ onStack }
    met := met.symm ▸ following.beyond.met.subset List.mem_cons_self
    reaches := .inl rfl
    bound := fun z onStack unmet =>
      absurd (visiting.stacked.subset (stack ▸ onStack)) unmet }

/-- An element with a lower low link stays on the stack, and leads to something visited before it. -/
theorem Following.joined {low : Nat} {now : DepthFirst α} (new : x ∉ st.met)
    (following : Following next path st x (next x) (low, now)) (lower : low < st.met.length) :
    Connected next path st x (low, now) where
  visiting := {
    once := following.visiting.once
    stacked := following.visiting.stacked
    active := (List.sublist_cons_self x path).trans following.visiting.active
    followed := fun z met idle y near => by
      by_cases same : z = x
      · exact following.met y (same ▸ near)
      · refine following.visiting.followed z met ?_ y near
        rw [List.mem_cons, not_or]
        exact ⟨same, idle⟩
    above := fun p there => following.visiting.above p (List.mem_cons_of_mem x there)
    back := fun y onStack => by
      obtain ⟨p, there, le, back⟩ := following.visiting.back y onStack
      rcases List.mem_cons.1 there with rfl | there
      · obtain ⟨w, below, rank, leads⟩ := following.reaches
        obtain ⟨q, active, under, further⟩ := following.visiting.back w below
        have self := following.rank_self
        have other : q ≠ p := by
          rintro rfl
          omega
        refine ⟨q, (List.mem_cons.1 active).resolve_left other, by omega, ?_⟩
        exact Relation.ReflTransGen.trans back (Relation.ReflTransGen.trans leads further)
      · exact ⟨p, there, le, back⟩
    settled := following.visiting.settled }
  beyond := following.since new
  met := following.beyond.met.subset List.mem_cons_self
  reaches := .inr following.reaches
  bound z onStack unmet u near below := by
    by_cases same : z = x
    · exact following.own u (same ▸ near) below
    · exact following.bound z onStack unmet same u near below

/-- Visits nested no deeper than there are unseen elements meet what they have to. -/
theorem connects_connect {all : List α} (bounded : ∀ a, next a ⊆ all) (depth : Nat) :
    Connects next all depth (connect next depth) := by
  induction depth with
  | zero =>
    intro path st x _ inAll new _ enough
    have unmet : x ∈ unseen all st.met := mem_unseen.2 ⟨inAll, new⟩
    exact absurd (List.length_pos_of_mem unmet) (Nat.not_lt.2 enough)
  | succ depth ih =>
    intro path st x visiting inAll new leads enough
    have fewer : (unseen all (st.enter x).met).length ≤ depth :=
      Nat.le_of_lt_succ (Nat.lt_of_lt_of_le (length_unseen_cons_lt inAll new) enough)
    have following := (Following.start visiting new leads).foldl ih visiting.stacked new leads fewer
      (List.Subset.refl _) (bounded x)
    rw [List.nil_append] at following
    rw [connect]
    generalize (next x).foldl (follow (connect next depth)) (st.met.length, st.enter x) = sofar
      at following
    obtain ⟨low, now⟩ := sofar
    dsimp only
    split
    case isTrue own =>
      subst own
      exact following.root visiting new
    case isFalse other =>
      exact following.joined new (Nat.lt_of_le_of_ne following.low_le other)

/-! ### The whole search -/

/-- A search that visits one element after the other. -/
theorem Visiting.foldl {all : List α} (bounded : ∀ a, next a ⊆ all) {depth : Nat}
    (enough : all.length ≤ depth) {xs : List α} (inAll : xs ⊆ all)
    (visiting : Visiting next [] st) :
    Visiting next [] (xs.foldl (visitOnce next depth) st) ∧
      (∀ x, x ∈ st.met ∨ x ∈ xs → x ∈ (xs.foldl (visitOnce next depth) st).met) := by
  induction xs generalizing st with
  | nil => exact ⟨visiting, fun x h => h.resolve_right List.not_mem_nil⟩
  | cons x xs ih =>
    rw [List.cons_subset] at inAll
    have visited : Visiting next [] (visitOnce next depth st x) ∧
        st.met ⊆ (visitOnce next depth st x).met ∧ x ∈ (visitOnce next depth st x).met := by
      rw [visitOnce]
      split
      case isTrue met => exact ⟨visiting, List.Subset.refl _, met⟩
      case isFalse new =>
        have connected := connects_connect bounded depth [] st x visiting inAll.1 new
          (fun _ h => nomatch h) (Nat.le_trans (length_unseen_le all st.met) enough)
        exact ⟨connected.visiting, connected.beyond.met.subset, connected.met⟩
    obtain ⟨visiting, met, metNow⟩ := visited
    obtain ⟨after, all⟩ := ih inAll.2 visiting
    refine ⟨after, fun y h => all y ?_⟩
    rcases h with old | there
    · exact .inl (met old)
    · rcases List.mem_cons.1 there with rfl | there
      · exact .inl metNow
      · exact .inr there

/-- A search from everywhere, with visits nested no deeper than there are elements, finds the components
of two or more elements, no two of which share an element. -/
theorem search_exact {all : List α} (bounded : ∀ a, next a ⊆ all) {depth : Nat}
    (enough : all.length ≤ depth) :
    (∀ c ∈ search next depth all, Component next c) ∧
    (∀ x ∈ all, ∀ y, y ≠ x → Mutual next x y → ∃ c ∈ search next depth all, x ∈ c) ∧
    (search next depth all).Pairwise List.Disjoint := by
  obtain ⟨visiting, met⟩ := Visiting.start.foldl bounded enough (List.Subset.refl all)
  have off {x : α} : x ∉ (all.foldl (visitOnce next depth) {}).stack := by
    intro onStack
    obtain ⟨p, active, -⟩ := visiting.back x onStack
    cases active
  exact ⟨visiting.settled.sound, fun x there y => visiting.settled.complete x (met x (.inr there)) off y,
    visiting.settled.apart⟩

end DepthFirst

end WidgetFlow
