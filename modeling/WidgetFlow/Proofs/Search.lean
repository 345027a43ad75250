import WidgetFlow.Search

/-!
# Exhaustive search finds what is linked

`expand` is a worklist with a bound on its rounds. Its invariant `Searching` says what has been seen
so far: only what is linked to the start, and all that is next to something already expanded. Every
round either ends the search or uses up one of the elements that wait or are still unseen, so with
one round for each element that can be met, and one for the start, nothing is missed
(`mem_expand_iff`).

A breadth-first search keeps its elements in a queue and counts the start as visited from the outset;
it finds the same elements, and the start (`mem_breadthFirst_iff`).
-/

namespace WidgetFlow

variable {α : Type} {next : α → List α}

theorem Linked.append {a b c : α} (first : Linked next a b)
    (second : Linked next b c) : Linked next a c := by
  induction second with
  | step near => exact .trans first near
  | trans _ near ih => exact .trans ih near

theorem Linked.mono {next' : α → List α} (more : ∀ a, next a ⊆ next' a) {a b : α}
    (linked : Linked next a b) : Linked next' a b := by
  induction linked with
  | step near => exact .step (more _ near)
  | trans _ near ih => exact .trans ih (more _ near)

/-- Links can be followed back. -/
theorem Linked.reverse {prev : α → List α} (mirrored : ∀ a b, b ∈ next a → a ∈ prev b) {a b : α}
    (linked : Linked next a b) : Linked prev b a := by
  induction linked with
  | step near => exact .step (mirrored _ _ near)
  | trans _ near ih => exact (Linked.step (mirrored _ _ near)).append ih

/-- The state of a search from `start`: `todo` waits to be expanded, `seen` has been met. -/
structure Searching (next : α → List α) (start : α) (todo seen : List α) : Prop where
  met : ∀ x ∈ todo, x = start ∨ x ∈ seen
  linked : ∀ x ∈ seen, Linked next start x
  /-- What does not wait has been expanded. -/
  expanded : ∀ x, x = start ∨ x ∈ seen → x ∈ todo ∨ ∀ y ∈ next x, y ∈ seen

theorem Searching.start (start : α) : Searching next start [start] [] where
  met x h := .inl (by simpa using h)
  linked x h := by cases h
  expanded x h := .inl (by simpa using h)

/-- A search with nothing left to do has seen all that is linked to its start. -/
theorem Searching.complete {start x : α} {seen : List α} (search : Searching next start [] seen)
    (linked : Linked next start x) : x ∈ seen := by
  have done : ∀ x, x = start ∨ x ∈ seen → ∀ y ∈ next x, y ∈ seen := fun x h =>
    (search.expanded x h).resolve_left (by simp)
  induction linked with
  | step near => exact done start (.inl rfl) _ near
  | trans _ near ih => exact done _ (.inr ih) _ near

/-- The state of a breadth-first search from `start`. -/
structure Spreading (next : α → List α) (start : α) (queue visited : List α) : Prop where
  started : start ∈ visited
  met : ∀ x ∈ queue, x ∈ visited
  linked : ∀ x ∈ visited, x = start ∨ Linked next start x
  /-- What has left the queue has been expanded. -/
  expanded : ∀ x ∈ visited, x ∈ queue ∨ ∀ y ∈ next x, y ∈ visited

theorem Spreading.start (start : α) : Spreading next start [start] [start] where
  started := List.mem_singleton_self start
  met _ h := h
  linked _ h := .inl (List.mem_singleton.1 h)
  expanded _ h := .inl h

/-- A search with an empty queue has visited the start and all that is linked to it. -/
theorem Spreading.mem_visited_iff {start x : α} {visited : List α}
    (search : Spreading next start [] visited) : x ∈ visited ↔ x = start ∨ Linked next start x := by
  have done (x : α) (h : x ∈ visited) : ∀ y ∈ next x, y ∈ visited :=
    (search.expanded x h).resolve_left List.not_mem_nil
  refine ⟨search.linked x, ?_⟩
  rintro (rfl | linked)
  · exact search.started
  · induction linked with
    | step near => exact done start search.started _ near
    | trans _ near ih => exact done _ ih _ near

variable [DecidableEq α]

/-- What expanding `a` meets for the first time. -/
def freshFrom (next : α → List α) (a : α) (seen : List α) : List α :=
  (distinct (next a)).filter (!seen.contains ·)

theorem expand_cons (next : α → List α) (rounds : Nat) (a : α) (todo seen : List α) :
    expand next (rounds + 1) (a :: todo) seen =
      expand next rounds (freshFrom next a seen ++ todo) (freshFrom next a seen ++ seen) := rfl

theorem mem_freshFrom {a x : α} {seen : List α} :
    x ∈ freshFrom next a seen ↔ x ∈ next a ∧ x ∉ seen := by
  simp [freshFrom]

/-- Expanding one element keeps the search in order. -/
theorem Searching.round {start a : α} {todo seen : List α}
    (search : Searching next start (a :: todo) seen) :
    Searching next start (freshFrom next a seen ++ todo) (freshFrom next a seen ++ seen) where
  met x h := by
    rcases List.mem_append.1 h with fresh | waits
    · exact .inr (List.mem_append_left _ fresh)
    · exact (search.met x (List.mem_cons_of_mem _ waits)).imp_right (List.mem_append_right _)
  linked x h := by
    rcases List.mem_append.1 h with fresh | old
    · have near := (mem_freshFrom.1 fresh).1
      rcases search.met a (by simp) with rfl | seenA
      · exact .step near
      · exact .trans (search.linked a seenA) near
    · exact search.linked x old
  expanded x h := by
    by_cases isNew : x ∈ freshFrom next a seen
    · exact .inl (List.mem_append_left _ isNew)
    · have old : x = start ∨ x ∈ seen :=
        h.imp_right fun h => (List.mem_append.1 h).resolve_left isNew
      rcases search.expanded x old with waits | done
      · rcases List.mem_cons.1 waits with rfl | waits
        · refine .inr fun y near => ?_
          by_cases known : y ∈ seen
          · exact List.mem_append_right _ known
          · exact List.mem_append_left _ (mem_freshFrom.2 ⟨near, known⟩)
        · exact .inl (List.mem_append_right _ waits)
      · exact .inr fun y near => List.mem_append_right _ (done y near)

/-- The elements of `all` that have not been seen. -/
def unseen (all seen : List α) : List α := (distinct all).filter (!seen.contains ·)

theorem mem_unseen {all seen : List α} {x : α} : x ∈ unseen all seen ↔ x ∈ all ∧ x ∉ seen := by
  simp [unseen]

theorem length_unseen_le (all seen : List α) : (unseen all seen).length ≤ all.length :=
  List.Nodup.length_le_of_subset ((nodup_distinct _).filter _) fun _ h => (mem_unseen.1 h).1

theorem length_unseen_mono {all seen seen' : List α} (more : seen ⊆ seen') :
    (unseen all seen').length ≤ (unseen all seen).length := by
  refine List.Nodup.length_le_of_subset ((nodup_distinct _).filter _) fun u h => ?_
  obtain ⟨inAll, unmet⟩ := mem_unseen.1 h
  exact mem_unseen.2 ⟨inAll, fun old => unmet (more old)⟩

/-- What is seen now was one more that had not been seen. -/
theorem length_unseen_cons_lt {all seen : List α} {a : α} (inAll : a ∈ all) (new : a ∉ seen) :
    (unseen all (a :: seen)).length < (unseen all seen).length := by
  have used : (a :: unseen all (a :: seen)).length ≤ (unseen all seen).length := by
    refine List.Nodup.length_le_of_subset (List.nodup_cons.2 ⟨?_, (nodup_distinct _).filter _⟩)
      fun x h => ?_
    · exact fun there => (mem_unseen.1 there).2 List.mem_cons_self
    · rcases List.mem_cons.1 h with rfl | later
      · exact mem_unseen.2 ⟨inAll, new⟩
      · obtain ⟨inAll, unmet⟩ := mem_unseen.1 later
        exact mem_unseen.2 ⟨inAll, fun old => unmet (List.mem_cons_of_mem a old)⟩
  rwa [List.length_cons] at used

/-- What is met for the first time is no longer unseen. -/
theorem length_unseen {all : List α} {a : α} {seen : List α} (bounded : ∀ x ∈ next a, x ∈ all) :
    (freshFrom next a seen).length + (unseen all (freshFrom next a seen ++ seen)).length ≤
      (unseen all seen).length := by
  rw [← List.length_append]
  refine List.Nodup.length_le_of_subset ?_ fun x h => ?_
  · rw [List.nodup_append]
    refine ⟨(nodup_distinct _).filter _, (nodup_distinct _).filter _, ?_⟩
    rintro x fresh y later rfl
    exact (mem_unseen.1 later).2 (List.mem_append_left _ fresh)
  · rcases List.mem_append.1 h with fresh | later
    · obtain ⟨near, new⟩ := mem_freshFrom.1 fresh
      exact mem_unseen.2 ⟨bounded x near, new⟩
    · obtain ⟨inAll, new⟩ := mem_unseen.1 later
      exact mem_unseen.2 ⟨inAll, fun old => new (List.mem_append_right _ old)⟩

/-- A search finds exactly what is linked to its start, if there are rounds enough for all that
waits and all that is still unseen. -/
theorem Searching.mem_expand_iff {start : α} {all : List α} (bounded : ∀ a, ∀ x ∈ next a, x ∈ all)
    {rounds : Nat} {todo seen : List α} (search : Searching next start todo seen)
    (enough : todo.length + (unseen all seen).length ≤ rounds) {x : α} :
    x ∈ expand next rounds todo seen ↔ Linked next start x := by
  induction rounds generalizing todo seen with
  | zero =>
    have nothing : todo = [] := List.eq_nil_of_length_eq_zero (by omega)
    subst nothing
    exact ⟨search.linked x, search.complete⟩
  | succ rounds ih =>
    cases todo with
    | nil => exact ⟨search.linked x, search.complete⟩
    | cons a todo =>
      have used : (freshFrom next a seen).length +
          (unseen all (freshFrom next a seen ++ seen)).length ≤ (unseen all seen).length :=
        length_unseen (bounded a)
      rw [expand_cons]
      refine ih search.round ?_
      rw [List.length_append]
      rw [List.length_cons] at enough
      omega

/-- One round for each element that can be met, and one for the start, are enough. -/
theorem mem_expand_iff {start x : α} {all : List α} (bounded : ∀ a, ∀ x ∈ next a, x ∈ all)
    {rounds : Nat} (enough : all.length < rounds) :
    x ∈ expand next rounds [start] [] ↔ Linked next start x := by
  refine (Searching.start start).mem_expand_iff bounded ?_
  have few := length_unseen_le all []
  rw [List.length_singleton]
  omega

/-! ### Breadth first -/

/-- Expands the elements of `queue` for at most `rounds` rounds, those first that were met first. The
answer is what has been visited, in order. -/
def breadthFirst (next : α → List α) : Nat → List α → List α → List α
  | 0, _, visited => visited
  | _, [], visited => visited
  | rounds + 1, a :: queue, visited =>
    let fresh := freshFrom next a visited
    breadthFirst next rounds (queue ++ fresh) (visited ++ fresh)

/-- Expanding the first of the queue keeps the search in order. -/
theorem Spreading.round {start a : α} {queue visited : List α}
    (search : Spreading next start (a :: queue) visited) :
    Spreading next start (queue ++ freshFrom next a visited)
      (visited ++ freshFrom next a visited) where
  started := List.mem_append_left _ search.started
  met x h := by
    rcases List.mem_append.1 h with waits | fresh
    · exact List.mem_append_left _ (search.met x (List.mem_cons_of_mem a waits))
    · exact List.mem_append_right _ fresh
  linked x h := by
    rcases List.mem_append.1 h with old | fresh
    · exact search.linked x old
    · have near := (mem_freshFrom.1 fresh).1
      rcases search.linked a (search.met a List.mem_cons_self) with rfl | linked
      · exact .inr (.step near)
      · exact .inr (.trans linked near)
  expanded x h := by
    rcases List.mem_append.1 h with old | fresh
    · rcases search.expanded x old with waits | done
      · rcases List.mem_cons.1 waits with rfl | waits
        · refine .inr fun y near => ?_
          by_cases known : y ∈ visited
          · exact List.mem_append_left _ known
          · exact List.mem_append_right _ (mem_freshFrom.2 ⟨near, known⟩)
        · exact .inl (List.mem_append_left _ waits)
      · exact .inr fun y near => List.mem_append_left _ (done y near)
    · exact .inl (List.mem_append_right _ fresh)

theorem Spreading.mem_breadthFirst_iff {start : α} {all : List α}
    (bounded : ∀ a, ∀ x ∈ next a, x ∈ all) {rounds : Nat} {queue visited : List α}
    (search : Spreading next start queue visited)
    (enough : queue.length + (unseen all visited).length ≤ rounds) {x : α} :
    x ∈ breadthFirst next rounds queue visited ↔ x = start ∨ Linked next start x := by
  induction rounds generalizing queue visited with
  | zero =>
    obtain rfl : queue = [] := List.eq_nil_of_length_eq_zero (by omega)
    exact search.mem_visited_iff
  | succ rounds ih =>
    cases queue with
    | nil => exact search.mem_visited_iff
    | cons a queue =>
      have used : (freshFrom next a visited).length +
          (unseen all (freshFrom next a visited ++ visited)).length ≤ (unseen all visited).length :=
        length_unseen (bounded a)
      have swap : unseen all (visited ++ freshFrom next a visited) =
          unseen all (freshFrom next a visited ++ visited) := by
        simp only [unseen, List.contains_append, Bool.or_comm]
      refine ih search.round ?_
      rw [List.length_append, swap]
      rw [List.length_cons] at enough
      omega

/-- A breadth-first search visits its start and what is linked to it. -/
theorem mem_breadthFirst_iff {start x : α} {all : List α} (bounded : ∀ a, ∀ x ∈ next a, x ∈ all)
    {rounds : Nat} (enough : all.length < rounds) :
    x ∈ breadthFirst next rounds [start] [start] ↔ x = start ∨ Linked next start x := by
  refine (Spreading.start start).mem_breadthFirst_iff bounded ?_
  have few := length_unseen_le all [start]
  rw [List.length_singleton]
  omega

end WidgetFlow
