import Mathlib.Algebra.GroupWithZero.Nat
import WidgetFlow.Proofs.Solver.Recording

/-!
# A cache that several workers fill

Workers may fill a closure cache together. A query for a closure holds the lock while it looks into
the cache and again while it inserts; between the two it computes without the lock, so that another
query may have inserted meanwhile. A `Pool` is a cache with the queries that are under way and the
sources whose queries have not begun, and a `Move` begins the next query, if a worker is free, or
lets one query take its next step. A run is any list of moves; a move that is not possible does
nothing.

What a move can do to a pool is one of seven turns (`Turn`). Each keeps the pool `Sane`: whatever
the order, answers and entries are the closures of the graph. If the sources are distinct, each also
keeps the `Tally`: nobody computes what another query has computed or what the cache had before. From
every pool the queries can be brought to their ends, however many workers there are
(`finished_completion`).
-/

namespace WidgetFlow

namespace ClosureCache

variable {s : Store} {c : ClosureCache} {id x : NodeId} {sources : List NodeId}

/-! ### Queries and pools -/

/-- How far a query has come. -/
inductive Stage where
  /-- It is about to look into the cache. -/
  | looking
  /-- It has found nothing, and is about to compute. -/
  | computing
  /-- It has computed a closure, and is about to insert it. -/
  | inserting (set : NodeSet)
  | answered (set : NodeSet)
  deriving DecidableEq

/-- A query for the closure of a node. -/
structure Query where
  source : NodeId
  stage : Stage := .looking
  deriving DecidableEq

/-- The query has its answer. -/
def Query.isAnswered (q : Query) : Bool :=
  match q.stage with
  | .answered _ => true
  | _ => false

/-- The next step of a query: what is left of it, the cache after the step, and the nodes whose
closures the step computes. -/
def Query.step (s : Store) (c : ClosureCache) (q : Query) : Query × ClosureCache × List NodeId :=
  match q.stage with
  | .looking =>
    match c.find? q.source with
    | some set => (⟨q.source, .answered set⟩, { c with hits := c.hits + 1 }, [])
    | none => (⟨q.source, .computing⟩, c, [])
  | .computing => (⟨q.source, .inserting (s.reachable q.source)⟩, c, [q.source])
  | .inserting set =>
    match c.find? q.source with
    | some earlier => (⟨q.source, .answered earlier⟩, c, [])
    | none => (⟨q.source, .answered set⟩, c.insert q.source set, [])
  | .answered set => (⟨q.source, .answered set⟩, c, [])

/-- A cache, and the queries of the workers that fill it. -/
structure Pool where
  cache : ClosureCache
  /-- The queries that have begun, oldest first. -/
  queries : List Query := []
  /-- The sources whose queries have not begun. -/
  waiting : List NodeId := []
  /-- The nodes whose closures have been computed, newest first. -/
  computed : List NodeId := []
  deriving DecidableEq

/-- What may happen next. -/
inductive Move where
  /-- The query of the next source begins. -/
  | begin
  /-- A query takes its next step. -/
  | step (i : Nat)
  deriving DecidableEq

namespace Pool

/-- The pool before any query has begun. -/
def start (c : ClosureCache) (sources : List NodeId) : Pool := { cache := c, waiting := sources }

/-- How many queries have begun but have no answer. -/
def running (p : Pool) : Nat := p.queries.countP (!·.isAnswered)

/-- The pool after a move. Each query that is running takes a worker; there is always one worker at
least. -/
def move (s : Store) (workers : Int) (p : Pool) : Move → Pool
  | .begin =>
    match p.waiting with
    | id :: rest =>
      if (p.running : Int) < max workers 1 then
        { p with queries := p.queries ++ [{ source := id }], waiting := rest }
      else p
    | [] => p
  | .step i =>
    match p.queries[i]? with
    | some q =>
      let (q, cache, new) := q.step s p.cache
      { p with cache, queries := p.queries.set i q, computed := new ++ p.computed }
    | none => p

/-- The pool after a list of moves. -/
def run (s : Store) (workers : Int) (p : Pool) (moves : List Move) : Pool :=
  moves.foldl (move s workers) p

theorem run_append (s : Store) (workers : Int) (p : Pool) (moves more : List Move) :
    p.run s workers (moves ++ more) = (p.run s workers moves).run s workers more :=
  List.foldl_append

/-- Every source has been asked for, and every query has its answer. -/
def Finished (p : Pool) : Prop := p.waiting = [] ∧ ∀ q ∈ p.queries, q.isAnswered = true

instance (p : Pool) : Decidable p.Finished := inferInstanceAs (Decidable (_ ∧ _))

end Pool

/-- A query that is left alone does what a question of the cache does. -/
theorem Query.reaches_reachable (s : Store) (c : ClosureCache) (id : NodeId) :
    let p := Pool.run s 1 ⟨c, [⟨id, .looking⟩], [], []⟩ [.step 0, .step 0, .step 0]
    p.queries = [⟨id, .answered (c.reachable s id).1⟩] ∧ p.cache = (c.reachable s id).2 := by
  cases found : c.find? id with
  | some set => simp [Pool.run, Pool.move, Query.step, ClosureCache.reachable, found]
  | none => simp [Pool.run, Pool.move, Query.step, ClosureCache.reachable, found]

/-! ### What a move can do -/

/-- All that a move can do to a pool. -/
inductive Turn (s : Store) (p : Pool) : Pool → Prop where
  | idle : Turn s p p
  | began {id : NodeId} {rest : List NodeId} (next : p.waiting = id :: rest) :
      Turn s p { p with queries := p.queries ++ [⟨id, .looking⟩], waiting := rest }
  | found {l r : List Query} {id : NodeId} {set : NodeSet}
      (here : p.queries = l ++ ⟨id, .looking⟩ :: r) (cached : p.cache.find? id = some set) :
      Turn s p { p with
        cache := { p.cache with hits := p.cache.hits + 1 }
        queries := l ++ ⟨id, .answered set⟩ :: r }
  | missed {l r : List Query} {id : NodeId} (here : p.queries = l ++ ⟨id, .looking⟩ :: r)
      (absent : p.cache.find? id = none) :
      Turn s p { p with queries := l ++ ⟨id, .computing⟩ :: r }
  | computed {l r : List Query} {id : NodeId} (here : p.queries = l ++ ⟨id, .computing⟩ :: r) :
      Turn s p { p with
        queries := l ++ ⟨id, .inserting (s.reachable id)⟩ :: r
        computed := id :: p.computed }
  | inserted {l r : List Query} {id : NodeId} {set : NodeSet}
      (here : p.queries = l ++ ⟨id, .inserting set⟩ :: r) (absent : p.cache.find? id = none) :
      Turn s p { p with
        cache := p.cache.insert id set
        queries := l ++ ⟨id, .answered set⟩ :: r }
  /-- Another query has inserted the closure meanwhile. -/
  | late {l r : List Query} {id : NodeId} {set earlier : NodeSet}
      (here : p.queries = l ++ ⟨id, .inserting set⟩ :: r)
      (cached : p.cache.find? id = some earlier) :
      Turn s p { p with queries := l ++ ⟨id, .answered earlier⟩ :: r }

/-- A list parts at each of its places. -/
theorem eq_append_cons_of_getElem? {α : Type} {l : List α} {i : Nat} {a : α}
    (there : l[i]? = some a) :
    l = l.take i ++ a :: l.drop (i + 1) ∧ ∀ b, l.set i b = l.take i ++ b :: l.drop (i + 1) := by
  obtain ⟨bound, rfl⟩ := List.getElem?_eq_some_iff.1 there
  refine ⟨?_, fun b => List.set_eq_take_append_cons_drop.trans (if_pos bound)⟩
  rw [List.getElem_cons_drop, List.take_append_drop]

/-- Every move is a turn. -/
theorem turn_move (s : Store) (workers : Int) (p : Pool) (m : Move) :
    Turn s p (p.move s workers m) := by
  cases m with
  | begin =>
    unfold Pool.move
    cases next : p.waiting with
    | nil => exact .idle
    | cons id rest =>
      simp only
      split
      · exact .began next
      · exact .idle
  | step i =>
    cases there : p.queries[i]? with
    | none =>
      simp only [Pool.move, there]
      exact .idle
    | some q =>
      obtain ⟨here, put⟩ := eq_append_cons_of_getElem? there
      simp only [Pool.move, there, put]
      obtain ⟨id, stage⟩ := q
      cases stage with
      | looking =>
        cases look : p.cache.find? id with
        | some set => simpa only [Query.step, look, List.nil_append] using Turn.found here look
        | none => simpa only [Query.step, look, List.nil_append] using Turn.missed here look
      | computing => exact .computed here
      | inserting set =>
        cases look : p.cache.find? id with
        | some earlier => simpa only [Query.step, look, List.nil_append] using Turn.late here look
        | none => simpa only [Query.step, look, List.nil_append] using Turn.inserted here look
      | answered set =>
        simp only [Query.step, List.nil_append, ← here]
        exact .idle

/-- What holds of a pool and is kept by every turn holds after every run. -/
theorem run_induction {P : Pool → Prop} {p : Pool} (start : P p)
    (turn : ∀ p p', P p → Turn s p p' → P p') (workers : Int) (moves : List Move) :
    P (p.run s workers moves) := by
  induction moves generalizing p with
  | nil => exact start
  | cons m moves ih => exact ih (turn p _ start (turn_move s workers p m))

/-! ### Entries and answers -/

variable {p p' : Pool}

theorem find?_insert (absent : c.find? id = none) (set : NodeSet) (x : NodeId) :
    (c.insert id set).find? x = if x = id then some set else c.find? x := by
  have pushed : c.insert id set = { c with sets := (id, set) :: c.sets } := by
    rw [insert, absent]
  rw [pushed]
  exact Relation.lookup_cons_ite

theorem size_insert (absent : c.find? id = none) (set : NodeSet) :
    (c.insert id set).size = c.size + 1 := by
  rw [insert, absent]
  rfl

theorem hits_insert (set : NodeSet) : (c.insert id set).hits = c.hits := by
  unfold insert
  split <;> rfl

/-- No turn changes an entry. -/
theorem Turn.find? (turn : Turn s p p') {set : NodeSet} (cached : p.cache.find? x = some set) :
    p'.cache.find? x = some set := by
  cases turn with
  | found here look => exact cached
  | inserted here absent =>
    have other : x ≠ _ := fun same => by rw [same, absent] at cached; cases cached
    rw [find?_insert absent, if_neg other, cached]
  | _ => exact cached

/-- What a query knows is right: a query that has missed the cache stands for a source that was not
cached at the beginning, and what it has computed is the closure; an answer is an entry. -/
def Query.Sane (s : Store) (c : ClosureCache) (cache : ClosureCache) (q : Query) : Prop :=
  match q.stage with
  | .looking => True
  | .computing => c.find? q.source = none
  | .inserting set => c.find? q.source = none ∧ set = s.reachable q.source
  | .answered set => cache.find? q.source = some set

/-- The pool has come from the cache `c` and the sources. -/
structure Pool.Sane (s : Store) (c : ClosureCache) (sources : List NodeId) (p : Pool) : Prop where
  sources : p.queries.map (·.source) ++ p.waiting = sources
  remembers : p.cache.Remembers s
  keeps : ∀ x set, c.find? x = some set → p.cache.find? x = some set
  origin : ∀ x, (p.cache.find? x).isSome →
    (c.find? x).isSome ∨ ∃ q ∈ p.queries, q.source = x ∧ q.isAnswered = true
  queries : ∀ q ∈ p.queries, q.Sane s c p.cache

/-- An answer stays an entry. -/
theorem Query.Sane.grow {q : Query} {cache cache' : ClosureCache} (sane : q.Sane s c cache)
    (grows : ∀ x set, cache.find? x = some set → cache'.find? x = some set) :
    q.Sane s c cache' := by
  obtain ⟨id, stage⟩ := q
  cases stage with
  | answered set => exact grows _ _ sane
  | _ => exact sane

theorem Pool.sane_start (remembers : c.Remembers s) (sources : List NodeId) :
    (Pool.start c sources).Sane s c sources where
  sources := rfl
  remembers := remembers
  keeps _ _ cached := cached
  origin _ cached := .inl cached
  queries := by simp [Pool.start]

theorem mem_middle {α : Type} {l r : List α} {a : α} : a ∈ l ++ a :: r := by simp

theorem Pool.Sane.query (sane : p.Sane s c sources) {l r : List Query} {q : Query}
    (here : p.queries = l ++ q :: r) : q.Sane s c p.cache :=
  sane.queries q (here ▸ mem_middle)

/-- A query that has no answer yet takes a step. -/
theorem Pool.Sane.replace (sane : p.Sane s c sources) {l r : List Query} {q q' : Query}
    {cache : ClosureCache} {computed : List NodeId} (here : p.queries = l ++ q :: r)
    (unanswered : q.isAnswered = false) (source : q'.source = q.source)
    (remembers : cache.Remembers s)
    (grows : ∀ x set, p.cache.find? x = some set → cache.find? x = some set)
    (new : ∀ x, (cache.find? x).isSome →
      (p.cache.find? x).isSome ∨ x = q.source ∧ q'.isAnswered = true)
    (known : q'.Sane s c cache) :
    Pool.Sane s c sources { p with cache, queries := l ++ q' :: r, computed } where
  sources := by
    have before := sane.sources
    rw [here] at before
    simpa [source] using before
  remembers := remembers
  keeps x set cached := grows x set (sane.keeps x set cached)
  origin x cached := by
    rcases new x cached with old | ⟨rfl, answered⟩
    · rcases sane.origin x old with first | ⟨a, there, same, answered⟩
      · exact .inl first
      · -- The query that stepped had no answer, so this one is another.
        rw [here, List.mem_append, List.mem_cons] at there
        rcases there with left | rfl | right
        · exact .inr ⟨a, by simp [left], same, answered⟩
        · rw [unanswered] at answered
          cases answered
        · exact .inr ⟨a, by simp [right], same, answered⟩
    · exact .inr ⟨q', mem_middle, source, answered⟩
  queries a there := by
    rcases List.mem_append.1 there with left | there
    · exact (sane.queries a (here ▸ by simp [left])).grow grows
    · rcases List.mem_cons.1 there with rfl | right
      · exact known
      · exact (sane.queries a (here ▸ by simp [right])).grow grows

/-- A turn keeps a pool sane. -/
theorem Pool.Sane.turn (sane : p.Sane s c sources) (turn : Turn s p p') : p'.Sane s c sources := by
  have stays : ∀ x set, p.cache.find? x = some set → p.cache.find? x = some set := fun _ _ => id
  cases turn with
  | idle => exact sane
  | began next =>
    refine ⟨?_, sane.remembers, sane.keeps, fun x cached => ?_, fun q there => ?_⟩
    · simpa [next] using sane.sources
    · exact (sane.origin x cached).imp_right fun ⟨q, there, known⟩ =>
        ⟨q, List.mem_append_left _ there, known⟩
    · rcases List.mem_append.1 there with old | new
      · exact sane.queries q old
      · obtain rfl := List.mem_singleton.1 new
        trivial
  | found here cached =>
    exact sane.replace here rfl rfl sane.remembers stays (fun _ => .inl) cached
  | missed here absent =>
    refine sane.replace here rfl rfl sane.remembers stays (fun _ => .inl) ?_
    cases first : c.find? _ with
    | none => exact first
    | some set =>
      rw [sane.keeps _ set first] at absent
      cases absent
  | computed here =>
    have known : c.find? _ = none := sane.query here
    exact sane.replace here rfl rfl sane.remembers stays (fun _ => .inl) ⟨known, rfl⟩
  | @inserted l r id set here absent =>
    have right : set = s.reachable id := (sane.query here).2
    subst right
    refine sane.replace here rfl rfl (sane.remembers.insert id) ?_ (fun x cached => ?_) ?_
    · exact fun x set cached => (Turn.inserted (s := s) here absent).find? cached
    · rw [find?_insert absent] at cached
      split at cached
      · exact .inr ⟨‹_›, rfl⟩
      · exact .inl cached
    · exact (find?_insert absent _ id).trans (if_pos rfl)
  | late here cached =>
    exact sane.replace here rfl rfl sane.remembers stays (fun _ => .inl) cached

/-! ### What is computed and what is found -/

/-- The query has computed its closure, and no other query of its source has. -/
def Query.hasComputed (c : ClosureCache) (q : Query) : Bool :=
  match q.stage with
  | .inserting _ => true
  | .answered _ => (c.find? q.source).isNone
  | _ => false

/-- The counts of the cache, and the closures computed: queries of sources that were cached at the
beginning are hits, and each of the others adds what it has computed. -/
structure Pool.Tally (c : ClosureCache) (p : Pool) : Prop where
  hits : p.cache.hits =
    c.hits + p.queries.countP fun q => q.isAnswered && (c.find? q.source).isSome
  size : p.cache.size =
    c.size + p.queries.countP fun q => q.isAnswered && (c.find? q.source).isNone
  computed : p.computed.Perm ((p.queries.filter (·.hasComputed c)).map (·.source))

theorem Pool.tally_start (c : ClosureCache) (sources : List NodeId) :
    (Pool.start c sources).Tally c where
  hits := rfl
  size := rfl
  computed := .nil

/-- Where the sources are distinct, a source without an answer is cached only if it was cached at
the beginning. -/
theorem Pool.Sane.find?_eq_none (sane : p.Sane s c sources) (distinct : sources.Nodup)
    {l r : List Query} {q : Query} (here : p.queries = l ++ q :: r)
    (unanswered : q.isAnswered = false) (first : c.find? q.source = none) :
    p.cache.find? q.source = none := by
  cases cached : p.cache.find? q.source with
  | none => rfl
  | some set =>
    obtain first' | ⟨a, there, same, answered⟩ := sane.origin q.source (by rw [cached]; rfl)
    · rw [first] at first'
      cases first'
    · have once : ((l ++ q :: r).map (·.source)).Nodup :=
        here ▸ (List.nodup_append.1 (sane.sources ▸ distinct)).1
      simp only [List.map_append, List.map_cons, List.nodup_append, List.nodup_cons] at once
      obtain ⟨-, ⟨notLater, -⟩, apart⟩ := once
      rw [here, List.mem_append, List.mem_cons] at there
      rcases there with left | rfl | right
      · exact absurd same (apart _ (List.mem_map_of_mem left) _ (by simp))
      · rw [unanswered] at answered
        cases answered
      · exact absurd (same ▸ List.mem_map_of_mem right) notLater

/-- A query that has no answer yet takes a step and adds what the step finds and computes. -/
theorem Pool.Tally.replace (tally : p.Tally c) {l r : List Query} {q q' : Query}
    {cache : ClosureCache} (new : List NodeId) (here : p.queries = l ++ q :: r)
    (unanswered : q.isAnswered = false) (source : q'.source = q.source)
    (hits : cache.hits =
      p.cache.hits + if q'.isAnswered && (c.find? q.source).isSome then 1 else 0)
    (size : cache.size =
      p.cache.size + if q'.isAnswered && (c.find? q.source).isNone then 1 else 0)
    (computed : (if q'.hasComputed c then [q.source] else []) =
      new ++ if q.hasComputed c then [q.source] else []) :
    Pool.Tally c { p with cache, queries := l ++ q' :: r, computed := new ++ p.computed } where
  hits := by
    rw [hits, tally.hits, here]
    simp only [List.countP_append, List.countP_cons, unanswered, source, Bool.false_and]
    simp only [Bool.false_eq_true, if_false]
    omega
  size := by
    rw [size, tally.size, here]
    simp only [List.countP_append, List.countP_cons, unanswered, source, Bool.false_and]
    simp only [Bool.false_eq_true, if_false]
    omega
  computed := by
    have filtered (a : Query) : ((l ++ a :: r).filter (·.hasComputed c)).map (·.source) =
        (l.filter (·.hasComputed c)).map (·.source) ++
          ((if a.hasComputed c then [a.source] else []) ++
            (r.filter (·.hasComputed c)).map (·.source)) := by
      cases done : a.hasComputed c <;> simp [done]
    have before := tally.computed
    rw [here, filtered] at before
    rw [filtered, source, computed, List.append_assoc]
    exact (before.append_left new).trans (List.perm_append_comm_assoc _ _ _)

/-- A turn keeps the tally, if the sources are distinct. -/
theorem Pool.Tally.turn (tally : p.Tally c) (sane : p.Sane s c sources) (distinct : sources.Nodup)
    (turn : Turn s p p') : p'.Tally c := by
  have first {l r : List Query} {q : Query} {set : NodeSet} (here : p.queries = l ++ q :: r)
      (unanswered : q.isAnswered = false) (cached : p.cache.find? q.source = some set) :
      (c.find? q.source).isSome := by
    cases known : c.find? q.source with
    | some => rfl
    | none =>
      rw [sane.find?_eq_none distinct here unanswered known] at cached
      cases cached
  cases turn with
  | idle => exact tally
  | began next =>
    refine ⟨?_, ?_, ?_⟩
    · simpa [Query.isAnswered] using tally.hits
    · simpa [Query.isAnswered] using tally.size
    · simpa [Query.hasComputed] using tally.computed
  | found here cached =>
    have known := first here rfl cached
    have old := Option.isNone_eq_false_iff.2 known
    refine tally.replace [] here rfl rfl ?_ ?_ ?_
    · simp [Query.isAnswered, known]
    · simp [Query.isAnswered, old, ClosureCache.size]
    · simp [Query.hasComputed, old]
  | missed here absent => exact tally.replace [] here rfl rfl rfl rfl rfl
  | computed here => exact tally.replace [_] here rfl rfl rfl rfl rfl
  | inserted here absent =>
    have known : c.find? _ = none := (sane.query here).1
    refine tally.replace [] here rfl rfl ?_ ?_ ?_
    · simp [Query.isAnswered, known, hits_insert]
    · simp [Query.isAnswered, known, size_insert absent]
    · simp [Query.hasComputed, known]
  | late here cached =>
    have known := first here rfl cached
    rw [(sane.query here).1] at known
    cases known

/-! ### Runs -/

theorem Pool.sane_run (remembers : c.Remembers s) (sources : List NodeId) (workers : Int)
    (moves : List Move) : ((Pool.start c sources).run s workers moves).Sane s c sources :=
  run_induction (Pool.sane_start remembers sources) (fun _ _ sane turn => sane.turn turn) workers
    moves

theorem Pool.tally_run (remembers : c.Remembers s) (distinct : sources.Nodup) (workers : Int)
    (moves : List Move) : ((Pool.start c sources).run s workers moves).Tally c := by
  exact (run_induction (P := fun p => p.Sane s c sources ∧ p.Tally c)
    ⟨Pool.sane_start remembers sources, Pool.tally_start c sources⟩
    (fun _ _ holds turn => ⟨holds.1.turn turn, holds.2.turn holds.1 distinct turn⟩) workers moves).2

/-- An entry that is there stays as it is. -/
theorem find?_run {set : NodeSet} (cached : p.cache.find? x = some set) (workers : Int)
    (moves : List Move) : (p.run s workers moves).cache.find? x = some set :=
  run_induction (P := fun p => p.cache.find? x = some set) cached
    (fun _ _ cached turn => turn.find? cached) workers moves

/-- Every answer is the closure of its source. -/
theorem Pool.Sane.answer (sane : p.Sane s c sources) {q : Query} {set : NodeSet}
    (there : q ∈ p.queries) (answered : q.stage = .answered set) : set = s.reachable q.source := by
  have known := sane.queries q there
  rw [Query.Sane, answered] at known
  exact sane.remembers _ _ known

/-- When all is done, the cache has the closures it had and those of the sources. -/
theorem Pool.Sane.find?_of_finished (sane : p.Sane s c sources) (finished : p.Finished)
    (x : NodeId) : p.cache.find? x =
      if (c.find? x).isSome ∨ x ∈ sources then some (s.reachable x) else none := by
  have asked : p.queries.map (·.source) = sources := by
    simpa [finished.1] using sane.sources
  have closure {set : NodeSet} (cached : p.cache.find? x = some set) :
      p.cache.find? x = some (s.reachable x) := by
    rw [cached, sane.remembers x set cached]
  split
  case isTrue known =>
    rcases known with first | source
    · obtain ⟨set, first⟩ := Option.isSome_iff_exists.1 first
      exact closure (sane.keeps x set first)
    · rw [← asked, List.mem_map] at source
      obtain ⟨⟨id, stage⟩, there, rfl⟩ := source
      have known := sane.queries _ there
      cases stage with
      | answered set => exact closure known
      | _ => cases finished.2 _ there
  case isFalse unknown =>
    cases cached : p.cache.find? x with
    | none => rfl
    | some set =>
      obtain first | ⟨q, there, rfl, -⟩ := sane.origin x (by rw [cached]; rfl)
      · exact absurd (Or.inl first) unknown
      · exact absurd (Or.inr (asked ▸ List.mem_map_of_mem there)) unknown

/-- When all is done, the queries of distinct sources have been hits or have computed, according to
what was cached at the beginning. -/
theorem Pool.Tally.of_finished (tally : p.Tally c) (sane : p.Sane s c sources)
    (finished : p.Finished) :
    p.cache.hits = c.hits + sources.countP (fun x => (c.find? x).isSome) ∧
      p.cache.size = c.size + sources.countP (fun x => (c.find? x).isNone) ∧
      p.computed.Perm (sources.filter fun x => (c.find? x).isNone) := by
  have asked : p.queries.map (·.source) = sources := by
    simpa [finished.1] using sane.sources
  have ended : ∀ q ∈ p.queries, q.hasComputed c = (c.find? q.source).isNone := by
    rintro ⟨id, stage⟩ there
    cases stage with
    | answered set => rfl
    | _ => cases finished.2 _ there
  subst asked
  refine ⟨?_, ?_, ?_⟩
  · rw [tally.hits, List.countP_map]
    exact congrArg (c.hits + ·) (List.countP_congr fun q there => by simp [finished.2 q there])
  · rw [tally.size, List.countP_map]
    exact congrArg (c.size + ·) (List.countP_congr fun q there => by simp [finished.2 q there])
  · rw [List.filter_map]
    exact List.filter_congr ended ▸ tally.computed

/-! ### Every run can be completed -/

/-- How many steps a query still takes. -/
def Query.rest (q : Query) : Nat :=
  match q.stage with
  | .looking => 3
  | .computing => 2
  | .inserting _ => 1
  | .answered _ => 0

namespace Pool

/-- How many moves a pool still takes at most. -/
def rest (p : Pool) : Nat := (p.queries.map (·.rest)).sum + 4 * p.waiting.length

/-- A move that brings a pool nearer to its end: a step of a query that has no answer, or else the
next query. -/
def next (p : Pool) : Move :=
  match p.queries.findIdx? (!·.isAnswered) with
  | some i => .step i
  | none => .begin

/-- Moves that bring a pool to its end, if there are enough. -/
def completion (s : Store) (workers : Int) (p : Pool) : Nat → List Move
  | 0 => []
  | n + 1 => p.next :: completion s workers (p.move s workers p.next) n

theorem Query.rest_step (s : Store) (c : ClosureCache) {q : Query}
    (unanswered : q.isAnswered = false) : (q.step s c).1.rest < q.rest := by
  obtain ⟨id, stage⟩ := q
  cases stage with
  | looking => cases look : c.find? id <;> simp [Query.step, look, Query.rest]
  | computing => simp [Query.step, Query.rest]
  | inserting set => cases look : c.find? id <;> simp [Query.step, look, Query.rest]
  | answered set => cases unanswered

/-- There is always a worker for the next query, if no query is running. -/
theorem rest_move_next (s : Store) (workers : Int) {p : Pool} (unfinished : ¬ p.Finished) :
    (p.move s workers p.next).rest < p.rest := by
  unfold next
  cases first : p.queries.findIdx? (!·.isAnswered) with
  | some i =>
    obtain ⟨bound, unanswered, -⟩ := List.findIdx?_eq_some_iff_getElem.1 first
    have there := List.getElem?_eq_getElem bound
    obtain ⟨here, put⟩ := eq_append_cons_of_getElem? there
    have less := Query.rest_step s p.cache (Bool.not_eq_true' _ ▸ unanswered)
    have before := congrArg (fun l => (l.map (·.rest)).sum) here
    simp only [List.map_append, List.map_cons, List.sum_append, List.sum_cons] at before
    simp only [move, there, put, rest, before]
    simp only [List.map_append, List.map_cons, List.sum_append, List.sum_cons]
    omega
  | none =>
    have answered : ∀ q ∈ p.queries, q.isAnswered = true := by
      simpa using List.findIdx?_eq_none_iff.1 first
    have idle : p.running = 0 := List.countP_eq_zero.2 (by simpa using answered)
    cases waiting : p.waiting with
    | nil => exact absurd ⟨waiting, answered⟩ unfinished
    | cons id rest =>
      have free : (p.running : Int) < max workers 1 := by omega
      simp only [move, waiting, if_pos free, Pool.rest]
      simp [Query.rest]
      omega

/-- Where all is done, nothing more happens. -/
theorem Finished.run_eq {p : Pool} (finished : p.Finished) (s : Store) (workers : Int)
    (moves : List Move) : p.run s workers moves = p := by
  have unanswered {l r : List Query} {q : Query} (here : p.queries = l ++ q :: r) :
      q.isAnswered = true := finished.2 q (here ▸ mem_middle)
  refine run_induction (P := (· = p)) rfl (fun q q' same turn => ?_) workers moves
  subst same
  cases turn with
  | idle => rfl
  | began next => cases finished.1.symm.trans next
  | found here | missed here | computed here | inserted here | late here => cases unanswered here

/-- Every pool can be brought to its end. -/
theorem finished_completion (s : Store) (workers : Int) {p : Pool} {n : Nat} (enough : p.rest ≤ n) :
    (p.run s workers (p.completion s workers n)).Finished := by
  induction n generalizing p with
  | zero =>
    apply Decidable.byContradiction
    intro unfinished
    have less : _ < p.rest := rest_move_next s workers unfinished
    omega
  | succ n ih =>
    by_cases finished : p.Finished
    · rw [finished.run_eq]
      exact finished
    · have less := rest_move_next s workers finished
      exact ih (p := p.move s workers p.next) (by omega)

end Pool

end ClosureCache

end WidgetFlow
