import WidgetFlow.Proofs.Graph.Flow
import WidgetFlow.Proofs.Graph.Replies

/-!
# A store that clients share

Clients may call a store at the same time. A call for the node of an entity first looks the entity up
under a lock that other readers may hold too; only if it finds nothing does it take the lock that
excludes all others, and then it looks again before it makes a node. The node of the null value, and
everything else, is asked for in one locked step. A `Shared` store has the calls that are under way,
and a `Move` is a new call or the next step of one call. Between two steps of a call any number of
other moves may happen, so a list of moves is any interleaving of the calls of any number of clients.

Every step of a call is one of two turns (`Turn`): it misses and leaves the store alone, or it returns
and serves the request at that moment, all at once. So each run is one in which the requests are
served one after the other, in the order in which the calls return (`exists_serial`), and what holds
of requests that come one by one holds of calls that overlap (`shared_interning`).
-/

namespace WidgetFlow

/-- What a request looks up before it takes the lock that excludes all others. -/
def StoreRequest.sought? (q : StoreRequest) : Option Entity := q.entity?.filter (· ≠ .null)

theorem StoreRequest.entity?_of_sought? {q : StoreRequest} {e : Entity}
    (sought : q.sought? = some e) : q.entity? = some e :=
  (Option.filter_eq_some_iff.1 sought).1

namespace Store

/-! ### Calls -/

/-- How far a call has come. -/
inductive Call.Stage where
  | made
  /-- It has looked for the node of an entity, in vain. -/
  | missed (e : Entity)
  | returned (outcome : Except Fault Reply)

/-- A client's call of the store. -/
structure Call where
  request : StoreRequest
  stage : Call.Stage := .made

/-- The next step of a call on the store: the call after it, and the store after it. -/
def Call.step (s : Store) (c : Call) : Call × Store :=
  match c.stage with
  | .made =>
    match c.request.sought? with
    | some e =>
      match s.lookup? e.key with
      | some id => (⟨c.request, .returned (.ok (.node id))⟩, s)
      | none => (⟨c.request, .missed e⟩, s)
    | none => (⟨c.request, .returned (s.outcome c.request)⟩, s.serve c.request)
  | .missed e =>
    -- The entity is looked up again: another call may have named it meanwhile.
    let (id, s) := s.internEntity e
    (⟨c.request, .returned (.ok (.node id))⟩, s)
  | .returned _ => (c, s)

/-- The call asks for the node of the reference, and has returned the node. -/
def Call.Gets (c : Call) (r : Ref) (id : NodeId) : Prop :=
  c.request.ref? = some r ∧ c.stage = .returned (.ok (.node id))

/-- A store with the calls made so far, oldest first. A call keeps its place. -/
structure Shared where
  store : Store
  calls : List Call := []

/-- What may happen next to a shared store. -/
inductive Shared.Move where
  | call (q : StoreRequest)
  /-- A call takes its next step. -/
  | step (i : Nat)
  deriving DecidableEq

namespace Shared

/-- The shared store after a move; a call that has returned takes no more steps. -/
def move (x : Shared) : Move → Shared
  | .call q => { x with calls := x.calls ++ [{ request := q }] }
  | .step i =>
    match x.calls[i]? with
    | some c => ⟨(c.step x.store).2, x.calls.set i (c.step x.store).1⟩
    | none => x

/-- The shared store after a list of moves. -/
def run (x : Shared) (moves : List Move) : Shared := moves.foldl move x

end Shared

/-- A call that is left alone does what the request does. -/
theorem Call.reaches_serve (s : Store) (q : StoreRequest) :
    Shared.run ⟨s, []⟩ [.call q, .step 0, .step 0] =
      ⟨s.serve q, [⟨q, .returned (s.outcome q)⟩]⟩ := by
  cases sought : q.sought? with
  | none => simp [Shared.run, Shared.move, step, sought]
  | some e =>
    have asks := StoreRequest.entity?_of_sought? sought
    rw [serve_of_entity? asks, outcome_of_entity? asks]
    cases known : s.lookup? e.key with
    | some id => simp [Shared.run, Shared.move, step, sought, known, internEntity]
    | none => simp [Shared.run, Shared.move, step, sought, known, internEntity]

/-! ### Turns -/

/-- What a step of a call can do to the store and to the stage of the call. -/
inductive Turn (s : Store) (q : StoreRequest) : Call.Stage → Store → Call.Stage → Prop where
  | missed {e : Entity} (asks : q.entity? = some e) (absent : s.lookup? e.key = none) :
      Turn s q .made s (.missed e)
  | returned {stage : Call.Stage} (running : ∀ a, stage ≠ .returned a) :
      Turn s q stage (s.serve q) (.returned (s.outcome q))

/-- A call that has missed looks for the node that its request asks for. -/
def Call.Sound (c : Call) : Prop := ∀ e, c.stage = .missed e → c.request.entity? = some e

theorem Turn.sound {s s' : Store} {q : StoreRequest} {stage stage' : Call.Stage}
    (turn : Turn s q stage s' stage') : Call.Sound ⟨q, stage'⟩ := by
  intro e missed
  cases turn with
  | missed asks => cases missed; exact asks
  | returned => cases missed

/-- A step of a call that has not returned is a turn. -/
theorem Call.turn_step {c : Call} (sound : c.Sound) (s : Store)
    (running : ∀ a, c.stage ≠ .returned a) :
    (c.step s).1.request = c.request ∧ Turn s c.request c.stage (c.step s).2 (c.step s).1.stage := by
  obtain ⟨q, stage⟩ := c
  cases stage with
  | returned a => exact absurd rfl (running a)
  | missed e =>
    have asks : q.entity? = some e := sound e rfl
    have turn := Turn.returned (s := s) (q := q) running
    rw [serve_of_entity? asks, outcome_of_entity? asks] at turn
    exact ⟨rfl, turn⟩
  | made =>
    have turn := Turn.returned (s := s) (q := q) running
    simp only [step]
    split
    case h_2 => exact ⟨rfl, turn⟩
    case h_1 e sought =>
      have asks := StoreRequest.entity?_of_sought? sought
      split
      case h_1 id known =>
        rw [serve_of_entity? asks, outcome_of_entity? asks, internEntity, known] at turn
        exact ⟨rfl, turn⟩
      case h_2 absent => exact ⟨rfl, .missed asks absent⟩

/-! ### One after the other -/

/-- A call that has returned, by its place among the calls. -/
structure Return where
  call : Nat
  request : StoreRequest
  outcome : Except Fault Reply

/-- Served one after the other from the store `s`, the requests have these outcomes and lead to the
last store. -/
inductive Serial (s : Store) : List Return → Store → Prop where
  | nil : Serial s [] s
  | snoc {history : List Return} {t : Store} (before : Serial s history t) (i : Nat)
      (q : StoreRequest) : Serial s (history ++ [⟨i, q, t.outcome q⟩]) (t.serve q)

variable {s t : Store} {history : List Return}

theorem Serial.eq_run (serial : Serial s history t) : t = s.run (history.map (·.request)) := by
  induction serial with
  | nil => rfl
  | snoc before i q ih => rw [List.map_append, run_append, ← ih]; rfl

/-- What has returned was served on the store that the earlier ones had led to. -/
theorem Serial.split {r : Return} {earlier later : List Return}
    (serial : Serial s (earlier ++ r :: later) t) :
    r.outcome = (s.run (earlier.map (·.request))).outcome r.request := by
  generalize whole : earlier ++ r :: later = history at serial
  induction serial generalizing later with
  | nil => simp at whole
  | @snoc before t serial i q ih =>
    rcases List.eq_nil_or_concat later with rfl | ⟨later, last, rfl⟩
    · obtain ⟨rfl, same⟩ := List.append_inj' whole rfl
      rw [← serial.eq_run, List.singleton_inj.1 same]
    · rw [List.concat_eq_append, ← List.cons_append, ← List.append_assoc] at whole
      exact ih (List.append_inj' whole rfl).1

/-- The calls could have come about one after the other, in the order of the history: it has each call
that has returned once, with its outcome. -/
structure Serialised (s : Store) (history : List Return) (x : Shared) : Prop where
  serial : Serial s history x.store
  once : (history.map (·.call)).Nodup
  returns : ∀ i q a, ⟨i, q, a⟩ ∈ history ↔ x.calls[i]? = some ⟨q, .returned a⟩
  sound : ∀ c ∈ x.calls, c.Sound

theorem Serialised.start (s : Store) : Serialised s [] ⟨s, []⟩ where
  serial := .nil
  once := List.nodup_nil
  returns := by simp
  sound := by simp

variable {x : Shared}

/-- A call that takes a step without returning does not show in the history. -/
theorem Serialised.advance (ok : Serialised s history x) {i : Nat} {c c' : Call}
    (here : x.calls[i]? = some c) (running : ∀ a, c.stage ≠ .returned a)
    (running' : ∀ a, c'.stage ≠ .returned a) (sound : c'.Sound) :
    Serialised s history ⟨x.store, x.calls.set i c'⟩ where
  serial := ok.serial
  once := ok.once
  returns j q a := by
    rw [ok.returns, List.getElem?_set]
    split
    case isFalse => rfl
    case isTrue same =>
      subst same
      have before : x.calls[i]? ≠ some ⟨q, .returned a⟩ := by
        rw [here]
        exact fun equal => running a (congrArg Call.stage (Option.some.inj equal))
      refine iff_of_false before ?_
      split
      · exact fun equal => running' a (congrArg Call.stage (Option.some.inj equal))
      · simp
  sound c there := by
    rcases List.mem_or_eq_of_mem_set there with old | rfl
    · exact ok.sound c old
    · exact sound

/-- A call that returns goes to the end of the history. -/
theorem Serialised.return (ok : Serialised s history x) {i : Nat} {c : Call}
    (here : x.calls[i]? = some c) (running : ∀ a, c.stage ≠ .returned a) :
    Serialised s (history ++ [⟨i, c.request, x.store.outcome c.request⟩])
      ⟨x.store.serve c.request,
        x.calls.set i ⟨c.request, .returned (x.store.outcome c.request)⟩⟩ where
  serial := ok.serial.snoc i c.request
  once := by
    rw [List.map_append, List.nodup_append]
    refine ⟨ok.once, by simp, fun j old k new same => ?_⟩
    obtain ⟨⟨_, q, a⟩, there, rfl⟩ := List.mem_map.1 old
    obtain rfl : k = i := by simpa using new
    obtain rfl := same
    have returned := (ok.returns _ q a).1 there
    rw [here] at returned
    exact running a (congrArg Call.stage (Option.some.inj returned))
  returns j q a := by
    obtain ⟨bound, -⟩ := List.getElem?_eq_some_iff.1 here
    rw [List.mem_append, ok.returns, List.mem_singleton, List.getElem?_set]
    split
    case isFalse other =>
      have apart : (⟨j, q, a⟩ : Return) ≠ ⟨i, c.request, x.store.outcome c.request⟩ :=
        fun equal => other (congrArg Return.call equal).symm
      simp [apart]
    case isTrue same =>
      subst same
      have before : x.calls[i]? ≠ some ⟨q, .returned a⟩ := by
        rw [here]
        exact fun equal => running a (congrArg Call.stage (Option.some.inj equal))
      rw [or_iff_right before, Option.some.injEq, Return.mk.injEq, Call.mk.injEq,
        Call.Stage.returned.injEq, eq_self, true_and, eq_comm, @eq_comm _ a]
  sound c' there := by
    rcases List.mem_or_eq_of_mem_set there with old | rfl
    · exact ok.sound c' old
    · intro e missed
      cases missed

/-- A call that has just been made does not show in the history either. -/
theorem Serialised.call (ok : Serialised s history x) (q : StoreRequest) :
    Serialised s history { x with calls := x.calls ++ [{ request := q }] } where
  serial := ok.serial
  once := ok.once
  returns i q' a := by
    rw [ok.returns, List.getElem?_append]
    split
    case isTrue => rfl
    case isFalse beyond =>
      rw [List.getElem?_eq_none (Nat.le_of_not_lt beyond)]
      cases i - x.calls.length <;> simp
  sound c there := by
    rcases List.mem_append.1 there with old | new
    · exact ok.sound c old
    · obtain rfl := List.mem_singleton.1 new
      intro e missed
      cases missed

/-- A step of a call adds its return to the history, or nothing. -/
theorem Serialised.step (ok : Serialised s history x) {i : Nat} {c : Call}
    (here : x.calls[i]? = some c) : ∃ more, Serialised s (history ++ more)
      ⟨(c.step x.store).2, x.calls.set i (c.step x.store).1⟩ := by
  by_cases running : ∀ a, c.stage ≠ .returned a
  · obtain ⟨request, turn⟩ :=
      Call.turn_step (ok.sound c (List.mem_of_getElem? here)) x.store running
    generalize c.step x.store = after at request turn ⊢
    obtain ⟨⟨q, stage'⟩, s'⟩ := after
    obtain rfl : q = c.request := request
    have sound := turn.sound
    generalize c.stage = stage at turn
    cases turn with
    | missed asks absent =>
      refine ⟨[], ?_⟩
      rw [List.append_nil]
      exact ok.advance here running (by simp) sound
    | returned => exact ⟨_, ok.return here running⟩
  · obtain ⟨a, returned⟩ : ∃ a, c.stage = .returned a := by simpa using running
    have idle : c.step x.store = (c, x.store) := by simp only [Call.step, returned]
    refine ⟨[], ?_⟩
    obtain ⟨bound, rfl⟩ := List.getElem?_eq_some_iff.1 here
    rw [idle, List.append_nil, List.set_getElem_self]
    exact ok

/-- A move keeps the calls in an order. -/
theorem Serialised.move (ok : Serialised s history x) (m : Shared.Move) :
    ∃ more, Serialised s (history ++ more) (x.move m) := by
  cases m with
  | call q => exact ⟨[], by simpa only [Shared.move, List.append_nil] using ok.call q⟩
  | step i =>
    cases here : x.calls[i]? with
    | none => exact ⟨[], by simpa only [Shared.move, here, List.append_nil] using ok⟩
    | some c => simpa only [Shared.move, here] using ok.step here

theorem Serialised.run (ok : Serialised s history x) (moves : List Shared.Move) :
    ∃ more, Serialised s (history ++ more) (x.run moves) := by
  induction moves generalizing history x with
  | nil => exact ⟨[], (List.append_nil history).symm ▸ ok⟩
  | cons m moves ih =>
    obtain ⟨first, ok⟩ := ok.move m
    obtain ⟨later, ok⟩ := ih ok
    rw [List.append_assoc] at ok
    exact ⟨first ++ later, ok⟩

/-- Whatever the calls do, they could have come one after the other. -/
theorem exists_serial (s : Store) (moves : List Shared.Move) :
    ∃ history, Serialised s history (Shared.run ⟨s, []⟩ moves) := by
  obtain ⟨history, ok⟩ := (Serialised.start s).run moves
  exact ⟨history, ok⟩

/-- A call that has returned was served at one moment, on the store as it was then. -/
theorem Serialised.served (ok : Serialised s history x) {i : Nat} {q : StoreRequest}
    {a : Except Fault Reply} (here : x.calls[i]? = some ⟨q, .returned a⟩) :
    ∃ earlier later, x.store = s.run (earlier ++ q :: later) ∧ a = (s.run earlier).outcome q := by
  obtain ⟨before, after, split⟩ := List.append_of_mem ((ok.returns i q a).2 here)
  have serial := ok.serial
  rw [split] at serial
  have answer : a = (s.run (before.map (·.request))).outcome q := serial.split
  refine ⟨_, after.map Return.request, ?_, answer⟩
  rw [serial.eq_run, List.map_append, List.map_cons]

/-- The node that a call has got for a reference is the node of its key ever after. -/
theorem Serialised.lookup? (ok : Serialised s history x) {c : Call} (there : c ∈ x.calls) {r : Ref}
    {id : NodeId} (gets : c.Gets r id) :
    ∃ e, r.entity? = some e ∧ x.store.lookup? e.key = some id := by
  obtain ⟨q, stage⟩ := c
  obtain ⟨asks, rfl⟩ : q.ref? = some r ∧ stage = .returned (.ok (.node id)) := gets
  obtain ⟨i, here⟩ := List.mem_iff_getElem?.1 there
  obtain ⟨earlier, later, store, answer⟩ := ok.served here
  obtain ⟨e, named, rfl⟩ := (outcome_eq_node_iff asks).1 answer.symm
  have asks : q.entity? = some e := Option.bind_eq_some_iff.2 ⟨r, asks, named⟩
  refine ⟨e, named, ?_⟩
  rw [store, run_append, run_cons, serve_of_entity? asks]
  exact run_recalls _ later _ _ (lookup?_internEntity _ e)

/-- Of a store that was empty at first, each entity was asked for by a call that has got its node. -/
theorem Serialised.exists_gets (ok : Serialised empty history x) {id : NodeId} {e : Entity}
    (there : x.store.node? id = some ⟨id, .entity e⟩) :
    ∃ c ∈ x.calls, ∃ r, c.Gets r id ∧ r.entity? = some e := by
  rw [ok.serial.eq_run] at there
  rcases entity_run there with before | ⟨earlier, q, later, r, split, call, named, -⟩
  · simp [node?, entry?, empty] at before
  · obtain ⟨before, rest, whole, rfl, tail⟩ := List.map_eq_append_iff.1 split
    obtain ⟨⟨i, _, a⟩, after, rfl, rfl, -⟩ := List.map_eq_cons_iff.1 tail
    have serial := ok.serial
    rw [whole] at serial
    obtain rfl := serial.split.trans call.outcome
    have here := (ok.returns i _ _).1 (whole ▸ List.mem_append_right before List.mem_cons_self)
    exact ⟨_, List.mem_of_getElem? here, r, ⟨call.ref?, rfl⟩, named⟩

/-- A key has a node exactly if a call has got it. -/
theorem Serialised.isSome_lookup?_iff (ok : Serialised empty history x) (named : x.store.Named)
    (k : Entity.Key) : (x.store.lookup? k).isSome ↔
      ∃ c ∈ x.calls, ∃ r id e, c.Gets r id ∧ r.entity? = some e ∧ e.key = k := by
  constructor
  · intro known
    obtain ⟨id, known⟩ := Option.isSome_iff_exists.1 known
    obtain ⟨e, there, key⟩ := (named k id).1 known
    obtain ⟨c, called, r, gets, entity⟩ := ok.exists_gets there
    exact ⟨c, called, r, id, e, gets, entity, key⟩
  · rintro ⟨c, called, r, id, e, gets, entity, rfl⟩
    obtain ⟨e', entity', known⟩ := ok.lookup? called gets
    obtain rfl := Option.some.inj (entity.symm.trans entity')
    exact Option.isSome_iff_exists.2 ⟨id, known⟩

/-! ### Every call comes to its end -/

/-- How many steps of a call are left at most. -/
def Call.Stage.left : Call.Stage → Nat
  | .made => 2
  | .missed _ => 1
  | .returned _ => 0

theorem Call.Stage.left_le (stage : Call.Stage) : stage.left ≤ 2 := by
  cases stage <;> simp [left]

theorem Call.Stage.returned_of_left {stage : Call.Stage} (ended : stage.left = 0) :
    ∃ a, stage = .returned a := by
  cases stage with
  | returned a => exact ⟨a, rfl⟩
  | made => cases ended
  | missed e => cases ended

theorem Call.request_step (s : Store) (c : Call) : (c.step s).1.request = c.request := by
  unfold step
  split
  · split
    · split <;> rfl
    · rfl
  · rfl
  · rfl

theorem Call.left_step (s : Store) (c : Call) :
    (c.step s).1.stage.left ≤ c.stage.left - 1 := by
  unfold step
  split
  case h_1 stage =>
    rw [stage]
    split
    · split
      · exact Nat.zero_le _
      · exact Nat.le_refl _
    · exact Nat.zero_le _
  case h_2 => exact Nat.zero_le _
  case h_3 a stage => simp [stage, Stage.left]

/-- A move brings a call forward if it is a step of this call, and never back. -/
theorem Shared.left_move (x : Shared) {i : Nat} {c : Call} (here : x.calls[i]? = some c)
    (m : Move) : ∃ c', (x.move m).calls[i]? = some c' ∧ c'.request = c.request ∧
      c'.stage.left ≤ c.stage.left - if m = .step i then 1 else 0 := by
  obtain ⟨bound, -⟩ := List.getElem?_eq_some_iff.1 here
  cases m with
  | call q => exact ⟨c, by rw [move, List.getElem?_append_left bound, here], rfl, Nat.le_refl _⟩
  | step j =>
    by_cases same : j = i
    · subst same
      refine ⟨(c.step x.store).1, ?_, c.request_step x.store, ?_⟩
      · simp only [move, here, List.getElem?_set_self bound]
      · rw [if_pos rfl]
        exact c.left_step x.store
    · have other : ¬ Move.step j = .step i := fun equal => same (Move.step.inj equal)
      refine ⟨c, ?_, rfl, by rw [if_neg other]; exact Nat.le_refl _⟩
      cases there : x.calls[j]? with
      | none => simp only [move, there, here]
      | some c' => simp only [move, there, List.getElem?_set_ne same, here]

theorem Shared.left_run (x : Shared) {i : Nat} {c : Call} (here : x.calls[i]? = some c)
    (moves : List Move) : ∃ c', (x.run moves).calls[i]? = some c' ∧ c'.request = c.request ∧
      c'.stage.left ≤ c.stage.left - moves.count (.step i) := by
  induction moves generalizing x c with
  | nil => exact ⟨c, here, rfl, Nat.le_refl _⟩
  | cons m moves ih =>
    obtain ⟨c₁, here₁, request₁, left₁⟩ := x.left_move here m
    obtain ⟨c₂, here₂, request₂, left₂⟩ := ih (x.move m) here₁
    refine ⟨c₂, here₂, request₂.trans request₁, ?_⟩
    rw [List.count_cons]
    simp only [beq_iff_eq]
    omega

/-- A call that has taken two steps has returned, whatever happened between them. -/
theorem Shared.returned_run (x : Shared) {i : Nat} {c : Call} (here : x.calls[i]? = some c)
    {moves : List Move} (twice : 2 ≤ moves.count (.step i)) :
    ∃ a, (x.run moves).calls[i]? = some ⟨c.request, .returned a⟩ := by
  obtain ⟨c', after, request, left⟩ := x.left_run here moves
  have start := c.stage.left_le
  obtain ⟨a, returned⟩ := Call.Stage.returned_of_left (by omega : c'.stage.left = 0)
  exact ⟨a, by rw [after, ← request, ← returned]⟩

/-! ### Nodes and keys -/

/-- The nodes of entities with the key. -/
def nodesOf (s : Store) (k : Entity.Key) : List Node :=
  s.nodes.filter fun n => match n.body with
    | .entity e => e.key = k
    | _ => false

theorem mem_nodesOf_iff (ok : s.WellFormed) {k : Entity.Key} {n : Node} :
    n ∈ s.nodesOf k ↔ s.StandsFor n.id k ∧ s.node? n.id = some n := by
  obtain ⟨id, body⟩ := n
  rw [nodesOf, List.mem_filter, ok.mem_nodes_iff, and_comm]
  refine and_congr_left fun there => ?_
  cases body <;> simp [StandsFor, there]

/-- A key has no other node than the one in the table of names. -/
theorem ids_nodesOf (ok : s.WellFormed) (named : s.Named) (k : Entity.Key) :
    (s.nodesOf k).map (·.id) = (s.lookup? k).toList := by
  have once : ((s.nodesOf k).map (·.id)).Nodup := ok.nodup_ids.sublist (List.filter_sublist.map _)
  have same : ∀ id, id ∈ (s.nodesOf k).map (·.id) ↔ id ∈ (s.lookup? k).toList := by
    intro id
    rw [Option.mem_toList, named k id, List.mem_map]
    constructor
    · rintro ⟨n, there, rfl⟩
      exact ((mem_nodesOf_iff ok).1 there).1
    · intro stands
      have ⟨e, there, _⟩ := stands
      exact ⟨⟨id, .entity e⟩, (mem_nodesOf_iff ok).2 ⟨stands, there⟩, rfl⟩
  have perm := (List.perm_ext_iff_of_nodup once (by cases s.lookup? k <;> simp)).2 same
  cases known : s.lookup? k with
  | none =>
    rw [known] at perm
    exact perm.eq_nil
  | some id =>
    rw [known] at perm
    exact List.perm_singleton.1 perm

theorem length_nodesOf_le (ok : s.WellFormed) (named : s.Named) (k : Entity.Key) :
    (s.nodesOf k).length ≤ 1 := by
  rw [← List.length_map, ids_nodesOf ok named]
  cases s.lookup? k <;> simp

theorem length_nodesOf_eq_one_iff (ok : s.WellFormed) (named : s.Named) {k : Entity.Key} :
    (s.nodesOf k).length = 1 ↔ (s.lookup? k).isSome := by
  rw [← List.length_map, ids_nodesOf ok named]
  cases s.lookup? k <;> simp

end Store

open Store

/-- However the calls of any number of clients overlap: two calls get one node exactly if they ask for
one identity; there is one node for each key that a call has got a node for, and none for other keys;
nodes are numbered, the table of names is exact, and the counters are right. Two steps of its own
bring a call to its end, and a call for an entity gets a node. -/
theorem shared_interning (moves : List Shared.Move) :
    let x := Shared.run ⟨empty, []⟩ moves
    (∀ c ∈ x.calls, ∀ c' ∈ x.calls, ∀ r id r' id', c.Gets r id → c'.Gets r' id' →
      (id = id' ↔ r.SameIdentity r')) ∧
    (∀ k, (x.store.nodesOf k).length ≤ 1) ∧
    (∀ k, (x.store.nodesOf k).length = 1 ↔
      ∃ c ∈ x.calls, ∃ r id e, c.Gets r id ∧ r.entity? = some e ∧ e.key = k) ∧
    (x.store.nodes.map (·.id) = (List.range x.store.size).map fun i : Nat => (i : NodeId) + 1) ∧
    (∀ k id, x.store.lookup? k = some id ↔ x.store.StandsFor id k) ∧
    x.store.stats = x.store.census ∧
    ∀ i c more, x.calls[i]? = some c → 2 ≤ more.count (.step i) →
      ∃ a, (x.run more).calls[i]? = some ⟨c.request, .returned a⟩ ∧
        ∀ r, c.request.ref? = some r → r.entity?.isSome → ∃ id, a = .ok (.node id) := by
  intro x
  obtain ⟨history, ok⟩ := exists_serial empty moves
  have store := ok.serial.eq_run
  have wf : x.store.WellFormed := store ▸ wellFormed_run _
  have named : x.store.Named := store ▸ named_run _
  refine ⟨?_, length_nodesOf_le wf named, fun k => ?_, wf.numbered, named, wf.counted, ?_⟩
  · intro c there c' there' r id r' id' gets gets'
    obtain ⟨e, entity, known⟩ := ok.lookup? there gets
    obtain ⟨e', entity', known'⟩ := ok.lookup? there' gets'
    rw [Ref.sameIdentity_iff entity entity']
    exact named.id_eq_iff known known'
  · rw [length_nodesOf_eq_one_iff wf named, ok.isSome_lookup?_iff named]
  · intro i c more here twice
    obtain ⟨a, returned⟩ := x.returned_run here twice
    refine ⟨a, returned, fun r asks resolves => ?_⟩
    obtain ⟨later, ok⟩ := ok.run more
    obtain ⟨earlier, -, -, answer⟩ := ok.served returned
    obtain ⟨e, entity⟩ := Option.isSome_iff_exists.1 resolves
    exact ⟨_, answer.trans ((outcome_eq_node_iff asks).2 ⟨e, entity, rfl⟩)⟩

/-- Two calls miss the same site, and a third call slips in; the site still gets one node. -/
theorem shared_interning_race :
    let site (className : String) : AllocSite := ⟨"new@7", className, .plain⟩
    let moves : List Shared.Move :=
      [.call (.internAlloc (site "Button")), .call (.internAlloc (site "View")), .call .internNull,
        .step 0, .step 1, .step 2, .step 1, .step 0]
    let x := Shared.run ⟨empty, []⟩ moves
    (Shared.run ⟨empty, []⟩ (moves.take 5)).calls.map (·.stage.left) = [1, 1, 2] ∧
      ∃ first second,
        x.calls[0]? = some ⟨.internAlloc (site "Button"), .returned (.ok (.node first))⟩ ∧
        x.calls[1]? = some ⟨.internAlloc (site "View"), .returned (.ok (.node second))⟩ ∧
        first = second ∧ (x.store.nodesOf (.allocation "new@7")).map (·.className) = ["View"] := by
  intro site moves x
  obtain ⟨canonical, -⟩ := shared_interning moves
  have calls : x.calls = [⟨.internAlloc (site "Button"), .returned (.ok (.node 2))⟩,
    ⟨.internAlloc (site "View"), .returned (.ok (.node 2))⟩,
    ⟨.internNull, .returned (.ok (.node 1))⟩] := rfl
  have button : x.calls[0]? =
      some ⟨.internAlloc (site "Button"), .returned (.ok (.node 2))⟩ := by rw [calls]; rfl
  have view : x.calls[1]? = some ⟨.internAlloc (site "View"), .returned (.ok (.node 2))⟩ := by
    rw [calls]; rfl
  have same := (canonical _ (List.mem_of_getElem? button) _ (List.mem_of_getElem? view)
    _ _ _ _ ⟨rfl, rfl⟩ ⟨rfl, rfl⟩).2 ⟨rfl, rfl⟩
  exact ⟨by decide, 2, 2, button, view, same, by decide⟩

end WidgetFlow
