import WidgetFlow.Proofs.Graph.Closures
import WidgetFlow.Proofs.Listener.Deferred
import WidgetFlow.Proofs.Listener.Types

/-!
# What resolving a registration does

A registration that waited is resolved by classes: those of the objects that may be the listener, or,
if there are none, the concrete classes that fit (`Resolver.Serves`). Each of them has handlers that
virtual dispatch leads to a method, and the listener and the view are due to flow into that method
(`Resolver.Due`); a handler that it leads nowhere is counted. What is due has its edge afterwards, and no
other edge is new (`resolveDeferred_exact`).

The objects are collected in a set and their classes put in order, so the order in which the set is
enumerated does not show (`resolveDeferredBy_eq`).
-/

namespace WidgetFlow

open Work

/-! ### Classes -/

namespace Resolver

variable {r : Resolver} {s : Store} {task : DispatchTask} {reg : Registration} {c : String} {f : Feed}

theorem implements_iff {interface : String} (given : interface ≠ "") :
    r.implements c interface = true ↔ c ∈ r.hierarchy.concreteSubtypes interface := by
  rw [implements_eq_true_iff]
  constructor
  · rintro ⟨-, -, there⟩
    exact there
  · intro there
    exact ⟨Hierarchy.ne_of_mem_concreteSubtypes given there, given, there⟩

/-- Objects of the class may be the listener: one that flows into the listener value fits the interface
and the declared bound, or the listener value itself is one that fits the interface. -/
def Listens (r : Resolver) (s : Store) (task : DispatchTask) (reg : Registration) (c : String) : Prop :=
  (c ∈ r.hierarchy.concreteSubtypes (task.interface reg) ∧
    c ∈ r.hierarchy.concreteSubtypes (task.bound reg) ∧
    ∃ x ∈ (s.reaching task.listener).ids, s.HasObject x c) ∨
  (c ∈ r.hierarchy.concreteSubtypes (task.interface reg) ∧ s.HasObject task.listener c)

/-- The handlers of the class are wired: it is the class of an object that may be the listener, or there
is no such object, and it is a concrete subtype of the declared bound that fits the interface. -/
def Serves (r : Resolver) (s : Store) (task : DispatchTask) (reg : Registration) (c : String) : Prop :=
  r.Listens s task reg c ∨
  (∀ c', ¬ r.Listens s task reg c') ∧ c ∈ r.hierarchy.concreteSubtypes (task.bound reg) ∧
    r.hierarchy.isSubtype c (task.interface reg) = true

/-- The flow is due: some handler is dispatched on the class to a method, and the flow leads from the
listener to the receiver of the method, or from the view to its view parameter. -/
def Due (r : Resolver) (task : DispatchTask) (reg : Registration) (c : String) (f : Feed) : Prop :=
  ∃ h ∈ reg.handlers, ∃ d, r.hierarchy.dispatch? h.method c = some d ∧
    let m := methodName d h.method
    (task.listener ≠ 0 ∧ f = ⟨task.listener, .this m, task.site⟩ ∨
      ∃ i, h.viewParam? = some i ∧ task.view ≠ 0 ∧ f = ⟨task.view, .param m i, task.site⟩)

/-- How many handlers of the registration have no method for the class. -/
def undispatched (r : Resolver) (reg : Registration) (c : String) : Nat :=
  reg.handlers.countP fun h => (r.hierarchy.dispatch? h.method c).isNone

theorem length_unresolved (r : Resolver) (reg : Registration) (c : String) :
    (r.unresolved reg c).length = r.undispatched reg c := by
  simp [unresolved, undispatched, target?, List.countP_eq_length_filter]

theorem mem_classFeeds_iff :
    f ∈ r.classFeeds reg task.listener task.view task.site c ↔ r.Due task reg c f := by
  simp only [classFeeds, targets, List.mem_flatMap, List.mem_filterMap, target?,
    Option.map_eq_some_iff, Due, Target.mem_feeds]
  constructor
  · rintro ⟨_, ⟨h, listed, d, found, rfl⟩, flow⟩
    exact ⟨h, listed, d, found, flow⟩
  · rintro ⟨h, listed, d, found, flow⟩
    exact ⟨_, ⟨h, listed, d, found, rfl⟩, flow⟩

theorem interface_ne (named : reg.interface ≠ "") : task.interface reg ≠ "" := by
  unfold DispatchTask.interface
  split <;> assumption

theorem bound_ne (named : reg.interface ≠ "") : task.bound reg ≠ "" := by
  unfold DispatchTask.bound
  split
  · exact interface_ne named
  · assumption

theorem ne_zero_of_isSome {id : NodeId} (known : (s.node? id).isSome) : id ≠ 0 :=
  Ne.symm (Int.ne_of_lt (Store.pos_of_isSome known))

theorem mem_found_iff (ok : s.WellFormed) (named : reg.interface ≠ "") :
    c ∈ r.found s task reg ↔ r.Listens s task reg c := by
  rw [mem_found ok, implements_iff (interface_ne named), implements_iff (bound_ne named), Listens]
  simp only [ok.mem_reaching_iff]
  constructor
  · rintro ⟨-, fits, ⟨bound, object⟩ | own⟩
    · exact .inl ⟨fits, bound, object⟩
    · exact .inr ⟨fits, own⟩
  · -- Nothing is at the number zero, and nothing flows there.
    rintro (⟨fits, bound, x, linked, object⟩ | ⟨fits, n, there, object⟩)
    · have known := (ok.isSome_of_linked (ok.linked_sources_iff.1 linked)).2
      exact ⟨ne_zero_of_isSome known, fits, .inl ⟨bound, x, linked, object⟩⟩
    · exact ⟨ne_zero_of_isSome (Option.isSome_of_mem there), fits, .inr ⟨n, there, object⟩⟩

theorem mem_candidates_iff (ok : s.WellFormed) (named : reg.interface ≠ "") :
    c ∈ r.candidates task reg (r.found s task reg) ↔ r.Serves s task reg c := by
  unfold candidates Serves
  split
  case isTrue none =>
    have nobody (c' : String) : ¬ r.Listens s task reg c' := by
      rw [← mem_found_iff ok named, none]
      exact List.not_mem_nil
    rw [List.mem_filter, implements_iff (interface_ne named)]
    constructor
    · rintro ⟨bound, fits⟩
      exact .inr ⟨nobody, bound, (Hierarchy.mem_concreteSubtypes_iff.1 fits).2.2⟩
    · rintro (listens | ⟨-, bound, fits⟩)
      · exact absurd listens (nobody c)
      · obtain ⟨name, concrete, -⟩ := Hierarchy.mem_concreteSubtypes_iff.1 bound
        exact ⟨bound, Hierarchy.mem_concreteSubtypes_iff.2 ⟨name, concrete, fits⟩⟩
  case isFalse some =>
    obtain ⟨c', there⟩ := List.exists_mem_of_ne_nil _ some
    rw [mem_found_iff ok named]
    constructor
    · exact .inl
    · rintro (listens | ⟨nobody, -⟩)
      · exact listens
      · exact absurd ((mem_found_iff ok named).1 there) (nobody c')

theorem nodup_candidates : (r.candidates task reg (r.found s task reg)).Nodup := by
  unfold candidates
  split
  case isTrue => exact (Hierarchy.sortedLT_concreteSubtypes _ _).nodup.filter _
  case isFalse =>
    unfold found
    split
    case isTrue => exact List.nodup_nil
    case isFalse => exact (List.mergeSort_perm _ _).nodup_iff.2 (nodup_distinct _)

end Resolver

/-! ### What is counted -/

/-- The edges of a graph are those of another one and, newest first, the edges `new`. -/
structure Store.Added (s : Store) (new : List Edge) (t : Store) : Prop where
  edges : t.edges = new ++ s.edges
  once : new.Nodup
  fresh : ∀ e ∈ new, e ∉ s.edges

theorem Store.Added.refl (s : Store) : s.Added [] s := ⟨rfl, List.nodup_nil, by simp⟩

/-- One more edge, unless it is there. -/
theorem Store.Added.link {s t : Store} {new : List Edge} (added : s.Added new t) {e : Edge}
    (fresh : e ∉ t.edges) : s.Added (e :: new) (t.link e) where
  edges := by rw [edges_link, added.edges, List.cons_append]
  once := by
    rw [added.edges, List.mem_append, not_or] at fresh
    exact List.nodup_cons.2 ⟨fresh.1, added.once⟩
  fresh x there := by
    rw [added.edges, List.mem_append, not_or] at fresh
    rcases List.mem_cons.1 there with rfl | there
    · exact fresh.2
    · exact added.fresh x there

/-- The counts after some edges and some reports. -/
def Dispatcher.tally (d : Dispatcher) (edges unresolved : Nat) : Dispatcher :=
  { d with stats := { d.stats with
    edges := d.stats.edges + edges
    unresolved := d.stats.unresolved + unresolved } }

/-- Edges have been added to a graph and counted, and so many handlers have been reported; nothing else
has been counted. -/
def Tallied (s : Store) (d : Dispatcher) (i : Intake) (unresolved : Nat) (w : Workspace) : Prop :=
  ∃ new, s.Added new w.store ∧ w.dispatcher = d.tally new.length unresolved ∧ w.intake = i

/-- Wherever edges and handlers have been counted, the step counts the edges that it adds, and the
handlers `methods`. -/
def Tallying (s : Store) (d : Dispatcher) (i : Intake) (step : Work Unit) (methods : List String) : Prop :=
  Accrues (fun old => Tallied s d i old.length) (fun _ _ => True) step methods

namespace Tallying

variable {s : Store} {d : Dispatcher} {i : Intake}

theorem idle : Tallying s d i (pure ()) [] :=
  Accrues.nothing fun _ => Triple.pure fun _ tallied => tallied

theorem edgeToLocal (src : NodeId) (l : Local) (site : Site) :
    Tallying s d i (Dispatch.edgeToLocal src l site) [] := by
  apply Accrues.nothing
  intro old
  refine Triple.bind (M := fun _ => Tallied s d i old.length)
    (Triple.onStore ?_ fun _ _ _ _ => trivial) fun dst => ?_
  · rintro w dst t ⟨new, added, tallied⟩ made
    obtain ⟨x, -, interned⟩ := Store.internOr_eq_ok made
    have same : t.edges = w.store.edges := by
      rw [← Store.edges_internEntity w.store x, interned]
    exact ⟨new, ⟨same.trans added.edges, added.once, added.fresh⟩, tallied⟩
  -- An edge that was added has not been counted yet.
  refine Triple.bind (M := fun added w => ∃ new counted, s.Added new w.store ∧
      w.dispatcher = d.tally counted old.length ∧ w.intake = i ∧
      new.length = if added then counted + 1 else counted)
    (Triple.within (Triple.onStore ?_ ?_)) fun added => ?_
  · rintro w added t ⟨new, before, counts, intake⟩ joined
    obtain ⟨-, -, answer, rfl⟩ := Store.addEdge_eq_ok_iff.1 joined
    split
    case isTrue there =>
      have kept : added = false := by simpa [there] using answer
      exact ⟨new, new.length, before, counts, intake, by simp [kept]⟩
    case isFalse fresh =>
      exact ⟨_, new.length, before.link fresh, counts, intake, by simp [answer.2 fresh]⟩
  · intro w e _ _
    trivial
  · refine Triple.ite (fun yes => ?_) fun no => ?_
    · refine Triple.modify ?_
      rintro w ⟨new, counted, before, counts, intake, length⟩
      refine ⟨new, before, ?_, intake⟩
      rw [length, if_pos yes, counts]
      rfl
    · refine Triple.pure ?_
      rintro w ⟨new, counted, before, counts, intake, length⟩
      rw [if_neg no] at length
      exact ⟨new, before, length ▸ counts, intake⟩

theorem connect (t : Target) (listener view : NodeId) (site : Site) :
    Tallying s d i (Dispatch.connect t listener view site) [] := by
  refine Accrues.ite (fun _ => (edgeToLocal _ _ _).andThen ?_) fun _ => ?_
  -- With and without a listener, the view is passed on in the same way.
  all_goals
    split
    case h_1 => exact Accrues.ite (fun _ => edgeToLocal _ _ _) fun _ => idle
    case h_2 => exact idle

theorem reportUnresolved (c : String) (methods : List String) :
    Tallying s d i (Dispatch.reportUnresolved c methods) methods := by
  intro old
  refine Triple.ite (fun _ => ?_) fun none => ?_
  · refine Triple.bind (M := fun _ => Tallied s d i (old ++ methods).length) (Triple.modify ?_)
      fun _ => Triple.modify fun w tallied => tallied
    rintro w ⟨new, added, counts, intake⟩
    refine ⟨new, added, ?_, intake⟩
    rw [counts, List.length_append]
    simp only [Dispatcher.tally, Nat.add_assoc]
  · rw [not_not.1 none, List.append_nil]
    exact Triple.pure fun _ tallied => tallied

theorem wireClass (r : Resolver) (reg : Registration) (listener view : NodeId) (site : Site)
    (c : String) :
    Tallying s d i (Dispatch.wireClass r reg listener view site c) (r.unresolved reg c) := by
  have handlers : Tallying s d i
      ((r.targets reg c).forM fun t => Dispatch.connect t listener view site)
      ((r.targets reg c).flatMap fun _ => []) :=
    Accrues.forM fun t _ => connect t listener view site
  have both := (reportUnresolved (s := s) (d := d) (i := i) c (r.unresolved reg c)).andThen handlers
  have none : (r.targets reg c).flatMap (fun _ => ([] : List String)) = [] := by simp
  rw [none, List.append_nil] at both
  exact both

end Tallying

/-- The counts after a registration has been resolved. -/
def Dispatcher.resolve (d : Dispatcher) (r : Resolver) (reg : Registration) (classes : List String)
    (edges : Nat) : Dispatcher :=
  { d with stats := { d.stats with
    edges := d.stats.edges + edges
    resolved := if classes = [] then d.stats.resolved else d.stats.resolved + 1
    unresolved := d.stats.unresolved +
      if classes = [] then 1 else (classes.map (r.undispatched reg)).sum } }

theorem tallied_classes (r : Resolver) (task : DispatchTask) (reg : Registration) (s : Store)
    (d : Dispatcher) (i : Intake) (classes : List String) :
    Triple (Tallied s d i 0)
      (if classes = [] then Dispatch.reportUnresolved (task.interface reg) ["no implementing class"]
      else do
        classes.forM (Dispatch.wireClass r reg task.listener task.view task.site)
        countDispatch fun t => { t with resolved := t.resolved + 1 })
      (fun _ w => ∃ new, s.Added new w.store ∧ w.intake = i ∧
        w.dispatcher = d.resolve r reg classes new.length) fun _ _ => True := by
  refine Triple.ite (fun none => ?_) fun some => ?_
  · refine (Tallying.reportUnresolved _ _ []).mono ?_
    rintro _ w ⟨new, added, counts, intake⟩
    refine ⟨new, added, intake, ?_⟩
    rw [counts]
    simp [Dispatcher.resolve, Dispatcher.tally, none]
  · have each : Tallying s d i
        (classes.forM (Dispatch.wireClass r reg task.listener task.view task.site))
        (classes.flatMap (r.unresolved reg)) :=
      Accrues.forM fun c _ => Tallying.wireClass r reg task.listener task.view task.site c
    refine Triple.bind (each []) fun _ => Triple.modify ?_
    rintro w ⟨new, added, counts, intake⟩
    refine ⟨new, added, intake, ?_⟩
    have reported : ([] ++ classes.flatMap (r.unresolved reg)).length =
        (classes.map (r.undispatched reg)).sum := by
      simp only [List.nil_append, List.length_flatMap, Resolver.length_unresolved]
    rw [counts, reported]
    simp [Dispatcher.resolve, Dispatcher.tally, some]

/-- A registration is counted as resolved, with the handlers that are missing, or the interface is
counted as unresolved. -/
theorem tallied_resolveDeferred (r : Resolver) (task : DispatchTask) (reg : Registration) (s : Store)
    (d : Dispatcher) (i : Intake) (entry : r.registrationAt? s task.op = some reg) :
    Triple (fun w => w.store = s ∧ w.dispatcher = d ∧ w.intake = i) (Dispatch.resolveDeferred r task)
      (fun _ w => ∃ new, s.Added new w.store ∧ w.intake = i ∧ w.dispatcher =
        d.resolve r reg (r.candidates task reg (r.found s task reg)) new.length)
      fun _ _ => True := by
  let same (w : Workspace) := w.store = s ∧ w.dispatcher = d ∧ w.intake = i
  refine Triple.bind (M := fun reg' w => reg' = reg ∧ same w) ?_ fun reg' => ?_
  · rintro w ⟨rfl, counts⟩
    rw [Dispatch.registration_eq entry]
    exact ⟨rfl, rfl, counts⟩
  refine Triple.assuming fun isReg => ?_
  subst isReg
  refine Triple.bind (M := fun found w => found = r.found s task reg' ∧ same w) ?_ fun found => ?_
  · unfold Dispatch.listenerClasses Resolver.found
    refine Triple.ite (fun absent => ?_) fun given => ?_
    · rw [if_pos absent]
      exact Triple.pure fun _ start => ⟨rfl, start⟩
    · rw [if_neg given]
      rintro w ⟨rfl, counts⟩
      exact ⟨rfl, rfl, counts⟩
  refine Triple.assuming fun isFound => ?_
  subst isFound
  refine Triple.conseq (tallied_classes r task reg' s d i (r.candidates task reg' _)) ?_
    (fun _ _ h => h) fun _ _ _ => trivial
  rintro w ⟨rfl, counts, intake⟩
  exact ⟨[], .refl _, counts, intake⟩

/-! ### The order of enumeration -/

namespace Dispatch

/-- The classes of the objects that may be the listener, where those that flow into the listener value
are enumerated in some order. -/
def listenerClassesBy (enumerate : NodeSet → List NodeId) (r : Resolver) (listener : NodeId)
    (interface bound : String) : Work (List String) := do
  if listener = 0 then return []
  let flowing ← reaching listener
  let s ← store
  let found := objectClasses s (enumerate flowing) fun c =>
    r.implements c interface && r.implements c bound
  let own := objectClasses s [listener] fun c => r.implements c interface
  return (distinct (found ++ own)).mergeSort fun a b => decide (a ≤ b)

/-- Wires a registration of a complete graph, where sets are enumerated in some order. -/
def resolveDeferredBy (enumerate : NodeSet → List NodeId) (r : Resolver) (task : DispatchTask) :
    Work Unit := do
  let reg ← registration r task.op
  let interface := if task.listenerClass = "" then reg.interface else task.listenerClass
  let bound := if task.parameterType = "" then interface else task.parameterType
  let found ← listenerClassesBy enumerate r task.listener interface bound
  let classes :=
    if found = [] then (r.hierarchy.concreteSubtypes bound).filter (r.implements · interface)
    else found
  if classes = [] then reportUnresolved interface ["no implementing class"]
  else
    classes.forM (wireClass r reg task.listener task.view task.site)
    countDispatch fun t => { t with resolved := t.resolved + 1 }

theorem resolveDeferredBy_ids : resolveDeferredBy NodeSet.ids = resolveDeferred := rfl

theorem resolveDeferredBy_eq {enumerate : NodeSet → List NodeId}
    (whole : ∀ set, (enumerate set).Perm set.ids) : resolveDeferredBy enumerate = resolveDeferred := by
  have members (s : Store) (set : NodeSet) (test : String → Bool) (own : List String) (c : String) :
      c ∈ objectClasses s (enumerate set) test ++ own ↔ c ∈ objectClasses s set.ids test ++ own := by
    simp only [List.mem_append, Store.mem_objectClasses, (whole set).mem_iff]
  have classes : listenerClassesBy enumerate = listenerClassesBy NodeSet.ids := by
    funext r listener interface bound
    simp only [listenerClassesBy, sorted_distinct_congr (members _ _ _ _)]
  funext r task
  rw [← resolveDeferredBy_ids]
  simp only [resolveDeferredBy, classes]

end Dispatch

/-! ### The whole effect -/

/-- A registration has been resolved: the handlers of `classes` are wired by the edges `new`. -/
structure Resolved (r : Resolver) (task : DispatchTask) (reg : Registration) (w : Workspace)
    (classes : List String) (new : List Edge) (w' : Workspace) : Prop where
  serves : ∀ c, c ∈ classes ↔ r.Serves w.store task reg c
  distinct : classes.Nodup
  /-- Edges are added, none of them twice. -/
  added : w.store.Added new w'.store
  /-- An edge that was missing is there exactly if it carries a flow that is due. -/
  due : ∀ e, e ∉ w.store.edges →
    (e ∈ new ↔ ∃ c ∈ classes, ∃ f, r.Due task reg c f ∧ w'.store.Carries e f)
  /-- Every flow that is due has its edge. -/
  carried : ∀ c ∈ classes, ∀ f, r.Due task reg c f → ∃ e ∈ w'.store.edges, w'.store.Carries e f
  /-- The old nodes stay, and only slots that something is due to flow into get new ones. -/
  kept : w.store.nodes <+: w'.store.nodes
  slots : ∀ n ∈ w'.store.nodes, n ∈ w.store.nodes ∨
    ∃ c ∈ classes, ∃ f, r.Due task reg c f ∧ n.body = .entity (.slot f.slot)
  dispatcher : w'.dispatcher = w.dispatcher.resolve r reg classes new.length
  intake : w'.intake = w.intake

/-- Resolving a registration of the table, whose listener and view are plain nodes if there are such,
succeeds. It wires the handlers of the classes of the objects that may be the listener, or of all
classes that fit if there are none: exactly the edges are added that are due and missing, and what
virtual dispatch leads nowhere is counted. The order in which the backward closure is enumerated does
not show. -/
theorem resolveDeferred_exact {qs : List StoreRequest} {rs : List Registration} {r : Resolver}
    {reg : Registration} {task : DispatchTask} {w : Workspace}
    (built : w.store = Store.empty.run qs)
    (accepted : ListenerTable.ofRegistrations rs = .ok r.table)
    (registers : r.registrationAt? w.store task.op = some reg)
    (joinable : w.store.Joinable task.listener task.view) :
    ∃ classes new w', Resolved r task reg w classes new w' ∧
      ∀ enumerate, (∀ set : NodeSet, (enumerate set).Perm set.ids) →
        Dispatch.resolveDeferredBy enumerate r task w = .ok () w' := by
  have ok : w.store.WellFormed := built ▸ Store.wellFormed_run qs
  have named : w.store.Named := built ▸ Store.named_run qs
  obtain ⟨o, -, found⟩ := Option.bind_eq_some_iff.1 registers
  have interface : reg.interface ≠ "" :=
    ListenerTable.interface_ne accepted (List.mem_of_find?_eq_some found)
  -- Whether the task says that it is of a context menu makes no difference here.
  have ready : r.Ready w.store { task with contextMenu := false } :=
    ⟨rfl, Option.isSome_of_mem registers, joinable⟩
  have feeds := (fed_resolveDeferred ok named r { task with contextMenu := false }).conseq
    (fun _ same => same) (fun _ _ fed => fed) fun _ _ failed => failed ready
  obtain ⟨⟨⟩, w', done, fed⟩ := feeds.exists_ok rfl
  have fed : w.store.Fed (r.taskFeeds w.store task) w'.store := fed
  obtain ⟨new, added, intake, dispatcher⟩ :=
    (tallied_resolveDeferred r task reg w.store _ _ registers).of_ok ⟨rfl, rfl, rfl⟩ done
  let classes := r.candidates task reg (r.found w.store task reg)
  have owed (f : Feed) : f ∈ r.taskFeeds w.store task ↔ ∃ c ∈ classes, r.Due task reg c f := by
    simp only [Resolver.taskFeeds, registers, List.mem_flatMap, Resolver.mem_classFeeds_iff, classes]
  refine ⟨classes, new, w', ?_, fun enumerate whole => ?_⟩
  · exact {
      serves := fun c => Resolver.mem_candidates_iff ok interface
      distinct := Resolver.nodup_candidates
      added := added
      due := fun e missing => by
        have edges := fed.edges e
        rw [added.edges, List.mem_append, or_iff_left missing, or_iff_right missing] at edges
        rw [edges]
        simp only [owed]
        constructor
        · rintro ⟨f, ⟨c, serves, due⟩, carries⟩
          exact ⟨c, serves, f, due, carries⟩
        · rintro ⟨c, serves, f, due, carries⟩
          exact ⟨f, ⟨c, serves, due⟩, carries⟩
      carried := fun c serves f due => fed.exists_edge ((owed f).2 ⟨c, serves, due⟩)
      kept := fed.grows.nodes
      slots := fun n there => by
        rcases fed.nodes n there with old | ⟨f, due, body⟩
        · exact .inl old
        · obtain ⟨c, serves, due⟩ := (owed f).1 due
          exact .inr ⟨c, serves, f, due, body⟩
      dispatcher := dispatcher
      intake := intake }
  · rw [Dispatch.resolveDeferredBy_eq whole]
    exact done

/-- An object of the class `C` flows into the listener value: it and the view flow into the handler of
`C`, and the class `D` has no part in it. -/
theorem resolveDeferred_exact_value :
    let r := implementors ["C", "D"]
    let w := waiting receiverListens [valueTask]
    ∃ reg classes new w', Resolved r valueTask reg w classes new w' ∧
      Dispatch.resolveDeferred r valueTask w = .ok () w' ∧ new = [⟨3, 5, {}⟩, ⟨2, 4, {}⟩] ∧
      w'.dispatcher.stats.resolved = 1 ∧ w'.dispatcher.stats.unresolved = 0 := by
  intro r w
  obtain ⟨reg, registers⟩ : ∃ reg, r.registrationAt? w.store valueTask.op = some reg :=
    Option.isSome_iff_exists.1 (by decide +kernel)
  obtain ⟨classes, new, w', resolved, runs⟩ := @resolveDeferred_exact receiverListens
    r.table.registrations r reg valueTask w rfl (by decide +kernel) registers
    ⟨fun _ => by decide +kernel, fun _ => by decide +kernel⟩
  have done : Dispatch.resolveDeferred r valueTask w = .ok () w' :=
    runs NodeSet.ids fun set => .refl set.ids
  have ends : endsWith (Dispatch.resolveDeferred r valueTask w) (fun _ v =>
      decide (v.store.edges = [⟨3, 5, {}⟩, ⟨2, 4, {}⟩] ++ w.store.edges ∧
        v.dispatcher.stats.resolved = 1 ∧ v.dispatcher.stats.unresolved = 0)) = true := by
    cbv
  rw [done] at ends
  obtain ⟨edges, counts⟩ := of_decide_eq_true ends
  rw [resolved.added.edges, List.append_cancel_right_eq] at edges
  exact ⟨reg, classes, new, w', resolved, done, edges, counts⟩

end WidgetFlow
