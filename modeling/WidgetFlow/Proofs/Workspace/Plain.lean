import WidgetFlow.Proofs.Listener.Gifts
import WidgetFlow.Proofs.Workspace.Skipped

/-!
# Plain nodes

Naming leads to plain nodes, and so does making objects up; only operations are not plain. So while a
step names things and joins them, it is granted whatever it asks for (`Plain`). What holds of the nodes
that have been named so far is kept by naming more of them (`Listing`).
-/

namespace WidgetFlow

open Work

/-! ### Plain nodes -/

/-- The graph is well formed and named, and these nodes of it are plain. -/
abbrev Plain (xs : List NodeId) (w : Workspace) : Prop :=
  Sound (fun s => ∀ x ∈ xs, s.isOperand x) w.store

/-- Whatever requests have led to is well formed and named. -/
theorem Served.plain {w : Workspace} (served : Served Store.empty w) : Plain [] w := by
  obtain ⟨qs, graph⟩ := served
  unfold Plain
  rw [graph]
  exact ⟨Store.wellFormed_run qs, Store.named_run qs, by simp⟩

namespace Plain

variable {xs : List NodeId} {w : Workspace} {x y : NodeId}

/-- A step that adds no operation keeps plain nodes plain; what it makes may be listed too. -/
theorem grow (plain : Plain xs w) {s : Store} (step : w.store.PlainStep s) :
    Plain xs { w with store := s } where
  wellFormed := step.wellFormed plain.wellFormed
  named := step.keepsNames plain.named
  holds x listed := step.grows.isOperand (plain.holds x listed)

theorem cons (plain : Plain xs w) (new : w.store.isOperand x) : Plain (x :: xs) w where
  __ := plain
  holds := List.forall_mem_cons.2 ⟨new, plain.holds⟩

/-- The node of an entity is plain. -/
theorem name (plain : Plain xs w) (e : Entity) :
    Plain ((w.store.internEntity e).1 :: xs) { w with store := (w.store.internEntity e).2 } := by
  have grown := plain.grow (w.store.internEntity_step e)
  exact grown.cons (grown.named.isOperand (Store.lookup?_internEntity _ e))

/-- An object that is made up is plain. -/
theorem madeUp (plain : Plain xs w) (c : String) (k : ObjectKind) :
    Plain ((w.store.newAllocation c k).1 :: xs) { w with store := (w.store.newAllocation c k).2 } := by
  refine (plain.grow (.madeUp c k)).cons ?_
  exact Store.isOperand_of_node? (Store.node?_push_nextId _ _) rfl

/-- Plain nodes are joined; whether the edge is new makes no difference. -/
theorem addEdge_eq (plain : Plain xs w) (src : x ∈ xs) (dst : y ∈ xs) (site : Site) :
    ∃ added, onStore (·.addEdge x y site) w =
      .ok added { w with store := w.store.join ⟨x, y, site⟩ } := by
  obtain ⟨added, granted⟩ :=
    Store.addEdge_eq_join (plain.holds x src) (plain.holds y dst) site
  exact ⟨added, onStore_of_ok granted⟩

theorem join (plain : Plain xs w) (src : x ∈ xs) (dst : y ∈ xs) (site : Site) :
    Plain xs { w with store := w.store.join ⟨x, y, site⟩ } :=
  plain.grow (Store.join_step (plain.holds x src) (plain.holds y dst))

theorem beside {change : Workspace → Workspace} (spares : ∀ w, (change w).store = w.store) :
    Triple (Plain xs) (modify change) (fun _ => Plain xs) fun _ _ => False := by
  refine Triple.modify fun w plain => ?_
  unfold Plain
  rwa [spares]

end Plain

/-! ### Naming -/

/-- What is said of a workspace and of some nodes of it is kept while entities are named, and may be
said of their nodes too; nothing but the graph and dispatch counts. -/
structure Listing (inv : List NodeId → Workspace → Prop) : Prop where
  name : ∀ {xs : List NodeId} {w : Workspace}, inv xs w → ∀ e : Entity,
    inv ((w.store.internEntity e).1 :: xs) { w with store := (w.store.internEntity e).2 }
  beside : ∀ {xs : List NodeId} {w w' : Workspace}, inv xs w → w'.store = w.store →
    w'.dispatcher = w.dispatcher → inv xs w'

theorem Plain.listing : Listing Plain where
  name plain e := plain.name e
  beside plain graph _ := by
    unfold Plain
    rwa [graph]

namespace Listing

variable {inv : List NodeId → Workspace → Prop} (lists : Listing inv) {xs : List NodeId}

include lists

theorem skip (event : String) (fault : Fault) :
    Triple (inv xs) (Intake.skip event fault) (fun _ => inv xs) fun _ _ => False :=
  Triple.bind (M := fun _ => inv xs) (Triple.modify fun _ holds => lists.beside holds rfl rfl)
    fun _ => Triple.modify fun _ holds => lists.beside holds rfl rfl

/-- The node of a reference that names something is listed. -/
theorem internOrSkip (event : String) (r : Ref) : Triple (inv xs) (Intake.internOrSkip event r)
    (NamingEnds (r.entity? = none) (inv xs) fun x => inv (x :: xs)) fun _ _ => False := by
  intro w holds
  cases named : r.entity? with
  | some e =>
    rw [Intake.internOrSkip_of_entity? event named]
    exact .inr ⟨Option.some_ne_none e, _, rfl, lists.name holds e⟩
  | none =>
    obtain ⟨fault, skips⟩ := Intake.internOrSkip_of_entity?_eq_none event named w
    have skipped : Triple (inv xs) (do Intake.skip event fault; return none : Work (Option NodeId))
        (NamingEnds ((none : Option Entity) = none) (inv xs) fun x => inv (x :: xs))
        fun _ _ => False :=
      Triple.bind (lists.skip event fault) fun _ =>
        Triple.pure fun _ holds => .inl ⟨rfl, rfl, holds⟩
    rw [skips]
    exact skipped w holds

end Listing

end WidgetFlow
