import WidgetFlow.Solver.Relation

/-!
# Solutions

What a solve finds out, as ten maps. The solution maps say which objects are valid receivers,
parameters and listeners of an operation; the reaching maps say what flows there at all; the
reached maps say for an operation that yields an object which operations the object gets to.
-/

namespace WidgetFlow

/-- The maps of a solution. -/
inductive MapName where
  | solutionReceivers
  | solutionParameters
  | solutionListeners
  | reachingWindows
  | reachingReceiverViews
  | reachingParameterViews
  | reachingListeners
  | reachedReceiverViews
  | reachedParameterViews
  | reachedListeners
  deriving DecidableEq, Inhabited

namespace MapName

/-- The name of a map in reports. -/
def text : MapName → String
  | solutionReceivers => "solutionReceivers"
  | solutionParameters => "solutionParameters"
  | solutionListeners => "solutionListeners"
  | reachingWindows => "reachingWindows"
  | reachingReceiverViews => "reachingReceiverViews"
  | reachingParameterViews => "reachingParameterViews"
  | reachingListeners => "reachingListeners"
  | reachedReceiverViews => "reachedReceiverViews"
  | reachedParameterViews => "reachedParameterViews"
  | reachedListeners => "reachedListeners"

/-- The maps in the order of reports. -/
def all : List MapName :=
  [solutionReceivers, solutionParameters, solutionListeners, reachingWindows,
   reachingReceiverViews, reachingParameterViews, reachingListeners, reachedReceiverViews,
   reachedParameterViews, reachedListeners]

/-- The map with a name. -/
def ofText? (s : String) : Option MapName := all.find? (·.text = s)

end MapName

/-- A value for each of the ten maps. -/
structure Maps (α : Type) where
  solutionReceivers : α
  solutionParameters : α
  solutionListeners : α
  reachingWindows : α
  reachingReceiverViews : α
  reachingParameterViews : α
  reachingListeners : α
  reachedReceiverViews : α
  reachedParameterViews : α
  reachedListeners : α
  deriving DecidableEq, Inhabited

namespace Maps

variable {α β : Type}

/-- The same value for every map. -/
def replicate (a : α) : Maps α := ⟨a, a, a, a, a, a, a, a, a, a⟩

/-- The value of one map. -/
def get (m : Maps α) : MapName → α
  | .solutionReceivers => m.solutionReceivers
  | .solutionParameters => m.solutionParameters
  | .solutionListeners => m.solutionListeners
  | .reachingWindows => m.reachingWindows
  | .reachingReceiverViews => m.reachingReceiverViews
  | .reachingParameterViews => m.reachingParameterViews
  | .reachingListeners => m.reachingListeners
  | .reachedReceiverViews => m.reachedReceiverViews
  | .reachedParameterViews => m.reachedParameterViews
  | .reachedListeners => m.reachedListeners

/-- Changes the value of one map. -/
def update (m : Maps α) (n : MapName) (f : α → α) : Maps α :=
  match n with
  | .solutionReceivers => { m with solutionReceivers := f m.solutionReceivers }
  | .solutionParameters => { m with solutionParameters := f m.solutionParameters }
  | .solutionListeners => { m with solutionListeners := f m.solutionListeners }
  | .reachingWindows => { m with reachingWindows := f m.reachingWindows }
  | .reachingReceiverViews => { m with reachingReceiverViews := f m.reachingReceiverViews }
  | .reachingParameterViews => { m with reachingParameterViews := f m.reachingParameterViews }
  | .reachingListeners => { m with reachingListeners := f m.reachingListeners }
  | .reachedReceiverViews => { m with reachedReceiverViews := f m.reachedReceiverViews }
  | .reachedParameterViews => { m with reachedParameterViews := f m.reachedParameterViews }
  | .reachedListeners => { m with reachedListeners := f m.reachedListeners }

/-- Changes every value. -/
def map (f : α → β) (m : Maps α) : Maps β :=
  ⟨f m.solutionReceivers, f m.solutionParameters, f m.solutionListeners, f m.reachingWindows,
   f m.reachingReceiverViews, f m.reachingParameterViews, f m.reachingListeners,
   f m.reachedReceiverViews, f m.reachedParameterViews, f m.reachedListeners⟩

end Maps

/-- What has been found while a solve is running. -/
abbrev Findings := Maps Relation

/-- Nothing has been found. -/
def Findings.empty : Findings := Maps.replicate {}

/-- The findings with one more pair in a map. -/
def Findings.insert (f : Findings) (n : MapName) (key id : NodeId) : Findings :=
  f.update n (·.insert key id)

/-- The result of a solve. -/
abbrev Solution := Maps Bindings

/-- The finished form of all findings. -/
def Findings.freeze (f : Findings) : Solution := f.map Relation.freeze

/-- How many pairs each map has. -/
def Solution.counts (s : Solution) : List (MapName × Nat) :=
  MapName.all.map fun n => (n, (s.get n).pairs)

/-- How many pairs a map has. -/
def Solution.count (s : Solution) (n : MapName) : Nat := (s.get n).pairs

end WidgetFlow
