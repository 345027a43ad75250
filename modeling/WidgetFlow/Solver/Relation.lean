import WidgetFlow.Graph.NodeSet

/-!
# Relations between nodes

While a solve is running, what is found is collected in a `Relation`: for every key the set of the
nodes found for it. A relation that is finished is frozen into `Bindings`, whose ascending rows are
looked up by binary search.
-/

namespace WidgetFlow

/-- Sets of nodes by key, with the keys in ascending order. -/
structure Relation where
  rows : List (NodeId × NodeSet) := []
  deriving DecidableEq, Inhabited

namespace Relation

/-- The set under a key. -/
def find (r : Relation) (key : NodeId) : NodeSet := (r.rows.lookup key).getD .empty

/-- The pair is in the relation. -/
def has (r : Relation) (key id : NodeId) : Bool := (r.find key).has id

/-- Puts `id` under `key` in rows that ascend by key. -/
def insertRow (key id : NodeId) : List (NodeId × NodeSet) → List (NodeId × NodeSet)
  | [] => [(key, NodeSet.empty.insert id)]
  | (k, set) :: rest =>
    if key < k then (key, NodeSet.empty.insert id) :: (k, set) :: rest
    else if key = k then (k, set.insert id) :: rest
    else (k, set) :: insertRow key id rest

/-- The relation with one more pair. -/
def insert (r : Relation) (key id : NodeId) : Relation := ⟨insertRow key id r.rows⟩

/-- Adds a pair and tells whether it was absent. -/
def add (r : Relation) (key id : NodeId) : Bool × Relation := (!r.has key id, r.insert key id)

end Relation

/-- The finished form of a relation: the ascending ids of every key, keys ascending. -/
structure Bindings where
  rows : List (NodeId × Array NodeId) := []
  deriving DecidableEq, Inhabited

/-- The finished form of a relation. -/
def Relation.freeze (r : Relation) : Bindings := ⟨r.rows.map fun (k, s) => (k, s.ids.toArray)⟩

namespace Bindings

/-- The keys, in ascending order. -/
def keys (b : Bindings) : List NodeId := b.rows.map (·.1)

/-- The ids under a key, in ascending order. -/
def ids (b : Bindings) (key : NodeId) : Array NodeId := (b.rows.lookup key).getD #[]

/-- The least index in `[low, high)` whose element is not below `id`, or `high` if all are below. -/
def lowerBound (a : Array NodeId) (id : NodeId) (low high : Nat) : Nat :=
  if low < high then
    let mid := (low + high) / 2
    if a.getD mid 0 < id then lowerBound a id (mid + 1) high else lowerBound a id low mid
  else low
termination_by high - low

/-- The id is bound to the key, by binary search. -/
def contains (b : Bindings) (key id : NodeId) : Bool :=
  let a := b.ids key
  a[lowerBound a id 0 a.size]? == some id

/-- How many pairs there are. -/
def pairs (b : Bindings) : Nat := b.rows.foldr (fun r n => r.2.size + n) 0

end Bindings

end WidgetFlow
