import WidgetFlow.Graph.NodeSet
import WidgetFlow.Graph.View

/-!
# Closures of the flow relation

The forward closure of a node holds what its value may reach by one or more edges, the backward
closure what may reach it. A node is in its own closure exactly when it lies on a cycle. Operation
nodes are followed like all others.

The search expands a node once after it is first met, so it takes one round for every node of the
graph and one for the start.
-/

namespace WidgetFlow

namespace Store

/-- What is met by following `next` from a node one or more times. -/
def closure (s : Store) (next : NodeId → List NodeId) (id : NodeId) : NodeSet :=
  NodeSet.ofList (expand next (s.size + 1) [id] [])

/-- The nodes reachable from a node by one or more edges. -/
def reachable (s : Store) (id : NodeId) : NodeSet := s.closure s.targets id

/-- The nodes from which a node is reachable by one or more edges. -/
def reaching (s : Store) (id : NodeId) : NodeSet := s.closure s.sources id

end Store

/-- A value made by `producer`, whose forward closure is given, may occupy the slot `operand`: the
slot is the producer itself or in its closure. An empty slot holds nothing. -/
def flowsInto (closure : NodeSet) (producer operand : NodeId) : Bool :=
  operand != 0 && (operand == producer || closure.has operand)

end WidgetFlow
