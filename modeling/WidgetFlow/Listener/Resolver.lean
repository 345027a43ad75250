import WidgetFlow.Hierarchy
import WidgetFlow.Listener.Table
import WidgetFlow.Program.Site

/-!
# Listener types and handler methods

Which classes implement a listener interface, and which method bodies a registration leads to for
a listener of a given class.
-/

namespace WidgetFlow

/-- A handler together with the method that runs it for some class. -/
structure Target where
  handler : Handler
  /-- The canonical name of the implementation. -/
  method : String
  deriving DecidableEq, Inhabited

/-- The class table and the listener table that listener questions are answered from. -/
structure Resolver where
  hierarchy : Hierarchy := {}
  table : ListenerTable := {}
  deriving DecidableEq, Inhabited

namespace Resolver

/-- A concrete class implements an interface. -/
def implements (r : Resolver) (className interface : String) : Bool :=
  className != "" && interface != "" && (r.hierarchy.concreteSubtypes interface).contains className

/-- A class implements some interface of the listener table. -/
def isListenerType (r : Resolver) (className : String) : Bool :=
  r.table.interfaces.any (r.implements className)

/-- The method that runs a handler for a listener of a class. -/
def target? (r : Resolver) (className : String) (h : Handler) : Option Target :=
  (r.hierarchy.dispatch? h.method className).map fun c => ⟨h, methodName c h.method⟩

/-- The methods that run the handlers of a registration for a listener of a class. -/
def targets (r : Resolver) (reg : Registration) (className : String) : List Target :=
  reg.handlers.filterMap (r.target? className)

/-- The handlers of a registration that a class does not implement. -/
def unresolved (r : Resolver) (reg : Registration) (className : String) : List String :=
  (reg.handlers.filter fun h => (r.target? className h).isNone).map (·.method)

end Resolver

end WidgetFlow
