import WidgetFlow.Hierarchy
import WidgetFlow.Intake

/-!
# Fact documents

What a front end writes about one application: its classes and resource ids, the flow events in
program order, and the view bindings of its windows.
-/

namespace WidgetFlow

/-- One flow event. Target and source are the ends of a flow, `op` a recognized operation; a tab
host lookup has a host, a part and a target. -/
structure FlowEvent where
  kind : String := ""
  target : Ref := {}
  source : Ref := {}
  op : Option OpEvent := none
  host : Ref := {}
  part : String := ""
  site : Site := {}
  deriving DecidableEq, Inhabited

/-- The view binding of one window. -/
structure BindingFact where
  window : Ref := {}
  root : Ref := {}
  producers : List Ref := []
  deriving DecidableEq, Inhabited

/-- A fact document. -/
structure Facts where
  classes : List ClassInfo := []
  resources : List (String × Int) := []
  events : List FlowEvent := []
  bindings : List BindingFact := []
  deriving DecidableEq, Inhabited

/-- The class table and the resource ids of a document. -/
def Facts.hierarchy (f : Facts) : Hierarchy := ⟨f.classes, f.resources⟩

end WidgetFlow
