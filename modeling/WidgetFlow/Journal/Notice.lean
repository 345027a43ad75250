import WidgetFlow.Fault
import WidgetFlow.Graph.Store

/-!
# Notices

What happened during an analysis that someone may want to know. The parts of the analysis only say
what happened; which of it is logged, at what level and in which words, and which of it is counted,
is decided elsewhere.
-/

namespace WidgetFlow

/-- What became of a request to wire a listener. -/
inductive WiringOutcome where
  | wired
  | repeated
  | skipped
  deriving DecidableEq, Inhabited

/-- Something that happened during an analysis. -/
inductive Notice where
  -- closures
  | closureComputed (forward : Bool)
  -- classification
  | unclassifiedFlow (strict : Bool) (object op role : String)
  -- listeners
  | flushing (round registrations wirings : Nat)
  | handlersUnresolved (className : String) (methods : List String)
  | wiring (outcome : WiringOutcome)
  -- construction
  | eventSkipped (event : String) (fault : Fault)
  | operationCreated (op : NodeId) (kind : String) (site : Site)
  | overrideWired (view handler : String)
  | graphComplete (stats : GraphStats)
  -- facts
  | bindingSkipped (window : String) (fault : Fault)
  | rootSkipped (window : String) (fault : Fault)
  | operationMissing (site : Site)
  | eventUnknown (kind : String) (site : Site)
  | factsReplayed (events bindings : Nat)
  -- solving
  | passStarted (index total : Nat) (name : String)
  | passEnded (name : String)
  | passFinished (index total : Nat) (name : String)
  | windowsPrewired (edges : Nat)
  | producersClosed (count : Nat)
  | windowOutsideReceiver (window op : String)
  | windowIgnored (window op : String)
  | listenersFound (count : Nat)
  | handlersWired (wired memoHits edges : Nat)
  | mapSize (name : String) (pairs : Nat)
  | graphSize (stats : GraphStats)
  | cacheUsed (closures hits : Nat)
  -- analysis
  | analysisStarted (reason facts : String)
  | factsLoading (steps : Nat)
  | factsLoaded (steps classes events registrations : Nat)
  | graphBuilding (steps : Nat)
  | phaseEnded (name : String)
  | listenersResolving (steps : Nat)
  | cyclesFound (steps count : Nat)
  | solvingStarted (steps : Nat)
  | solutionFound (steps receivers parameters listeners : Nat)
  | analysisComplete (reason : String) (nodes edges : Nat)
  -- command line
  | metricsWritten (path : String)
  | watchStarted (files directories : Nat)
  | watching (facts : String)
  | inputChanged (path type op : String)
  | changesFlushed (count : Nat)
  | inputsChanged (type : String) (paths : Nat)
  | rerunFailed (message : String)
  | metricsFailed (message : String)
  deriving DecidableEq, Inhabited

end WidgetFlow
