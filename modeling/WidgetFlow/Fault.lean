import WidgetFlow.Program.Site
import WidgetFlow.Text.Quoted

/-!
# Faults

Why a request on the flow graph is refused, and where it was made. A fault is a cause inside any
number of stages; `Fault.message` gives the wording, outermost stage first, and `Fault.cause`
forgets the stages. Unresolved entities make a flow be skipped; all other causes end the work.
-/

namespace WidgetFlow

/-- The number of a node of the flow graph. Nodes are numbered from one; zero names none. -/
abbrev NodeId := Int

/-- How a request breaks the operand contract of an operation. -/
inductive Breach where
  | edgesFixed
  | undeclaredOperand
  | missingOperand
  | operandIsOperation
  | invalidResult
  | notAnOperation
  | undeclaredRole
  | missingOperandEdge
  | noOperation
  | unknownInterface (interface : String)
  | unknownKind (word : String)
  | endIsOperation (what : String)
  deriving DecidableEq, Inhabited

/-- The wording for an operation kind that does not exist. -/
def unknownKindText (word : String) : String :=
  "unknown operation kind " ++ Text.quoted word

/-- The reason a breach gives; a role that is simply not declared needs none. -/
def Breach.reason? : Breach → Option String
  | edgesFixed => some "operation edges are fixed at creation"
  | undeclaredOperand => some "operand supplied for undeclared role"
  | missingOperand => some "missing operand"
  | operandIsOperation => some "operand is an operation"
  | invalidResult => some "invalid result"
  | notAnOperation => some "not an operation"
  | undeclaredRole => none
  | missingOperandEdge => some "missing operand edge"
  | noOperation => some "listener task without an operation"
  | unknownInterface i => some ("unknown listener interface " ++ Text.quoted i)
  | unknownKind w => some (unknownKindText w)
  | endIsOperation what => some (what ++ " is an operation")

/-- What was being done when a fault arose. -/
inductive Stage where
  | event (word : String) (site : Site)
  | wiring (method : String)
  | window (id : NodeId)
  | completion
  | pass (name : String)
  | replay (index : Nat) (kind : String)
  | building
  | solving
  deriving DecidableEq, Inhabited

/-- The wording of a stage. -/
def Stage.text : Stage → String
  | event word site => word ++ " at " ++ site.text
  | wiring method => "wire " ++ method
  | window id => "window " ++ toString id
  | completion => "complete graph"
  | pass name => name ++ " pass"
  | replay index kind => "event " ++ toString index ++ " (" ++ kind ++ ")"
  | building => "build graph"
  | solving => "solve"

/-- Why a request is refused. -/
inductive Fault where
  | unresolved (entity detail : String)
  | contract (op : NodeId) (kind role : String) (breach : Breach)
  | unclassified (producer : NodeId) (object : String) (operation : NodeId) (op role : String)
  | canceled
  | unknownKind (word : String)
  | unknownEdge (src dst : NodeId)
  | notWindow (id : NodeId)
  | unknownEnd (what : String) (id : NodeId)
  | unknownListener (op listener : NodeId)
  | within (stage : Stage) (inner : Fault)
  deriving DecidableEq, Inhabited

namespace Fault

/-- The wording of a fault, stages included. -/
def message : Fault → String
  | unresolved entity detail => "unresolved " ++ entity ++ ": " ++ detail
  | contract op kind role breach =>
    match breach.reason? with
    | some reason =>
      "contract violation on " ++ kind ++ " op " ++ toString op ++ " role " ++ role ++ ": " ++ reason
    | none =>
      "contract violation: " ++ kind ++ " op " ++ toString op ++ " does not declare role " ++ role
  | unclassified producer object operation op role =>
    "unclassified flow: " ++ object ++ " producer " ++ toString producer ++ " reaches " ++ role
      ++ " of " ++ op ++ " op " ++ toString operation
  | canceled => "context canceled"
  | unknownKind word => unknownKindText word
  | unknownEdge src dst => "add edge " ++ toString src ++ " -> " ++ toString dst ++ ": unknown node"
  | notWindow id => "node " ++ toString id ++ " is not a window"
  | unknownEnd what id => what ++ ": unknown node " ++ toString id
  | unknownListener op listener =>
    "wire op " ++ toString op ++ ": unknown listener node " ++ toString listener
  | within stage inner => stage.text ++ ": " ++ inner.message

/-- The fault without the stages it passed through. -/
def cause : Fault → Fault
  | within _ inner => inner.cause
  | f => f

/-- The fault names an entity that cannot be resolved, so that only its flow is skipped. -/
def isUnresolved (f : Fault) : Bool :=
  match f.cause with
  | unresolved .. => true
  | _ => false

end Fault

end WidgetFlow
