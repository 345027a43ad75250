import WidgetFlow.Analysis
import WidgetFlow.Classification
import WidgetFlow.Command.Console
import WidgetFlow.Command.Invocation
import WidgetFlow.Command.Job
import WidgetFlow.Command.Run
import WidgetFlow.Command.Suggestion
import WidgetFlow.Component
import WidgetFlow.Decimal.Binary
import WidgetFlow.Decimal.Fraction
import WidgetFlow.Decimal.Shortest
import WidgetFlow.Decimal.Word
import WidgetFlow.Facts.Document
import WidgetFlow.Facts.Reader
import WidgetFlow.Facts.Replay
import WidgetFlow.Fault
import WidgetFlow.Files
import WidgetFlow.Graph.Closure
import WidgetFlow.Graph.ClosureCache
import WidgetFlow.Graph.Cycle
import WidgetFlow.Graph.Node
import WidgetFlow.Graph.NodeSet
import WidgetFlow.Graph.Operands
import WidgetFlow.Graph.Store
import WidgetFlow.Graph.View
import WidgetFlow.Graph.Window
import WidgetFlow.Hierarchy
import WidgetFlow.Intake
import WidgetFlow.Journal.Notice
import WidgetFlow.Journal.Wording
import WidgetFlow.Json.Value
import WidgetFlow.Listener.Builtin
import WidgetFlow.Listener.Dispatch
import WidgetFlow.Listener.Resolver
import WidgetFlow.Listener.Table
import WidgetFlow.Log.Call
import WidgetFlow.Log.Level
import WidgetFlow.Log.Line
import WidgetFlow.Log.Value
import WidgetFlow.Main
import WidgetFlow.Metrics.Exposition
import WidgetFlow.Metrics.Series
import WidgetFlow.Operation
import WidgetFlow.Program.Kind
import WidgetFlow.Program.Ref
import WidgetFlow.Program.Site
import WidgetFlow.Proofs.Graph.Entries
import WidgetFlow.Proofs.Graph.Flow
import WidgetFlow.Proofs.Graph.Naming
import WidgetFlow.Proofs.Graph.Requests
import WidgetFlow.Proofs.Graph.WellFormed
import WidgetFlow.Proofs.Listener.Deferred
import WidgetFlow.Proofs.Listener.Feeds
import WidgetFlow.Proofs.Listener.Interleaving
import WidgetFlow.Proofs.Listener.Interrupted
import WidgetFlow.Proofs.Listener.Paced
import WidgetFlow.Proofs.Search
import WidgetFlow.Proofs.Solver.Exactness
import WidgetFlow.Proofs.Solver.Findings
import WidgetFlow.Proofs.Solver.Passes
import WidgetFlow.Proofs.Solver.Quiet
import WidgetFlow.Proofs.Solver.Recording
import WidgetFlow.Proofs.Solver.Run
import WidgetFlow.Proofs.Solver.Wiring
import WidgetFlow.Proofs.Workspace.RoleContract
import WidgetFlow.Proofs.Workspace.Serving
import WidgetFlow.Proofs.Workspace.Triple
import WidgetFlow.Report
import WidgetFlow.Report.Document
import WidgetFlow.Report.Printed
import WidgetFlow.Search
import WidgetFlow.Settings.Flag
import WidgetFlow.Settings.Key
import WidgetFlow.Settings.Layers
import WidgetFlow.Settings.Value
import WidgetFlow.Solver.Passes
import WidgetFlow.Solver.Relation
import WidgetFlow.Solver.Solution
import WidgetFlow.Text.Case
import WidgetFlow.Text.Cut
import WidgetFlow.Text.Literal
import WidgetFlow.Text.Order
import WidgetFlow.Text.Printable
import WidgetFlow.Text.Quoted
import WidgetFlow.Time.Duration
import WidgetFlow.Time.Stamp
import WidgetFlow.Toml.Document
import WidgetFlow.Toml.Names
import WidgetFlow.Toml.Scalar
import WidgetFlow.Toml.Text
import WidgetFlow.Watch.Change
import WidgetFlow.Watch.Debounce
import WidgetFlow.Workspace
import WidgetFlow.Yaml.Cursor
import WidgetFlow.Yaml.Decode
import WidgetFlow.Yaml.Scalar
import WidgetFlow.Yaml.Token
import WidgetFlow.Yaml.Tree
import WidgetFlow.Proofs.Listener.FirstEntry
import WidgetFlow.Proofs.Solver.Alike
import WidgetFlow.Proofs.Solver.Again
import WidgetFlow.Proofs.Solver.Strictness
import WidgetFlow.Proofs.Workspace.Lasting
import WidgetFlow.Proofs.Workspace.Readiness
import WidgetFlow.Proofs.Solver.SharedCache
import WidgetFlow.Proofs.Solver.Workers
import WidgetFlow.Proofs.Facts.Reordering
import WidgetFlow.Proofs.Workspace.AppendOnly
import WidgetFlow.Proofs.Graph.Sharing
import WidgetFlow.Proofs.Graph.Transactions
import WidgetFlow.Proofs.Graph.Closures
import WidgetFlow.Proofs.Component
import WidgetFlow.Proofs.Graph.RecursiveFlows
import WidgetFlow.Proofs.Listener.Resolution
import WidgetFlow.Proofs.Workspace.Skipped
import WidgetFlow.Proofs.Facts.Breaches
import WidgetFlow.Proofs.Workspace.Accounting
import WidgetFlow.Proofs.Workspace.Overrides
import WidgetFlow.Proofs.Facts.Overridden
import WidgetFlow.Proofs.Workspace.Menus
import WidgetFlow.Proofs.Ascending
import WidgetFlow.Proofs.Hierarchy.Subtypes
import WidgetFlow.Proofs.Hierarchy.Dispatch
import WidgetFlow.Proofs.Listener.Table
import WidgetFlow.Proofs.Listener.Types
import WidgetFlow.Proofs.Watch.Debounce
import WidgetFlow.Proofs.Graph.Neighbours
import WidgetFlow.Proofs.Solver.Bindings
import WidgetFlow.Proofs.Report
import WidgetFlow.Proofs.Settings.CommandLine
import WidgetFlow.Proofs.Settings.Layers
import WidgetFlow.Proofs.Text.Quoted
import WidgetFlow.Proofs.Log.Line
