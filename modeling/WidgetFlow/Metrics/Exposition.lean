import WidgetFlow.Decimal.Shortest
import WidgetFlow.Metrics.Series

/-!
# The metrics file

Metrics as a text file for a collector: for every metric that has a series a line of help, a line
with its type and a line for each series. Of a histogram only the number of observations is known
here; how long each phase took is not part of an analysis.
-/

namespace WidgetFlow.Metrics

/-- The word for a type. -/
def MetricType.name : MetricType → String
  | gauge => "gauge"
  | counter => "counter"
  | histogram => "histogram"

/-- A label value between quotes; backslashes, quotes and line ends are escaped. -/
def labelText (v : String) : String :=
  let escape : Char → List Char
    | '\\' => ['\\', '\\']
    | '"' => ['\\', '"']
    | '\n' => ['\\', 'n']
    | c => [c]
  String.ofList ('"' :: v.toList.flatMap escape ++ ['"'])

/-- The line of a series. -/
def Series.line (s : Series) (v : Nat) : String :=
  let tail := if s.metric.type = .histogram then "_count" else ""
  let labels := s.labels.map fun (k, v) => k ++ "=" ++ labelText v
  let braces := if labels.isEmpty then "" else "\x7b" ++ ",".intercalate labels ++ "\x7d"
  s.metric.name ++ tail ++ braces ++ " " ++ Decimal.generalText (Float.ofNat v)

/-- The lines of the metrics file. -/
def Registry.lines (r : Registry) : List String :=
  Metric.all.flatMap fun m =>
    match r.ofMetric m with
    | [] => []
    | series =>
      ("# HELP " ++ m.name ++ " " ++ m.help) :: ("# TYPE " ++ m.name ++ " " ++ m.type.name)
        :: series.map fun (s, v) => s.line v

/-- The metrics file. -/
def Registry.text (r : Registry) : String :=
  String.join (r.lines.map (· ++ "\n"))

end WidgetFlow.Metrics
