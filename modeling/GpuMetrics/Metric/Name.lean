/-!
# Names of metrics and labels

A metric name is built from a namespace, a subsystem and a name, joined by underscores. Metric
names match `[a-zA-Z_:][a-zA-Z0-9_:]*`; label names match the same without colons, and a leading
`__` is reserved.
-/

namespace GpuMetrics.Metric

/-- The qualified name of a metric. Empty components are left out; without a name of its own the
metric has no qualified name either. -/
def qualifiedName (ns subsystem name : String) : String :=
  if name = "" then ""
  else String.intercalate "_" ([ns, subsystem, name].filter (· ≠ ""))

/-- A character with which a metric name may start. -/
def isNameStart (c : Char) : Bool := c.isAlpha || c == '_' || c == ':'

/-- A character that may stand anywhere in a metric name. -/
def isNameChar (c : Char) : Bool := c.isAlphanum || c == '_' || c == ':'

/-- Whether the text is a metric name. -/
def isMetricName (s : String) : Bool :=
  match s.toList with
  | [] => false
  | first :: rest => isNameStart first && rest.all isNameChar

/-- A character that may stand anywhere in a label name. -/
def isLabelChar (c : Char) : Bool := c.isAlphanum || c == '_'

/-- Whether the text is a label name that is free for use. -/
def isLabelName (s : String) : Bool :=
  match s.toList with
  | [] => false
  | first :: rest =>
    (first.isAlpha || first == '_') && !(first == '_' && rest.head? == some '_')
      && rest.all isLabelChar

end GpuMetrics.Metric
