import GpuMetrics.Binary64.Basic
import GpuMetrics.Metric.Name

/-!
# Metric families and samples

A **descriptor** says once what a metric family is called, what it means and which labels its
samples carry; its names are valid by construction. A **sample** is one value of a family together
with one value for each of the family's labels.
-/

namespace GpuMetrics.Metric

/-- Why a descriptor or a sample was refused. -/
inductive MetricError where
  /-- The family's name is not a metric name. -/
  | badName (name : String)
  /-- One of the family's labels is not a label name. -/
  | badLabel (name label : String)
  /-- A sample has too few or too many label values. -/
  | labelCount (metric : String) (expected actual : Nat)
  deriving DecidableEq, Repr

/-- The wording of a refusal. -/
def MetricError.message : MetricError → String
  | .badName name => s!"Invalid metric name: {name}"
  | .badLabel name label => s!"Invalid metric name: {name}: bad label '{label}'"
  | .labelCount metric expected actual =>
    s!"Metric {metric} expects {expected} label values, got {actual}"

/-- What kind of quantity a family measures. -/
inductive Kind where
  /-- A value that can go up and down. -/
  | gauge
  deriving DecidableEq, Repr

/-- The kind as it is written in the exposition. -/
def Kind.word : Kind → String
  | .gauge => "gauge"

/-- The description of a metric family. -/
structure Descriptor where
  name : String
  help : String
  kind : Kind
  labelNames : List String
  name_valid : isMetricName name = true
  labels_valid : labelNames.all isLabelName = true

/-- The descriptor with the given parts. A bad name is reported before a bad label, and of several
bad labels the first. -/
def Descriptor.ofParts? (name help : String) (labelNames : List String) :
    Except MetricError Descriptor :=
  if name_valid : isMetricName name = true then
    if labels_valid : labelNames.all isLabelName = true then
      .ok ⟨name, help, .gauge, labelNames, name_valid, labels_valid⟩
    else .error (.badLabel name ((labelNames.find? (!isLabelName ·)).getD ""))
  else .error (.badName name)

/-- One value of a metric family. -/
structure Sample where
  descriptor : Descriptor
  labelValues : List String
  value : Binary64
  arity : labelValues.length = descriptor.labelNames.length

/-- The sample of a family with the given label values, which must be as many as the family has
labels. -/
def Sample.ofParts? (descriptor : Descriptor) (labelValues : List String) (value : Binary64) :
    Except MetricError Sample :=
  if arity : labelValues.length = descriptor.labelNames.length then
    .ok ⟨descriptor, labelValues, value, arity⟩
  else
    .error (.labelCount descriptor.name descriptor.labelNames.length labelValues.length)

/-- The name of the family that the sample belongs to. -/
def Sample.name (s : Sample) : String := s.descriptor.name

/-- The labels in the order of the descriptor, each with its value. -/
def Sample.labels (s : Sample) : List (String × String) :=
  s.descriptor.labelNames.zip s.labelValues

/-- The value of the first label of the given name. -/
def Sample.label? (s : Sample) (name : String) : Option String := s.labels.lookup name

end GpuMetrics.Metric
