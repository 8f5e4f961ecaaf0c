import GpuMetrics.Backend.Failure
import GpuMetrics.Metric.Sample

/-!
# Failures of collectors

A collector fails because its device source failed or because a metric was refused; the registry
adds the two failures about names.
-/

namespace GpuMetrics.Collector

/-- Why a collector, or building one, failed. -/
inductive CollectorError where
  | backend (cause : Backend.BackendError)
  | metric (cause : Metric.MetricError)
  /-- No collector is registered under the name. -/
  | unknown (name : String)
  /-- A collector is already registered under the name. -/
  | duplicate (name : String)
  deriving DecidableEq, Repr

/-- The wording of a failure. A failed device source speaks for itself. -/
def CollectorError.message : CollectorError → String
  | .backend cause => cause.message
  | .metric cause => s!"Metric error: {cause.message}"
  | .unknown name => s!"Unknown collector: {name}"
  | .duplicate name => s!"Collector already registered: {name}"

end GpuMetrics.Collector
