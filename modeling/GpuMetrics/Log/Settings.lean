/-!
# Log settings

Which events are logged, as the text of a filter, and in which form.
-/

namespace GpuMetrics.Log

/-- The form of log lines. -/
inductive Format where
  /-- Lines to read. -/
  | text
  /-- One JSON object per line. -/
  | json
  deriving DecidableEq, Repr

/-- Log settings. -/
structure Settings where
  /-- A level or a list of filter directives. -/
  level : String := "info"
  format : Format := .text
  deriving DecidableEq, Repr

end GpuMetrics.Log
