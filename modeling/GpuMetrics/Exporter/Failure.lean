import GpuMetrics.Config.Basic

/-!
# Failures of the program

The program fails because it has no configuration, because its collectors cannot be built, or
because its server failed. The report on a failure names what failed and then, where the failure
has a cause of its own, that cause.
-/

namespace GpuMetrics

/-- The wording of what caused an error, where that is told apart from the error. -/
def ConfigError.cause? : ConfigError → Option String
  | .unreadable cause => some cause.message
  | .malformed => some "not a well-formed document"
  | .misshapen cause => some cause.message
  | .invalid _ => none

/-- The wording of what caused a failure, where that is told apart from the failure. -/
def Collector.CollectorError.cause? : CollectorError → Option String
  | .metric cause => some cause.message
  | .backend (.notStarted _ cause) => some cause.message
  | .backend (.malformed cause) => some cause.message
  | _ => none

namespace Exporter

/-- Why the program failed. -/
inductive Failure where
  | config (cause : ConfigError)
  | collectors (cause : Collector.CollectorError)
  /-- The server failed, and this is its own report. -/
  | server (report : String)
  /-- The server's task crashed, and this is the report on it. -/
  | serverTask (report : String)
  deriving DecidableEq, Repr

namespace Failure

/-- The wording of a failure. -/
def message : Failure → String
  | .config cause => cause.message
  | .collectors cause => cause.message
  | .server report => report
  | .serverTask report => s!"HTTP server task failed: {report}"

/-- The wording of what caused a failure. -/
def cause? : Failure → Option String
  | .config cause => cause.cause?
  | .collectors cause => cause.cause?
  | .server _ => none
  | .serverTask _ => none

/-- A text with every line indented by four spaces. -/
def indented (text : String) : String :=
  String.intercalate "\n" ((text.splitOn "\n").map fun line => "    " ++ line)

/-- The report on a failure. -/
def report (f : Failure) : String :=
  s!"Error: {f.message}\n" ++
    match f.cause? with
    | none => ""
    | some cause => "\nCaused by:\n" ++ indented cause ++ "\n"

end Failure

end Exporter

end GpuMetrics
