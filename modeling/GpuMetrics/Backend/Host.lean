import GpuMetrics.Backend.Failure

/-!
# The machine that commands run on

A device source sees its machine only through what becomes of a command that it starts. A `Host`
is exactly that: it maps a command name to the outcome of starting it. Replacing the installed
program is replacing the host.
-/

namespace GpuMetrics.Backend

/-- What became of starting a command. -/
inductive Launch where
  /-- It could not be started. -/
  | refused (cause : SystemError)
  /-- It ran to its end and printed these bytes. -/
  | ended (status : ExitStatus) (stdout stderr : List UInt8)
  deriving DecidableEq, Repr

/-- A machine, as far as commands are concerned. -/
structure Host where
  launch : String → Launch

end GpuMetrics.Backend
