import GpuMetrics.Exporter.Run

/-!
# The command

Reads the arguments, the configuration file and the environment, makes one run of the program and
writes what it leaves behind. The machine that the command stands for has neither commands nor a
network, so a run gets as far as binding its address.
-/

open GpuMetrics Backend Exporter

/-- What reading a file by name comes to. -/
def readFileBytes (path : String) : IO (Except SystemError (List UInt8)) := do
  try
    let bytes ← IO.FS.readBinFile path
    return .ok bytes.toList
  catch
    | .permissionDenied .. => return .error .permissionDenied
    | .inappropriateType _ 20 _ => return .error .notDirectory
    | .inappropriateType .. => return .error .isDirectory
    | .invalidArgument _ 36 _ => return .error .nameTooLong
    | _ => return .error .notFound

/-- The file that the arguments name, if they name one. -/
def configPath? (arguments : List String) : Option String :=
  match Command.ofArguments? arguments with
  | .ok (.run options) => options.config
  | _ => none

/-- A machine without commands. -/
def noCommands : Host := ⟨fun _ => .refused .notFound⟩

/-- A network that refuses every address. -/
def noNetwork : Http.Network := ⟨fun _ => .error .unsupported, false⟩

/-- Writes an outcome and ends with its exit code. -/
def deliver (outcome : Outcome) : IO UInt32 := do
  match outcome with
  | .answered text => IO.println text
  | .refused cause => IO.eprintln cause.report
  | .ran report =>
    for line in report.log do
      IO.println line
    IO.eprint report.errorText
  return UInt32.ofNat outcome.exitCode

/-- Runs the program with the given arguments. -/
def main (arguments : List String) : IO UInt32 := do
  let file ← match configPath? arguments with
    | some path => readFileBytes path
    | none => pure (.error .notFound)
  let env : Environment :=
    { contents := fun _ => file
      host := noCommands
      network := noNetwork
      logFilter := ← IO.getEnv "RUST_LOG"
      elapsed := fun _ => Binary64.zero
      serverTask := 1 }
  deliver (run env ⟨[], .terminate⟩ arguments)
