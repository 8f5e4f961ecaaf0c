import GpuMetrics.Csv.Record

/-!
# Failures of a device source

A device source fails as a whole when it cannot be started, when its command ends badly, or when
what it prints is not the expected table. Such a failure fails the scrape, not just one sample.
-/

namespace GpuMetrics.Backend

/-- Why the system refused a request. -/
inductive SystemError where
  /-- The file does not exist. -/
  | notFound
  /-- The file, or the port, may not be used. -/
  | permissionDenied
  /-- The address is taken. -/
  | addressInUse
  /-- The address does not belong to this machine. -/
  | addressNotAvailable
  /-- A command name with a zero byte in it. -/
  | zeroByte
  /-- A file that is not UTF-8 text. -/
  | invalidUtf8
  /-- A directory where a file was asked for. -/
  | isDirectory
  /-- A file where a directory was asked for. -/
  | notDirectory
  /-- A path, or a name on it, with too many bytes. -/
  | nameTooLong
  /-- The machine cannot do what was asked for. -/
  | unsupported
  deriving DecidableEq, Repr

/-- The wording of a refusal. -/
def SystemError.message : SystemError → String
  | .notFound => "No such file or directory (os error 2)"
  | .permissionDenied => "Permission denied (os error 13)"
  | .addressInUse => "Address already in use (os error 98)"
  | .addressNotAvailable => "Cannot assign requested address (os error 99)"
  | .zeroByte => "nul byte found in provided data"
  | .invalidUtf8 => "stream did not contain valid UTF-8"
  | .isDirectory => "Is a directory (os error 21)"
  | .notDirectory => "Not a directory (os error 20)"
  | .nameTooLong => "File name too long (os error 36)"
  | .unsupported => "Function not implemented (os error 38)"

/-- How a command ended. -/
inductive ExitStatus where
  /-- It exited with this code. -/
  | exited (code : Nat)
  /-- It was ended by this signal. -/
  | signaled (signal : Nat)
  deriving DecidableEq, Repr

/-- Whether the command ended well. -/
def ExitStatus.isSuccess : ExitStatus → Bool
  | .exited 0 => true
  | _ => false

/-- The names of the signals that can end a command, by number from one. -/
def signalNames : List String :=
  ["SIGHUP", "SIGINT", "SIGQUIT", "SIGILL", "SIGTRAP", "SIGABRT", "SIGBUS", "SIGFPE", "SIGKILL",
   "SIGUSR1", "SIGSEGV", "SIGUSR2", "SIGPIPE", "SIGALRM", "SIGTERM", "SIGSTKFLT", "SIGCHLD",
   "SIGCONT", "SIGSTOP", "SIGTSTP", "SIGTTIN", "SIGTTOU", "SIGURG", "SIGXCPU", "SIGXFSZ",
   "SIGVTALRM", "SIGPROF", "SIGWINCH", "SIGIO", "SIGPWR", "SIGSYS"]

/-- The wording of an exit status. -/
def ExitStatus.message : ExitStatus → String
  | .exited code => s!"exit status: {code}"
  | .signaled signal =>
    match signal with
    | 0 => "signal: 0"
    | n + 1 =>
      match signalNames[n]? with
      | some name => s!"signal: {signal} ({name})"
      | none => s!"signal: {signal}"

/-- Why a device source failed as a whole. -/
inductive BackendError where
  /-- The source could not be set up. -/
  | initFailed (backend reason : String)
  /-- The command could not be started. -/
  | notStarted (command : String) (cause : SystemError)
  /-- The command ran and ended badly. -/
  | commandFailed (command : String) (status : ExitStatus) (stderr : String)
  /-- The rows of the table differ in width. -/
  | malformed (cause : Csv.WidthError)
  /-- The header lacks a requested column. -/
  | missingColumn (column : String)
  /-- A table without a header has the wrong width. -/
  | columnCount (expected actual : Nat)
  /-- The source has been released. -/
  | released (backend : String)
  /-- The source could not be released. -/
  | releaseFailed (backend reason : String)
  deriving DecidableEq, Repr

/-- The wording of a failure. -/
def BackendError.message : BackendError → String
  | .initFailed backend reason => s!"failed to initialize {backend}: {reason}"
  | .notStarted command cause => s!"failed to run '{command}': {cause.message}"
  | .commandFailed command status stderr => s!"'{command}' exited with {status.message}: {stderr}"
  | .malformed cause => s!"malformed nvidia-smi output: {cause.message}"
  | .missingColumn column => s!"nvidia-smi output is missing column '{column}'"
  | .columnCount expected actual =>
    s!"nvidia-smi output has {actual} columns, expected {expected}"
  | .released backend => s!"{backend} backend has been shut down"
  | .releaseFailed backend reason => s!"failed to shut down {backend}: {reason}"

end GpuMetrics.Backend
