import GpuMetrics.Smi.Table

/-!
# The command-line device source

Runs `nvidia-smi` once per scrape and serves every field of every device from the table that it
prints. There is nothing to release: the source is the same before and after.
-/

namespace GpuMetrics.Smi

open Backend Log

/-- What the source is called. -/
def backendName : String := "nvidia-smi"

/-- The command that is run unless another one is configured. -/
def defaultCommand : String := "nvidia-smi"

/-- The arguments of the command: the columns in the order of the request, as bare values. -/
def arguments : List String :=
  ["--query-gpu=" ++ String.intercalate "," (Column.all.map Column.label), "--format=csv,nounits"]

/-- Runs the command and reads its table. A command that ended badly is a failure whatever it
printed; its error output is part of the report. -/
def query (command : String) (host : Host) : Noted (Except BackendError Table) :=
  match host.launch command with
  | .refused cause => ⟨.error (.notStarted command cause), []⟩
  | .ended status stdout stderr =>
    if status.isSuccess then
      match Table.ofOutput? stdout with
      | .error e => ⟨.error e, [.outputReceived stdout.length]⟩
      | .ok table =>
        ⟨.ok table, [.outputReceived stdout.length, .tableParsed table.rows.length]⟩
    else ⟨.error (.commandFailed command status (Text.trim (Text.decodeLossy stderr))), []⟩

/-- The source that runs the given command. -/
def backend (command : String) : Backend where
  name := backendName
  query host _ :=
    let answer := query command host
    ⟨answer.value.map Table.snapshot, answer.events⟩
  release _ := ⟨.ok (), []⟩

end GpuMetrics.Smi
