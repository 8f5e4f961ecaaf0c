import GpuMetrics.Csv.Record
import GpuMetrics.Text.Utf8

/-!
# The columns of the device table

The fourteen columns that are requested from `nvidia-smi`, and where they stand in the rows that
come back. The command may print a header row, in which a name can carry a unit in brackets and
the clock columns have longer names than those they are requested under. A **layout** says at which
position of a row each column stands.
-/

namespace GpuMetrics.Smi

/-- A requested column. -/
inductive Column where
  | name
  | index
  | uuid
  | fanSpeed
  | temperature
  | graphicsClock
  | multiprocessorClock
  | memoryClock
  | powerDraw
  | utilization
  | memoryUtilization
  | memoryTotal
  | memoryFree
  | memoryUsed
  deriving DecidableEq, Repr

namespace Column

/-- The columns in the order in which they are requested. -/
def all : List Column :=
  [.name, .index, .uuid, .fanSpeed, .temperature, .graphicsClock, .multiprocessorClock,
   .memoryClock, .powerDraw, .utilization, .memoryUtilization, .memoryTotal, .memoryFree,
   .memoryUsed]

/-- Every column is requested. -/
theorem mem_all (c : Column) : c ∈ all := by cases c <;> decide

/-- The name under which a column is requested. -/
def label : Column → String
  | .name => "name"
  | .index => "index"
  | .uuid => "uuid"
  | .fanSpeed => "fan.speed"
  | .temperature => "temperature.gpu"
  | .graphicsClock => "clocks.gr"
  | .multiprocessorClock => "clocks.sm"
  | .memoryClock => "clocks.mem"
  | .powerDraw => "power.draw"
  | .utilization => "utilization.gpu"
  | .memoryUtilization => "utilization.memory"
  | .memoryTotal => "memory.total"
  | .memoryFree => "memory.free"
  | .memoryUsed => "memory.used"

/-- Different columns are requested under different names. -/
theorem label_injective {a b : Column} (h : a.label = b.label) : a = b := by
  cases a <;> cases b <;> first | rfl | exact absurd h (by decide)

end Column

/-- The name that a header cell stands for: what precedes a bracket, without blanks around it and
with the long names of the clock columns shortened. -/
def normalizeHeader (cell : String) : String :=
  let name := Text.trim (String.ofList (cell.toList.takeWhile (· ≠ '[')))
  if name = "clocks.current.graphics" then "clocks.gr"
  else if name = "clocks.current.sm" then "clocks.sm"
  else if name = "clocks.current.memory" then "clocks.mem"
  else name

/-- The name in a header cell. A cell that is not text names nothing. -/
def headerName (cell : Csv.Cell) : String :=
  match Text.decodeUtf8? cell with
  | some text => normalizeHeader text
  | none => ""

/-- The column that a header cell names. -/
def Column.ofCell? (cell : Csv.Cell) : Option Column :=
  Column.all.find? (·.label = headerName cell)

/-- Whether a row is a header: one of its cells names a column. -/
def isHeader (row : List Csv.Cell) : Bool := row.any fun cell => (Column.ofCell? cell).isSome

/-- The position of each column in the rows of a table. -/
structure Layout where
  position : Column → Nat

/-- The layout that a header gives: each column stands where it is first named. A column that is
never named is the error, the first such column in the order of the request. -/
def Layout.ofHeader? (header : List Csv.Cell) : Except Column Layout :=
  let names := header.map Column.ofCell?
  match Column.all.find? (fun c => !names.contains (some c)) with
  | some c => .error c
  | none => .ok ⟨fun c => names.idxOf (some c)⟩

/-- The layout of rows in the order of the request. -/
def Layout.asRequested : Layout := ⟨fun c => Column.all.idxOf c⟩

end GpuMetrics.Smi
