import GpuMetrics.Backend.Basic
import GpuMetrics.Binary64.Decimal
import GpuMetrics.Smi.Column

/-!
# The device table

The output of `nvidia-smi` as a table with one row per device. What is wrong with the table as a
whole (rows of different widths, a header without a requested column, the wrong width without a
header) is an error of the table; what is wrong with a single cell is found when that cell is read
and costs only its field.
-/

namespace GpuMetrics.Smi

open Device Backend Log

/-- A table of devices. -/
structure Table where
  layout : Layout
  rows : List (List Csv.Cell)

namespace Table

/-- Reads the output of the command. The first row is the header if one of its cells names a
column; otherwise the rows must be exactly as wide as the request. -/
def ofOutput? (output : List UInt8) : Except BackendError Table :=
  match Csv.rows? output with
  | .error e => .error (.malformed e)
  | .ok [] => .ok ⟨.asRequested, []⟩
  | .ok (first :: rest) =>
    if isHeader first then
      match Layout.ofHeader? first with
      | .error c => .error (.missingColumn c.label)
      | .ok layout => .ok ⟨layout, rest⟩
    else if first.length = Column.all.length then .ok ⟨.asRequested, first :: rest⟩
    else .error (.columnCount Column.all.length first.length)

/-- The number of devices. -/
def count (t : Table) : UInt32 := UInt32.ofNat t.rows.length

/-- The text in one cell. -/
def cell (t : Table) (index : Nat) (column : Column) : Except QueryError String :=
  match t.rows[index]? with
  | none => .error (.noSuchDevice index)
  | some row =>
    match row[t.layout.position column]? with
    | none => .error (.unavailable column.label "column not present")
    | some bytes =>
      match Text.decodeUtf8? bytes with
      | none => .error (.unavailable column.label "not valid UTF-8")
      | some text => .ok text

/-- Whether a cell holds no value: it is empty or has a remark in brackets. -/
def isPlaceholder (text : String) : Bool := text.toList.head?.all (· == '[')

/-- The text in a cell that must hold a value. -/
def text (t : Table) (index : Nat) (column : Column) : Except QueryError String :=
  match t.cell index column with
  | .error e => .error e
  | .ok value =>
    if isPlaceholder value then .error (.unavailable column.label value) else .ok value

/-- The number in a cell. -/
def number (t : Table) (index : Nat) (column : Column) : Except QueryError Binary64 :=
  match t.text index column with
  | .error e => .error e
  | .ok value =>
    match Binary64.ofText? value.toList with
    | some x => .ok x
    | none => .error (.unparsable column.label value)

/-- The identity in a row, its number first and its name last. -/
def identity (t : Table) (index : Nat) : Except QueryError Identity :=
  match t.text index .index with
  | .error e => .error e
  | .ok minorNumber =>
    match t.text index .uuid with
    | .error e => .error e
    | .ok uuid =>
      match t.text index .name with
      | .error e => .error e
      | .ok name => .ok ⟨minorNumber, uuid, name⟩

/-- Memory is printed in units of this many bytes. -/
def bytesPerMebibyte : Nat := 1024 * 1024

/-- Power is printed in watts and exported in thousandths of them. -/
def milliwattsPerWatt : Nat := 1000

/-- A memory cell in bytes. -/
def memoryBytes (t : Table) (index : Nat) (column : Column) : Except QueryError Binary64 :=
  (t.number index column).map (·.scale bytesPerMebibyte)

/-- The memory of a device. With one side missing the other is still good, and the missing one is
noted; only without either is the reading as a whole unavailable. -/
def memory (t : Table) (index : Nat) : Noted (Except QueryError Memory) :=
  match t.memoryBytes index .memoryUsed, t.memoryBytes index .memoryTotal with
  | .error e, .error _ => ⟨.error e, []⟩
  | .ok used, .error e =>
    ⟨.ok ⟨some used, none⟩, [.memorySideUnavailable index .total e]⟩
  | .error e, .ok total =>
    ⟨.ok ⟨none, some total⟩, [.memorySideUnavailable index .used e]⟩
  | .ok used, .ok total => ⟨.ok ⟨some used, some total⟩, []⟩

/-- The column that holds a reading. -/
def readingColumn : Reading → Column
  | .utilization => .utilization
  | .power => .powerDraw
  | .temperature => .temperature
  | .fanSpeed => .fanSpeed

/-- A single-number reading of a device. -/
def reading (t : Table) (r : Reading) (index : Nat) : Except QueryError Binary64 :=
  let value := t.number index (readingColumn r)
  match r with
  | .power => value.map (·.scale milliwattsPerWatt)
  | _ => value

/-- The table as the devices of one scrape. -/
def snapshot (t : Table) : Snapshot where
  count := .ok t.count
  identity := t.identity
  memory := t.memory
  reading := t.reading

end Table

end GpuMetrics.Smi
