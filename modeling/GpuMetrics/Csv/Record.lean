import GpuMetrics.Text.Blank

/-!
# Records of comma-separated text

A text of bytes is read one byte at a time by a small machine (`Scan.step`). Cells are separated
by commas and records by line feeds or carriage returns; blank lines are skipped. A cell is
**quoted** if its first byte is a quote: it then runs over commas and line ends up to a quote that
is not doubled, and what follows that quote is appended as it is. A quote anywhere else is an
ordinary byte, and the end of the text ends an open quote.

A record knows where reading it began. That is the place after the byte that ended the record
before it, so blank lines lie between that place and the record's first byte.
-/

namespace GpuMetrics.Csv

/-- The bytes of one cell. -/
abbrev Cell := List UInt8

/-- The comma between cells. -/
def comma : UInt8 := 0x2c

/-- The quote around a quoted cell. -/
def quote : UInt8 := 0x22

/-- The line feed. -/
def lineFeed : UInt8 := 0xa

/-- The carriage return. -/
def carriageReturn : UInt8 := 0xd

/-- Whether the byte ends a record. -/
def isRecordEnd (b : UInt8) : Bool := b == lineFeed || b == carriageReturn

/-- A place in the text: bytes before it, and lines begun up to it. -/
structure Position where
  byte : Nat
  line : Nat
  deriving DecidableEq, Repr

/-- The place behind byte `b`. Only line feeds begin a new line. -/
def Position.after (p : Position) (b : UInt8) : Position :=
  ⟨p.byte + 1, if b = lineFeed then p.line + 1 else p.line⟩

/-- The cells of one record and the place where reading it began. -/
structure Record where
  cells : List Cell
  start : Position
  deriving DecidableEq, Repr

/-- What the machine is in the middle of. -/
inductive Mode where
  /-- Between two records. -/
  | betweenRecords
  /-- Before the first byte of a cell. -/
  | cellStart
  /-- In a cell, outside quotes. -/
  | plain
  /-- In a quoted cell. -/
  | quoted
  /-- Behind a quote in a quoted cell, which may be doubled or the last. -/
  | afterQuote
  deriving DecidableEq, Repr

/-- The machine: its mode, the cell and the record under way (last byte and last cell first), and
the places where the record began and where the next byte stands. -/
structure Scan where
  mode : Mode
  cell : List UInt8
  cells : List Cell
  start : Position
  here : Position
  deriving DecidableEq, Repr

namespace Scan

/-- The machine before a text whose first byte stands at `here`. -/
def fresh (here : Position) : Scan := ⟨.betweenRecords, [], [], here, here⟩

/-- The machine with `b` added to the cell under way. -/
def push (s : Scan) (b : UInt8) (mode : Mode) : Scan := { s with mode, cell := b :: s.cell }

/-- The machine behind a comma. -/
def endCell (s : Scan) : Scan :=
  { s with mode := .cellStart, cell := [], cells := s.cell.reverse :: s.cells }

/-- The record under way, ended here. -/
def record (s : Scan) : Record := ⟨(s.cell.reverse :: s.cells).reverse, s.start⟩

/-- The effect of a byte outside quotes: it separates cells, ends the record or joins the cell. -/
def unquoted (s : Scan) (b : UInt8) : Scan × Option Record :=
  if b = comma then (s.endCell, none)
  else if isRecordEnd b then (fresh s.here, some s.record)
  else (s.push b .plain, none)

/-- One byte: the machine behind it and the record that it ends, if it ends one. -/
def step (before : Scan) (b : UInt8) : Scan × Option Record :=
  let s := { before with here := before.here.after b }
  match s.mode with
  | .betweenRecords =>
    if isRecordEnd b then (s, none)
    else if b = quote then ({ s with mode := .quoted }, none)
    else s.unquoted b
  | .cellStart => if b = quote then ({ s with mode := .quoted }, none) else s.unquoted b
  | .plain => s.unquoted b
  | .quoted =>
    if b = quote then ({ s with mode := .afterQuote }, none) else (s.push b .quoted, none)
  | .afterQuote => if b = quote then (s.push b .quoted, none) else s.unquoted b

/-- The record that the end of the text ends. -/
def finish (s : Scan) : List Record :=
  if s.mode = .betweenRecords then [] else [s.record]

/-- The records of the rest of the text. -/
def run (s : Scan) : List UInt8 → List Record
  | [] => s.finish
  | b :: rest =>
    match s.step b with
    | (next, none) => next.run rest
    | (next, some r) => r :: next.run rest

end Scan

/-- The mark with which a text may announce that it is UTF-8. -/
def byteOrderMark : List UInt8 := [0xef, 0xbb, 0xbf]

/-- The records of a text. One byte-order mark at the very start is passed over. -/
def records (text : List UInt8) : List Record :=
  if byteOrderMark.isPrefixOf text then (Scan.fresh ⟨3, 1⟩).run (text.drop 3)
  else (Scan.fresh ⟨0, 1⟩).run text

/-- A record whose width is not that of the first record. -/
structure WidthError where
  /-- The record's number, the first record being number zero. -/
  record : Nat
  /-- Where reading the record began. -/
  start : Position
  expected : Nat
  found : Nat
  deriving DecidableEq, Repr

/-- The wording of a width error. -/
def WidthError.message (e : WidthError) : String :=
  s!"CSV error: record {e.record} (line: {e.start.line}, byte: {e.start.byte}): found record " ++
    s!"with {e.found} fields, but the previous record has {e.expected} fields"

/-- The first record, counted from `number`, that is not `width` wide. -/
def firstMisfit? (width number : Nat) : List Record → Option WidthError
  | [] => none
  | r :: rest =>
    if r.cells.length = width then firstMisfit? width (number + 1) rest
    else some ⟨number, r.start, width, r.cells.length⟩

/-- The cells of a record without ASCII blanks at their ends. -/
def Record.trimmed (r : Record) : List Cell := r.cells.map (Text.trimBy Text.isByteBlank)

/-- The rows of a text, all as wide as the first, with trimmed cells. -/
def rows? (text : List UInt8) : Except WidthError (List (List Cell)) :=
  let all := records text
  match firstMisfit? ((all.head?.map (·.cells.length)).getD 0) 0 all with
  | some e => .error e
  | none => .ok (all.map Record.trimmed)

end GpuMetrics.Csv
