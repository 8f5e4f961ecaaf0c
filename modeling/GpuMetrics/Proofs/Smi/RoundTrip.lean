import GpuMetrics.Proofs.Csv.Quoted
import GpuMetrics.Proofs.Smi.Header
import GpuMetrics.Smi.Table

/-!
# The device table is read back from its lines

A table is asked for the fields of a device by its index, and has to find the row, the position of
a column in it and the cell at that position. What it answers is said here of the cells alone
(`GpuMetrics.Smi.identityOf`, `GpuMetrics.Smi.memoryOf`, `GpuMetrics.Smi.readingOf`): two lemmas
settle which cell is found, and every query is then the corresponding function of its own cells.

The main statement, `GpuMetrics.Smi.snapshot_of_write`, is about the lines of such a table. Whatever
order the columns are in and whatever else is in the header, the answers about a device are those
of the cells in its own row, in the columns that the header names first.
-/

namespace GpuMetrics.Smi

open Backend Csv Device Log

/-! ### What cells say -/

/-- The text in a cell of a column that must hold a value. -/
def textOf (c : Column) (cell : Cell) : Except QueryError String :=
  match Text.decodeUtf8? cell with
  | none => .error (.unavailable c.label "not valid UTF-8")
  | some text =>
    if Table.isPlaceholder text then .error (.unavailable c.label text) else .ok text

/-- The number in a cell of a column. -/
def numberOf (c : Column) (cell : Cell) : Except QueryError Binary64 :=
  match textOf c cell with
  | .error e => .error e
  | .ok text =>
    match Binary64.ofText? text.toList with
    | some x => .ok x
    | none => .error (.unparsable c.label text)

/-- The identity that three cells say. -/
def identityOf (index uuid name : Cell) : Except QueryError Identity :=
  match textOf .index index, textOf .uuid uuid, textOf .name name with
  | .ok minorNumber, .ok uuid, .ok name => .ok ⟨minorNumber, uuid, name⟩
  | .error e, _, _ => .error e
  | .ok _, .error e, _ => .error e
  | .ok _, .ok _, .error e => .error e

/-- The bytes of memory that a cell says. -/
def bytesOf (c : Column) (cell : Cell) : Except QueryError Binary64 :=
  (numberOf c cell).map (·.scale 1048576)

/-- The memory that two cells say of a device, either side being good without the other. -/
def memoryOf (device : Nat) (used total : Cell) : Noted (Except QueryError Memory) :=
  match bytesOf .memoryUsed used, bytesOf .memoryTotal total with
  | .ok used, .ok total => ⟨.ok ⟨some used, some total⟩, []⟩
  | .ok used, .error e => ⟨.ok ⟨some used, none⟩, [.memorySideUnavailable device .total e]⟩
  | .error e, .ok total => ⟨.ok ⟨none, some total⟩, [.memorySideUnavailable device .used e]⟩
  | .error e, .error _ => ⟨.error e, []⟩

/-- The name of the column that says a reading. -/
def readingName : Reading → String
  | .utilization => "utilization.gpu"
  | .power => "power.draw"
  | .temperature => "temperature.gpu"
  | .fanSpeed => "fan.speed"

/-- The column of that name. -/
def columnOf : Reading → Column
  | .utilization => .utilization
  | .power => .powerDraw
  | .temperature => .temperature
  | .fanSpeed => .fanSpeed

theorem label_eq_readingName_iff {c : Column} {r : Reading} :
    c.label = readingName r ↔ c = columnOf r := by
  have hname : (columnOf r).label = readingName r := by cases r <;> rfl
  exact ⟨fun h => Column.label_injective (h.trans hname.symm), fun h => h ▸ hname⟩

theorem readingColumn_eq (r : Reading) : Table.readingColumn r = columnOf r := by
  cases r <;> rfl

/-- The reading that a cell says, power being exported in thousandths of what is printed. -/
def readingOf : Reading → Cell → Except QueryError Binary64
  | .utilization, cell => numberOf .utilization cell
  | .power, cell => (numberOf .powerDraw cell).map (·.scale 1000)
  | .temperature, cell => numberOf .temperature cell
  | .fanSpeed, cell => numberOf .fanSpeed cell

/-! ### What a table answers -/

namespace Table

/-- The cells of a row by the columns that they stand in. -/
structure HoldsRow (t : Table) (index : Nat) (cells : Column → Cell) : Prop where
  exists_row : ∃ row, t.rows[index]? = some row ∧ ∀ c, row[t.layout.position c]? = some (cells c)

variable {t : Table} {index : Nat} {cells : Column → Cell} (h : t.HoldsRow index cells)
include h

theorem text_of_holdsRow (c : Column) : t.text index c = textOf c (cells c) := by
  obtain ⟨row, hrow, hcells⟩ := h.exists_row
  rw [text, cell, textOf]
  cases hdecode : Text.decodeUtf8? (cells c) <;> simp [hrow, hcells, hdecode]

theorem number_of_holdsRow (c : Column) : t.number index c = numberOf c (cells c) := by
  rw [number, text_of_holdsRow h]
  rfl

theorem identity_of_holdsRow :
    t.identity index = identityOf (cells .index) (cells .uuid) (cells .name) := by
  rw [identity, text_of_holdsRow h, text_of_holdsRow h, text_of_holdsRow h, identityOf]
  cases textOf .index (cells .index) with
  | error e => rfl
  | ok minorNumber =>
    cases textOf .uuid (cells .uuid) with
    | error e => rfl
    | ok uuid => cases textOf .name (cells .name) <;> rfl

theorem memory_of_holdsRow :
    t.memory index = memoryOf index (cells .memoryUsed) (cells .memoryTotal) := by
  rw [memory, memoryBytes, memoryBytes, number_of_holdsRow h, number_of_holdsRow h, memoryOf,
    bytesOf, bytesOf, show bytesPerMebibyte = 1048576 from rfl]
  cases (numberOf .memoryUsed (cells .memoryUsed)).map (·.scale 1048576) <;>
    cases (numberOf .memoryTotal (cells .memoryTotal)).map (·.scale 1048576) <;> rfl

theorem reading_of_holdsRow (r : Reading) :
    t.reading r index = readingOf r (cells (columnOf r)) := by
  simp only [reading, readingColumn_eq, number_of_holdsRow h]
  cases r <;> rfl

end Table

/-! ### Reading the lines of a table -/

/-- The cell that a row holds for a column of the header. -/
def cellOf (header row : List Cell) (c : Column) : Cell := (row[firstNamed header c]?).getD []

/-- The table that lines make: its columns stand where the header first names them, its rows are the
lines behind the header, with trimmed cells. -/
def Table.ofLines (header : Line) (rows : List Line) : Table where
  layout := ⟨firstNamed header.cells⟩
  rows := rows.map fun l => l.cells.map (Text.trimBy Text.isByteBlank)

section OfLines

variable {header : Line} {rows : List Line}
  (hheader : ∀ c : Column, ∃ cell ∈ header.cells, headerName cell = c.label)
  (hwidth : ∀ l ∈ rows, l.cells.length = header.cells.length)
include hheader hwidth

/-- **A header that names every column, with rows of its width, is read as a table.** -/
theorem ofOutput?_write :
    Table.ofOutput? (write (header :: rows)) = .ok (Table.ofLines header rows) := by
  -- the cells of the header are trimmed before its columns are looked for
  have htrimmed (c : Column) :
      ∃ cell ∈ header.cells.map (Text.trimBy Text.isByteBlank), headerName cell = c.label := by
    obtain ⟨cell, hmem, hname⟩ := hheader c
    exact ⟨_, List.mem_map_of_mem hmem, (headerName_trimBy cell).trans hname⟩
  have hpos : 0 < header.cells.length := Nat.zero_lt_of_lt (firstNamed_lt (hheader .name))
  have hlayout : firstNamed (header.cells.map (Text.trimBy Text.isByteBlank))
      = firstNamed header.cells := funext (firstNamed_map_trimBy header.cells)
  have hlines : ∀ l ∈ header :: rows, l.cells.length = header.cells.length := by
    intro l hl
    rcases List.mem_cons.mp hl with rfl | hl
    · rfl
    · exact hwidth l hl
  rw [Table.ofOutput?, rows?_write hpos hlines, List.map_cons]
  simp only [isHeader_of_named (htrimmed .name), ofHeader?_of_named htrimmed, hlayout, if_true,
    Table.ofLines]

/-- Every row has a cell for each column. -/
theorem getElem?_firstNamed {l : Line} (hl : l ∈ rows) (c : Column) :
    l.cells[firstNamed header.cells c]? = some (cellOf header.cells l.cells c) := by
  have hlt : firstNamed header.cells c < l.cells.length := by
    rw [hwidth l hl]
    exact firstNamed_lt (hheader c)
  rw [cellOf, List.getElem?_eq_getElem hlt, Option.getD_some]

/-- In the table that is read, a row holds the cells of its line, trimmed. -/
theorem holdsRow_of_write {index : Nat} {l : Line} (hl : rows[index]? = some l) :
    (Table.ofLines header rows).HoldsRow index
      fun c => Text.trimBy Text.isByteBlank (cellOf header.cells l.cells c) := by
  refine ⟨l.cells.map (Text.trimBy Text.isByteBlank), by simp [Table.ofLines, hl], fun c => ?_⟩
  rw [Table.ofLines, List.getElem?_map,
    getElem?_firstNamed hheader hwidth (List.mem_of_getElem? hl) c, Option.map_some]

end OfLines

/-! ### The round trip -/

/-- Whether a cell has no ASCII blank at either end. -/
def isBare (cell : Cell) : Bool :=
  cell.head?.all (!Text.isByteBlank ·) && cell.getLast?.all (!Text.isByteBlank ·)

theorem trimBy_of_isBare {cell : Cell} (h : isBare cell = true) :
    Text.trimBy Text.isByteBlank cell = cell := by
  rw [isBare, Bool.and_eq_true] at h
  refine Text.trimBy_eq_self (fun b hb => ?_) (fun b hb => ?_)
  · have hhead := h.1
    rw [Option.mem_def.mp hb] at hhead
    simpa using hhead
  · have hlast := h.2
    rw [Option.mem_def.mp hb] at hlast
    simpa using hlast

/-- **The device table is read back from its lines.** Take a header in which every column is
written somewhere, in any order and among any other cells, and fewer than `2 ^ 32` rows of its width
whose cells are any bytes without blanks at their ends. Written with every cell quoted, and with
either line end on each line, they are read as a table of as many devices as there are rows, and
what it answers about a device is what the cells of its own row say, each in the column that the
header names first. -/
theorem snapshot_of_write {header : Line} {rows : List Line}
    (hheader : ∀ c : Column, ∃ cell ∈ header.cells, c.Spells cell)
    (hwidth : ∀ l ∈ rows, l.cells.length = header.cells.length)
    (hbare : ∀ l ∈ rows, ∀ cell ∈ l.cells, isBare cell = true) (hcount : rows.length < UInt32.size) :
    ∃ t : Table, Table.ofOutput? (write (header :: rows)) = .ok t ∧
      t.snapshot.count = .ok t.count ∧ t.count.toNat = rows.length ∧
      (∀ c, firstNamed header.cells c < header.cells.length) ∧
      ∀ i l, rows[i]? = some l →
        let cell := cellOf header.cells l.cells
        t.snapshot.identity i = identityOf (cell .index) (cell .uuid) (cell .name) ∧
          t.snapshot.memory i = memoryOf i (cell .memoryUsed) (cell .memoryTotal) ∧
          ∀ r c, c.label = readingName r → t.snapshot.reading r i = readingOf r (cell c) := by
  have hnamed (c : Column) : ∃ cell ∈ header.cells, headerName cell = c.label := by
    obtain ⟨cell, hmem, hspells⟩ := hheader c
    exact ⟨cell, hmem, headerName_of_spells hspells⟩
  refine ⟨_, ofOutput?_write hnamed hwidth, rfl, ?_, fun c => firstNamed_lt (hnamed c), ?_⟩
  · rw [Table.count, Table.ofLines, List.length_map, UInt32.toNat_ofNat_of_lt' hcount]
  · intro i l hl
    have hholds := holdsRow_of_write hnamed hwidth hl
    -- bare cells are not changed by trimming
    have hcell (c : Column) : Text.trimBy Text.isByteBlank (cellOf header.cells l.cells c)
        = cellOf header.cells l.cells c := by
      have hmem : l ∈ rows := List.mem_of_getElem? hl
      have hcell := getElem?_firstNamed hnamed hwidth hmem c
      exact trimBy_of_isBare (hbare l hmem _ (List.mem_of_getElem? hcell))
    simp only [hcell] at hholds
    refine ⟨Table.identity_of_holdsRow hholds, Table.memory_of_holdsRow hholds, fun r c hc => ?_⟩
    rw [label_eq_readingName_iff.mp hc]
    exact Table.reading_of_holdsRow hholds r

/-- A header in the reverse order of the request, with blanks and remarks, and with a cell in front
that is no text. -/
def reversedHeader : Line where
  cells := [0xff] :: Column.all.reverse.map fun c =>
    Text.encode ([' '] ++ (c.label.toList ++ ([' '] ++ ['[', 'x', ']'])))
  ending := .crlf

/-- A row under that header: a seven in every column but the name, which is no text. -/
def sevens : Line where
  cells := [0x22, 0x2c] :: Column.all.reverse.map fun c => if c = .name then [0xff] else [0x37]
  ending := .lf

theorem spells_reversedHeader (c : Column) : ∃ cell ∈ reversedHeader.cells, c.Spells cell := by
  have hblank : ∀ x ∈ [' '], Text.isBlank x := List.all_eq_true.mp (by decide)
  refine ⟨_, List.mem_cons_of_mem _ (List.mem_map_of_mem (List.mem_reverse.mpr c.mem_all)),
    [' '], [' '], ['[', 'x', ']'], c.label, ?_, hblank, hblank,
    fun x hx => (Option.some.inj hx).symm, rfl⟩
  cases c <;> decide

/-- Under that header the row gives seven watts, and the device no name. -/
theorem snapshot_of_write_reversed :
    ∃ t : Table, Table.ofOutput? (write [reversedHeader, sevens]) = .ok t ∧
      t.count.toNat = 1 ∧
      t.snapshot.identity 0 = .error (.unavailable "name" "not valid UTF-8") ∧
      t.snapshot.reading .power 0 = .ok (.ofNat 7000) := by
  obtain ⟨t, htable, -, hlength, -, hcells⟩ :=
    @snapshot_of_write reversedHeader [sevens] spells_reversedHeader (by decide) (by decide)
      (by decide)
  obtain ⟨hidentity, -, hreading⟩ := hcells 0 sevens rfl
  refine ⟨t, htable, hlength, hidentity.trans ?_, (hreading .power .powerDraw rfl).trans ?_⟩
  · decide +kernel
  · decide +kernel

end GpuMetrics.Smi
