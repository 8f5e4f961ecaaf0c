import GpuMetrics.Proofs.Csv.Quoted
import Mathlib.Tactic.SplitIfs

/-!
# A line in front of a text

Bytes without commas, quotes and line ends need no quotes around them: a line of such **words** is
read as the record of its words (`GpuMetrics.Csv.Scan.readsCell_word`). What follows it is read as
if it stood alone. Two things are needed for that.

* **The machine starts afresh behind a line end**, with nothing under way.
* **Places do not matter to cells.** The machine behind a line is not the one before a text, as it
  counts bytes and lines from further back; but two machines that differ in places only read the same
  cells (`GpuMetrics.Csv.Scan.map_cells_run_congr`).

So a line of words in front of a text is one record in front of its records
(`GpuMetrics.Csv.map_cells_records_bareLine`).
-/

namespace GpuMetrics.Csv

/-- A byte that is an ordinary part of a cell without quotes. -/
def isOrdinary (b : UInt8) : Bool := b != comma && b != quote && !isRecordEnd b

/-- A cell that needs no quotes. -/
def isWord (cell : Cell) : Bool := !cell.isEmpty && cell.all isOrdinary

/-- The words with commas between them, and a line feed. -/
def bareLine (words : List Cell) : List UInt8 := [comma].intercalate words ++ [lineFeed]

namespace Scan

/-! ### Words -/

theorem step_ordinary {s : Scan} (hs : s.mode ≠ .quoted) {b : UInt8} (hb : isOrdinary b = true) :
    s.step b = ({ s with mode := .plain, cell := b :: s.cell, here := s.here.after b }, none) := by
  simp only [isOrdinary, Bool.and_eq_true, bne_iff_ne, Bool.not_eq_true'] at hb
  obtain ⟨⟨hcomma, hquote⟩, hend⟩ := hb
  cases hmode : s.mode with
  | quoted => exact absurd hmode hs
  | _ => simp [step, hmode, unquoted, push, hcomma, hquote, hend]

/-- The machine outside quotes takes up ordinary bytes one after the other. -/
theorem run_ordinary {s : Scan} (hs : s.mode = .plain) {bytes : List UInt8}
    (hbytes : ∀ b ∈ bytes, isOrdinary b = true) (rest : List UInt8) :
    ∃ here, s.run (bytes ++ rest)
      = Scan.run { s with cell := bytes.reverse ++ s.cell, here } rest := by
  induction bytes generalizing s with
  | nil => exact ⟨s.here, rfl⟩
  | cons b bytes ih =>
    obtain ⟨hb, hbytes⟩ := List.forall_mem_cons.mp hbytes
    let next : Scan := { s with mode := .plain, cell := b :: s.cell, here := s.here.after b }
    have hstep : s.step b = (next, none) := step_ordinary (by simp [hs]) hb
    obtain ⟨here, hrun⟩ := ih (s := next) rfl hbytes
    refine ⟨here, ?_⟩
    rw [List.cons_append, run_of_step hstep, hrun]
    simp [next, hs]

/-- **A word is taken up as it is.** -/
theorem readsCell_word {word : Cell} (h : isWord word = true) : ReadsCell word word := by
  intro s hs hcell rest
  simp only [isWord, Bool.and_eq_true, List.all_eq_true] at h
  obtain ⟨hne, hordinary⟩ := h
  cases word with
  | nil => simp at hne
  | cons b word =>
    obtain ⟨hb, hword⟩ := List.forall_mem_cons.mp hordinary
    let next : Scan := { s with mode := .plain, cell := b :: s.cell, here := s.here.after b }
    have hstep : s.step b = (next, none) :=
      step_ordinary (by rcases hs with hs | hs <;> simp [hs]) hb
    obtain ⟨here, hrun⟩ := run_ordinary (s := next) rfl hword rest
    refine ⟨_, Or.inl rfl, ?_, by rw [List.cons_append, run_of_step hstep, hrun]⟩
    simp [record, next, hcell]

/-! ### Places -/

/-- Two machines that differ in places only. -/
structure SameButPlaces (s s' : Scan) : Prop where
  mode : s.mode = s'.mode
  cell : s.cell = s'.cell
  cells : s.cells = s'.cells

theorem SameButPlaces.of_isIdle {s s' : Scan} (hs : s.IsIdle) (hs' : s'.IsIdle) :
    SameButPlaces s s' :=
  ⟨hs.mode.trans hs'.mode.symm, hs.cell.trans hs'.cell.symm, hs.cells.trans hs'.cells.symm⟩

/-- A record takes nothing from the places but where it began. -/
theorem SameButPlaces.record {s s' : Scan} (h : SameButPlaces s s') :
    s.record.cells = s'.record.cells := by
  rw [Scan.record, Scan.record, h.cell, h.cells]

theorem SameButPlaces.unquoted {s s' : Scan} (h : SameButPlaces s s') (b : UInt8) :
    SameButPlaces (s.unquoted b).1 (s'.unquoted b).1 ∧
      (s.unquoted b).2.map (·.cells) = (s'.unquoted b).2.map (·.cells) := by
  simp only [Scan.unquoted]
  by_cases hcomma : b = comma
  · rw [if_pos hcomma, if_pos hcomma]
    exact ⟨⟨rfl, rfl, by rw [endCell, endCell, h.cell, h.cells]⟩, rfl⟩
  · rw [if_neg hcomma, if_neg hcomma]
    by_cases hend : isRecordEnd b = true
    · rw [if_pos hend, if_pos hend]
      exact ⟨⟨rfl, rfl, rfl⟩, congrArg some h.record⟩
    · rw [if_neg hend, if_neg hend]
      exact ⟨⟨rfl, congrArg (b :: ·) h.cell, h.cells⟩, rfl⟩

/-- A step keeps two such machines together, and they give the same cells in it. -/
theorem SameButPlaces.step {s s' : Scan} (h : SameButPlaces s s') (b : UInt8) :
    SameButPlaces (s.step b).1 (s'.step b).1 ∧
      (s.step b).2.map (·.cells) = (s'.step b).2.map (·.cells) := by
  obtain ⟨mode, cell, cells, start, here⟩ := s
  obtain ⟨mode', cell', cells', start', here'⟩ := s'
  obtain ⟨rfl, rfl, rfl⟩ := h
  have hsame {m : Mode} {bytes : List UInt8} :
      SameButPlaces ⟨m, bytes, cells, start, here.after b⟩
        ⟨m, bytes, cells, start', here'.after b⟩ :=
    ⟨rfl, rfl, rfl⟩
  have hunquoted (m : Mode) := (@hsame m cell).unquoted b
  cases mode with
  | betweenRecords =>
    simp only [Scan.step]
    split_ifs
    · exact ⟨hsame, rfl⟩
    · exact ⟨hsame, rfl⟩
    · exact hunquoted .betweenRecords
  | cellStart =>
    simp only [Scan.step]
    split_ifs
    · exact ⟨hsame, rfl⟩
    · exact hunquoted .cellStart
  | plain => exact hunquoted .plain
  | quoted =>
    simp only [Scan.step]
    split_ifs
    · exact ⟨hsame, rfl⟩
    · exact ⟨hsame, rfl⟩
  | afterQuote =>
    simp only [Scan.step]
    split_ifs
    · exact ⟨hsame, rfl⟩
    · exact hunquoted .afterQuote

theorem SameButPlaces.finish {s s' : Scan} (h : SameButPlaces s s') :
    s.finish.map (·.cells) = s'.finish.map (·.cells) := by
  rw [Scan.finish, Scan.finish, h.mode]
  by_cases hmode : s'.mode = .betweenRecords
  · rw [if_pos hmode, if_pos hmode]
  · rw [if_neg hmode, if_neg hmode, List.map_singleton, List.map_singleton, h.record]

/-- **Machines that differ in places only read the same cells.** -/
theorem map_cells_run_congr {s s' : Scan} (h : SameButPlaces s s') (text : List UInt8) :
    (s.run text).map (·.cells) = (s'.run text).map (·.cells) := by
  induction text generalizing s s' with
  | nil => exact h.finish
  | cons b text ih =>
    obtain ⟨hnext, hrecord⟩ := h.step b
    rw [run, run]
    rcases hstep : s.step b with ⟨next, _ | r⟩ <;> rcases hstep' : s'.step b with ⟨next', _ | r'⟩ <;>
      rw [hstep, hstep'] at hnext hrecord
    · exact ih hnext
    · cases hrecord
    · cases hrecord
    · have hcells : r.cells = r'.cells := Option.some.inj hrecord
      rw [List.map_cons, List.map_cons, hcells, ih hnext]

end Scan

/-! ### A line in front of a text -/

/-- The cells of the records of a text. -/
def cellsOf (text : List UInt8) : List (List Cell) := (records text).map (·.cells)

/-- The cells of a record as a row of a table. -/
def trimmedRow (cells : List Cell) : List Cell := cells.map (Text.trimBy Text.isByteBlank)

theorem length_trimmedRow (cells : List Cell) : (trimmedRow cells).length = cells.length :=
  List.length_map _

/-- The rows of a text hang on the cells of its records alone. -/
theorem rows?_eq_ok_iff_cellsOf {text : List UInt8} {rows : List (List Cell)} :
    rows? text = .ok rows ↔
      (∀ cells ∈ cellsOf text, ∀ cells' ∈ cellsOf text, cells.length = cells'.length) ∧
        rows = (cellsOf text).map trimmedRow := by
  rw [rows?_eq_ok_iff, cellsOf, List.map_map]
  simp only [List.forall_mem_map]
  rfl

/-- A text without a byte-order mark is read by a machine that has not begun yet. -/
theorem cellsOf_of_isIdle {text : List UInt8} (hmark : byteOrderMark.isPrefixOf text = false)
    {s : Scan} (hs : s.IsIdle) : cellsOf text = (s.run text).map (·.cells) := by
  rw [cellsOf, records, hmark]
  exact Scan.map_cells_run_congr (.of_isIdle (Scan.isIdle_fresh _) hs) text

theorem intercalate_cons (first : Cell) (more : List Cell) :
    [comma].intercalate (first :: more) = first ++ more.flatMap (comma :: ·) := by
  induction more generalizing first with
  | nil => simp [List.intercalate]
  | cons second more ih =>
    have htail := ih second
    simp only [List.intercalate, List.intersperse] at htail ⊢
    simp [htail]

/-- **A line of words in front of a text** is a record of those words in front of its records.
Neither may begin with a byte-order mark. -/
theorem cellsOf_bareLine_append {first : Cell} {more : List Cell}
    (hwords : ∀ word ∈ first :: more, isWord word = true) {text : List UInt8}
    (hmark : byteOrderMark.isPrefixOf (bareLine (first :: more) ++ text) = false)
    (htext : byteOrderMark.isPrefixOf text = false) :
    cellsOf (bareLine (first :: more) ++ text) = (first :: more) :: cellsOf text := by
  have hidle := Scan.isIdle_fresh ⟨0, 1⟩
  have hcells : ∀ word ∈ first :: more, Scan.ReadsCell (id word) word :=
    fun word hword => Scan.readsCell_word (hwords word hword)
  obtain ⟨r, next, hr, hnext, hrun⟩ := Scan.run_cells hcells hidle .lf text
  have hline : bareLine (first :: more) ++ text
      = id first ++ ((more.flatMap fun cell => comma :: id cell) ++ (LineEnd.lf.bytes ++ text)) := by
    rw [bareLine, intercalate_cons, List.append_assoc, List.append_assoc]
    rfl
  rw [cellsOf_of_isIdle hmark hidle, hline, hrun, List.map_cons, hr, cellsOf_of_isIdle htext hnext]

end GpuMetrics.Csv
