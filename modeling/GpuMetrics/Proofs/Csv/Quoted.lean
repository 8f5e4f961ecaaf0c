import GpuMetrics.Proofs.Csv.Width

/-!
# Records that are written with every cell quoted

A cell between quotes, with its own quotes doubled, can hold any bytes at all, commas and line
ends among them. The scanning machine gives such cells back whatever they hold
(`GpuMetrics.Csv.records_write`), and with them the rows of a table whose lines are of one width
(`GpuMetrics.Csv.rows?_write`).

The machine is followed piece by piece: over the inside of a cell, over a cell with its quotes, over
the cells that follow the first, over a line end. Places in the text change with every byte and have
no bearing on the cells, so what is said of the machine behind a piece leaves them open.
-/

namespace GpuMetrics.Csv

/-! ### Writing -/

/-- How a line may end. -/
inductive LineEnd where
  | lf
  | crlf
  deriving DecidableEq, Repr

/-- The bytes of a line end. -/
def LineEnd.bytes : LineEnd → List UInt8
  | .lf => [lineFeed]
  | .crlf => [carriageReturn, lineFeed]

/-- A byte as it is written between quotes. -/
def escapeByte (b : UInt8) : List UInt8 := if b = quote then [quote, quote] else [b]

/-- A cell between quotes. -/
def quoteCell (cell : Cell) : List UInt8 := quote :: (cell.flatMap escapeByte ++ [quote])

/-- The cells of a line, joined by commas. -/
def writeCells : List Cell → List UInt8
  | [] => []
  | first :: rest => quoteCell first ++ rest.flatMap fun cell => comma :: quoteCell cell

/-- A line to be written: its cells and how it ends. -/
structure Line where
  cells : List Cell
  ending : LineEnd
  deriving DecidableEq, Repr

/-- The bytes of a line. -/
def Line.bytes (l : Line) : List UInt8 := writeCells l.cells ++ l.ending.bytes

/-- One line after the other. -/
def write (lines : List Line) : List UInt8 := lines.flatMap Line.bytes

/-! ### Scanning what was written -/

namespace Scan

theorem run_of_step {s next : Scan} {b : UInt8} (h : s.step b = (next, none))
    (rest : List UInt8) : s.run (b :: rest) = next.run rest := by
  rw [run, h]

theorem run_of_step_record {s next : Scan} {b : UInt8} {r : Record}
    (h : s.step b = (next, some r)) (rest : List UInt8) :
    s.run (b :: rest) = r :: next.run rest := by
  rw [run, h]

/-- **The machine in a quoted cell takes up the bytes that are written there.** -/
theorem run_escaped {s : Scan} (hs : s.mode = .quoted) (cell : Cell) (rest : List UInt8) :
    ∃ here, s.run (cell.flatMap escapeByte ++ rest)
      = Scan.run { s with cell := cell.reverse ++ s.cell, here } rest := by
  induction cell generalizing s with
  | nil => exact ⟨s.here, rfl⟩
  | cons b cell ih =>
    have hcons (here : Position) : ∃ here', Scan.run { s with cell := b :: s.cell, here }
        (cell.flatMap escapeByte ++ rest)
          = Scan.run { s with cell := (b :: cell).reverse ++ s.cell, here := here' } rest := by
      obtain ⟨here', hrun⟩ := ih (s := { s with cell := b :: s.cell, here }) hs
      exact ⟨here', by simpa using hrun⟩
    rw [List.flatMap_cons, List.append_assoc, escapeByte]
    by_cases hb : b = quote
    · -- the first of the two quotes leaves the cell, the second comes back to it
      let behind : Scan := { s with mode := .afterQuote, here := s.here.after b }
      have hfirst : s.step b = (behind, none) := by simp [step, hs, hb, behind]
      have hsecond : behind.step b
          = ({ s with cell := b :: s.cell, here := behind.here.after b }, none) := by
        simp [step, hs, hb, behind, push]
      rw [if_pos hb, ← hb, List.cons_append, List.singleton_append, run_of_step hfirst,
        run_of_step hsecond]
      exact hcons _
    · have hstep : s.step b = ({ s with cell := b :: s.cell, here := s.here.after b }, none) := by
        simp [step, hs, hb, push]
      rw [if_neg hb, List.singleton_append, run_of_step hstep]
      exact hcons _

/-- A machine behind the text of a cell. What would end a cell ends it here. -/
def IsBehindCell (s : Scan) : Prop := s.mode = .plain ∨ s.mode = .afterQuote

theorem step_of_isBehindCell {s : Scan} (hs : s.IsBehindCell) {b : UInt8} (hb : b ≠ quote) :
    s.step b = unquoted { s with here := s.here.after b } b := by
  rcases hs with hs | hs <;> simp [step, hs, hb]

/-- A text that the machine before a cell takes up as that cell. -/
def ReadsCell (text : List UInt8) (cell : Cell) : Prop :=
  ∀ s : Scan, s.mode = .betweenRecords ∨ s.mode = .cellStart → s.cell = [] → ∀ rest,
    ∃ behind : Scan, behind.IsBehindCell ∧ behind.record.cells = s.cells.reverse ++ [cell] ∧
      s.run (text ++ rest) = behind.run rest

/-- **A cell between quotes is taken up as it is.** -/
theorem readsCell_quoteCell (cell : Cell) : ReadsCell (quoteCell cell) cell := by
  intro s hs hcell rest
  let inside : Scan := { s with mode := .quoted, here := s.here.after quote }
  have hopen : s.step quote = (inside, none) := by
    rcases hs with hs | hs <;> simp [step, hs, inside, isRecordEnd, quote, lineFeed, carriageReturn]
  obtain ⟨here, hinside⟩ := run_escaped (s := inside) rfl cell (quote :: rest)
  let behind : Scan := { s with mode := .afterQuote, cell := cell.reverse, here := here.after quote }
  have hclose : Scan.step { inside with cell := cell.reverse ++ inside.cell, here } quote
      = (behind, none) := by
    simp [step, inside, behind, hcell]
  refine ⟨behind, Or.inr rfl, by simp [record, behind], ?_⟩
  rw [quoteCell, List.cons_append, List.append_assoc, run_of_step hopen, List.singleton_append,
    hinside, run_of_step hclose]

/-- The cells behind the first join the record one after the other, in whatever way each of them is
written. -/
theorem run_moreCells {text : Cell → List UInt8} {cells : List Cell}
    (hcells : ∀ cell ∈ cells, ReadsCell (text cell) cell) {s : Scan} (hs : s.IsBehindCell)
    (rest : List UInt8) :
    ∃ behind : Scan, behind.IsBehindCell ∧ behind.record.cells = s.record.cells ++ cells ∧
      s.run ((cells.flatMap fun cell => comma :: text cell) ++ rest) = behind.run rest := by
  induction cells generalizing s with
  | nil => exact ⟨s, hs, (List.append_nil _).symm, rfl⟩
  | cons cell cells ih =>
    obtain ⟨hcell, hcells⟩ := List.forall_mem_cons.mp hcells
    let next : Scan := { s.endCell with here := s.here.after comma }
    have hcomma : s.step comma = (next, none) := by
      rw [step_of_isBehindCell hs (by decide)]
      simp [unquoted, next, endCell]
    obtain ⟨middle, hmiddle, hrecord, hrun⟩ := hcell next (Or.inr rfl) rfl
      ((cells.flatMap fun cell => comma :: text cell) ++ rest)
    obtain ⟨behind, hbehind, hrecord', hrun'⟩ := ih hcells hmiddle
    refine ⟨behind, hbehind, ?_, ?_⟩
    · rw [hrecord', hrecord]
      simp [record, next, endCell]
    · rw [List.flatMap_cons, List.cons_append, List.cons_append, List.append_assoc,
        run_of_step hcomma, hrun, hrun']

/-- A machine between two records, with nothing under way. -/
structure IsIdle (s : Scan) : Prop where
  mode : s.mode = .betweenRecords
  cell : s.cell = []
  cells : s.cells = []

theorem isIdle_fresh (here : Position) : IsIdle (fresh here) := ⟨rfl, rfl, rfl⟩

/-- Either line end gives the record once, and leaves the machine between two records. -/
theorem run_lineEnd {s : Scan} (hs : s.IsBehindCell) (ending : LineEnd) (rest : List UInt8) :
    ∃ next : Scan, next.IsIdle ∧ s.run (ending.bytes ++ rest) = s.record :: next.run rest := by
  cases ending with
  | lf =>
    have hstep : s.step lineFeed = (fresh (s.here.after lineFeed), some s.record) := by
      rw [step_of_isBehindCell hs (by decide)]
      simp [unquoted, isRecordEnd, lineFeed, comma, record]
    exact ⟨_, isIdle_fresh _, run_of_step_record hstep rest⟩
  | crlf =>
    -- the carriage return ends the record, and the line feed ends a blank line behind it
    let behind := fresh (s.here.after carriageReturn)
    have hreturn : s.step carriageReturn = (behind, some s.record) := by
      rw [step_of_isBehindCell hs (by decide)]
      simp [unquoted, isRecordEnd, carriageReturn, lineFeed, comma, record, behind]
    have hfeed : behind.step lineFeed
        = ({ behind with here := behind.here.after lineFeed }, none) := by
      simp [step, behind, fresh, isRecordEnd]
    refine ⟨{ behind with here := behind.here.after lineFeed }, ⟨rfl, rfl, rfl⟩, ?_⟩
    rw [LineEnd.bytes, List.cons_append, run_of_step_record hreturn, List.singleton_append,
      run_of_step hfeed]

/-- Cells that are each taken up make, with commas between them and a line end behind them, a
record. -/
theorem run_cells {text : Cell → List UInt8} {first : Cell} {more : List Cell}
    (hcells : ∀ cell ∈ first :: more, ReadsCell (text cell) cell) {s : Scan} (hs : s.IsIdle)
    (ending : LineEnd) (rest : List UInt8) :
    ∃ (r : Record) (next : Scan), r.cells = first :: more ∧ next.IsIdle ∧
      s.run (text first ++ ((more.flatMap fun cell => comma :: text cell) ++
        (ending.bytes ++ rest))) = r :: next.run rest := by
  obtain ⟨hfirst, hmore⟩ := List.forall_mem_cons.mp hcells
  obtain ⟨middle, hmiddle, hrecord, hrun⟩ := hfirst s (Or.inl hs.mode) hs.cell
    ((more.flatMap fun cell => comma :: text cell) ++ (ending.bytes ++ rest))
  obtain ⟨behind, hbehind, hrecord', hrun'⟩ := run_moreCells hmore hmiddle (ending.bytes ++ rest)
  obtain ⟨next, hidle, hend⟩ := run_lineEnd hbehind ending rest
  refine ⟨behind.record, next, ?_, hidle, by rw [hrun, hrun', hend]⟩
  rw [hrecord', hrecord, hs.cells]
  rfl

/-- **A line is scanned as the record of its cells.** -/
theorem run_line {s : Scan} (hs : s.IsIdle) (l : Line) (hl : l.cells ≠ []) (rest : List UInt8) :
    ∃ (r : Record) (next : Scan), r.cells = l.cells ∧ next.IsIdle ∧
      s.run (l.bytes ++ rest) = r :: next.run rest := by
  obtain ⟨_ | ⟨first, more⟩, ending⟩ := l
  · exact absurd rfl hl
  rw [Line.bytes, writeCells, List.append_assoc, List.append_assoc]
  exact run_cells (fun cell _ => readsCell_quoteCell cell) hs ending rest

/-- Lines are scanned as their cells, whatever places the machine has got to. -/
theorem map_cells_run {s : Scan} (hs : s.IsIdle) {lines : List Line}
    (hlines : ∀ l ∈ lines, l.cells ≠ []) :
    (s.run (write lines)).map (·.cells) = lines.map (·.cells) := by
  induction lines generalizing s with
  | nil => simp [write, run, finish, hs.mode]
  | cons l lines ih =>
    obtain ⟨r, next, hcells, hidle, hrun⟩ :=
      run_line hs l (hlines l (List.mem_cons_self ..)) (write lines)
    rw [write, List.flatMap_cons, ← write, hrun, List.map_cons, List.map_cons, hcells,
      ih hidle fun l' hl' => hlines l' (List.mem_cons_of_mem l hl')]

end Scan

/-! ### Reading back -/

/-- What was written does not begin with a byte-order mark. -/
theorem not_isPrefixOf_write {lines : List Line} (hlines : ∀ l ∈ lines, l.cells ≠ []) :
    byteOrderMark.isPrefixOf (write lines) = false := by
  rcases lines with _ | ⟨⟨_ | ⟨first, more⟩, ending⟩, lines⟩
  · rfl
  · exact absurd rfl (hlines _ (List.mem_cons_self ..))
  · rfl

/-- **Lines are read back as their cells**, whatever bytes these hold and however the lines end. -/
theorem records_write {lines : List Line} (hlines : ∀ l ∈ lines, l.cells ≠ []) :
    (records (write lines)).map (·.cells) = lines.map (·.cells) := by
  rw [records, not_isPrefixOf_write hlines]
  exact Scan.map_cells_run (Scan.isIdle_fresh _) hlines

example : (records (write [⟨[[comma, quote], [carriageReturn, lineFeed]], .crlf⟩])).map (·.cells)
    = [[[comma, quote], [carriageReturn, lineFeed]]] := by decide

/-- **Lines of one width are read back as the rows of a table**, with trimmed cells. -/
theorem rows?_write {lines : List Line} {width : Nat} (hwidth : 0 < width)
    (hlines : ∀ l ∈ lines, l.cells.length = width) :
    rows? (write lines) = .ok (lines.map fun l => l.cells.map (Text.trimBy Text.isByteBlank)) := by
  have hne : ∀ l ∈ lines, l.cells ≠ [] := fun l hl =>
    List.ne_nil_of_length_pos ((hlines l hl).symm ▸ hwidth)
  have hcells := records_write hne
  have hrecords : ∀ r ∈ records (write lines), r.cells.length = width := by
    intro r hr
    have hmem : r.cells ∈ lines.map (·.cells) := hcells ▸ List.mem_map_of_mem hr
    obtain ⟨l, hl, hlr⟩ := List.mem_map.mp hmem
    rw [← hlr, hlines l hl]
  refine rows?_eq_ok_iff.mpr
    ⟨fun r hr r' hr' => (hrecords r hr).trans (hrecords r' hr').symm, Eq.symm ?_⟩
  have htrimmed : (records (write lines)).map Record.trimmed
      = ((records (write lines)).map (·.cells)).map (·.map (Text.trimBy Text.isByteBlank)) := by
    rw [List.map_map]
    rfl
  rw [htrimmed, hcells, List.map_map]
  rfl

end GpuMetrics.Csv
