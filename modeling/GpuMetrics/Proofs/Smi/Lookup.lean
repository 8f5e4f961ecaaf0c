import GpuMetrics.Proofs.Smi.Verdict

/-!
# The verdict on output, and what its table answers

`GpuMetrics.Smi.verdict_and_lookups` is the whole contract of a device table, from the bytes that a
command printed to the answers about its devices. The verdict is a decision table over the trimmed
records: their widths come first, then what the first of them names, then its width if it names
nothing. Two of the conditions can hold of one output (rows of different widths under a header that
lacks a column), and the first in this order is the one that is reported.

What makes the table safe to ask is its width (`GpuMetrics.Smi.Table.HasWidth`). The rows are found
by a device's number and the cells by a column's position, and either could fall outside: a query
that fails for this is one that `GpuMetrics.Smi.Misses`. Below the number of devices none does
(`GpuMetrics.Smi.not_misses_of_failsAt`), whatever is in the cells, since what a cell itself can
say against a query is something else. From that number on every query misses, by the number it was
asked about (`GpuMetrics.Smi.noSuchDevice_of_le`).
-/

namespace GpuMetrics.Smi

open Backend Csv Device Log

/-! ### Rows of one width -/

/-- The rows of an output: its records with trimmed cells, of whatever widths they are. -/
def rowsOf (output : List UInt8) : List (List Cell) := (records output).map Record.trimmed

/-- Rows that are all of one width. -/
def OneWidth (rows : List (List Cell)) : Prop :=
  ∀ row ∈ rows, ∀ row' ∈ rows, row.length = row'.length

instance (rows : List (List Cell)) : Decidable (OneWidth rows) :=
  inferInstanceAs (Decidable (∀ row ∈ rows, ∀ row' ∈ rows, row.length = row'.length))

instance (row : List Cell) (c : Column) : Decidable (Names row c) :=
  inferInstanceAs (Decidable (∃ cell ∈ row, headerName cell = c.label))

theorem rows?_eq_ok_iff_oneWidth {output : List UInt8} {rows : List (List Cell)} :
    rows? output = .ok rows ↔ OneWidth (rowsOf output) ∧ rows = rowsOf output := by
  rw [rows?_eq_ok_iff]
  refine and_congr_left fun _ => ?_
  simp [OneWidth, rowsOf, Record.trimmed]

/-- **A text has a misfit just if two of its rows differ in width.** -/
theorem exists_misfit_iff {output : List UInt8} :
    (∃ cause, Misfit output cause) ↔ ¬OneWidth (rowsOf output) := by
  simp only [← rows?_eq_error_iff]
  cases hrows : rows? output with
  | error cause =>
    refine iff_of_true ⟨cause, rfl⟩ fun hwidth => ?_
    rw [rows?_eq_ok_iff_oneWidth.mpr ⟨hwidth, rfl⟩] at hrows
    cases hrows
  | ok rows =>
    refine iff_of_false (by simp) (not_not.mpr (rows?_eq_ok_iff_oneWidth.mp hrows).1)

/-! ### The verdict on the rows -/

/-- Output is refused as malformed just if two of its rows differ in width, whatever its first row
names. -/
theorem exists_ofOutput?_eq_malformed_iff {output : List UInt8} :
    (∃ cause, Table.ofOutput? output = .error (.malformed cause)) ↔ ¬OneWidth (rowsOf output) := by
  rw [← exists_misfit_iff]
  refine exists_congr fun cause => ofOutput?_eq_error_iff.trans ⟨?_, fun h => Or.inl ⟨_, h, rfl⟩⟩
  rintro (⟨cause', hmisfit, hcause⟩ | ⟨rows, -, hlacks⟩)
  · exact BackendError.malformed.inj hcause ▸ hmisfit
  · cases hlacks

section OneWidth

variable {output : List UInt8} (hwidth : OneWidth (rowsOf output))
include hwidth

/-- Rows of one width are refused for what they lack, and for nothing else. -/
theorem ofOutput?_eq_error_iff_lacks {e : BackendError} :
    Table.ofOutput? output = .error e ↔ Lacks (rowsOf output) e := by
  rw [ofOutput?_eq_error_iff]
  constructor
  · rintro (⟨cause, hmisfit, -⟩ | ⟨rows, hrows, hlacks⟩)
    · exact absurd hwidth (exists_misfit_iff.mp ⟨cause, hmisfit⟩)
    · exact (rows?_eq_ok_iff_oneWidth.mp hrows).2 ▸ hlacks
  · exact fun hlacks => Or.inr ⟨_, rows?_eq_ok_iff_oneWidth.mpr ⟨hwidth, rfl⟩, hlacks⟩

/-- Rows of one width are read as the table that they make. -/
theorem ofOutput?_eq_ok_iff_makes {t : Table} :
    Table.ofOutput? output = .ok t ↔ Makes (rowsOf output) t := by
  rw [ofOutput?_eq_ok_iff]
  constructor
  · rintro ⟨rows, hrows, hmakes⟩
    exact (rows?_eq_ok_iff_oneWidth.mp hrows).2 ▸ hmakes
  · exact fun hmakes => ⟨_, rows?_eq_ok_iff_oneWidth.mpr ⟨hwidth, rfl⟩, hmakes⟩

end OneWidth

/-- The first column in the order of the request that a row does not name. -/
def FirstUnnamed (row : List Cell) (c : Column) : Prop :=
  ∃ before after, Column.all = before ++ c :: after ∧
    (∀ c' ∈ before, Names row c') ∧ ¬Names row c

theorem lacks_missingColumn_iff {rows : List (List Cell)} {label : String} :
    Lacks rows (.missingColumn label) ↔ ∃ first rest c, rows = first :: rest ∧
      (∃ c', Names first c') ∧ FirstUnnamed first c ∧ label = c.label := by
  constructor
  · intro h
    cases h with
    | column named request present absent =>
      exact ⟨_, _, _, rfl, named, ⟨_, _, request, present, absent⟩, rfl⟩
  · rintro ⟨first, rest, c, rfl, named, ⟨before, after, request, present, absent⟩, rfl⟩
    exact .column named request present absent

theorem lacks_columnCount_iff {rows : List (List Cell)} {expected actual : Nat} :
    Lacks rows (.columnCount expected actual) ↔ ∃ first rest, rows = first :: rest ∧
      (∀ c, ¬Names first c) ∧ first.length ≠ 14 ∧ expected = 14 ∧ actual = first.length := by
  constructor
  · intro h
    cases h with
    | width unnamed misfit => exact ⟨_, _, rfl, unnamed, misfit, rfl, rfl⟩
  · rintro ⟨first, rest, rfl, unnamed, misfit, rfl, rfl⟩
    exact .width unnamed misfit

theorem exists_makes_iff {rows : List (List Cell)} :
    (∃ t, Makes rows t) ↔ rows = [] ∨ ∃ first rest, rows = first :: rest ∧
      ((∀ c, Names first c) ∨ (∀ c, ¬Names first c) ∧ first.length = 14) := by
  constructor
  · rintro ⟨t, h⟩
    cases h with
    | nothing => exact Or.inl rfl
    | headed named => exact Or.inr ⟨_, _, rfl, Or.inl named⟩
    | bare unnamed width => exact Or.inr ⟨_, _, rfl, Or.inr ⟨unnamed, width⟩⟩
  · rintro (rfl | ⟨first, rest, rfl, named | ⟨unnamed, width⟩⟩)
    · exact ⟨_, .nothing⟩
    · exact ⟨_, .headed named⟩
    · exact ⟨_, .bare unnamed width⟩

/-! ### Queries that miss -/

/-- The failures of a query that has no cell to look at: its table has no such row, or the row ends
before the column. -/
def Misses : QueryError → Prop
  | .noSuchDevice _ => True
  | .unavailable _ reason => reason = "column not present"
  | .unparsable _ _ | .refused _ _ => False

/-- What a table has against the queries about a device, whether it is the query that fails or one
side of its memory. -/
inductive Table.FailsAt (t : Table) (index : Nat) : QueryError → Prop where
  | identity {e : QueryError} (h : t.snapshot.identity index = .error e) : t.FailsAt index e
  | memory {e : QueryError} (h : (t.snapshot.memory index).value = .error e) : t.FailsAt index e
  | side {device : Nat} {side : MemorySide} {e : QueryError}
      (h : .memorySideUnavailable device side e ∈ (t.snapshot.memory index).events) :
      t.FailsAt index e
  | reading {r : Reading} {e : QueryError} (h : t.snapshot.reading r index = .error e) :
      t.FailsAt index e

/-- A cell says something against its column: it is no text, or it holds no value. -/
theorem not_misses_of_textOf {c : Column} {cell : Cell} {e : QueryError}
    (h : textOf c cell = .error e) : ¬Misses e := by
  rw [textOf] at h
  cases hdecode : Text.decodeUtf8? cell with
  | none =>
    simp only [hdecode, Except.error.injEq] at h
    subst h
    simp [Misses]
  | some text =>
    simp only [hdecode] at h
    split at h
    · -- a cell without a value is quoted, and no such cell reads like a miss
      rename_i hplaceholder
      cases h
      rintro rfl
      exact absurd hplaceholder (by decide)
    · cases h

theorem not_misses_of_numberOf {c : Column} {cell : Cell} {e : QueryError}
    (h : numberOf c cell = .error e) : ¬Misses e := by
  rw [numberOf] at h
  cases htext : textOf c cell with
  | error e' =>
    simp only [htext, Except.error.injEq] at h
    exact h ▸ not_misses_of_textOf htext
  | ok text =>
    simp only [htext] at h
    split at h
    · cases h
    · cases h
      exact id

/-- A failed cell is not mended by a change of unit. -/
theorem eq_error_of_map {α β : Type} {f : α → β} {x : Except QueryError α} {e : QueryError}
    (h : x.map f = .error e) : x = .error e := by
  cases x with
  | error e' => exact congrArg _ (Except.error.inj h)
  | ok a => cases h

theorem not_misses_of_bytesOf {c : Column} {cell : Cell} {e : QueryError}
    (h : bytesOf c cell = .error e) : ¬Misses e :=
  not_misses_of_numberOf (eq_error_of_map h)

theorem not_misses_of_identityOf {index uuid name : Cell} {e : QueryError}
    (h : identityOf index uuid name = .error e) : ¬Misses e := by
  rw [identityOf] at h
  split at h
  · cases h
  all_goals
    cases h
    exact not_misses_of_textOf ‹_›

theorem not_misses_of_memoryOf {device : Nat} {used total : Cell} {e : QueryError}
    (h : (memoryOf device used total).value = .error e) : ¬Misses e := by
  rw [memoryOf] at h
  split at h
  · cases h
  · cases h
  · cases h
  · cases h
    exact not_misses_of_bytesOf ‹bytesOf .memoryUsed _ = _›

theorem not_misses_of_mem_memoryOf {device d : Nat} {used total : Cell} {side : MemorySide}
    {e : QueryError} (h : .memorySideUnavailable d side e ∈ (memoryOf device used total).events) :
    ¬Misses e := by
  rw [memoryOf] at h
  split at h
  · cases h
  · cases List.mem_singleton.mp h
    exact not_misses_of_bytesOf ‹bytesOf .memoryTotal _ = _›
  · cases List.mem_singleton.mp h
    exact not_misses_of_bytesOf ‹bytesOf .memoryUsed _ = _›
  · cases h

theorem not_misses_of_readingOf {r : Reading} {cell : Cell} {e : QueryError}
    (h : readingOf r cell = .error e) : ¬Misses e := by
  cases r with
  | power => exact not_misses_of_numberOf (eq_error_of_map h)
  | utilization | temperature | fanSpeed => exact not_misses_of_numberOf h

/-- **No query about a row misses.** -/
theorem not_misses_of_failsAt {t : Table} {index : Nat} {cells : Column → Cell}
    (hrow : t.HoldsRow index cells) {e : QueryError} (h : t.FailsAt index e) : ¬Misses e := by
  cases h with
  | identity h => exact not_misses_of_identityOf ((Table.identity_of_holdsRow hrow).symm.trans h)
  | memory h =>
    exact not_misses_of_memoryOf ((congrArg _ (Table.memory_of_holdsRow hrow)).symm.trans h)
  | side h =>
    exact not_misses_of_mem_memoryOf (congrArg Noted.events (Table.memory_of_holdsRow hrow) ▸ h)
  | @reading r e h =>
    exact not_misses_of_readingOf ((Table.reading_of_holdsRow hrow r).symm.trans h)

section Beyond

variable {t : Table} {index : Nat} (hindex : t.rows.length ≤ index)
include hindex

theorem text_of_le (c : Column) : t.text index c = .error (.noSuchDevice index) := by
  rw [Table.text, Table.cell, List.getElem?_eq_none hindex]

theorem number_of_le (c : Column) : t.number index c = .error (.noSuchDevice index) := by
  rw [Table.number, text_of_le hindex]

/-- **Behind the last row every query misses**, by the number that it was asked about. -/
theorem noSuchDevice_of_le :
    t.snapshot.identity index = .error (.noSuchDevice index) ∧
      t.snapshot.memory index = ⟨.error (.noSuchDevice index), []⟩ ∧
      ∀ r, t.snapshot.reading r index = .error (.noSuchDevice index) := by
  refine ⟨?_, ?_, fun r => ?_⟩
  · simp only [Table.snapshot, Table.identity, text_of_le hindex]
  · simp only [Table.snapshot, Table.memory, Table.memoryBytes, number_of_le hindex, Except.map]
  · simp only [Table.snapshot, Table.reading, number_of_le hindex]
    cases r <;> rfl

end Beyond

/-! ### The contract of a device table -/

/-- **The verdict on output, and what its table answers.** Take any bytes, and their rows: the
records, with trimmed cells.

They are refused as malformed just if two rows differ in width. Rows of one width are refused for a
missing column just if their first row names some column but not all, and the column is the first in
the order of the request that it does not name; they are refused for their width just if the first
row names none and has not fourteen cells. There is a table just if none of this is so.

The rows of every table have one width, and its columns stand within that width. Asked about a
device below the number of devices, it may have something against a cell, but never misses the row
or the cell. From the number of devices on, if there are fewer than `2 ^ 32` rows, it answers every
query with the number that was asked about. -/
theorem verdict_and_lookups (output : List UInt8) :
    ((∃ cause, Table.ofOutput? output = .error (.malformed cause)) ↔ ¬OneWidth (rowsOf output)) ∧
      (OneWidth (rowsOf output) →
        (∀ label, Table.ofOutput? output = .error (.missingColumn label) ↔
          ∃ first rest c, rowsOf output = first :: rest ∧ (∃ c', Names first c') ∧
            FirstUnnamed first c ∧ label = c.label) ∧
        ∀ expected actual, Table.ofOutput? output = .error (.columnCount expected actual) ↔
          ∃ first rest, rowsOf output = first :: rest ∧ (∀ c, ¬Names first c) ∧
            first.length ≠ 14 ∧ expected = 14 ∧ actual = first.length) ∧
      ((∃ t, Table.ofOutput? output = .ok t) ↔ OneWidth (rowsOf output) ∧
        (rowsOf output = [] ∨ ∃ first rest, rowsOf output = first :: rest ∧
          ((∀ c, Names first c) ∨ (∀ c, ¬Names first c) ∧ first.length = 14))) ∧
      ∀ t, Table.ofOutput? output = .ok t →
        (∃ width, t.HasWidth width) ∧ t.snapshot.count = .ok t.count ∧
        (∀ i < t.count.toNat, ∀ e, t.FailsAt i e → ¬Misses e) ∧
        (t.rows.length < UInt32.size → ∀ i, t.count.toNat ≤ i →
          t.snapshot.identity i = .error (.noSuchDevice i) ∧
            t.snapshot.memory i = ⟨.error (.noSuchDevice i), []⟩ ∧
            ∀ r, t.snapshot.reading r i = .error (.noSuchDevice i)) := by
  refine ⟨exists_ofOutput?_eq_malformed_iff, fun hwidth => ⟨fun label => ?_, fun m n => ?_⟩, ?_,
    fun t ht => ⟨exists_hasWidth_of_ofOutput? ht, rfl, fun i hi e he => ?_, fun hcount i hi => ?_⟩⟩
  · rw [ofOutput?_eq_error_iff_lacks hwidth, lacks_missingColumn_iff]
  · rw [ofOutput?_eq_error_iff_lacks hwidth, lacks_columnCount_iff]
  · rw [← exists_makes_iff]
    constructor
    · rintro ⟨t, ht⟩
      have hwidth : OneWidth (rowsOf output) := by
        by_contra h
        obtain ⟨cause, hcause⟩ := exists_ofOutput?_eq_malformed_iff.mpr h
        rw [hcause] at ht
        cases ht
      exact ⟨hwidth, t, (ofOutput?_eq_ok_iff_makes hwidth).mp ht⟩
    · rintro ⟨hwidth, t, ht⟩
      exact ⟨t, (ofOutput?_eq_ok_iff_makes hwidth).mpr ht⟩
  · -- the number of devices wraps around, so it is at most the number of rows
    have hle : t.count.toNat ≤ t.rows.length := by
      rw [Table.count, UInt32.toNat_ofNat']
      exact Nat.mod_le _ _
    obtain ⟨cells, hcells⟩ := exists_holdsRow_of_ofOutput? ht (hi.trans_le hle)
    exact not_misses_of_failsAt hcells he
  · rw [Table.count, UInt32.toNat_ofNat_of_lt' hcount] at hi
    exact noSuchDevice_of_le hi

/-- A header of two columns. -/
def shortHeader : Line := ⟨["power.draw [W]", "name"].map fun s => Text.encode s.toList, .lf⟩

/-- A row under it, with nothing for the name. -/
def shortRow : Line := ⟨[Text.encode "70.25".toList, []], .lf⟩

/-- One output of each kind, the first with two things wrong with it. The table of the last has one
device, of which the name is no text. -/
theorem verdict_and_lookups_each :
    (∃ cause, Table.ofOutput? (write [shortHeader, sevens]) = .error (.malformed cause)) ∧
      Table.ofOutput? (write [shortHeader, shortRow]) = .error (.missingColumn "index") ∧
      Table.ofOutput? (write [shortRow]) = .error (.columnCount 14 2) ∧
      ∃ t, Table.ofOutput? (write [reversedHeader, sevens]) = .ok t ∧
        (t.snapshot.identity 0 = .error (.unavailable "name" "not valid UTF-8") ∧
          ¬Misses (.unavailable "name" "not valid UTF-8")) ∧
        t.snapshot.identity 1 = .error (.noSuchDevice 1) := by
  have hheaded : rowsOf (write [shortHeader, shortRow]) = [shortHeader.cells, shortRow.cells] := by
    decide +kernel
  have hbare : rowsOf (write [shortRow]) = [shortRow.cells] := by decide +kernel
  refine ⟨(verdict_and_lookups _).1.mpr (by decide +kernel), ?_, ?_, ?_⟩
  · exact (((verdict_and_lookups _).2.1 (by decide +kernel)).1 "index").mpr
      ⟨_, _, .index, hheaded, ⟨.name, by decide +kernel⟩,
        ⟨[.name], _, rfl, by decide +kernel, by decide +kernel⟩, rfl⟩
  · refine (((verdict_and_lookups _).2.1 (by decide +kernel)).2 14 2).mpr
      ⟨_, _, hbare, fun c => ?_, by decide, rfl, rfl⟩
    cases c <;> decide +kernel
  · have hnamed (c : Column) : ∃ cell ∈ reversedHeader.cells, headerName cell = c.label := by
      obtain ⟨cell, hmem, hspells⟩ := spells_reversedHeader c
      exact ⟨cell, hmem, headerName_of_spells hspells⟩
    have htable : Table.ofOutput? (write [reversedHeader, sevens])
        = .ok (.ofLines reversedHeader [sevens]) := ofOutput?_write hnamed (by decide)
    obtain ⟨-, -, hmisses, hbeyond⟩ := (verdict_and_lookups _).2.2.2 _ htable
    have hname : (Table.ofLines reversedHeader [sevens]).snapshot.identity 0
        = .error (.unavailable "name" "not valid UTF-8") := by decide +kernel
    exact ⟨_, htable, ⟨hname, hmisses 0 (by decide) _ (.identity hname)⟩,
      (hbeyond (by decide) 1 (by decide)).1⟩

end GpuMetrics.Smi
