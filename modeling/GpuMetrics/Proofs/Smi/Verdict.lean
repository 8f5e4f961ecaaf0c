import GpuMetrics.Proofs.Csv.Width
import GpuMetrics.Proofs.Smi.RoundTrip

/-!
# Which output is a device table

Any bytes at all can be the output of the command. Reading them gives a table or fails in one of
three ways, and which of these it is hangs on the rows alone: on their width, on the columns that
the first row names, and on how wide it is if it names none. `GpuMetrics.Smi.Makes` is the relation
between rows and the table that they make, `GpuMetrics.Smi.Lacks` the one between rows and what is
wrong with them; neither mentions the reader, and the reader decides both
(`GpuMetrics.Smi.ofOutput?_eq_ok_iff`, `GpuMetrics.Smi.ofOutput?_eq_error_iff`).

A table that was read has a cell for every column in every row
(`GpuMetrics.Smi.exists_holdsRow_of_ofOutput?`), so the look-ups of a scrape cannot miss.
-/

namespace GpuMetrics.Smi

open Backend Csv

/-! ### The columns that a row names -/

/-- A row that names a column: the column's name stands in one of its cells. -/
def Names (row : List Cell) (c : Column) : Prop := ∃ cell ∈ row, headerName cell = c.label

/-- A row is taken for a header just if it names a column. -/
theorem isHeader_eq_true_iff {row : List Cell} : isHeader row = true ↔ ∃ c, Names row c := by
  constructor
  · intro h
    obtain ⟨cell, hmem, hcell⟩ := List.any_eq_true.mp h
    obtain ⟨c, hc⟩ := Option.isSome_iff_exists.mp hcell
    exact ⟨c, cell, hmem, ofCell?_eq_some_iff.mp hc⟩
  · rintro ⟨c, h⟩
    exact isHeader_of_named h

/-- A column is in the list of what the cells name just if the row names it. -/
theorem contains_map_ofCell?_iff {row : List Cell} {c : Column} :
    (row.map Column.ofCell?).contains (some c) = true ↔ Names row c := by
  simp [Names, ofCell?_eq_some_iff]

/-- **The column that a header is reported to lack** is the first in the order of the request that
it does not name. -/
theorem ofHeader?_eq_error_iff {header : List Cell} {c : Column} :
    Layout.ofHeader? header = .error c ↔ ∃ before after, Column.all = before ++ c :: after ∧
      (∀ c' ∈ before, Names header c') ∧ ¬Names header c := by
  have hfind : Layout.ofHeader? header = .error c ↔
      Column.all.find? (fun c => !(header.map Column.ofCell?).contains (some c)) = some c := by
    rw [Layout.ofHeader?]
    cases Column.all.find? (fun c => !(header.map Column.ofCell?).contains (some c)) <;> simp
  rw [hfind, List.find?_eq_some_iff_append]
  simp only [Bool.not_eq_true', ← Bool.not_eq_true, contains_map_ofCell?_iff, not_not]
  constructor
  · rintro ⟨habsent, before, after, hall, hbefore⟩
    exact ⟨before, after, hall, hbefore, habsent⟩
  · rintro ⟨before, after, hall, hbefore, habsent⟩
    exact ⟨habsent, before, after, hall, hbefore⟩

/-- A header that lacks no column gives the layout in which each stands where it is first named. -/
theorem ofHeader?_eq_ok_iff {header : List Cell} {layout : Layout} :
    Layout.ofHeader? header = .ok layout ↔
      (∀ c, Names header c) ∧ layout = ⟨firstNamed header⟩ := by
  constructor
  · intro h
    have hnames : ∀ c, Names header c := by
      rw [Layout.ofHeader?] at h
      cases hmissing : Column.all.find?
          (fun c => !(header.map Column.ofCell?).contains (some c)) with
      | some c =>
        simp only [hmissing] at h
        cases h
      | none =>
        intro c
        have hc := List.find?_eq_none.mp hmissing c c.mem_all
        simpa only [Bool.not_eq_true', Bool.not_eq_false, contains_map_ofCell?_iff] using hc
    rw [ofHeader?_of_named hnames] at h
    exact ⟨hnames, (Except.ok.inj h).symm⟩
  · rintro ⟨hnames, rfl⟩
    exact ofHeader?_of_named hnames

/-! ### The verdict -/

/-- Rows and the table that they make. -/
inductive Makes : List (List Cell) → Table → Prop where
  /-- Without rows there are no devices. -/
  | nothing : Makes [] ⟨.asRequested, []⟩
  /-- The first row names every column, and the rows behind it are about devices. -/
  | headed {first : List Cell} {rest : List (List Cell)} (named : ∀ c, Names first c) :
      Makes (first :: rest) ⟨⟨firstNamed first⟩, rest⟩
  /-- The first row names no column and is as wide as the request, so that all rows are about
  devices. -/
  | bare {first : List Cell} {rest : List (List Cell)} (unnamed : ∀ c, ¬Names first c)
      (width : first.length = Column.all.length) :
      Makes (first :: rest) ⟨.asRequested, first :: rest⟩

/-- Rows that make no table, and what is wrong with them. -/
inductive Lacks : List (List Cell) → BackendError → Prop where
  /-- The first row names some columns, but not this one, the first in the order of the request
  that it does not name. -/
  | column {first : List Cell} {rest : List (List Cell)} {c : Column} {before after : List Column}
      (named : ∃ c', Names first c') (request : Column.all = before ++ c :: after)
      (present : ∀ c' ∈ before, Names first c') (absent : ¬Names first c) :
      Lacks (first :: rest) (.missingColumn c.label)
  /-- The first row names no column, and is not as wide as the request. -/
  | width {first : List Cell} {rest : List (List Cell)} (unnamed : ∀ c, ¬Names first c)
      (misfit : first.length ≠ Column.all.length) :
      Lacks (first :: rest) (.columnCount Column.all.length first.length)

/-- Rows make a table, or they lack something. -/
theorem makes_or_lacks (rows : List (List Cell)) : (∃ t, Makes rows t) ∨ ∃ e, Lacks rows e := by
  rcases rows with _ | ⟨first, rest⟩
  · exact Or.inl ⟨_, .nothing⟩
  by_cases hnamed : ∃ c, Names first c
  · cases hlayout : Layout.ofHeader? first with
    | ok layout => exact Or.inl ⟨_, .headed (ofHeader?_eq_ok_iff.mp hlayout).1⟩
    | error c =>
      obtain ⟨before, after, request, present, absent⟩ := ofHeader?_eq_error_iff.mp hlayout
      exact Or.inr ⟨_, .column hnamed request present absent⟩
  · by_cases hwidth : first.length = Column.all.length
    · exact Or.inl ⟨_, .bare (not_exists.mp hnamed) hwidth⟩
    · exact Or.inr ⟨_, .width (not_exists.mp hnamed) hwidth⟩

theorem isHeader_eq_false {row : List Cell} (h : ∀ c, ¬Names row c) : isHeader row = false := by
  rw [← Bool.not_eq_true, isHeader_eq_true_iff]
  exact not_exists.mpr h

section Rows

variable {output : List UInt8} {rows : List (List Cell)} (hrows : rows? output = .ok rows)
include hrows

theorem ofOutput?_of_makes {t : Table} (h : Makes rows t) : Table.ofOutput? output = .ok t := by
  cases h with
  | nothing => simp only [Table.ofOutput?, hrows]
  | headed named =>
    simp only [Table.ofOutput?, hrows, isHeader_eq_true_iff.mpr ⟨.name, named .name⟩,
      ofHeader?_of_named named, if_true]
  | bare unnamed width =>
    simp only [Table.ofOutput?, hrows, isHeader_eq_false unnamed, width, Bool.false_eq_true,
      if_false, if_true]

theorem ofOutput?_of_lacks {e : BackendError} (h : Lacks rows e) :
    Table.ofOutput? output = .error e := by
  cases h with
  | column named request present absent =>
    simp only [Table.ofOutput?, hrows, isHeader_eq_true_iff.mpr named,
      ofHeader?_eq_error_iff.mpr ⟨_, _, request, present, absent⟩, if_true]
  | width unnamed misfit =>
    simp only [Table.ofOutput?, hrows, isHeader_eq_false unnamed, misfit, Bool.false_eq_true,
      if_false]

end Rows

theorem ofOutput?_of_misfit {output : List UInt8} {cause : WidthError} (h : Misfit output cause) :
    Table.ofOutput? output = .error (.malformed cause) := by
  simp only [Table.ofOutput?, rows?_eq_error_iff.mpr h]

/-- **Output is read as a table just if its rows make that table.** -/
theorem ofOutput?_eq_ok_iff {output : List UInt8} {t : Table} :
    Table.ofOutput? output = .ok t ↔ ∃ rows, rows? output = .ok rows ∧ Makes rows t := by
  refine ⟨fun h => ?_, fun ⟨rows, hrows, hmakes⟩ => ofOutput?_of_makes hrows hmakes⟩
  cases hrows : rows? output with
  | error cause =>
    rw [ofOutput?_of_misfit (rows?_eq_error_iff.mp hrows)] at h
    cases h
  | ok rows =>
    refine ⟨rows, rfl, ?_⟩
    rcases makes_or_lacks rows with ⟨t', ht'⟩ | ⟨e, he⟩
    · rw [ofOutput?_of_makes hrows ht', Except.ok.injEq] at h
      exact h ▸ ht'
    · rw [ofOutput?_of_lacks hrows he] at h
      cases h

/-- **Output is refused for its width, or else for what its rows lack.** -/
theorem ofOutput?_eq_error_iff {output : List UInt8} {e : BackendError} :
    Table.ofOutput? output = .error e ↔
      (∃ cause, Misfit output cause ∧ e = .malformed cause) ∨
        ∃ rows, rows? output = .ok rows ∧ Lacks rows e := by
  constructor
  · intro h
    cases hrows : rows? output with
    | error cause =>
      have hmisfit := rows?_eq_error_iff.mp hrows
      rw [ofOutput?_of_misfit hmisfit, Except.error.injEq] at h
      exact Or.inl ⟨cause, hmisfit, h.symm⟩
    | ok rows =>
      refine Or.inr ⟨rows, rfl, ?_⟩
      rcases makes_or_lacks rows with ⟨t, ht⟩ | ⟨e', he'⟩
      · rw [ofOutput?_of_makes hrows ht] at h
        cases h
      · rw [ofOutput?_of_lacks hrows he', Except.error.injEq] at h
        exact h ▸ he'
  · rintro (⟨cause, hmisfit, rfl⟩ | ⟨rows, hrows, hlacks⟩)
    · exact ofOutput?_of_misfit hmisfit
    · exact ofOutput?_of_lacks hrows hlacks

/-! ### Every look-up hits -/

/-- A table whose rows are all this wide, and whose columns all stand within that width. -/
structure Table.HasWidth (t : Table) (width : Nat) : Prop where
  rows : ∀ row ∈ t.rows, row.length = width
  columns : ∀ c, t.layout.position c < width

/-- **A table that was read has a width**: that of the first row, which is its header or already
about a device. -/
theorem exists_hasWidth_of_ofOutput? {output : List UInt8} {t : Table}
    (h : Table.ofOutput? output = .ok t) : ∃ width, t.HasWidth width := by
  obtain ⟨rows, hrows, hmakes⟩ := ofOutput?_eq_ok_iff.mp h
  cases hmakes with
  | nothing => exact ⟨Column.all.length, by simp, fun c => List.idxOf_lt_length_of_mem c.mem_all⟩
  | @headed first rest named =>
    refine ⟨first.length, fun row hrow => ?_, fun c => firstNamed_lt (named c)⟩
    exact length_eq_of_rows? hrows (List.mem_cons_of_mem _ hrow) (List.mem_cons_self ..)
  | @bare first rest unnamed width =>
    refine ⟨Column.all.length, fun row hrow => ?_, fun c => List.idxOf_lt_length_of_mem c.mem_all⟩
    rw [length_eq_of_rows? hrows hrow (List.mem_cons_self ..), width]

/-- **Every row of a table that was read has a cell for each column.** -/
theorem exists_holdsRow_of_ofOutput? {output : List UInt8} {t : Table}
    (h : Table.ofOutput? output = .ok t) {i : Nat} (hi : i < t.rows.length) :
    ∃ cells, t.HoldsRow i cells := by
  obtain ⟨width, hwidth⟩ := exists_hasWidth_of_ofOutput? h
  refine ⟨fun c => (t.rows[i][t.layout.position c]?).getD [], t.rows[i],
    List.getElem?_eq_getElem hi, fun c => ?_⟩
  have hposition : t.layout.position c < t.rows[i].length :=
    hwidth.rows _ (List.getElem_mem hi) ▸ hwidth.columns c
  rw [List.getElem?_eq_getElem hposition, Option.getD_some]

end GpuMetrics.Smi
