import GpuMetrics.Proofs.Csv.Bare
import GpuMetrics.Proofs.Smi.Verdict

/-!
# Tables without a header

The command may print its table with a header or without one, and the two are read in different
ways: under a header a column stands where its name is found, and what is missing is a column;
without one it stands where it was requested, and what can be wrong is the width. They agree all
the same. Output without a header is read as if the names of the requested columns
(`GpuMetrics.Smi.requestLine`) stood in front of it, whatever else is in it
(`GpuMetrics.Smi.ofOutput?_requestLine_append`).

Both readings are brought to one form, in which the rows are as wide as the request and all of them
are about devices: for output that names no column in
`GpuMetrics.Smi.ofOutput?_eq_ok_iff_of_unnamed`, and for output under the names in
`GpuMetrics.Smi.ofOutput?_requestLine_append_eq_ok_iff`.
-/

namespace GpuMetrics.Smi

open Csv

/-! ### The names of the columns as a header -/

/-- The names of the columns in the order of the request, as cells. -/
def columnNames : List Cell := Column.all.map fun c => Text.encode c.label.toList

/-- The names of the columns in the order of the request, as a line of output. -/
def requestLine : List UInt8 := bareLine columnNames

theorem headerName_label (c : Column) : headerName (Text.encode c.label.toList) = c.label := by
  refine headerName_of_spells ⟨[], [], [], c.label, ?_, by simp, by simp, by simp, by simp⟩
  cases c <;> decide

theorem names_columnNames (c : Column) : Names columnNames c :=
  ⟨_, List.mem_map_of_mem c.mem_all, headerName_label c⟩

/-- **The names stand where the columns were requested.** -/
theorem firstNamed_columnNames : (⟨firstNamed columnNames⟩ : Layout) = .asRequested := by
  refine congrArg Layout.mk (funext fun c => ?_)
  rw [firstNamed, columnNames, List.findIdx_map, List.idxOf]
  congr 1
  funext c'
  rw [Function.comp_apply, headerName_label, Bool.eq_iff_iff, decide_eq_true_iff, beq_iff_eq]
  exact ⟨Column.label_injective, congrArg Column.label⟩

/-! ### One form for both readings -/

theorem names_trimmedRow_iff {cells : List Cell} {c : Column} :
    Names (trimmedRow cells) c ↔ Names cells c := by
  simp [Names, trimmedRow, headerName_trimBy]

theorem trimmedRow_columnNames : trimmedRow columnNames = columnNames := by decide +kernel

/-- The table of output whose records are all about devices. -/
def Table.ofRecords (all : List (List Cell)) : Table := ⟨.asRequested, all.map trimmedRow⟩

/-- **Output that names no column** is a table just if its records are as wide as the request. -/
theorem ofOutput?_eq_ok_iff_of_unnamed {output : List UInt8}
    (hunnamed : ∀ cells ∈ (cellsOf output).head?, ∀ c, ¬Names cells c) {t : Table} :
    Table.ofOutput? output = .ok t ↔
      (∀ cells ∈ cellsOf output, cells.length = Column.all.length) ∧
        t = .ofRecords (cellsOf output) := by
  simp only [ofOutput?_eq_ok_iff, rows?_eq_ok_iff_cellsOf]
  constructor
  · rintro ⟨rows, ⟨hwidth, rfl⟩, hmakes⟩
    cases hall : cellsOf output with
    | nil =>
      rw [hall] at hmakes
      cases hmakes
      exact ⟨by simp, rfl⟩
    | cons first rest =>
      rw [hall] at hunnamed hwidth hmakes
      cases hmakes with
      | headed named =>
        exact absurd (names_trimmedRow_iff.mp (named .name)) (hunnamed first rfl .name)
      | bare _ width =>
        have hfirst : first.length = Column.all.length :=
          (length_trimmedRow first).symm.trans width
        exact ⟨fun cells hcells => (hwidth cells hcells first (List.mem_cons_self ..)).trans hfirst,
          rfl⟩
  · rintro ⟨hwidth, rfl⟩
    refine ⟨_, ⟨fun cells hcells cells' hcells' =>
      (hwidth cells hcells).trans (hwidth cells' hcells').symm, rfl⟩, ?_⟩
    cases hall : cellsOf output with
    | nil => exact .nothing
    | cons first rest =>
      rw [hall] at hunnamed hwidth
      exact .bare (fun c hc => hunnamed first rfl c (names_trimmedRow_iff.mp hc))
        ((length_trimmedRow first).trans (hwidth first (List.mem_cons_self ..)))

/-- **Output under the names of the columns** is a table just if its records are as wide as the
request. -/
theorem ofOutput?_requestLine_append_eq_ok_iff {output : List UInt8}
    (hmark : byteOrderMark.isPrefixOf output = false) {t : Table} :
    Table.ofOutput? (requestLine ++ output) = .ok t ↔
      (∀ cells ∈ cellsOf output, cells.length = Column.all.length) ∧
        t = .ofRecords (cellsOf output) := by
  have hcells : cellsOf (requestLine ++ output) = columnNames :: cellsOf output :=
    cellsOf_bareLine_append (by decide) rfl hmark
  have hmakes {rows : List (List Cell)} :
      Makes (columnNames :: rows) t ↔ t = ⟨.asRequested, rows⟩ := by
    rw [← firstNamed_columnNames]
    constructor
    · intro h
      cases h with
      | headed named => rfl
      | bare unnamed _ => exact absurd (names_columnNames .name) (unnamed .name)
    · rintro rfl
      exact .headed names_columnNames
  simp only [ofOutput?_eq_ok_iff, rows?_eq_ok_iff_cellsOf, hcells, List.forall_mem_cons]
  constructor
  · rintro ⟨rows, ⟨⟨⟨-, hwidth⟩, -⟩, rfl⟩, h⟩
    rw [List.map_cons, trimmedRow_columnNames, hmakes] at h
    exact ⟨fun cells hcells => (hwidth cells hcells).symm, h⟩
  · rintro ⟨hwidth, ht⟩
    refine ⟨_, ⟨⟨⟨trivial, fun cells h => (hwidth cells h).symm⟩, fun cells h => ⟨hwidth cells h,
      fun cells' h' => (hwidth cells h).trans (hwidth cells' h').symm⟩⟩, rfl⟩, ?_⟩
    rw [List.map_cons, trimmedRow_columnNames, hmakes]
    exact ht

/-- **Output without a header is read as if the names of the columns stood in front of it.** Take
any bytes that do not begin with a byte-order mark, and of which the first record, if there is
one, names no column. They are a table just if they are one with the names in front, and it is the
same table: with as many devices, and the same answers, or failures to answer, about each of them.
-/
theorem ofOutput?_requestLine_append {output : List UInt8}
    (hmark : byteOrderMark.isPrefixOf output = false)
    (hunnamed : ∀ cells ∈ (cellsOf output).head?, ∀ c, ¬Names cells c) (t : Table) :
    Table.ofOutput? (requestLine ++ output) = .ok t ↔ Table.ofOutput? output = .ok t := by
  rw [ofOutput?_requestLine_append_eq_ok_iff hmark, ofOutput?_eq_ok_iff_of_unnamed hunnamed]

/-- Output with a blank line, and then one record: the quoted name has a comma in it, the fan speed
is no text, and the last quote is left open. -/
def oddOutput : List UInt8 :=
  [carriageReturn, lineFeed] ++ Text.encode "\"Tesla, T4\", 0 ,u,".toList ++ [0xff] ++
    Text.encode ",61,1,2,3,70.25,87,40,\"5\"0,6,\"7".toList

/-- Either way it is one device, of which everything but the fan speed is known. -/
theorem ofOutput?_requestLine_append_odd :
    ∃ t, Table.ofOutput? oddOutput = .ok t ∧ Table.ofOutput? (requestLine ++ oddOutput) = .ok t ∧
      t.count = 1 ∧ t.snapshot.identity 0 = .ok ⟨"0", "u", "Tesla, T4"⟩ ∧
      t.snapshot.reading .power 0 = .ok (.ofNat 70250) ∧
      t.snapshot.reading .fanSpeed 0 = .error (.unavailable "fan.speed" "not valid UTF-8") := by
  have hheader : ∀ cells ∈ (cellsOf oddOutput).head?, isHeader cells = false := by decide +kernel
  have hunnamed : ∀ cells ∈ (cellsOf oddOutput).head?, ∀ c, ¬Names cells c := by
    intro cells hcells c hc
    exact absurd (isHeader_eq_true_iff.mpr ⟨c, hc⟩) (by simp [hheader cells hcells])
  have hbare : Table.ofOutput? oddOutput = .ok (.ofRecords (cellsOf oddOutput)) :=
    (ofOutput?_eq_ok_iff_of_unnamed hunnamed).mpr ⟨by decide +kernel, rfl⟩
  refine ⟨_, hbare, (ofOutput?_requestLine_append (by decide +kernel) hunnamed _).mpr hbare, ?_⟩
  decide +kernel

end GpuMetrics.Smi
