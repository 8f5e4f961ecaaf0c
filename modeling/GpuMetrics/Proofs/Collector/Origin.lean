import GpuMetrics.Proofs.Collector.Accounting
import GpuMetrics.Proofs.Collector.Containment
import GpuMetrics.Proofs.Smi.Lookup

/-!
# Where the labels of a device come from

A device is told from others by its labels, so a label that stands for no value would be a device
that does not exist. A cell gives a label just if it is text and neither empty nor bracketed, which
can be told from its bytes alone (`GpuMetrics.Smi.IsVoid`): a bracket is a byte of its own in the
encoding of a text, and no byte of any other character
(`GpuMetrics.Text.head?_encode_eq_bracket_iff`). The label then has just the bytes of the cell.

So the labels of every sample about a device are the bytes of three cells of one row
(`GpuMetrics.Collector.Identifies`), and a row with a void cell among the three has no samples. The
main statement is `GpuMetrics.Collector.Gpu.labels_of_one_row`.
-/

namespace GpuMetrics

namespace Text

/-! ### Brackets and their bytes -/

/-- The first byte of a character is a bracket just if the character is. -/
theorem head?_utf8EncodeChar_eq_bracket_iff (c : Char) :
    (String.utf8EncodeChar c).head? = some 0x5b ↔ c = '[' := by
  constructor
  · intro h
    by_cases hc : c.toNat < 0x80
    · have hval : c.val.toNat ≤ 0x7f := Nat.le_of_lt_succ hc
      have hencode : String.utf8EncodeChar c = [UInt8.ofNat c.toNat] := if_pos hval
      rw [hencode, List.head?_cons, Option.some.injEq, ← UInt8.toNat_inj,
        UInt8.toNat_ofNat_of_lt' (by simp only [UInt8.size]; omega)] at h
      exact Char.toNat_inj.mp h
    · -- the bytes of other characters are beyond ASCII
      have hbyte := le_of_mem_utf8EncodeChar (Nat.not_lt.mp hc) 0x5b (List.mem_of_head? h)
      exact absurd hbyte (by decide)
  · rintro rfl
    rfl

theorem encode_eq_nil_iff {cs : List Char} : encode cs = [] ↔ cs = [] := by
  cases cs with
  | nil => exact iff_of_true rfl rfl
  | cons c cs => simp [encode, String.utf8EncodeChar_ne_nil]

/-- **A text starts with a bracket just if its bytes do.** -/
theorem head?_encode_eq_bracket_iff {cs : List Char} :
    (encode cs).head? = some 0x5b ↔ cs.head? = some '[' := by
  cases cs with
  | nil => exact iff_of_false (by decide) (by decide)
  | cons c cs =>
    have hencode : encode (c :: cs) = String.utf8EncodeChar c ++ encode cs := rfl
    rw [hencode, List.head?_append_of_ne_nil _ String.utf8EncodeChar_ne_nil,
      head?_utf8EncodeChar_eq_bracket_iff, List.head?_cons, Option.some.injEq]

end Text

namespace Smi

open Backend Csv Device

/-! ### Cells without a value -/

/-- A cell without a value: it is empty, starts with a bracket, or is no text. -/
def IsVoid (cell : Cell) : Prop :=
  cell = [] ∨ cell.head? = some 0x5b ∨ ∀ s : String, cell ≠ Text.encode s.toList

theorem isPlaceholder_iff {s : String} :
    Table.isPlaceholder s = true ↔ s.toList = [] ∨ s.toList.head? = some '[' := by
  rw [Table.isPlaceholder]
  cases s.toList with
  | nil => simp
  | cons c cs => simp

/-- **A cell gives a text just if it has a value**, and then it has the bytes of the text. -/
theorem textOf_eq_ok_iff {c : Column} {cell : Cell} {s : String} :
    textOf c cell = .ok s ↔ cell = Text.encode s.toList ∧ ¬IsVoid cell := by
  rw [textOf]
  cases hdecode : Text.decodeUtf8? cell with
  | none =>
    refine iff_of_false (by simp) fun h => ?_
    rw [Text.decodeUtf8?_eq_some_iff.mpr h.1] at hdecode
    cases hdecode
  | some s' =>
    obtain rfl := Text.decodeUtf8?_eq_some_iff.mp hdecode
    have htext : ¬∀ s : String, Text.encode s'.toList ≠ Text.encode s.toList := fun h => h s' rfl
    have hvoid : IsVoid (Text.encode s'.toList) ↔ Table.isPlaceholder s' = true := by
      rw [IsVoid, isPlaceholder_iff, Text.encode_eq_nil_iff, Text.head?_encode_eq_bracket_iff]
      exact or_congr_right (or_iff_left htext)
    have hsame : Text.encode s'.toList = Text.encode s.toList ↔ s' = s := by
      rw [← Text.decodeUtf8?_eq_some_iff, hdecode, Option.some.injEq]
    rw [hvoid, hsame]
    by_cases h : Table.isPlaceholder s' = true
    · simp [h]
    · simp [h]

/-- A label that is taken from a cell of a row: it has the bytes of the cell, which has a value. -/
structure IsLabel (layout : Layout) (row : List Cell) (c : Column) (label : String) : Prop where
  bytes : row[layout.position c]? = some (Text.encode label.toList)
  valued : ¬IsVoid (Text.encode label.toList)

/-- An identity that is taken from a row. -/
structure Identifies (layout : Layout) (row : List Cell) (identity : Identity) : Prop where
  minorNumber : IsLabel layout row .index identity.minorNumber
  uuid : IsLabel layout row .uuid identity.uuid
  name : IsLabel layout row .name identity.name

theorem identityOf_eq_ok_iff {index uuid name : Cell} {identity : Identity} :
    identityOf index uuid name = .ok identity ↔
      textOf .index index = .ok identity.minorNumber ∧ textOf .uuid uuid = .ok identity.uuid ∧
        textOf .name name = .ok identity.name := by
  rw [identityOf]
  rcases identity with ⟨minorNumber', uuid', name'⟩
  cases textOf .index index <;> cases textOf .uuid uuid <;> cases textOf .name name <;> simp

section Rows

variable {output : List UInt8} {t : Table} (ht : Table.ofOutput? output = .ok t) {device : Nat}
  {row : List Cell} (hrow : t.rows[device]? = some row)
include ht hrow

/-- **A device has just the identity that its row gives.** -/
theorem identity_eq_ok_iff {identity : Identity} :
    t.identity device = .ok identity ↔ Identifies t.layout row identity := by
  obtain ⟨cells, hholds⟩ := exists_holdsRow_of_ofOutput? ht (List.getElem?_eq_some_iff.mp hrow).1
  obtain ⟨row', hrow', hcells⟩ := hholds.exists_row
  obtain rfl : row = row' := Option.some.inj (hrow.symm.trans hrow')
  have hlabel (c : Column) (label : String) :
      textOf c (cells c) = .ok label ↔ IsLabel t.layout row c label := by
    rw [textOf_eq_ok_iff]
    constructor
    · rintro ⟨hbytes, hvalued⟩
      exact ⟨(hcells c).trans (congrArg some hbytes), hbytes ▸ hvalued⟩
    · rintro ⟨hbytes, hvalued⟩
      have hsame : cells c = Text.encode label.toList :=
        Option.some.inj ((hcells c).symm.trans hbytes)
      exact ⟨hsame, hsame ▸ hvalued⟩
  rw [Table.identity_of_holdsRow hholds, identityOf_eq_ok_iff, hlabel, hlabel, hlabel]
  exact ⟨fun ⟨h₁, h₂, h₃⟩ => ⟨h₁, h₂, h₃⟩, fun ⟨h₁, h₂, h₃⟩ => ⟨h₁, h₂, h₃⟩⟩

end Rows

/-- There are no more devices than rows in the output. -/
theorem length_le_of_makes {rows : List (List Cell)} {t : Table} (h : Makes rows t) :
    t.rows.length ≤ rows.length := by
  cases h with
  | nothing => exact le_rfl
  | headed => exact Nat.le_succ _
  | bare => exact le_rfl

/-- The rows of a table that was read are those of the output. -/
theorem makes_of_ofOutput? {output : List UInt8} {t : Table}
    (h : Table.ofOutput? output = .ok t) : Makes (rowsOf output) t := by
  obtain ⟨rows, hrows, hmakes⟩ := ofOutput?_eq_ok_iff.mp h
  exact (rows?_eq_ok_iff_oneWidth.mp hrows).2 ▸ hmakes

end Smi

namespace Collector

open Backend Csv Device Smi GpuMetrics.Metric

/-- A row with a void cell among the three that identify a device. -/
def LacksIdentity (layout : Layout) (row : List Cell) : Prop :=
  ∃ c ∈ identityColumns, ∃ cell, row[layout.position c]? = some cell ∧ IsVoid cell

theorem not_identifies_of_lacksIdentity {layout : Layout} {row : List Cell}
    (h : LacksIdentity layout row) (identity : Identity) : ¬Identifies layout row identity := by
  rintro ⟨hindex, huuid, hname⟩
  obtain ⟨c, hc, cell, hcell, hvoid⟩ := h
  have hlabel {label : String} (h : IsLabel layout row c label) : False :=
    h.valued (Option.some.inj (hcell.symm.trans h.bytes) ▸ hvoid)
  simp only [identityColumns, List.mem_cons, List.not_mem_nil, or_false] at hc
  rcases hc with rfl | rfl | rfl
  · exact hlabel hindex
  · exact hlabel huuid
  · exact hlabel hname

namespace Gpu

/-- Without a table an update emits the number of devices, which is zero, and nothing else. -/
theorem attributed_of_error {ns : String} {g : Gpu} (h : g.schema.IsUnder ns) {host : Host}
    {releases : Nat} {cause : BackendError}
    (hcause : (g.source.query host releases).value = .error cause) :
    (g.attributed host releases).map (fun x => (x.1, x.2.observed))
      = [(none, expectedCount ns 0)] := by
  obtain ⟨count, hcount, hobserved⟩ := sample_deviceCount h .zero
  rw [attributed, hcause, hcount, List.map_singleton, List.map_singleton, hobserved,
    expectedCount, Binary64.ofNat_zero]

section Table

variable {ns command : String} {g : Gpu} (hg : (ofBackend? ns (backend command)).value = .ok g)
  {host : Host} {stdout stderr : List UInt8} {t : Table}
  (hhost : host.launch command = .ended (.exited 0) stdout stderr)
  (ht : Table.ofOutput? stdout = .ok t) (releases : Nat)
include hg hhost ht

/-- What is seen of the samples about a device is what is expected of it. -/
theorem map_observed_of_device {device : Nat} (hdevice : device < t.count.toNat) :
    ((g.attributed host releases).filter (·.1 = some device)).map (fun x => x.2.observed)
      = expectedOfDevice ns t.snapshot device := by
  obtain ⟨hunder, -⟩ := isUnder_of_ofBackend? hg
  have hseen := attributedDevices_filter hunder (s := t.snapshot) hdevice
  rwa [← attributed_of_table hg hhost ht releases, List.map_map] at hseen

/-- A row that lacks an identity has no samples. -/
theorem filter_attributed_of_lacksIdentity (hrows : t.rows.length < UInt32.size) {device : Nat}
    {row : List Cell} (hrow : t.rows[device]? = some row) (hlacks : LacksIdentity t.layout row) :
    (g.attributed host releases).filter (·.1 = some device) = [] := by
  have hdevice : device < t.count.toNat :=
    (List.getElem?_eq_some_iff.mp hrow).1.trans_eq (Table.length_snapshot hrows).symm
  have hobserved := map_observed_of_device hg hhost ht releases hdevice
  cases hidentity : t.snapshot.identity device with
  | error cause =>
    rw [expectedOfDevice, hidentity] at hobserved
    exact List.map_eq_nil_iff.mp hobserved
  | ok identity =>
    exact absurd ((identity_eq_ok_iff ht hrow).mp hidentity)
      (not_identifies_of_lacksIdentity hlacks identity)

/-- **The labels of a sample about a device are cells of the device's row.** -/
theorem exists_identifies_of_mem (hrows : t.rows.length < UInt32.size) {x : Option Nat × Sample}
    (hx : x ∈ g.attributed host releases)
    (hname : x.2.name ≠ Schema.nameUnder ns "num_devices") :
    ∃ device row identity, x.1 = some device ∧ t.rows[device]? = some row ∧
      Identifies t.layout row identity ∧ x.2.labels = identityLabels identity := by
  obtain ⟨hunder, -⟩ := isUnder_of_ofBackend? hg
  have hmem := hx
  rw [attributed_of_table hg hhost ht releases] at hmem
  rcases device_of_mem_attributedDevices hunder hmem with ⟨-, hcount⟩ | ⟨device, hdevice, hfst⟩
  · exact absurd (congrArg Observed.name hcount) hname
  · have hcounted : device < t.count.toNat := hdevice
    have hobserved := map_observed_of_device hg hhost ht releases hcounted
    have hseen : x.2.observed ∈ expectedOfDevice ns t.snapshot device :=
      hobserved ▸ List.mem_map.mpr
        ⟨x, List.mem_filter.mpr ⟨hx, decide_eq_true hfst⟩, rfl⟩
    have hlt : device < t.rows.length := hdevice.trans_eq (Table.length_snapshot hrows)
    have hrow : t.rows[device]? = some t.rows[device] := List.getElem?_eq_getElem hlt
    cases hidentity : t.snapshot.identity device with
    | error cause => simp [expectedOfDevice, hidentity] at hseen
    | ok identity =>
      exact ⟨device, _, identity, hfst, hrow, (identity_eq_ok_iff ht hrow).mp hidentity,
        (of_mem_expectedOfDevice hidentity hseen).1⟩

end Table

/-- **No label stands for a value that is not there.** Whatever bytes the command prints, and
however it ends, an update that reads no table from them emits the number of devices alone, which is
zero. Over a table, of fewer than `2 ^ 32` rows:

* the number of devices is emitted once, and is that of all the table's rows;
* any other sample has just the labels `minor_number`, `uuid` and `name`, and they are byte for byte
  the trimmed index, uuid and name cells of the row of the device that it is about, each of them a
  text that is neither empty nor bracketed;
* a row in which one of the three is empty, bracketed or no text has no sample. -/
theorem labels_of_one_row {ns command : String} {g : Gpu}
    (hg : (ofBackend? ns (backend command)).value = .ok g) (host : Host) (releases : Nat) :
    let run := g.attributed host releases
    run.map Prod.snd = (g.update host releases).emission.samples ∧
      ((¬∃ stdout stderr t, host.launch command = .ended (.exited 0) stdout stderr ∧
          Table.ofOutput? stdout = .ok t) →
        run.map (fun x => (x.1, x.2.observed)) = [(none, expectedCount ns 0)]) ∧
      ∀ stdout stderr t, host.launch command = .ended (.exited 0) stdout stderr →
        Table.ofOutput? stdout = .ok t → (rowsOf stdout).length < UInt32.size →
          Makes (rowsOf stdout) t ∧
          (∃ count : Sample, run.filter (·.1 = none) = [(none, count)] ∧
            count.observed = expectedCount ns t.rows.length) ∧
          (∀ x ∈ run, x.2.name ≠ Schema.nameUnder ns "num_devices" →
            ∃ device row identity, x.1 = some device ∧ t.rows[device]? = some row ∧
              Identifies t.layout row identity ∧ x.2.labels = identityLabels identity) ∧
          ∀ device row, t.rows[device]? = some row → LacksIdentity t.layout row →
            run.filter (·.1 = some device) = [] := by
  intro run
  obtain ⟨hunder, hsource⟩ := isUnder_of_ofBackend? hg
  refine ⟨map_snd_attributed .., fun hnone => ?_, fun stdout stderr t hhost ht hrows => ?_⟩
  · cases hopened : (g.source.query host releases).value with
    | error cause => exact attributed_of_error hunder hopened
    | ok s =>
      rw [hsource] at hopened
      obtain ⟨t, hquery, -⟩ := value_query_backend_eq_ok_iff.mp hopened
      obtain ⟨stdout, stderr, hhost, ht⟩ := query_eq_ok_iff.mp hquery
      exact absurd ⟨stdout, stderr, t, hhost, ht⟩ hnone
  · have hmakes := makes_of_ofOutput? ht
    have hlength : t.rows.length < UInt32.size := (length_le_of_makes hmakes).trans_lt hrows
    refine ⟨hmakes, ?_, fun x hx => exists_identifies_of_mem hg hhost ht releases hlength hx,
      fun device row hrow => filter_attributed_of_lacksIdentity hg hhost ht releases hlength hrow⟩
    obtain ⟨count, hobserved, hcount⟩ := filter_attributedDevices_none hunder t.snapshot
    rw [Table.length_snapshot hlength] at hobserved
    refine ⟨count, ?_, hobserved⟩
    simp only [run, attributed_of_table hg hhost ht releases, hcount]

/-- The device whose name is no text is counted, and has no sample. -/
theorem labels_of_one_row_sevens :
    ∃ g, (ofBackend? "node" (backend "smi")).value = .ok g ∧
      (g.attributed gappyHost 0).filter (·.1 = some 0) = [] ∧
      ∃ count : Sample, (g.attributed gappyHost 0).filter (·.1 = none) = [(none, count)] ∧
        count.observed = expectedCount "node" 2 := by
  obtain ⟨g, hg⟩ := exists_ofBackend?_node (backend "smi")
  have htable : IsDeviceTable reversedHeader [sevens, gappyRow] :=
    ⟨spells_reversedHeader, by decide⟩
  have ht : Table.ofOutput? (write [reversedHeader, sevens, gappyRow])
      = .ok (Table.ofLines reversedHeader [sevens, gappyRow]) :=
    ofOutput?_write htable.named htable.width
  obtain ⟨-, -, hrun⟩ := labels_of_one_row hg gappyHost 0
  obtain ⟨-, hcount, -, hlacks⟩ := hrun _ _ _ rfl ht (by decide +kernel)
  have hvoid : IsVoid [0xff] := by
    have hnone : Text.decodeUtf8? [0xff] = none := by decide +kernel
    exact Or.inr (Or.inr fun s hs => by
      rw [Text.decodeUtf8?_eq_some_iff.mpr hs] at hnone
      cases hnone)
  exact ⟨g, hg, hlacks 0 _ rfl ⟨.name, by decide, [0xff], by decide +kernel, hvoid⟩, hcount⟩

end Gpu

end Collector

end GpuMetrics
