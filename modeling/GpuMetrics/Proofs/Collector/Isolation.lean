import GpuMetrics.Proofs.Collector.Sampler
import GpuMetrics.Proofs.Smi.RoundTrip
import GpuMetrics.Smi.Backend

/-!
# One cell of the device table costs no more than its own sample

Two outputs of the command are compared that differ in a single cell. Every quantity of a device is
taken from one cell of its own (`GpuMetrics.Collector.value?_of_holdsRow`), both sides of the
memory included, and its identity from three others; so what a cell can change is at most the one
sample that is taken from it, or else the device's block as a whole.

To say so the samples of an update are kept with the device that each is about
(`GpuMetrics.Collector.Gpu.attributed`). The main statement is
`GpuMetrics.Collector.Gpu.attributed_of_differAt`.
-/

namespace GpuMetrics

namespace Smi

open Backend Csv

/-! ### Tables that differ in one cell -/

/-- The lines of a device table: a header in which every column is written somewhere, in any order
and among any other cells, and rows of its width. -/
structure IsDeviceTable (header : Line) (rows : List Line) : Prop where
  spells : ∀ c : Column, ∃ cell ∈ header.cells, c.Spells cell
  width : ∀ l ∈ rows, l.cells.length = header.cells.length

theorem IsDeviceTable.named {header : Line} {rows : List Line} (h : IsDeviceTable header rows)
    (c : Column) : ∃ cell ∈ header.cells, headerName cell = c.label := by
  obtain ⟨cell, hmem, hspells⟩ := h.spells c
  exact ⟨cell, hmem, headerName_of_spells hspells⟩

/-- Lines with one layout of columns and with the same rows, but for the cell at one position of
one row. -/
structure DifferAt (header header' : Line) (rows rows' : List Line) (row position : Nat) :
    Prop where
  layout : ∀ c, firstNamed header'.cells c = firstNamed header.cells c
  cells : ∃ cell, rows'.map (·.cells) = (rows.map (·.cells)).modify row (·.set position cell)

section DifferAt

variable {header header' : Line} {rows rows' : List Line} {row position : Nat}
  (htable : IsDeviceTable header rows) (htable' : IsDeviceTable header' rows')
  (hdiffer : DifferAt header header' rows rows' row position)
include hdiffer

theorem length_of_differAt : rows'.length = rows.length := by
  obtain ⟨cell, hrows⟩ := hdiffer.cells
  simpa using congrArg List.length hrows

include htable htable'

/-- **Row by row the two tables hold the same cells**, but for the columns that stand at the
position of the one cell, in its row. -/
theorem exists_holdsRow_of_differAt {i : Nat} (hi : i < rows.length) :
    ∃ cells cells' : Column → Cell, (Table.ofLines header rows).HoldsRow i cells ∧
      (Table.ofLines header' rows').HoldsRow i cells' ∧
      ∀ c, (i = row → firstNamed header.cells c ≠ position) → cells c = cells' c := by
  obtain ⟨cell, hrows⟩ := hdiffer.cells
  have hi' : i < rows'.length := length_of_differAt hdiffer ▸ hi
  have hl : rows[i]? = some rows[i] := List.getElem?_eq_getElem hi
  have hl' : rows'[i]? = some rows'[i] := List.getElem?_eq_getElem hi'
  refine ⟨_, _, holdsRow_of_write htable.named htable.width hl,
    holdsRow_of_write htable'.named htable'.width hl', fun c hc => ?_⟩
  have hcells : rows'[i].cells
      = if row = i then rows[i].cells.set position cell else rows[i].cells := by
    have hget := congrArg (fun cells => cells[i]?) hrows
    simp only at hget
    rw [List.getElem?_modify, List.getElem?_map, List.getElem?_map, hl, hl'] at hget
    by_cases hrow : row = i <;> simpa [hrow] using hget
  refine congrArg (Text.trimBy Text.isByteBlank) ?_
  rw [cellOf, cellOf, hdiffer.layout c, hcells]
  split_ifs with hrow
  · -- the cell was replaced at a position where this column does not stand
    rw [List.getElem?_set_ne (Ne.symm (hc hrow.symm))]
  · rfl

end DifferAt

/-- A command that ended well and printed a table gives its devices. -/
theorem query_of_output {command : String} {host : Host} {stdout stderr : List UInt8} {t : Table}
    (hhost : host.launch command = .ended (.exited 0) stdout stderr)
    (ht : Table.ofOutput? stdout = .ok t) (releases : Nat) :
    ((backend command).query host releases).value = .ok t.snapshot := by
  simp [backend, query, hhost, ExitStatus.isSuccess, ht, Except.map]

end Smi

namespace Collector

open Backend Csv Device Log Smi GpuMetrics.Metric

/-! ### From cells to values -/

/-- The columns that identify a device. -/
def identityColumns : List Column := [.index, .uuid, .name]

namespace Quantity

/-- The name of the column that a quantity is taken from. -/
def columnName : Quantity → String
  | .memory .used => "memory.used"
  | .memory .total => "memory.total"
  | .reading r => readingName r

/-- The column of that name. -/
def column : Quantity → Column
  | .memory .used => .memoryUsed
  | .memory .total => .memoryTotal
  | .reading r => columnOf r

theorem label_eq_columnName_iff {c : Column} {q : Quantity} :
    c.label = q.columnName ↔ c = q.column := by
  rcases q with (_ | _) | r
  · exact ⟨fun h => Column.label_injective h, fun h => h ▸ rfl⟩
  · exact ⟨fun h => Column.label_injective h, fun h => h ▸ rfl⟩
  · exact label_eq_readingName_iff

theorem column_injective {q q' : Quantity} (h : q.column = q'.column) : q = q' := by
  rcases q with (_ | _) | (_ | _ | _ | _) <;> rcases q' with (_ | _) | (_ | _ | _ | _) <;>
    first | rfl | cases h

theorem column_notMem_identityColumns (q : Quantity) : q.column ∉ identityColumns := by
  rcases q with (_ | _) | (_ | _ | _ | _) <;> decide

/-- The value that a cell says of a quantity, if it says one. -/
def valueOf : Quantity → Cell → Option Binary64
  | .memory .used, cell => (bytesOf .memoryUsed cell).toOption
  | .memory .total, cell => (bytesOf .memoryTotal cell).toOption
  | .reading r, cell => (readingOf r cell).toOption

end Quantity

/-- **A quantity is taken from one cell alone.** -/
theorem value?_of_holdsRow {t : Table} {index : Nat} {cells : Column → Cell}
    (h : t.HoldsRow index cells) (q : Quantity) :
    t.snapshot.value? index q = q.valueOf (cells q.column) := by
  rcases q with side | r
  · -- the answer about memory takes two cells, but each side of it shows only its own
    have hmemory : t.snapshot.memory index
        = memoryOf index (cells .memoryUsed) (cells .memoryTotal) := Table.memory_of_holdsRow h
    cases side <;> simp only [Snapshot.value?, hmemory, memoryOf, Quantity.valueOf,
      Quantity.column]
    all_goals
      cases bytesOf .memoryUsed (cells .memoryUsed) <;>
        cases bytesOf .memoryTotal (cells .memoryTotal) <;> rfl
  · exact congrArg Except.toOption (Table.reading_of_holdsRow h r)

namespace Gpu

/-! ### Samples with the devices they are about -/

/-- The samples of a snapshot, each with the device that it is about. The device count is about
none. -/
def attributedDevices (g : Gpu) (s : Snapshot) : List (Option Nat × Sample) :=
  (Emission.sample g.schema.deviceCount [] (.ofNat s.length)).samples.map (none, ·) ++
    (List.range s.length).flatMap fun i => (g.deviceBlock s i).samples.map (some i, ·)

/-- The samples of an update, each with the device that it is about. -/
def attributed (g : Gpu) (host : Host) (releases : Nat) : List (Option Nat × Sample) :=
  match (g.source.query host releases).value with
  | .ok s => g.attributedDevices s
  | .error _ => (Emission.sample g.schema.deviceCount [] .zero).samples.map (none, ·)

theorem map_snd_attributedDevices (g : Gpu) (s : Snapshot) :
    (g.attributedDevices s).map Prod.snd = (g.devices s).samples := by
  rw [samples_devices, attributedDevices, List.map_append, List.map_flatMap]
  simp [Function.comp_def]

/-- Without the devices these are the samples of the update. -/
theorem map_snd_attributed (g : Gpu) (host : Host) (releases : Nat) :
    (g.attributed host releases).map Prod.snd = (g.update host releases).emission.samples := by
  rw [attributed, update]
  cases (g.source.query host releases).value with
  | ok s => exact map_snd_attributedDevices g s
  | error cause => simp [Function.comp_def]

/-- Lists that agree on what is kept agree on any part of it. -/
theorem filter_of_filter {α : Type} {l l' : List α} {keep part : α → Bool}
    (h : l.filter keep = l'.filter keep) (hpart : ∀ x, part x = true → keep x = true) :
    l.filter part = l'.filter part := by
  have hkeep (l : List α) : (l.filter keep).filter part = l.filter part := by
    rw [List.filter_filter]
    refine List.filter_congr fun x _ => ?_
    cases hx : part x with
    | false => rfl
    | true => rw [hpart x hx, Bool.and_self]
  rw [← hkeep l, ← hkeep l', h]

/-- Snapshots of one length agree on what is kept of their samples if device by device they do. -/
theorem filter_attributedDevices_congr {g : Gpu} {s s' : Snapshot} (hlength : s.length = s'.length)
    {keep : Option Nat × Sample → Bool}
    (h : ∀ i < s.length, ((g.deviceBlock s i).samples.map (some i, ·)).filter keep
      = ((g.deviceBlock s' i).samples.map (some i, ·)).filter keep) :
    (g.attributedDevices s).filter keep = (g.attributedDevices s').filter keep := by
  rw [attributedDevices, attributedDevices, ← hlength, List.filter_append, List.filter_append,
    List.filter_flatMap, List.filter_flatMap]
  exact congrArg _ (List.flatMap_congr fun i hi => h i (List.mem_range.mp hi))

/-- The block of a device depends on its identity and its values. -/
theorem samples_deviceBlock_congr (g : Gpu) {s s' : Snapshot} {index : Nat}
    (hidentity : s.identity index = s'.identity index)
    (hvalue : ∀ q, s.value? index q = s'.value? index q) :
    (g.deviceBlock s index).samples = (g.deviceBlock s' index).samples := by
  simp only [samples_deviceBlock, hidentity, hvalue]

theorem name_of_mem_optionalSample {d : Descriptor} {labels : List String}
    {value : Option Binary64} {x : Sample} (hx : x ∈ (optionalSample d labels value).samples) :
    x.name = d.name := by
  cases value with
  | none => cases hx
  | some v =>
    rw [optionalSample, Emission.sample, Sample.ofParts?] at hx
    by_cases harity : labels.length = d.labelNames.length
    · rw [dif_pos harity] at hx
      rw [List.mem_singleton.mp hx]
      rfl
    · rw [dif_neg harity] at hx
      cases hx

/-- Apart from the samples of one quantity, the block of a device depends on its identity and on
its other values. -/
theorem filter_deviceBlock_congr (g : Gpu) {s s' : Snapshot} {index : Nat} (q : Quantity)
    (hidentity : s.identity index = s'.identity index)
    (hvalue : ∀ q' ≠ q, s.value? index q' = s'.value? index q') :
    (g.deviceBlock s index).samples.filter (·.name ≠ (g.schema.family q).name)
      = (g.deviceBlock s' index).samples.filter (·.name ≠ (g.schema.family q).name) := by
  rw [samples_deviceBlock, samples_deviceBlock, ← hidentity]
  cases s.identity index with
  | error cause => rfl
  | ok identity =>
    rw [List.filter_flatMap, List.filter_flatMap]
    refine List.flatMap_congr fun q' _ => ?_
    by_cases hq : q' = q
    · -- whatever the value, its sample bears the name that is left out
      subst hq
      have hnone (v : Option Binary64) :
          (optionalSample (g.schema.family q') identity.labelValues v).samples.filter
            (·.name ≠ (g.schema.family q').name) = [] :=
        List.filter_eq_nil_iff.mpr fun x hx => by simp [name_of_mem_optionalSample hx]
      rw [hnone, hnone]
    · rw [hvalue q' hq]

/-! ### Snapshots that differ in one device -/

/-- The sample about no device is that of the device count. -/
theorem filter_attributedDevices_none {g : Gpu} {ns : String} (h : g.schema.IsUnder ns)
    (s : Snapshot) :
    ∃ count : Sample, count.observed = expectedCount ns s.length ∧
      (g.attributedDevices s).filter (·.1 = none) = [(none, count)] := by
  obtain ⟨count, hcount, hobserved⟩ := sample_deviceCount h (.ofNat s.length)
  refine ⟨count, hobserved, ?_⟩
  rw [attributedDevices, hcount, List.filter_append, List.filter_flatMap]
  simp [List.filter_map, Function.comp_def]

section Snapshots

variable (g : Gpu) {s s' : Snapshot} (hlength : s.length = s'.length)
include hlength

/-- The device count depends on nothing but the number of devices. -/
theorem attributedDevices_count :
    (g.attributedDevices s).filter (·.1 = none) = (g.attributedDevices s').filter (·.1 = none) :=
  filter_attributedDevices_congr hlength fun i _ => by simp [List.filter_map, Function.comp_def]

/-- With the same identities and values the samples are the same. -/
theorem attributedDevices_congr
    (hidentity : ∀ i < s.length, s.identity i = s'.identity i)
    (hvalue : ∀ i < s.length, ∀ q, s.value? i q = s'.value? i q) :
    g.attributedDevices s = g.attributedDevices s' := by
  have hall : (g.attributedDevices s).filter (fun _ => true)
      = (g.attributedDevices s').filter (fun _ => true) :=
    filter_attributedDevices_congr hlength fun i hi => by
      rw [samples_deviceBlock_congr g (hidentity i hi) (hvalue i hi)]
  simpa using hall

/-- Where one value of one device may differ, so may its sample, and nothing else. -/
theorem attributedDevices_of_value {device : Nat} {q : Quantity}
    (hidentity : ∀ i < s.length, s.identity i = s'.identity i)
    (hvalue : ∀ i < s.length, ∀ q', (i = device → q' ≠ q) → s.value? i q' = s'.value? i q') :
    (g.attributedDevices s).filter
        (fun x => ¬(x.1 = some device ∧ x.2.name = (g.schema.family q).name))
      = (g.attributedDevices s').filter
        (fun x => ¬(x.1 = some device ∧ x.2.name = (g.schema.family q).name)) := by
  refine filter_attributedDevices_congr hlength fun i hi => ?_
  by_cases hdevice : i = device
  · have hblock := filter_deviceBlock_congr g q (hidentity i hi) fun q' hq' =>
      hvalue i hi q' fun _ => hq'
    simp only [List.filter_map, Function.comp_def, hdevice, true_and]
    rw [← hdevice, hblock]
  · rw [samples_deviceBlock_congr g (hidentity i hi) fun q' => hvalue i hi q' fun h =>
      absurd h hdevice]

/-- Where one device may differ in any way, so may its block, and nothing else. -/
theorem attributedDevices_of_device {device : Nat}
    (hidentity : ∀ i < s.length, i ≠ device → s.identity i = s'.identity i)
    (hvalue : ∀ i < s.length, i ≠ device → ∀ q, s.value? i q = s'.value? i q) :
    (g.attributedDevices s).filter (·.1 ≠ some device)
      = (g.attributedDevices s').filter (·.1 ≠ some device) := by
  refine filter_attributedDevices_congr hlength fun i hi => ?_
  by_cases hdevice : i = device
  · -- nothing of the block is kept
    simp [List.filter_map, Function.comp_def, hdevice]
  · rw [samples_deviceBlock_congr g (hidentity i hi hdevice) (hvalue i hi hdevice)]

end Snapshots

/-! ### Updates over tables that differ in one cell -/

/-- There are no more devices than rows. -/
theorem lt_length_of_lt_snapshot {header : Line} {rows : List Line} {i : Nat}
    (hi : i < (Table.ofLines header rows).snapshot.length) : i < rows.length := by
  have hle : (Table.ofLines header rows).snapshot.length ≤ rows.length := by
    simp [Snapshot.length, Table.snapshot, Table.count, Table.ofLines, Nat.mod_le]
  omega

section DifferAt

variable {header header' : Line} {rows rows' : List Line} {row position : Nat}
  (htable : IsDeviceTable header rows) (htable' : IsDeviceTable header' rows')
  (hdiffer : DifferAt header header' rows rows' row position)
include hdiffer

theorem length_snapshot_of_differAt :
    (Table.ofLines header rows).snapshot.length
      = (Table.ofLines header' rows').snapshot.length := by
  simp [Snapshot.length, Table.snapshot, Table.count, Table.ofLines, length_of_differAt hdiffer]

include htable htable'

/-- A quantity that is not taken from the one cell has one value in both tables. -/
theorem value?_of_differAt {i : Nat} (hi : i < rows.length) {q : Quantity}
    (hq : i = row → firstNamed header.cells q.column ≠ position) :
    (Table.ofLines header rows).snapshot.value? i q
      = (Table.ofLines header' rows').snapshot.value? i q := by
  obtain ⟨cells, cells', hcells, hcells', heq⟩ :=
    exists_holdsRow_of_differAt htable htable' hdiffer hi
  rw [value?_of_holdsRow hcells, value?_of_holdsRow hcells', heq _ hq]

/-- A device whose identity is not taken from the one cell has one identity in both tables. -/
theorem identity_of_differAt {i : Nat} (hi : i < rows.length)
    (hidentity : ∀ c ∈ identityColumns, i = row → firstNamed header.cells c ≠ position) :
    (Table.ofLines header rows).snapshot.identity i
      = (Table.ofLines header' rows').snapshot.identity i := by
  obtain ⟨cells, cells', hcells, hcells', heq⟩ :=
    exists_holdsRow_of_differAt htable htable' hdiffer hi
  refine (Table.identity_of_holdsRow hcells).trans
    (Eq.trans ?_ (Table.identity_of_holdsRow hcells').symm)
  rw [heq _ (hidentity .index (by decide)), heq _ (hidentity .uuid (by decide)),
    heq _ (hidentity .name (by decide))]

/-- Where no column in use stands at the position of the one cell, nothing differs. -/
theorem attributedDevices_of_unused (g : Gpu)
    (hunused : ∀ c, firstNamed header.cells c = position →
      c ∉ identityColumns ∧ ∀ q : Quantity, c.label ≠ q.columnName) :
    g.attributedDevices (Table.ofLines header rows).snapshot
      = g.attributedDevices (Table.ofLines header' rows').snapshot := by
  refine attributedDevices_congr g (length_snapshot_of_differAt hdiffer)
    (fun i hi => ?_) (fun i hi q => ?_)
  · exact identity_of_differAt htable htable' hdiffer (lt_length_of_lt_snapshot hi)
      fun c hc _ hposition => (hunused c hposition).1 hc
  · exact value?_of_differAt htable htable' hdiffer (lt_length_of_lt_snapshot hi)
      fun _ hposition => (hunused _ hposition).2 q (Quantity.label_eq_columnName_iff.mpr rfl)

/-- Where a quantity is taken from the one cell, only its sample about the row's device differs. -/
theorem attributedDevices_of_quantity (g : Gpu) {q : Quantity}
    (hq : firstNamed header.cells q.column = position) :
    (g.attributedDevices (Table.ofLines header rows).snapshot).filter
        (fun x => ¬(x.1 = some row ∧ x.2.name = (g.schema.family q).name))
      = (g.attributedDevices (Table.ofLines header' rows').snapshot).filter
        (fun x => ¬(x.1 = some row ∧ x.2.name = (g.schema.family q).name)) := by
  -- no other column stands where this one is first named
  have hother {c : Column} (hc : c ≠ q.column) : firstNamed header.cells c ≠ position :=
    fun hposition => hc (firstNamed_inj (htable.named c) (hposition.trans hq.symm))
  refine attributedDevices_of_value g (length_snapshot_of_differAt hdiffer)
    (fun i hi => ?_) (fun i hi q' hq' => ?_)
  · exact identity_of_differAt htable htable' hdiffer (lt_length_of_lt_snapshot hi)
      fun c hc _ => hother fun h => q.column_notMem_identityColumns (h ▸ hc)
  · exact value?_of_differAt htable htable' hdiffer (lt_length_of_lt_snapshot hi)
      fun hrow => hother fun h => hq' hrow (Quantity.column_injective h)

/-- Wherever the one cell is, only the block of the row's device differs. -/
theorem attributedDevices_of_row (g : Gpu) :
    (g.attributedDevices (Table.ofLines header rows).snapshot).filter (·.1 ≠ some row)
      = (g.attributedDevices (Table.ofLines header' rows').snapshot).filter (·.1 ≠ some row) := by
  refine attributedDevices_of_device g (length_snapshot_of_differAt hdiffer)
    (fun i hi hrow => ?_) (fun i hi hrow q => ?_)
  · exact identity_of_differAt htable htable' hdiffer (lt_length_of_lt_snapshot hi)
      fun _ _ h => absurd h hrow
  · exact value?_of_differAt htable htable' hdiffer (lt_length_of_lt_snapshot hi)
      fun h => absurd h hrow

end DifferAt

/-! ### Two runs -/

/-- The samples of a run over a written table, and how it ends. -/
theorem update_of_write {g : Gpu} {command : String} (hsource : g.source = backend command)
    {header : Line} {rows : List Line} (htable : IsDeviceTable header rows) {host : Host}
    {stderr : List UInt8}
    (hhost : host.launch command = .ended (.exited 0) (write (header :: rows)) stderr)
    (releases : Nat) :
    g.attributed host releases = g.attributedDevices (Table.ofLines header rows).snapshot ∧
      (g.update host releases).ending = .succeeded := by
  have hopened : (g.source.query host releases).value
      = .ok (Table.ofLines header rows).snapshot :=
    hsource ▸ query_of_output hhost (ofOutput?_write htable.named htable.width) releases
  rw [attributed, update, hopened]
  exact ⟨rfl, rfl⟩

/-- **One cell costs no more than its own sample.** Two runs over outputs of the command that have
one layout of columns and the same rows, but for one cell, both succeed and tell the same number of
devices, and whatever the cell they emit the same samples about every device but the row's. If no
column in use stands at the cell's position, they emit the same samples altogether. If a quantity is
taken from there, they do so apart from the sample of that quantity about the row's device; in
particular all samples of any other quantity are the same, the two sides of the memory included. -/
theorem attributed_of_differAt {ns command : String} {g : Gpu}
    (hg : (ofBackend? ns (backend command)).value = .ok g)
    {header header' : Line} {rows rows' : List Line} {row position : Nat}
    (htable : IsDeviceTable header rows) (htable' : IsDeviceTable header' rows')
    (hdiffer : DifferAt header header' rows rows' row position)
    {host host' : Host} {stderr stderr' : List UInt8}
    (hhost : host.launch command = .ended (.exited 0) (write (header :: rows)) stderr)
    (hhost' : host'.launch command = .ended (.exited 0) (write (header' :: rows')) stderr')
    (releases releases' : Nat) :
    let run := g.attributed host releases
    let run' := g.attributed host' releases'
    (g.update host releases).emission.samples = run.map Prod.snd ∧
      (g.update host' releases').emission.samples = run'.map Prod.snd ∧
      (g.update host releases).ending = .succeeded ∧
      (g.update host' releases').ending = .succeeded ∧
      (∃ count : Sample, count.name = Schema.nameUnder ns "num_devices" ∧
        run.filter (·.1 = none) = [(none, count)] ∧
        run'.filter (·.1 = none) = [(none, count)]) ∧
      run.filter (·.1 ≠ some row) = run'.filter (·.1 ≠ some row) ∧
      ((∀ c, firstNamed header.cells c = position →
          c ∉ identityColumns ∧ ∀ q : Quantity, c.label ≠ q.columnName) → run = run') ∧
      ∀ (q : Quantity) (c : Column), c.label = q.columnName →
        firstNamed header.cells c = position →
        run.filter (fun x => ¬(x.1 = some row ∧ x.2.name = Schema.nameUnder ns q.metric))
            = run'.filter (fun x => ¬(x.1 = some row ∧ x.2.name = Schema.nameUnder ns q.metric)) ∧
          ∀ q' ≠ q, run.filter (·.2.name = Schema.nameUnder ns q'.metric)
            = run'.filter (·.2.name = Schema.nameUnder ns q'.metric) := by
  intro run run'
  obtain ⟨hunder, hsource⟩ := isUnder_of_ofBackend? hg
  obtain ⟨hrun, hending⟩ := update_of_write hsource htable hhost releases
  obtain ⟨hrun', hending'⟩ := update_of_write hsource htable' hhost' releases'
  refine ⟨(map_snd_attributed ..).symm, (map_snd_attributed ..).symm, hending, hending', ?_⟩
  simp only [run, run', hrun, hrun']
  obtain ⟨count, hobserved, hcount⟩ :=
    filter_attributedDevices_none hunder (Table.ofLines header rows).snapshot
  refine ⟨⟨count, congrArg Observed.name hobserved, hcount,
      (attributedDevices_count g (length_snapshot_of_differAt hdiffer)).symm.trans hcount⟩,
    attributedDevices_of_row htable htable' hdiffer g,
    attributedDevices_of_unused htable htable' hdiffer g, fun q c hc hq => ?_⟩
  obtain rfl := Quantity.label_eq_columnName_iff.mp hc
  have hquantity := attributedDevices_of_quantity htable htable' hdiffer g hq
  rw [(hunder.family q).1] at hquantity
  refine ⟨hquantity, fun q' hq' => filter_of_filter hquantity fun x hx => ?_⟩
  -- another quantity's samples have another name, so none of them was left out
  have hname : x.2.name ≠ Schema.nameUnder ns q.metric := by
    rw [of_decide_eq_true hx]
    exact fun h => hq' (Schema.nameUnder_inj.mp h)
  simp [hname]

/-- A row with the given power cell and a seven in every other column. -/
def powerRow (power : Cell) : Line where
  cells := [] :: Column.all.reverse.map fun c => if c = .powerDraw then power else [0x37]
  ending := .lf

/-- A machine on which the command prints one such row. -/
def powerHost (power : Cell) : Host where
  launch _ := .ended (.exited 0) (write [reversedHeader, powerRow power]) []

/-- A power cell that is bracketed and no text at all leaves the fan speed as it is. -/
theorem attributed_of_differAt_power :
    ∃ g, (ofBackend? "node" (backend "nvidia-smi")).value = .ok g ∧
      (g.attributed (powerHost [0x37]) 0).filter (·.2.name = "node_gpu_fanspeed_percent")
        = (g.attributed (powerHost [0x5b, 0xff]) 1).filter
            (·.2.name = "node_gpu_fanspeed_percent") := by
  obtain ⟨g, hg⟩ := exists_ofBackend?_node (backend "nvidia-smi")
  have htable (power : Cell) : IsDeviceTable reversedHeader [powerRow power] :=
    ⟨spells_reversedHeader, fun l hl => by rw [List.mem_singleton.mp hl]; rfl⟩
  have hdiffer : DifferAt reversedHeader reversedHeader [powerRow [0x37]]
      [powerRow [0x5b, 0xff]] 0 6 := ⟨fun _ => rfl, [0x5b, 0xff], by decide⟩
  have hhost (power : Cell) : (powerHost power).launch "nvidia-smi"
      = .ended (.exited 0) (write [reversedHeader, powerRow power]) [] := rfl
  obtain ⟨-, -, -, -, -, -, -, hquantity⟩ := attributed_of_differAt hg (htable [0x37])
    (htable [0x5b, 0xff]) hdiffer (hhost _) (hhost _) 0 1
  have hpower : firstNamed reversedHeader.cells .powerDraw = 6 := by decide +kernel
  exact ⟨g, hg,
    (hquantity (.reading .power) .powerDraw rfl hpower).2 (.reading .fanSpeed) (by decide)⟩

end Gpu

end Collector

end GpuMetrics
