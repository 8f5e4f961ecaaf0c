import GpuMetrics.Proofs.Collector.Containment
import GpuMetrics.Proofs.Collector.Isolation
import GpuMetrics.Proofs.Collector.Registry
import GpuMetrics.Proofs.Exposition.Series
import GpuMetrics.Proofs.Scrape.Blocks

/-!
# Which series a scrape tells twice

A series told twice is an error of the exposition. Here is when a scrape of the device collector
over a command makes that error: two rows of the command's table have to be about one device, down
to its name, and have to give a value for one and the same quantity
(`GpuMetrics.Scraper.tellsTwice_iff`). Three things have to be kept apart for this:

* the families, which are nine under every namespace: the last components of the names differ, and
  where they might not, the subsystems do (`GpuMetrics.Metric.qualifiedName_ne_of_subsystem`);
* the devices, by their labels (`GpuMetrics.Collector.identityLabels_inj`), so that the samples of
  two devices are told apart unless the devices have one identity
  (`GpuMetrics.Collector.nodup_map_key_expected_iff`);
* the labels in the text, whatever they are made of, which was settled in
  `GpuMetrics.Metric.Exposition.seriesText_inj`.
-/

namespace GpuMetrics

open Backend Collector Device Smi GpuMetrics.Metric

namespace Metric

/-- What tells the series of an observed sample from others. -/
def Observed.key (o : Observed) : String × List (String × String) := (o.name, o.labels)

end Metric

namespace Collector

/-! ### Devices are told apart by their identities -/

theorem Quantity.mem_all (q : Quantity) : q ∈ Quantity.all := by
  rcases q with (_ | _) | (_ | _ | _ | _) <;> decide

theorem Quantity.nodup_all : Quantity.all.Nodup := by decide

theorem identityLabels_inj {identity identity' : Identity} :
    identityLabels identity = identityLabels identity' ↔ identity = identity' := by
  refine ⟨fun h => ?_, congrArg identityLabels⟩
  obtain ⟨minorNumber, uuid, name⟩ := identity
  obtain ⟨minorNumber', uuid', name'⟩ := identity'
  simpa [identityLabels] using h

/-- The series of a device: one for each quantity that it has a value of. -/
theorem map_key_expectedOfDevice (ns : String) (s : Snapshot) (i : Nat) :
    (expectedOfDevice ns s i).map Observed.key =
      match s.identity i with
      | .error _ => []
      | .ok identity => (Quantity.all.filter fun q => (s.value? i q).isSome).map fun q =>
          (Schema.nameUnder ns q.metric, identityLabels identity) := by
  rw [expectedOfDevice]
  cases s.identity i with
  | error cause => rfl
  | ok identity =>
    simp only [List.map_filterMap]
    induction Quantity.all with
    | nil => rfl
    | cons q qs ih =>
      cases hvalue : s.value? i q with
      | none => simpa [hvalue] using ih
      | some x => simpa [hvalue, Observed.key] using ih

theorem mem_map_key_expectedOfDevice {ns : String} {s : Snapshot} {i : Nat}
    {k : String × List (String × String)} :
    k ∈ (expectedOfDevice ns s i).map Observed.key ↔
      ∃ identity q, s.identity i = .ok identity ∧ (s.value? i q).isSome ∧
        (Schema.nameUnder ns q.metric, identityLabels identity) = k := by
  rw [map_key_expectedOfDevice]
  cases s.identity i with
  | error cause => simp
  | ok identity => simp [Quantity.mem_all]

/-- No device has two series alike. -/
theorem nodup_map_key_expectedOfDevice (ns : String) (s : Snapshot) (i : Nat) :
    ((expectedOfDevice ns s i).map Observed.key).Nodup := by
  rw [map_key_expectedOfDevice]
  cases s.identity i with
  | error cause => exact List.nodup_nil
  | ok identity =>
    refine (Quantity.nodup_all.filter _).map fun q q' h => ?_
    exact Schema.nameUnder_inj.mp (congrArg Prod.fst h)

/-- Everything that is seen of a source has a name in the device subsystem. -/
theorem exists_name_of_mem_expected {ns : String} {s : Snapshot} {o : Observed}
    (ho : o ∈ expected ns (.ok s)) :
    ∃ metric, metric ≠ "" ∧ o.name = Schema.nameUnder ns metric := by
  rcases List.mem_cons.mp ho with rfl | ho
  · exact ⟨"num_devices", by decide, rfl⟩
  · obtain ⟨i, -, hi⟩ := List.mem_flatMap.mp ho
    obtain ⟨identity, q, -, -, hkey⟩ :=
      mem_map_key_expectedOfDevice.mp (List.mem_map_of_mem hi)
    exact ⟨q.metric, q.metric_ne_empty, congrArg Prod.fst hkey.symm⟩

/-- Two devices of one identity with a value for one quantity. -/
def Clash (s : Snapshot) (i j : Nat) : Prop :=
  ∃ identity, s.identity i = .ok identity ∧ s.identity j = .ok identity ∧
    ∃ q, (s.value? i q).isSome ∧ (s.value? j q).isSome

/-- Two devices have a series in common just if they clash. -/
theorem disjoint_map_key_iff (ns : String) (s : Snapshot) (i j : Nat) :
    List.Disjoint ((expectedOfDevice ns s i).map Observed.key)
      ((expectedOfDevice ns s j).map Observed.key) ↔ ¬Clash s i j := by
  rw [List.disjoint_left]
  constructor
  · rintro hdisjoint ⟨identity, hi, hj, q, hqi, hqj⟩
    exact hdisjoint (mem_map_key_expectedOfDevice.mpr ⟨identity, q, hi, hqi, rfl⟩)
      (mem_map_key_expectedOfDevice.mpr ⟨identity, q, hj, hqj, rfl⟩)
  · -- a common series tells the quantity by its name and the identity by its labels
    intro hclash k hki hkj
    obtain ⟨identity, q, hi, hqi, rfl⟩ := mem_map_key_expectedOfDevice.mp hki
    obtain ⟨identity', q', hj, hqj, heq⟩ := mem_map_key_expectedOfDevice.mp hkj
    obtain rfl := Schema.nameUnder_inj.mp (congrArg Prod.fst heq)
    obtain rfl := identityLabels_inj.mp (congrArg Prod.snd heq)
    exact hclash ⟨identity', hi, hj, q', hqi, hqj⟩

/-- **The series of a snapshot are distinct just if no two of its devices clash.** -/
theorem nodup_map_key_expected_iff (ns : String) (s : Snapshot) :
    ((expected ns (.ok s)).map Observed.key).Nodup ↔
      ∀ i j, i < j → j < s.length → ¬Clash s i j := by
  -- the device count has a name of its own, so all depends on the blocks being disjoint
  have hcount : (expectedCount ns s.length).key ∉
      ((List.range s.length).flatMap (expectedOfDevice ns s)).map Observed.key := by
    intro hmem
    obtain ⟨o, ho, hkey⟩ := List.mem_map.mp hmem
    obtain ⟨i, -, hi⟩ := List.mem_flatMap.mp ho
    exact name_ne_of_mem_expectedOfDevice hi (congrArg Prod.fst hkey)
  rw [expected, List.map_cons, List.nodup_cons, and_iff_right hcount, List.map_flatMap,
    List.nodup_flatMap, and_iff_right fun i _ => nodup_map_key_expectedOfDevice ns s i,
    List.pairwise_iff_getElem]
  simp only [List.length_range, List.getElem_range, Function.onFun, disjoint_map_key_iff]
  exact ⟨fun h i j hij hj => h i j (hij.trans hj) hj hij, fun h i j _ hj hij => h i j hij hj⟩

end Collector

/-! ### Rows of a table -/

namespace Smi.Table

/-- The cells that identify a device resolve in both rows, and to the same texts. -/
def SameIdentity (t : Table) (i j : Nat) : Prop :=
  ∀ c ∈ identityColumns, ∃ text, t.text i c = .ok text ∧ t.text j c = .ok text

theorem SameIdentity.symm {t : Table} {i j : Nat} (h : t.SameIdentity i j) :
    t.SameIdentity j i := by
  intro c hc
  obtain ⟨text, hi, hj⟩ := h c hc
  exact ⟨text, hj, hi⟩

/-- The row gives a number for the quantity. -/
def Available (t : Table) (i : Nat) (q : Quantity) : Prop := ∃ x, t.number i q.column = .ok x

theorem identity_eq_ok_iff {t : Table} {i : Nat} {identity : Identity} :
    t.identity i = .ok identity ↔
      t.text i .index = .ok identity.minorNumber ∧ t.text i .uuid = .ok identity.uuid ∧
        t.text i .name = .ok identity.name := by
  obtain ⟨minorNumber, uuid, name⟩ := identity
  rw [Table.identity]
  cases t.text i .index with
  | error e => simp
  | ok minorNumber' =>
    cases t.text i .uuid with
    | error e => simp
    | ok uuid' =>
      cases t.text i .name with
      | error e => simp
      | ok name' => simp

theorem sameIdentity_iff {t : Table} {i j : Nat} :
    t.SameIdentity i j ↔ ∃ identity, t.identity i = .ok identity ∧ t.identity j = .ok identity := by
  simp only [identity_eq_ok_iff]
  constructor
  · intro h
    obtain ⟨minorNumber, hi, hj⟩ := h .index (by decide)
    obtain ⟨uuid, hi', hj'⟩ := h .uuid (by decide)
    obtain ⟨name, hi'', hj''⟩ := h .name (by decide)
    exact ⟨⟨minorNumber, uuid, name⟩, ⟨hi, hi', hi''⟩, hj, hj', hj''⟩
  · rintro ⟨identity, ⟨hi, hi', hi''⟩, hj, hj', hj''⟩
    simp only [SameIdentity, identityColumns, List.forall_mem_cons]
    exact ⟨⟨_, hi, hj⟩, ⟨_, hi', hj'⟩, ⟨_, hi'', hj''⟩, by simp⟩

/-- A quantity has a value just if its own cell has a number. -/
theorem isSome_value?_snapshot {t : Table} {i : Nat} {q : Quantity} :
    (t.snapshot.value? i q).isSome ↔ t.Available i q := by
  rcases q with side | r
  · -- each side of the memory is good without the other
    cases side <;>
      simp only [Snapshot.value?, snapshot, memory, memoryBytes, Available, Quantity.column] <;>
      cases t.number i .memoryUsed <;> cases t.number i .memoryTotal <;>
      simp [Except.map, Except.toOption]
  · have hreading : (t.reading r i).toOption.isSome ↔ t.Available i (.reading r) := by
      simp only [reading, readingColumn_eq, Available, Quantity.column]
      cases r <;> cases t.number i (columnOf _) <;> simp [Except.map, Except.toOption]
    exact hreading

theorem clash_snapshot_iff {t : Table} {i j : Nat} :
    Clash t.snapshot i j ↔ t.SameIdentity i j ∧ ∃ q, t.Available i q ∧ t.Available j q := by
  simp only [Clash, isSome_value?_snapshot, sameIdentity_iff]
  constructor
  · rintro ⟨identity, hi, hj, hq⟩
    exact ⟨⟨identity, hi, hj⟩, hq⟩
  · rintro ⟨⟨identity, hi, hj⟩, hq⟩
    exact ⟨identity, hi, hj, hq⟩

end Smi.Table

/-! ### The scraper that the registry gives -/

namespace Collector

/-- With the device collector enabled over a command, the registry builds that and nothing else. -/
theorem exists_of_build_builtin {selection : Selection} {settings : Settings}
    {collectors : List Collector} (hkind : settings.gpu.backend = .nvidiaSmi)
    (henabled : Registry.builtin.isEnabled Gpu.registeredName selection = true)
    (h : (Registry.builtin.build selection settings).value = .ok collectors) :
    ∃ g, (Gpu.ofBackend? settings.ns (Smi.backend settings.gpu.smiCommand)).value = .ok g ∧
      collectors = [g.toCollector] := by
  have hsettings : Gpu.ofSettings? settings
      = Gpu.ofBackend? settings.ns (Smi.backend settings.gpu.smiCommand) := by
    simp only [Gpu.ofSettings?, Gpu.sourceOf?, hkind, List.nil_append]
  have hknown : Registry.builtin.unknown? selection = none := by
    cases hunknown : Registry.builtin.unknown? selection with
    | some name => simp [Registry.build, hunknown] at h
    | none => rfl
  rw [Registry.value_build_builtin hknown, if_pos henabled, hsettings] at h
  cases hg : (Gpu.ofBackend? settings.ns (Smi.backend settings.gpu.smiCommand)).value with
  | error cause =>
    rw [hg] at h
    cases h
  | ok g =>
    rw [hg] at h
    exact ⟨g, rfl, (Except.ok.inj h).symm⟩

end Collector

namespace Scraper

open Exposition

/-- The names of a device family and of a report differ under every namespace. -/
theorem nameUnder_ne_nameUnder {ns metric report : String} (hmetric : metric ≠ "")
    (hreport : report ≠ "") : Schema.nameUnder ns metric ≠ nameUnder ns report :=
  qualifiedName_ne_of_subsystem hmetric hreport (by decide) (by decide) (by decide)

/-- Every report has a name in the scrape subsystem. -/
theorem exists_name_of_mem_expectedReports {ns : String} {host : Host} {c : Collector}
    {elapsed : Binary64} {o : Observed} (ho : o ∈ expectedReports ns host c elapsed) :
    ∃ report, report ≠ "" ∧ o.name = nameUnder ns report := by
  simp only [expectedReports, List.mem_cons, List.not_mem_nil, or_false] at ho
  rcases ho with rfl | rfl
  · exact ⟨"collector_duration_seconds", by decide, rfl⟩
  · exact ⟨"collector_success", by decide, rfl⟩

/-- **The series of a scrape of one device collector** are those of its update and the two reports,
and nothing but two devices that clash makes two of them alike. -/
theorem nodup_key_scrape_iff {ns : String} {g : Gpu} {s : Scraper} (hg : g.schema.IsUnder ns)
    (hs : ofCollectors? ns [g.toCollector] = .ok s) {host : Host} {snapshot : Snapshot}
    (hopened : (g.source.query host 0).value = .ok snapshot) (elapsed : Nat → Binary64) :
    ∃ samples, (s.scrape host elapsed).result = .ok samples ∧
      ((samples.map Sample.key).Nodup ↔
        ∀ i j, i < j → j < snapshot.length → ¬Clash snapshot i j) := by
  have hsurvives : ∀ c ∈ s.collectors, c.Survives host := by
    rw [(ofCollectors?_eq_ok_iff.mp hs).1, List.forall_mem_singleton]
    exact g.survives_toCollector host
  have hunder := isUnder_of_ofCollectors? hs
  refine ⟨_, congrArg Scrape.result (scrape_eq_of_survives hunder elapsed hsurvives), ?_⟩
  have hupdate : (samplesOf s.collectors host).map Sample.observed
      = expected ns (.ok snapshot) := by
    rw [(ofCollectors?_eq_ok_iff.mp hs).1, samplesOf, List.flatMap_singleton, ← hopened]
    exact Gpu.map_observed_update hg host 0
  have hreports : (s.reports host elapsed 0 s.collectors).samples.map Sample.observed
      = expectedReports ns host g.toCollector (elapsed 0) := by
    rw [map_observed_reports hunder, (ofCollectors?_eq_ok_iff.mp hs).1]
    exact List.append_nil _
  have hkey : (Sample.key : Sample → _) = Observed.key ∘ Sample.observed := rfl
  rw [hkey, ← List.map_map, List.map_append, hupdate, hreports, List.map_append,
    List.nodup_append, nodup_map_key_expected_iff]
  refine ⟨fun h => h.1, fun h => ⟨h, ?_, fun k hk k' hk' => ?_⟩⟩
  · -- the two reports are in families of their own
    have hne : nameUnder ns "collector_duration_seconds" ≠ nameUnder ns "collector_success" :=
      (qualifiedName_inj (by decide) (by decide)).not.mpr (by decide)
    simp [expectedReports, Observed.key, hne]
  · -- and no device family is in the scrape subsystem
    obtain ⟨o, ho, rfl⟩ := List.mem_map.mp hk
    obtain ⟨o', ho', rfl⟩ := List.mem_map.mp hk'
    obtain ⟨metric, hmetric, hname⟩ := exists_name_of_mem_expected ho
    obtain ⟨report, hreport, hname'⟩ := exists_name_of_mem_expectedReports ho'
    have hdiffer : Schema.nameUnder ns metric ≠ nameUnder ns report :=
      nameUnder_ne_nameUnder hmetric hreport
    rw [← hname, ← hname'] at hdiffer
    exact fun heq => hdiffer (congrArg Prod.fst heq)

/-- **When a scrape tells a series twice**: the lines of its text, which are as many as its samples,
do so just if two rows of the table have one identity and both give a number for some quantity. A
report is never among them, since no device family has the name of a report. -/
theorem tellsTwice_iff {selection : Selection} {settings : Settings}
    (hkind : settings.gpu.backend = .nvidiaSmi)
    (henabled : Registry.builtin.isEnabled Gpu.registeredName selection = true)
    {collectors : List Collector}
    (hbuild : (Registry.builtin.build selection settings).value = .ok collectors) {s : Scraper}
    (hs : ofCollectors? settings.ns collectors = .ok s) {host : Host}
    {stdout stderr : List UInt8} {t : Table}
    (hhost : host.launch settings.gpu.smiCommand = .ended (.exited 0) stdout stderr)
    (ht : Table.ofOutput? stdout = .ok t) (hcount : t.rows.length < UInt32.size)
    (elapsed : Nat → Binary64) :
    ∃ samples ls, (s.scrape host elapsed).result = .ok samples ∧
      sampleLines? (render samples) = some ls ∧ ls.length = samples.length ∧
      (TellsTwice ls ↔ ∃ i j, i ≠ j ∧ i < t.rows.length ∧ j < t.rows.length ∧
        t.SameIdentity i j ∧ ∃ q, t.Available i q ∧ t.Available j q) ∧
      ((∀ i j, i < j → j < t.rows.length → ¬t.SameIdentity i j) → ¬TellsTwice ls) ∧
      ∀ ns metric report, metric ≠ "" → report ≠ "" →
        Schema.nameUnder ns metric ≠ nameUnder ns report := by
  obtain ⟨g, hg, rfl⟩ := exists_of_build_builtin hkind henabled hbuild
  obtain ⟨hunder, hsource⟩ := Gpu.isUnder_of_ofBackend? hg
  have hopened : (g.source.query host 0).value = .ok t.snapshot := by
    rw [hsource]
    exact query_of_output hhost ht 0
  obtain ⟨samples, hscrape, hnodup⟩ := nodup_key_scrape_iff hunder hs hopened elapsed
  obtain ⟨ls, hlines, hperm, hseries⟩ := exists_sampleLines?_render samples
  have hlength : ls.length = samples.length := by simpa using hperm.length_eq
  have htwice : TellsTwice ls ↔ ∃ i j, i < j ∧ j < t.rows.length ∧
      t.SameIdentity i j ∧ ∃ q, t.Available i q ∧ t.Available j q := by
    rw [tellsTwice_iff_not_nodup, hseries, hnodup, Table.length_snapshot hcount]
    simp only [Table.clash_snapshot_iff]
    push Not
    rfl
  refine ⟨samples, ls, hscrape, hlines, hlength, ?_, ?_,
    fun ns metric report => nameUnder_ne_nameUnder⟩
  · rw [htwice]
    constructor
    · rintro ⟨i, j, hij, hj, hsame, hq⟩
      exact ⟨i, j, Nat.ne_of_lt hij, hij.trans hj, hj, hsame, hq⟩
    · rintro ⟨i, j, hne, hi, hj, hsame, q, hqi, hqj⟩
      rcases Nat.lt_or_gt_of_ne hne with hlt | hlt
      · exact ⟨i, j, hlt, hj, hsame, q, hqi, hqj⟩
      · exact ⟨j, i, hlt, hi, hsame.symm, q, hqj, hqi⟩
  · intro hdistinct h
    obtain ⟨i, j, hij, hj, hsame, -⟩ := htwice.mp h
    exact hdistinct i j hij hj hsame

/-- A row without a header: a seven in every column of the request. -/
def twin : Csv.Line where
  cells := Column.all.map fun _ => [0x37]
  ending := .lf

/-- A machine on which the command prints that row twice. -/
def twinHost : Host := ⟨fun _ => .ended (.exited 0) (Csv.write [twin, twin]) []⟩

/-- The settings of a device collector over the command. -/
def twinSettings : Settings := ⟨"node", { backend := .nvidiaSmi, smiCommand := "smi" }⟩

/-- Two rows about one device make the scrape tell a series twice. -/
theorem tellsTwice_iff_twins :
    ∃ (collectors : List Collector) (s : Scraper) (samples : List Sample)
        (ls : List (List Char)),
      (Registry.builtin.build ⟨["gpu"], []⟩ twinSettings).value = .ok collectors ∧
      ofCollectors? "node" collectors = .ok s ∧
      (s.scrape twinHost fun _ => .zero).result = .ok samples ∧
      sampleLines? (render samples) = some ls ∧ TellsTwice ls := by
  have hbuilt : (Registry.builtin.build ⟨["gpu"], []⟩ twinSettings).value.toOption.isSome := by
    decide +kernel
  obtain ⟨collectors, hbuild⟩ := Except.exists_eq_ok_of_isSome hbuilt
  obtain ⟨s, hs⟩ := exists_ofCollectors?_node collectors
  have hrows : Csv.rows? (Csv.write [twin, twin]) = .ok [twin.cells, twin.cells] := by
    decide +kernel
  have hunnamed : ∀ c, ¬Names twin.cells c := by
    have hheader : isHeader twin.cells = false := by decide +kernel
    intro c hc
    rw [isHeader_eq_true_iff.mpr ⟨c, hc⟩] at hheader
    cases hheader
  have htable : Table.ofOutput? (Csv.write [twin, twin])
      = .ok ⟨.asRequested, [twin.cells, twin.cells]⟩ :=
    ofOutput?_eq_ok_iff.mpr ⟨_, hrows, .bare hunnamed (by decide)⟩
  obtain ⟨samples, ls, hscrape, hlines, -, htwice, -⟩ :=
    @tellsTwice_iff ⟨["gpu"], []⟩ twinSettings rfl (by decide +kernel) _ hbuild s hs twinHost _ []
      _ rfl htable (by decide) fun _ => .zero
  refine ⟨collectors, s, samples, ls, hbuild, hs, hscrape, hlines, htwice.mpr ?_⟩
  refine ⟨0, 1, by decide, by decide, by decide, ?_, .reading .temperature, ⟨.ofNat 7, ?_⟩,
    ⟨.ofNat 7, ?_⟩⟩
  · have hsevens : ∀ c ∈ identityColumns,
        Table.text ⟨.asRequested, [twin.cells, twin.cells]⟩ 0 c = .ok "7" ∧
          Table.text ⟨.asRequested, [twin.cells, twin.cells]⟩ 1 c = .ok "7" := by
      decide +kernel
    exact fun c hc => ⟨"7", hsevens c hc⟩
  · decide +kernel
  · decide +kernel

end Scraper

end GpuMetrics
