import GpuMetrics.Backend.Listed
import GpuMetrics.Collector.Gpu
import GpuMetrics.Proofs.Collector.Schema
import GpuMetrics.Proofs.Exposition.Whole
import Mathlib.Data.List.Basic

/-!
# What an update of the device collector emits

The collector asks a snapshot for one thing after the other, and every answer can fail on its own.
What comes out is said here without that sequence of questions. A snapshot has a *value* for each
quantity of each device (`GpuMetrics.Backend.Snapshot.value?`), or none, and a device that can be
identified is shown by the values it has, in the order of `GpuMetrics.Collector.Quantity.all`.

The samples of one device are settled first, for any families whatever
(`GpuMetrics.Collector.Gpu.samples_deviceBlock`). Under the families of a namespace no sample can
be refused, since the labels of a device are as many as its identity has values; this gives the
main statement, `GpuMetrics.Collector.Gpu.update_emits`, in which samples stand as a reader will
see them (`GpuMetrics.Metric.Observed`).
-/

namespace GpuMetrics

open Device Log

theorem Binary64.ofNat_zero : Binary64.ofNat 0 = .zero := by
  rw [ofNat, Nat.zero_mul]
  decide

/-! ### The values of a snapshot -/

namespace Backend

open Collector

/-- How many devices a snapshot has. If that cannot be told, it has none. -/
def Snapshot.length (s : Snapshot) : Nat :=
  match s.count with
  | .ok count => count.toNat
  | .error _ => 0

/-- The value of a quantity of a device, where the snapshot has one. -/
def Snapshot.value? (s : Snapshot) (index : Nat) : Quantity → Option Binary64
  | .memory .used => (s.memory index).value.toOption.bind (·.used)
  | .memory .total => (s.memory index).value.toOption.bind (·.total)
  | .reading r => (s.reading r index).toOption

end Backend

/-! ### Samples as they are seen -/

namespace Metric

/-- A sample as a reader will see it: the name of its family, its labels in order, its value. -/
structure Observed where
  name : String
  labels : List (String × String)
  value : Binary64
  deriving DecidableEq

/-- What is seen of a sample. -/
def Sample.observed (s : Sample) : Observed := ⟨s.name, s.labels, s.value⟩

end Metric

namespace Collector

open Backend GpuMetrics.Metric

/-! ### What ought to be seen -/

/-- The labels of every series about a device, each with its value. -/
def identityLabels (identity : Identity) : List (String × String) :=
  [("minor_number", identity.minorNumber), ("uuid", identity.uuid), ("name", identity.name)]

/-- What ought to be seen of one device: each value that it has, once, under the device's own
labels. -/
def expectedOfDevice (ns : String) (s : Snapshot) (index : Nat) : List Observed :=
  match s.identity index with
  | .error _ => []
  | .ok identity => Quantity.all.filterMap fun q =>
      (s.value? index q).map (⟨Schema.nameUnder ns q.metric, identityLabels identity, ·⟩)

/-- What ought to be seen of the number of devices. -/
def expectedCount (ns : String) (length : Nat) : Observed :=
  ⟨Schema.nameUnder ns "num_devices", [], .ofNat length⟩

/-- What ought to be seen once a device source was asked for a snapshot. -/
def expected (ns : String) : Except BackendError Snapshot → List Observed
  | .error _ => [expectedCount ns 0]
  | .ok s => expectedCount ns s.length :: (List.range s.length).flatMap (expectedOfDevice ns s)

/-- Nothing that is seen of a device has the name of the device count. -/
theorem name_ne_of_mem_expectedOfDevice {ns : String} {s : Snapshot} {index : Nat} {o : Observed}
    (ho : o ∈ expectedOfDevice ns s index) : o.name ≠ Schema.nameUnder ns "num_devices" := by
  rw [expectedOfDevice] at ho
  cases hidentity : s.identity index with
  | error cause => simp [hidentity] at ho
  | ok identity =>
    simp only [hidentity, List.mem_filterMap, Option.map_eq_some_iff] at ho
    obtain ⟨q, -, x, -, rfl⟩ := ho
    exact Schema.nameUnder_ne_count ns q

/-- The number of devices is told exactly once. -/
theorem countP_expected (ns : String) (opened : Except BackendError Snapshot) :
    (expected ns opened).countP (·.name = Schema.nameUnder ns "num_devices") = 1 := by
  cases opened with
  | error cause => simp [expected, expectedCount]
  | ok s =>
    -- it is told at the head, and nothing about a device has its name
    rw [expected, List.countP_cons_of_pos (by simp [expectedCount]), List.countP_eq_zero.mpr]
    intro o ho
    obtain ⟨i, -, hi⟩ := List.mem_flatMap.mp ho
    simpa using name_ne_of_mem_expectedOfDevice hi

/-- The number of devices is told exactly, as far as a device count goes. -/
theorem isNat_expectedCount (ns : String) {length : Nat} (h : length < UInt32.size) :
    (expectedCount ns length).value.IsNat length :=
  Binary64.isNat_ofNat (Binary64.isHeld_of_le (h.le.trans (by decide)))

/-- How many devices there are once a device source was asked for a snapshot. -/
def lengthOf : Except BackendError Snapshot → Nat
  | .error _ => 0
  | .ok s => s.length

theorem lengthOf_lt (opened : Except BackendError Snapshot) : lengthOf opened < UInt32.size := by
  have hzero : 0 < UInt32.size := by decide
  cases opened with
  | error cause => exact hzero
  | ok s =>
    rw [lengthOf, Snapshot.length]
    cases s.count with
    | error cause => exact hzero
    | ok count => exact count.toNat_lt

/-- What has the name of the device count has the number of devices for a value. -/
theorem isNat_of_mem_expected {ns : String} {opened : Except BackendError Snapshot} {o : Observed}
    (ho : o ∈ expected ns opened) (hname : o.name = Schema.nameUnder ns "num_devices") :
    o.value.IsNat (lengthOf opened) := by
  have hcount := isNat_expectedCount ns (lengthOf_lt opened)
  cases opened with
  | error cause => exact List.mem_singleton.mp ho ▸ hcount
  | ok s =>
    rcases List.mem_cons.mp ho with rfl | ho
    · exact hcount
    · obtain ⟨i, -, hi⟩ := List.mem_flatMap.mp ho
      exact absurd hname (name_ne_of_mem_expectedOfDevice hi)

/-- What a reading is called in the events about it. -/
def fieldOf : Reading → String
  | .utilization => "utilization"
  | .power => "power"
  | .temperature => "temperature"
  | .fanSpeed => "fan speed"

theorem label_eq_fieldOf (r : Reading) : r.label = fieldOf r := by
  cases r <;> rfl

/-- The event about a read of a device, if it failed. -/
def failureEvents {α : Type} (index : Nat) (field : String) : Except QueryError α → List Event
  | .error cause => [.readingUnavailable index field cause]
  | .ok _ => []

/-- The events about the readings of a device, in the order in which they are taken. -/
def readingEvents (s : Snapshot) (index : Nat) : List Event :=
  [Reading.utilization, .power, .temperature, .fanSpeed].flatMap fun r =>
    failureEvents index (fieldOf r) (s.reading r index)

/-- The event about a device count that could not be read. -/
def countEvents (s : Snapshot) : List Event :=
  match s.count with
  | .error cause => [.deviceCountUnavailable cause]
  | .ok _ => []

/-- The events that one device ought to leave. -/
def expectedEventsOfDevice (s : Snapshot) (index : Nat) : List Event :=
  match s.identity index with
  | .error cause => [.deviceSkipped index cause]
  | .ok _ =>
    (s.memory index).events ++ failureEvents index "memory" (s.memory index).value ++
      readingEvents s index

/-- The events that an update ought to leave behind those of opening the source. -/
def expectedEvents (backend : String) : Except BackendError Snapshot → List Event
  | .error cause => [.queryFailed backend cause]
  | .ok s =>
    countEvents s ++ (List.range s.length).flatMap (expectedEventsOfDevice s)

/-- How an update ought to end once a device source was asked for a snapshot. -/
def expectedEnding : Except BackendError Snapshot → Ending
  | .error cause => .failed (.backend cause)
  | .ok _ => .succeeded

theorem expectedEnding_ne_crashed (opened : Except BackendError Snapshot) (message : String) :
    expectedEnding opened ≠ .crashed message := by
  cases opened <;> exact Ending.noConfusion

theorem expectedEnding_eq_succeeded_iff {opened : Except BackendError Snapshot} :
    expectedEnding opened = .succeeded ↔ ∃ s, opened = .ok s := by
  cases opened with
  | error cause => simp [expectedEnding]
  | ok s => simp [expectedEnding]

theorem expectedEnding_eq_failed_iff {opened : Except BackendError Snapshot}
    {cause : CollectorError} :
    expectedEnding opened = .failed cause ↔ ∃ e, cause = .backend e ∧ opened = .error e := by
  cases opened with
  | error e => simp [expectedEnding, eq_comm]
  | ok s => simp [expectedEnding]

/-- A sample with as many label values as its family has labels is not refused. -/
theorem Emission.sample_of_arity {d : Descriptor} {labels : List String}
    (h : labels.length = d.labelNames.length) (x : Binary64) :
    Emission.sample d labels x = ⟨[⟨d, labels, x, h⟩], []⟩ := by
  rw [Emission.sample, Sample.ofParts?, dif_pos h]

namespace Gpu

/-! ### The samples of one device -/

theorem samples_memoryBlock (g : Gpu) (s : Snapshot) (index : Nat) (labels : List String) :
    (g.memoryBlock s index labels).samples
      = (optionalSample g.schema.memoryUsed labels (s.value? index (.memory .used))).samples ++
        (optionalSample g.schema.memoryTotal labels (s.value? index (.memory .total))).samples := by
  cases hmemory : (s.memory index).value with
  | error cause =>
    simp [memoryBlock, Snapshot.value?, hmemory, Except.toOption, optionalSample, Emission.event,
      Emission.none]
  | ok memory => simp [memoryBlock, Snapshot.value?, hmemory, Except.toOption]

theorem samples_readingBlock (g : Gpu) (s : Snapshot) (index : Nat) (labels : List String)
    (r : Reading) :
    (g.readingBlock s index labels r).samples
      = (optionalSample (g.schema.reading r) labels (s.value? index (.reading r))).samples := by
  cases hreading : s.reading r index with
  | error cause =>
    simp [readingBlock, Snapshot.value?, hreading, Except.toOption, optionalSample,
      Emission.event, Emission.none]
  | ok x => simp [readingBlock, Snapshot.value?, hreading, Except.toOption, optionalSample]

/-- **A device that can be identified is shown by the values that it has**, in the order of the
quantities; one that cannot is not shown. -/
theorem samples_deviceBlock (g : Gpu) (s : Snapshot) (index : Nat) :
    (g.deviceBlock s index).samples =
      match s.identity index with
      | .error _ => []
      | .ok identity => Quantity.all.flatMap fun q =>
          (optionalSample (g.schema.family q) identity.labelValues (s.value? index q)).samples := by
  rw [deviceBlock]
  cases s.identity index with
  | error cause => rfl
  | ok identity =>
    simp only [Emission.samples_append, samples_memoryBlock, Emission.concat, Quantity.all,
      Reading.all, List.flatMap_cons, List.flatMap_nil, List.flatMap_map, samples_readingBlock,
      Schema.family, List.append_assoc]

theorem deviceCount_eq (s : Snapshot) : deviceCount s = ⟨s.length, countEvents s⟩ := by
  rw [deviceCount, Snapshot.length, countEvents]
  cases s.count <;> rfl

/-- The samples of a snapshot: the number of its devices, then device by device. -/
theorem samples_devices (g : Gpu) (s : Snapshot) :
    (g.devices s).samples
      = (Emission.sample g.schema.deviceCount [] (.ofNat s.length)).samples ++
        (List.range s.length).flatMap fun i => (g.deviceBlock s i).samples := by
  rw [devices, deviceCount_eq]
  simp only [Emission.samples_append, Emission.concat, List.flatMap_map, List.nil_append]

/-! ### Devices under the families of a namespace -/

section Under

variable {g : Gpu} {ns : String} (h : g.schema.IsUnder ns)
include h

theorem arity_of_isUnder (q : Quantity) (identity : Identity) :
    identity.labelValues.length = (g.schema.family q).labelNames.length := by
  rw [(h.family q).2]
  rfl

/-- What is seen of a quantity of an identified device. -/
theorem map_observed_optionalSample (q : Quantity) (identity : Identity)
    (value : Option Binary64) :
    (optionalSample (g.schema.family q) identity.labelValues value).samples.map Sample.observed
      = (value.map (⟨Schema.nameUnder ns q.metric, identityLabels identity, ·⟩)).toList := by
  cases value with
  | none => rfl
  | some x =>
    have hlabels : (g.schema.family q).labelNames.zip identity.labelValues
        = identityLabels identity := by
      rw [(h.family q).2]
      rfl
    rw [optionalSample, Emission.sample_of_arity (arity_of_isUnder h q identity)]
    simp [Sample.observed, Sample.name, Sample.labels, (h.family q).1, hlabels]

/-- **What is seen of a device is what ought to be seen of it.** -/
theorem map_observed_deviceBlock (s : Snapshot) (index : Nat) :
    (g.deviceBlock s index).samples.map Sample.observed = expectedOfDevice ns s index := by
  rw [samples_deviceBlock, expectedOfDevice]
  cases s.identity index with
  | error cause => rfl
  | ok identity =>
    rw [List.map_flatMap]
    refine Eq.trans ?_ (List.filterMap_eq_flatMap_toList _ _).symm
    exact List.flatMap_congr fun q _ => map_observed_optionalSample h q identity _

/-- No sample of an identified device is refused. -/
theorem events_optionalSample (q : Quantity) (identity : Identity) (value : Option Binary64) :
    (optionalSample (g.schema.family q) identity.labelValues value).events = [] := by
  cases value with
  | none => rfl
  | some x => rw [optionalSample, Emission.sample_of_arity (arity_of_isUnder h q identity)]

theorem events_memoryBlock (s : Snapshot) (index : Nat) (identity : Identity) :
    (g.memoryBlock s index identity.labelValues).events
      = (s.memory index).events ++ failureEvents index "memory" (s.memory index).value := by
  rw [memoryBlock, Emission.events_append]
  cases (s.memory index).value with
  | error cause => rfl
  | ok memory =>
    have hused : (optionalSample g.schema.memoryUsed _ memory.used).events = [] :=
      events_optionalSample h (.memory .used) identity memory.used
    have htotal : (optionalSample g.schema.memoryTotal _ memory.total).events = [] :=
      events_optionalSample h (.memory .total) identity memory.total
    simp [hused, htotal, failureEvents]

theorem events_readingBlock (s : Snapshot) (index : Nat) (identity : Identity) (r : Reading) :
    (g.readingBlock s index identity.labelValues r).events
      = failureEvents index (fieldOf r) (s.reading r index) := by
  rw [readingBlock, label_eq_fieldOf]
  cases s.reading r index with
  | error cause => rfl
  | ok x => exact events_optionalSample h (.reading r) identity (some x)

/-- **What a device leaves in the log** are its failed reads and the events of its source. -/
theorem events_deviceBlock (s : Snapshot) (index : Nat) :
    (g.deviceBlock s index).events = expectedEventsOfDevice s index := by
  rw [deviceBlock, expectedEventsOfDevice]
  cases s.identity index with
  | error cause => rfl
  | ok identity =>
    simp only [Emission.events_append, Emission.concat, List.flatMap_map, events_memoryBlock h,
      events_readingBlock h]
    rfl

/-! ### A whole snapshot -/

/-- The sample of the device count is not refused either. -/
theorem sample_deviceCount (x : Binary64) :
    ∃ sample : Sample, Emission.sample g.schema.deviceCount [] x = ⟨[sample], []⟩ ∧
      sample.observed = ⟨Schema.nameUnder ns "num_devices", [], x⟩ := by
  refine ⟨_, Emission.sample_of_arity (by rw [h.count_labels]) x, ?_⟩
  simp [Sample.observed, Sample.name, Sample.labels, h.count_name, h.count_labels]

theorem map_observed_devices (s : Snapshot) :
    (g.devices s).samples.map Sample.observed = expected ns (.ok s) := by
  obtain ⟨sample, hsample, hobserved⟩ := sample_deviceCount h (.ofNat s.length)
  rw [samples_devices, hsample, List.map_append, List.map_singleton, hobserved, List.map_flatMap]
  exact congrArg _ (List.flatMap_congr fun i _ => map_observed_deviceBlock h s i)

theorem events_devices (s : Snapshot) :
    (g.devices s).events
      = countEvents s ++ (List.range s.length).flatMap (expectedEventsOfDevice s) := by
  obtain ⟨sample, hsample, -⟩ := sample_deviceCount h (.ofNat s.length)
  rw [devices, deviceCount_eq, hsample]
  simp only [Emission.events_append, Emission.concat, List.flatMap_map, List.append_nil]
  exact congrArg _ (List.flatMap_congr fun i _ => events_deviceBlock h s i)

end Under

/-! ### A whole update -/

theorem isUnder_of_ofBackend? {ns : String} {source : Backend} {g : Gpu}
    (h : (ofBackend? ns source).value = .ok g) : g.schema.IsUnder ns ∧ g.source = source := by
  rw [ofBackend?] at h
  cases hschema : Schema.ofNamespace? ns with
  | error cause => simp [hschema] at h
  | ok schema =>
    rw [hschema] at h
    obtain rfl := Except.ok.inj h
    exact ⟨Schema.isUnder_of_ofNamespace? hschema, rfl⟩

/-- The namespace that is used unless another is configured is accepted. -/
theorem exists_ofBackend?_node (source : Backend) :
    ∃ g, (ofBackend? "node" source).value = .ok g := by
  obtain ⟨schema, hschema⟩ := Schema.exists_ofNamespace?_node
  exact ⟨⟨schema, source⟩, by simp [ofBackend?, hschema]⟩

section Under

variable {g : Gpu} {ns : String} (h : g.schema.IsUnder ns) (host : Host) (releases : Nat)
include h

/-- **What is seen of an update hangs on what the source gave.** -/
theorem map_observed_update :
    (g.update host releases).emission.samples.map Sample.observed
      = expected ns (g.source.query host releases).value := by
  rw [update]
  cases (g.source.query host releases).value with
  | error cause =>
    -- without a snapshot there is just the count, and it is zero
    obtain ⟨sample, hsample, hobserved⟩ := sample_deviceCount h .zero
    simp [hsample, hobserved, expected, expectedCount, Binary64.ofNat_zero]
  | ok s => exact map_observed_devices h s

theorem events_update :
    (g.update host releases).emission.events
      = (g.source.query host releases).events ++
        expectedEvents g.source.name (g.source.query host releases).value := by
  rw [update]
  cases (g.source.query host releases).value with
  | error cause =>
    obtain ⟨sample, hsample, -⟩ := sample_deviceCount h .zero
    simp [hsample, expectedEvents]
  | ok s => simp [events_devices h, expectedEvents]

end Under

/-- An update fails just where the source does. -/
theorem ending_update (g : Gpu) (host : Host) (releases : Nat) :
    (g.update host releases).ending = expectedEnding (g.source.query host releases).value := by
  rw [update]
  cases (g.source.query host releases).value with
  | error cause => rfl
  | ok s => rfl

/-- **What an update emits.** Under every namespace that is accepted, and whatever the device
source answers, the samples are those that ought to be seen: the number of devices, once, and then
for each identified device one sample for each value that it has, under its own labels. The number
is told exactly. No sample is refused, as the only events are those of the source and of the reads
that failed, and the update fails just where the source could not be asked. -/
theorem update_emits {ns : String} {source : Backend} {g : Gpu}
    (h : (ofBackend? ns source).value = .ok g) (host : Host) (releases : Nat) :
    let opened := source.query host releases
    let update := g.update host releases
    update.emission.samples.map Sample.observed = expected ns opened.value ∧
      update.emission.samples.countP (·.name = Schema.nameUnder ns "num_devices") = 1 ∧
      (∀ x ∈ update.emission.samples, x.name = Schema.nameUnder ns "num_devices" →
        x.value.IsNat (lengthOf opened.value)) ∧
      update.emission.events = opened.events ++ expectedEvents source.name opened.value ∧
      update.ending = expectedEnding opened.value := by
  obtain ⟨hunder, rfl⟩ := isUnder_of_ofBackend? h
  intro opened update
  have hsamples : update.emission.samples.map Sample.observed = expected ns opened.value :=
    map_observed_update hunder host releases
  refine ⟨hsamples, ?_, fun x hx => isNat_of_mem_expected (hsamples ▸ List.mem_map_of_mem hx),
    events_update hunder host releases, ending_update g host releases⟩
  have hcount := countP_expected ns opened.value
  rwa [← hsamples, List.countP_map] at hcount

/-- A source that names two devices where there is one, and whose one device tells just one side of
its memory and its fan speed. -/
def oneOfTwo : Listed where
  name := "listed"
  devices := [
    { identity := some ⟨"0", "GPU-1", "T4"⟩
      memory := some ⟨none, some .one⟩
      reading := fun r => if r = .fanSpeed then some .zero else none }]
  count := some 2
  countFails := false
  down := false
  releaseFails := false

/-- What is emitted over that source: no sample is made up for what it does not tell. -/
theorem update_emits_oneOfTwo :
    ∃ g, (ofBackend? "node" oneOfTwo.toBackend).value = .ok g ∧
      (g.update ⟨fun _ => .refused .notFound⟩ 0).emission.samples.map Sample.observed =
        [⟨"node_gpu_num_devices", [], .ofNat 2⟩,
         ⟨"node_gpu_memory_total_bytes",
          [("minor_number", "0"), ("uuid", "GPU-1"), ("name", "T4")], .one⟩,
         ⟨"node_gpu_fanspeed_percent",
          [("minor_number", "0"), ("uuid", "GPU-1"), ("name", "T4")], .zero⟩] := by
  obtain ⟨g, hg⟩ := exists_ofBackend?_node oneOfTwo.toBackend
  refine ⟨g, hg, (update_emits hg ⟨fun _ => .refused .notFound⟩ 0).1.trans ?_⟩
  decide +kernel

end Gpu

end Collector

end GpuMetrics
