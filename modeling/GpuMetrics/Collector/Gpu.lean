import GpuMetrics.Backend.Vendor
import GpuMetrics.Collector.Basic
import GpuMetrics.Collector.Schema
import GpuMetrics.Collector.Settings

/-!
# The device collector

Turns the readings of a device source into samples. An update always emits the number of devices,
and then for each identified device a sample for each reading that could be taken. A reading that
could not be taken costs its own sample and leaves an event; a device that could not be identified
is passed over with an event; a source that could not be opened fails the update.
-/

namespace GpuMetrics.Collector

open Backend Device Log GpuMetrics.Metric

/-- A device collector: its metric families and its device source. -/
structure Gpu where
  schema : Schema
  source : Backend

namespace Gpu

/-- The name under which the collector is registered. -/
def registeredName : String := "gpu"

/-- A device collector under a namespace. -/
def ofBackend? (ns : String) (source : Backend) : Noted (Except CollectorError Gpu) :=
  match Schema.ofNamespace? ns with
  | .error cause => ⟨.error (.metric cause), []⟩
  | .ok schema => ⟨.ok ⟨schema, source⟩, [.collectorCreated source.name]⟩

/-- The device source of the given kind, on a machine that has the vendor's library in the given
state. -/
def sourceOf? (settings : GpuSettings) (vendor : Vendor := .missing) :
    Noted (Except BackendError Backend) :=
  match settings.backend with
  | .nvml => vendor.source?
  | .nvidiaSmi => ⟨.ok (Smi.backend settings.smiCommand), []⟩

/-- The device collector that the settings ask for. A source that cannot be set up is reported
before a namespace that cannot be used. -/
def ofSettings? (settings : Settings) (vendor : Vendor := .missing) :
    Noted (Except CollectorError Gpu) :=
  let opened := sourceOf? settings.gpu vendor
  match opened.value with
  | .error cause => ⟨.error (.backend cause), opened.events⟩
  | .ok source =>
    let built := ofBackend? settings.ns source
    ⟨built.value, opened.events ++ built.events⟩

/-- A sample of the family, if there is a value. -/
def optionalSample (family : Descriptor) (labels : List String) (value : Option Binary64) :
    Emission :=
  match value with
  | some x => Emission.sample family labels x
  | none => .none

/-- The memory samples of an identified device. -/
def memoryBlock (g : Gpu) (s : Snapshot) (index : Nat) (labels : List String) : Emission :=
  let answer := s.memory index
  ⟨[], answer.events⟩ ++
    match answer.value with
    | .ok memory =>
      optionalSample g.schema.memoryUsed labels memory.used ++
        optionalSample g.schema.memoryTotal labels memory.total
    | .error cause => .event (.readingUnavailable index "memory" cause)

/-- The sample of a single-number reading of an identified device. -/
def readingBlock (g : Gpu) (s : Snapshot) (index : Nat) (labels : List String) (r : Reading) :
    Emission :=
  match s.reading r index with
  | .ok x => Emission.sample (g.schema.reading r) labels x
  | .error cause => .event (.readingUnavailable index r.label cause)

/-- Everything about one device. -/
def deviceBlock (g : Gpu) (s : Snapshot) (index : Nat) : Emission :=
  match s.identity index with
  | .error cause => .event (.deviceSkipped index cause)
  | .ok identity =>
    let labels := identity.labelValues
    g.memoryBlock s index labels ++
      Emission.concat (Reading.all.map (g.readingBlock s index labels))

/-- The number of devices of a snapshot, with an event if it could not be read. Without a number
there are no devices. -/
def deviceCount (s : Snapshot) : Noted Nat :=
  match s.count with
  | .ok count => ⟨count.toNat, []⟩
  | .error cause => ⟨0, [.deviceCountUnavailable cause]⟩

/-- Everything about the devices of a snapshot: their number, then device by device. -/
def devices (g : Gpu) (s : Snapshot) : Emission :=
  let count := deviceCount s
  ⟨[], count.events⟩ ++ Emission.sample g.schema.deviceCount [] (Binary64.ofNat count.value) ++
    Emission.concat ((List.range count.value).map (g.deviceBlock s))

/-- One update, after so many releases of the source. -/
def update (g : Gpu) (host : Host) (releases : Nat) : Update :=
  let opened := g.source.query host releases
  match opened.value with
  | .ok s => ⟨⟨[], opened.events⟩ ++ g.devices s, .succeeded⟩
  | .error cause =>
    ⟨⟨[], opened.events ++ [.queryFailed g.source.name cause]⟩ ++
        Emission.sample g.schema.deviceCount [] Binary64.zero,
      .failed (.backend cause)⟩

/-- The events of releasing the source, after so many earlier releases. -/
def release (g : Gpu) (releases : Nat) : List Event :=
  let released := g.source.release releases
  released.events ++
    match released.value with
    | .ok () => [.backendReleased g.source.name]
    | .error cause => [.backendReleaseFailed g.source.name cause]

/-- The device collector among other collectors. -/
def toCollector (g : Gpu) : Collector where
  name := registeredName
  updateAfter := g.update
  releaseAfter := g.release

end Gpu

end GpuMetrics.Collector
