import GpuMetrics.Collector.Basic

/-!
# A collector with given answers

A collector that emits the same samples at every update and then ends as arranged, for trying
scrapes without a device.
-/

namespace GpuMetrics.Collector

open Backend GpuMetrics.Metric

/-- What a sample is made of, before it is checked. -/
structure SampleParts where
  name : String
  help : String
  labelNames : List String
  labelValues : List String
  value : Binary64
  deriving DecidableEq, Repr

/-- The sample made of the parts. -/
def SampleParts.toSample? (p : SampleParts) : Except MetricError Sample :=
  match Descriptor.ofParts? p.name p.help p.labelNames with
  | .error cause => .error cause
  | .ok family => Sample.ofParts? family p.labelValues p.value

/-- A collector with given answers. -/
structure Fixed where
  name : String
  parts : List SampleParts
  /-- How an update ends when all samples could be made. -/
  ending : Ending

namespace Fixed

/-- Emits the samples in order; the first that cannot be made ends the update. -/
def emit (ending : Ending) : List SampleParts → Update
  | [] => ⟨.none, ending⟩
  | p :: rest =>
    match p.toSample? with
    | .error cause => ⟨.none, .failed (.metric cause)⟩
    | .ok s =>
      let more := emit ending rest
      ⟨⟨s :: more.emission.samples, more.emission.events⟩, more.ending⟩

/-- The fixed collector among other collectors. It holds nothing that could be released. -/
def toCollector (f : Fixed) : Collector where
  name := f.name
  updateAfter _ _ := emit f.ending f.parts
  releaseAfter _ := []

/-- The collector that emits the constant one under a name of its own. -/
def constant (name : String) : Fixed where
  name := name
  parts := [⟨"static_" ++ name ++ "_value", "A constant", [], [], Binary64.one⟩]
  ending := .succeeded

end Fixed

end GpuMetrics.Collector
