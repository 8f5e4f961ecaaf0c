import GpuMetrics.Backend.Basic
import GpuMetrics.Metric.Sample

/-!
# Collectors

A collector is asked for its samples once per scrape. What an update leaves behind are the samples
that it emitted, the events on the way, and how it ended: well, with a failure, or by crashing.
Samples emitted before a failure stay valid.

Like a device source, a collector may depend on how often it was shut down, and only shutting it
down changes that number.
-/

namespace GpuMetrics

namespace Collector

open Backend Log GpuMetrics.Metric

/-- Samples and events, each in the order in which they came about. -/
structure Emission where
  samples : List Sample
  events : List Event

namespace Emission

/-- Nothing. -/
def none : Emission := ⟨[], []⟩

/-- A single event. -/
def event (e : Event) : Emission := ⟨[], [e]⟩

instance : Append Emission where
  append a b := ⟨a.samples ++ b.samples, a.events ++ b.events⟩

@[simp] theorem samples_append (a b : Emission) : (a ++ b).samples = a.samples ++ b.samples := rfl

@[simp] theorem events_append (a b : Emission) : (a ++ b).events = a.events ++ b.events := rfl

/-- One after the other. -/
def concat (parts : List Emission) : Emission :=
  ⟨parts.flatMap (·.samples), parts.flatMap (·.events)⟩

/-- A sample of the family. Label values that do not fit the family make an event instead. -/
def sample (family : Descriptor) (labelValues : List String) (value : Binary64) : Emission :=
  match Sample.ofParts? family labelValues value with
  | .ok s => ⟨[s], []⟩
  | .error cause => event (.malformedSample cause)

end Emission

/-- How an update ended. -/
inductive Ending where
  | succeeded
  | failed (cause : CollectorError)
  /-- The collector crashed with this message. -/
  | crashed (message : String)
  deriving DecidableEq, Repr

/-- Everything that an update leaves behind. -/
structure Update where
  emission : Emission
  ending : Ending

end Collector

open Backend Collector Log

/-- A named source of samples. -/
structure Collector where
  name : String
  /-- The samples of one scrape, after so many shutdowns. -/
  updateAfter : Host → Nat → Update
  /-- The events of releasing what the collector holds, after so many earlier shutdowns. -/
  releaseAfter : Nat → List Event
  /-- How often the collector was shut down. -/
  shutdowns : Nat := 0

namespace Collector

/-- One update of the collector as it stands. -/
def update (c : Collector) (host : Host) : Update := c.updateAfter host c.shutdowns

/-- The collector shut down once more, and the events of doing so. -/
def shutdown (c : Collector) : Collector × List Event :=
  ({ c with shutdowns := c.shutdowns + 1 }, c.releaseAfter c.shutdowns)

end Collector

end GpuMetrics
