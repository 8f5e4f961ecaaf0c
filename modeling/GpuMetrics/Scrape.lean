import GpuMetrics.Collector.Registry

/-!
# Scrapes

A scraper runs every collector once per scrape. The samples of a scrape are those of the collectors
in order, followed by two samples about each collector: how long its update took and whether it
succeeded. A failing collector costs nothing but its own success; a crashing one ends the scrape.

Durations are measured, not computed, so a scrape is told how long each update took.
-/

namespace GpuMetrics

open Backend Collector Log GpuMetrics.Metric

/-- Collectors, and the two families in which a scraper reports on them. -/
structure Scraper where
  collectors : List Collector
  duration : Descriptor
  success : Descriptor

/-- What became of a scrape: its samples, unless a collector crashed, and its events. -/
structure Scrape where
  result : Except String (List Sample)
  events : List Event

namespace Scraper

/-- The subsystem component of the scraper's own metrics. -/
def subsystem : String := "scrape"

/-- The label of the scraper's own metrics. -/
def labels : List String := ["collector"]

/-- A scraper whose own metrics live under the namespace. -/
def ofCollectors? (ns : String) (collectors : List Collector) : Except CollectorError Scraper :=
  let family (name help : String) :=
    Descriptor.ofParts? (qualifiedName ns subsystem name) help labels
  match family "collector_duration_seconds" "Duration of a collector scrape." with
  | .error cause => .error (.metric cause)
  | .ok duration =>
    match family "collector_success" "Whether a collector succeeded." with
    | .error cause => .error (.metric cause)
    | .ok success => .ok ⟨collectors, duration, success⟩

/-- The names of the collectors. -/
def names (s : Scraper) : List String := s.collectors.map (·.name)

/-- A sample about a collector. -/
def report (family : Descriptor) (name : String) (value : Binary64) : Emission :=
  match Sample.ofParts? family [name] value with
  | .ok s => ⟨[s], []⟩
  | .error cause => .event (.malformedScrapeSample cause)

/-- The two closing samples about one collector. -/
def closing (s : Scraper) (name : String) (elapsed : Binary64) (succeeded : Bool) : Emission :=
  report s.duration name elapsed ++
    report s.success name (if succeeded then Binary64.one else Binary64.zero)

/-- The scrape of the given collectors, `elapsed` being the durations from the first of them on.
The first part of the result is what the collectors emitted, the second the closing samples. -/
def scrapeEach (s : Scraper) (host : Host) (elapsed : Nat → Binary64) :
    Nat → List Collector → Except (String × List Event) (Emission × Emission)
  | _, [] => .ok (.none, .none)
  | index, c :: rest =>
    let update := c.update host
    let proceed (event : Event) (succeeded : Bool) :=
      let own : Emission := update.emission ++ .event event
      match scrapeEach s host elapsed (index + 1) rest with
      | .error (message, events) => .error (message, own.events ++ events)
      | .ok (emitted, reports) =>
        .ok (own ++ emitted, s.closing c.name (elapsed index) succeeded ++ reports)
    match update.ending with
    | .succeeded => proceed (.collectorSucceeded c.name) true
    | .failed cause => proceed (.collectorFailed c.name cause) false
    | .crashed message => .error (message, update.emission.events)

/-- One scrape on a machine, the update of the collector at each index having taken `elapsed`
seconds. -/
def scrape (s : Scraper) (host : Host) (elapsed : Nat → Binary64) : Scrape :=
  match s.scrapeEach host elapsed 0 s.collectors with
  | .error (message, events) => ⟨.error message, events⟩
  | .ok (emitted, reports) =>
    let all := emitted ++ reports
    ⟨.ok all.samples, all.events⟩

/-- Shuts every collector down, in order. -/
def shutdown (s : Scraper) : Scraper × List Event :=
  let done := s.collectors.map Collector.shutdown
  ({ s with collectors := done.map (·.1) },
    done.flatMap fun d => d.2 ++ [.collectorShutDown d.1.name])

/-- Every collector is shut down, each of them once. -/
@[simp] theorem collectors_shutdown (s : Scraper) :
    s.shutdown.1.collectors = s.collectors.map fun c => c.shutdown.1 := by
  simp [shutdown]

end Scraper

end GpuMetrics
