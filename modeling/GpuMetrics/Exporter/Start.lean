import GpuMetrics.Collector.Registry
import GpuMetrics.Config.Decode
import GpuMetrics.Exporter.CommandLine
import GpuMetrics.Exporter.Failure
import GpuMetrics.Log.Filter
import GpuMetrics.Scrape

/-!
# Starting

Before the program serves anything, it settles its configuration, its log and its collectors.

* The configuration is that of the file, if the options name one, and otherwise the default; the
  options then override it (`GpuMetrics.Config.override`). A file has to be valid before it is
  overridden, and the configuration has to be valid after.
* The log filter is that of the environment, if it has one that makes sense, and otherwise the
  configured one (`GpuMetrics.Exporter.LogChoice`).
* The collectors are those that the registry builds (`GpuMetrics.Exporter.prepare`).
-/

namespace GpuMetrics

open Backend Collector Log

/-- The configuration with what the options say in place of what it says. Collectors are enabled
one after the other, and then others are disabled one after the other. -/
def Config.override (c : Config) (o : Exporter.Options) : Config :=
  { c with
    endpoint := { c.endpoint with listen := o.listen.getD c.endpoint.listen }
    collectors := o.noCollectors.foldl Selection.disable
      (o.collectors.foldl Selection.enable c.collectors)
    logging := { c.logging with level := o.logLevel.getD c.logging.level } }

namespace Exporter

/-- The configuration that options ask for, files having the given contents. -/
def configured? (contents : String → Except SystemError (List UInt8)) (o : Options) :
    Except ConfigError Config :=
  let file : Except ConfigError Config := match o.config with
    | none => .ok {}
    | some path => Config.ofFile? (contents path)
  match file with
  | .error e => .error e
  | .ok c =>
    match (c.override o).validate with
    | .error e => .error (.invalid e)
    | .ok c => .ok c

/-- Which events are logged, and the reports on what of the choice was ignored. -/
structure LogChoice where
  filter : Filter
  ignored : List String

/-- The choice between what the environment says and the configured level. What the environment
says is taken whole or not at all; of the configured level, what makes sense is taken. -/
def LogChoice.of (wanted : Option String) (level : String) : LogChoice :=
  match wanted.bind Filter.ofText? with
  | some filter => ⟨filter, []⟩
  | none => ⟨Filter.ofTextLossy level, Filter.ignored level⟩

/-- The scraper that a configuration asks for, over the collectors that it enables. -/
def prepare (c : Config) (vendor : Vendor := .missing) : Noted (Except CollectorError Scraper) :=
  let registry := Registry.builtin vendor
  let built := registry.build c.collectors c.collectorSettings
  match built.value with
  | .error e => ⟨.error e, .exporterStarting :: built.events ++ [.collectorsNotBuilt e]⟩
  | .ok collectors =>
    let remark : List Event := if collectors.isEmpty then [.noCollectors registry.names] else []
    ⟨Scraper.ofCollectors? c.endpoint.ns collectors,
      .exporterStarting :: built.events ++ remark⟩

end Exporter

end GpuMetrics
