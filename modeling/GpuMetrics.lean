import GpuMetrics.Backend.Files
import GpuMetrics.Backend.Listed
import GpuMetrics.Collector.Fixed
import GpuMetrics.Exporter.Run
import GpuMetrics.Main
import GpuMetrics.Proofs.Collector.Containment
import GpuMetrics.Proofs.Collector.Isolation
import GpuMetrics.Proofs.Collector.Registry
import GpuMetrics.Proofs.Config.Override
import GpuMetrics.Proofs.Config.Verdict
import GpuMetrics.Proofs.Csv.Bare
import GpuMetrics.Proofs.Exporter.FirstScrape
import GpuMetrics.Proofs.Exposition.RoundTrip
import GpuMetrics.Proofs.Exposition.Series
import GpuMetrics.Proofs.Metric.Name
import GpuMetrics.Proofs.Scrape.Release
import GpuMetrics.Proofs.Scrape.Uniqueness
import GpuMetrics.Proofs.Smi.Headless
import GpuMetrics.Proofs.Json5.Record
import GpuMetrics.Proofs.Config.RoundTrip
import GpuMetrics.Proofs.Http.Independence
import GpuMetrics.Proofs.Http.MetricsPath
import GpuMetrics.Proofs.Collector.Accounting
import GpuMetrics.Proofs.Exporter.Shutdown
import GpuMetrics.Proofs.Smi.Lookup
import GpuMetrics.Proofs.Binary64.Nearest
import GpuMetrics.Proofs.Binary64.Shortest
import GpuMetrics.Proofs.Binary64.Numeral
import GpuMetrics.Proofs.Exposition.Value
import GpuMetrics.Proofs.Collector.Power
import GpuMetrics.Proofs.Collector.Registration
import GpuMetrics.Proofs.Collector.Origin
import GpuMetrics.Proofs.Config.Namespace
import GpuMetrics.Proofs.Exposition.Lookup
import GpuMetrics.Proofs.Http.StopLoop
