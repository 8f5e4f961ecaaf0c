import GpuMetrics.Collector.Settings
import GpuMetrics.Json5.Scalar
import GpuMetrics.Log.Settings
import GpuMetrics.Metric.Name
import GpuMetrics.Net.Address

/-!
# The configuration

The configuration has four sections: the endpoint, the selection of collectors, the device
collector and the log. `Config.validate` checks, in a fixed order, what the rest of the program
relies on: that the address can be listened on, that the metrics path is a path of its own, that
the namespace gives valid metric names, that there is a command to run and that no collector is
both enabled and disabled.
-/

namespace GpuMetrics

/-- Where and under which names the metrics are served. -/
structure Endpoint where
  /-- The address to listen on. -/
  listen : String := "0.0.0.0:9835"
  /-- The path of the metrics. -/
  path : String := "/metrics"
  /-- The first component of every metric name. -/
  ns : String := "node"
  deriving DecidableEq, Repr

/-- The configuration of the exporter. -/
structure Config where
  endpoint : Endpoint := {}
  collectors : Collector.Selection := {}
  gpu : Collector.GpuSettings := {}
  logging : Log.Settings := {}
  deriving DecidableEq, Repr

/-- What is wrong with a configuration that could be read. -/
inductive InvalidConfig where
  | listenAddress (text : String)
  | relativePath
  | reservedPath (path : String)
  | badNamespace (ns : String)
  | noCommand
  | conflicts (names : List String)
  deriving DecidableEq, Repr

/-- The wording of what is wrong. -/
def InvalidConfig.message : InvalidConfig → String
  | .listenAddress text => s!"Invalid listen address: {text}"
  | .relativePath => "Metrics path must start with /"
  | .reservedPath path => s!"Metrics path {path} is reserved"
  | .badNamespace ns => s!"Invalid metric namespace: {ns}"
  | .noCommand => "gpu.smi_command must not be empty"
  | .conflicts names => "Collectors both enabled and disabled: " ++ String.intercalate ", " names

/-- Why there is no configuration. -/
inductive ConfigError where
  /-- The file could not be read. -/
  | unreadable (cause : Backend.SystemError)
  /-- The text is not well formed. -/
  | malformed
  /-- The text is well formed but has the wrong shape. -/
  | misshapen (cause : Json5.DecodeError)
  | invalid (cause : InvalidConfig)
  deriving DecidableEq, Repr

/-- The wording of an error. For malformed text it only says that. -/
def ConfigError.message : ConfigError → String
  | .unreadable cause => s!"Failed to read config file: {cause.message}"
  | .malformed => "Failed to parse config: not a well-formed document"
  | .misshapen cause => s!"Failed to parse config: {cause.message}"
  | .invalid cause => s!"Validation error: {cause.message}"

namespace Config

/-- The paths that the server answers itself. -/
def reservedPaths : List String := ["/", "/health", "/collectors"]

/-- The first thing that is wrong with a configuration. -/
def problem? (c : Config) : Option InvalidConfig :=
  if (Net.SocketAddress.ofText? c.endpoint.listen).isNone then
    some (.listenAddress c.endpoint.listen)
  else if c.endpoint.path.toList.head? ≠ some '/' then some .relativePath
  else if reservedPaths.contains c.endpoint.path then some (.reservedPath c.endpoint.path)
  else if c.endpoint.ns ≠ "" ∧ ¬Metric.isMetricName c.endpoint.ns then
    some (.badNamespace c.endpoint.ns)
  else if (Text.trim c.gpu.smiCommand) = "" then some .noCommand
  else if c.collectors.conflicts ≠ [] then some (.conflicts c.collectors.conflicts)
  else none

/-- The configuration, if nothing is wrong with it. -/
def validate (c : Config) : Except InvalidConfig Config :=
  match c.problem? with
  | some problem => .error problem
  | none => .ok c

/-- What collectors are built from. -/
def collectorSettings (c : Config) : Collector.Settings := ⟨c.endpoint.ns, c.gpu⟩

end Config

end GpuMetrics
