import GpuMetrics.Collector.Failure
import GpuMetrics.Device.Reading
import GpuMetrics.Text.Quoted

/-!
# Events

Everything worth logging is an **event**: a value that says what happened and to whom. Functions
return their events beside their results; how important an event is (`Event.level`), which part of
the program it comes from (`Event.component`) and how it is worded (`Event.message`,
`Event.fields`) are functions of the event.
-/

namespace GpuMetrics.Log

/-- How important an event is, least important first. -/
inductive Level where
  | trace
  | debug
  | info
  | warn
  | error
  deriving DecidableEq, Repr

/-- The name of a level in log lines. -/
def Level.word : Level → String
  | .trace => "TRACE"
  | .debug => "DEBUG"
  | .info => "INFO"
  | .warn => "WARN"
  | .error => "ERROR"

/-- The parts of the program that log. -/
inductive Component where
  | nvml
  | smi
  | gpu
  | registry
  | scrape
  | http
  | main
  deriving DecidableEq, Repr

/-- The name under which a component's events are logged and filtered. -/
def Component.target : Component → String
  | .nvml => "gpusight_collector::nvml"
  | .smi => "gpusight_collector::smi"
  | .gpu => "gpusight_collector::gpu"
  | .registry => "gpusight_collector::registry"
  | .scrape => "gpusight_exporter::scrape"
  | .http => "gpusight_exporter::http"
  | .main => "gpusight_exporter"

/-- The value of an event's field. -/
inductive FieldValue where
  /-- A text that is shown as it is. -/
  | bare (text : String)
  /-- A text that is shown between quotes. -/
  | text (text : String)
  | number (n : Nat)
  deriving DecidableEq, Repr

/-- What happened. -/
inductive Event where
  /-- The vendor's library was set up; its driver may have told its version. -/
  | libraryReady (driver : Option String)
  | libraryReleased
  | libraryReleaseFailed (reason : String)
  /-- The command printed this many bytes. -/
  | outputReceived (bytes : Nat)
  /-- A table with this many devices was read. -/
  | tableParsed (devices : Nat)
  /-- One side of a device's memory could not be read; the other side could. -/
  | memorySideUnavailable (device : Nat) (side : Device.MemorySide) (cause : Device.QueryError)
  | collectorCreated (backend : String)
  | deviceCountUnavailable (cause : Device.QueryError)
  /-- A device was passed over because it could not be identified. -/
  | deviceSkipped (device : Nat) (cause : Device.QueryError)
  /-- A field of an identified device could not be read. -/
  | readingUnavailable (device : Nat) (field : String) (cause : Device.QueryError)
  | queryFailed (backend : String) (cause : Backend.BackendError)
  | malformedSample (cause : Metric.MetricError)
  | backendReleased (backend : String)
  | backendReleaseFailed (backend : String) (cause : Backend.BackendError)
  | collectorEnabled (name : String)
  | collectorDisabled (name : String)
  | collectorSucceeded (name : String)
  | collectorFailed (name : String) (cause : Collector.CollectorError)
  | collectorShutDown (name : String)
  | malformedScrapeSample (cause : Metric.MetricError)
  | serverListening (address path : String)
  | scrapeTaskFailed (report : String)
  | serverStopping
  | serverStopped
  | serverAlreadyStopped
  | serverNotStoppedInTime
  | exporterStarting
  | collectorsNotBuilt (cause : Collector.CollectorError)
  /-- No collector is enabled; these are available. -/
  | noCollectors (available : List String)
  | interruptReceived
  | terminationReceived
  | serverFailed (report : String)
  | exporterStopped
  deriving DecidableEq, Repr

namespace Event

/-- How important the event is. -/
def level : Event → Level
  | .outputReceived _ => .trace
  | .tableParsed _ | .memorySideUnavailable .. | .readingUnavailable .. | .queryFailed ..
  | .backendReleased _ | .collectorDisabled _ | .collectorSucceeded _ => .debug
  | .libraryReady _ | .libraryReleased | .collectorCreated _ | .collectorEnabled _
  | .collectorShutDown _ | .serverListening .. | .serverStopping | .serverStopped | .exporterStarting
  | .interruptReceived | .terminationReceived | .exporterStopped => .info
  | .libraryReleaseFailed _ | .deviceCountUnavailable _ | .deviceSkipped ..
  | .serverAlreadyStopped | .serverNotStoppedInTime | .noCollectors _ => .warn
  | .malformedSample _ | .backendReleaseFailed .. | .collectorFailed ..
  | .malformedScrapeSample _ | .scrapeTaskFailed _ | .collectorsNotBuilt _
  | .serverFailed _ => .error

/-- The part of the program that the event comes from. -/
def component : Event → Component
  | .libraryReady _ | .libraryReleased | .libraryReleaseFailed _ => .nvml
  | .outputReceived _ | .tableParsed _ | .memorySideUnavailable .. => .smi
  | .collectorCreated _ | .deviceCountUnavailable _ | .deviceSkipped .. | .readingUnavailable ..
  | .queryFailed .. | .malformedSample _ | .backendReleased _ | .backendReleaseFailed .. => .gpu
  | .collectorEnabled _ | .collectorDisabled _ => .registry
  | .collectorSucceeded _ | .collectorFailed .. | .collectorShutDown _
  | .malformedScrapeSample _ => .scrape
  | .serverListening .. | .scrapeTaskFailed _ | .serverStopping | .serverStopped
  | .serverAlreadyStopped | .serverNotStoppedInTime => .http
  | .exporterStarting | .collectorsNotBuilt _ | .noCollectors _ | .interruptReceived
  | .terminationReceived | .serverFailed _ | .exporterStopped => .main

/-- The wording of the event, without its fields. -/
def message : Event → String
  | .libraryReady _ => "NVML initialized"
  | .libraryReleased => "NVML shut down"
  | .libraryReleaseFailed _ => "NVML shutdown failed"
  | .outputReceived _ => "nvidia-smi output received"
  | .tableParsed _ => "Parsed nvidia-smi table"
  | .memorySideUnavailable _ .used _ => "memory.used unavailable"
  | .memorySideUnavailable _ .total _ => "memory.total unavailable"
  | .collectorCreated _ => "GPU collector created"
  | .deviceCountUnavailable _ => "Failed to get GPU device count"
  | .deviceSkipped .. => "Skipping GPU device without identity"
  | .readingUnavailable .. => "GPU reading unavailable"
  | .queryFailed .. => "GPU query failed"
  | .malformedSample _ => "Dropping malformed sample"
  | .backendReleased _ => "GPU backend released"
  | .backendReleaseFailed .. => "GPU backend shutdown failed"
  | .collectorEnabled _ => "Collector enabled"
  | .collectorDisabled _ => "Collector disabled"
  | .collectorSucceeded _ => "Collector succeeded"
  | .collectorFailed .. => "Collector failed"
  | .collectorShutDown _ => "Collector shut down"
  | .malformedScrapeSample _ => "Dropping malformed scrape sample"
  | .serverListening .. => "HTTP server listening"
  | .scrapeTaskFailed _ => "Scrape task failed"
  | .serverStopping => "HTTP server shutting down"
  | .serverStopped => "HTTP server stopped"
  | .serverAlreadyStopped => "HTTP server already stopped"
  | .serverNotStoppedInTime => "HTTP server did not stop in time"
  | .exporterStarting => "Starting GPUSight Exporter"
  | .collectorsNotBuilt _ => "Failed to initialize collectors"
  | .noCollectors _ => "No collectors enabled; only scrape metrics will be exported"
  | .interruptReceived => "Received Ctrl+C, shutting down..."
  | .terminationReceived => "Received SIGTERM, shutting down..."
  | .serverFailed _ => "HTTP server error"
  | .exporterStopped => "Exporter stopped"

/-- The event's fields in the order in which they are logged. -/
def fields : Event → List (String × FieldValue)
  | .libraryReady driver => (driver.map fun version => ("driver", .bare version)).toList
  | .libraryReleaseFailed reason => [("error", .bare reason)]
  | .outputReceived bytes => [("bytes", .number bytes)]
  | .tableParsed devices => [("devices", .number devices)]
  | .memorySideUnavailable device _ cause =>
    [("device", .number device), ("error", .bare cause.message)]
  | .collectorCreated backend => [("backend", .text backend)]
  | .deviceCountUnavailable cause => [("error", .bare cause.message)]
  | .deviceSkipped device cause => [("device", .number device), ("error", .bare cause.message)]
  | .readingUnavailable device field cause =>
    [("device", .number device), ("field", .text field), ("error", .bare cause.message)]
  | .queryFailed backend cause => [("backend", .text backend), ("error", .bare cause.message)]
  | .malformedSample cause => [("error", .bare cause.message)]
  | .backendReleased backend => [("backend", .text backend)]
  | .backendReleaseFailed backend cause =>
    [("backend", .text backend), ("error", .bare cause.message)]
  | .collectorEnabled name => [("collector", .text name)]
  | .collectorDisabled name => [("collector", .text name)]
  | .collectorSucceeded name => [("collector", .text name)]
  | .collectorFailed name cause => [("collector", .text name), ("error", .bare cause.message)]
  | .collectorShutDown name => [("collector", .text name)]
  | .malformedScrapeSample cause => [("error", .bare cause.message)]
  | .serverListening address path => [("addr", .bare address), ("path", .bare path)]
  | .scrapeTaskFailed report => [("error", .bare report)]
  | .serverAlreadyStopped => [("error", .bare "channel closed")]
  | .collectorsNotBuilt cause => [("error", .bare cause.message)]
  | .noCollectors available => [("available", .bare (Text.quotedList available))]
  | .serverFailed report => [("error", .bare report)]
  | .libraryReleased | .serverStopping | .serverStopped | .serverNotStoppedInTime
  | .exporterStarting | .interruptReceived | .terminationReceived | .exporterStopped => []

/-- The names of all that an event carries: its message, its fields and, where it ends the update
of a collector, the time that this took, which is not kept. -/
def names (e : Event) : List String :=
  let measured := match e with
    | .collectorSucceeded _ | .collectorFailed .. => ["duration_seconds"]
    | _ => []
  "message" :: e.fields.map (·.1) ++ measured

end Event

end GpuMetrics.Log
