import GpuMetrics.Config.Basic
import GpuMetrics.Json5.Decode

/-!
# Reading the configuration

The configuration is a JSON5 record of four records. Every field has a default, so every section
and every field may be left out. What is read is validated.
-/

namespace GpuMetrics

open Json5 Collector

/-- The fields of the endpoint section. -/
def Endpoint.fields : List (RecordField Endpoint) :=
  [.of "listen" .string fun a e => { e with listen := a },
   .of "path" .string fun a e => { e with path := a },
   .of "namespace" .string fun a e => { e with ns := a }]

/-- The fields of the collector section. -/
def Collector.Selection.fields : List (RecordField Selection) :=
  [.of "enabled" .strings fun a s => { s with enabled := a },
   .of "disabled" .strings fun a s => { s with disabled := a }]

/-- The words for the device sources. -/
def Collector.BackendKind.words : List (String × BackendKind) :=
  [("nvml", .nvml), ("nvidia-smi", .nvidiaSmi)]

/-- The fields of the device section. -/
def Collector.GpuSettings.fields : List (RecordField GpuSettings) :=
  [.of "backend" (.choice BackendKind.words) fun a g => { g with backend := a },
   .of "smi_command" .string fun a g => { g with smiCommand := a }]

/-- The words for the forms of log lines. -/
def Log.Format.words : List (String × Log.Format) := [("text", .text), ("json", .json)]

/-- The fields of the log section. -/
def Log.Settings.fields : List (RecordField Log.Settings) :=
  [.of "level" .string fun a l => { l with level := a },
   .of "format" (.choice Log.Format.words) fun a l => { l with format := a }]

namespace Config

/-- The sections of the configuration. -/
def fields : List (RecordField Config) :=
  [.of "exporter" (.record "HttpConfig" Endpoint.fields {}) fun a c => { c with endpoint := a },
   .of "collectors" (.record "CollectorSelection" Selection.fields {})
     fun a c => { c with collectors := a },
   .of "gpu" (.record "GpuConfig" GpuSettings.fields {}) fun a c => { c with gpu := a },
   .of "logging" (.record "LoggingConfig" Log.Settings.fields {})
     fun a c => { c with logging := a }]

/-- The configuration that a value describes, not yet validated. -/
def decode? : Decoder Config := .record "ExporterConfig" fields {}

/-- The configuration that a text describes, not yet validated. -/
def read? (text : String) : Except ConfigError Config :=
  match Value.ofText? text.toList with
  | none => .error .malformed
  | some v =>
    match decode? v with
    | .error e => .error (.misshapen e)
    | .ok c => .ok c

/-- The valid configuration that a text describes. -/
def ofText? (text : String) : Except ConfigError Config :=
  match read? text with
  | .error e => .error e
  | .ok c =>
    match c.validate with
    | .error e => .error (.invalid e)
    | .ok c => .ok c

/-- The valid configuration that a file holds, given what became of reading the file. -/
def ofFile? (file : Except Backend.SystemError (List UInt8)) : Except ConfigError Config :=
  match file with
  | .error cause => .error (.unreadable cause)
  | .ok bytes =>
    match Text.decodeUtf8? bytes with
    | none => .error (.unreadable .invalidUtf8)
    | some text => ofText? text

end Config

end GpuMetrics
