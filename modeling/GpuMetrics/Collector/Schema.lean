import GpuMetrics.Device.Reading
import GpuMetrics.Metric.Sample

/-!
# The device metrics

The seven metric families about devices: their number, and six families with one series per
device, labelled with the device's identity.
-/

namespace GpuMetrics.Collector

open Device GpuMetrics.Metric

/-- The subsystem component of the device metrics. -/
def deviceSubsystem : String := "gpu"

/-- The labels of every series about a single device. -/
def deviceLabels : List String := ["minor_number", "uuid", "name"]

/-- The families of the device metrics. -/
structure Schema where
  deviceCount : Descriptor
  memoryUsed : Descriptor
  memoryTotal : Descriptor
  dutyCycle : Descriptor
  powerUsage : Descriptor
  temperature : Descriptor
  fanSpeed : Descriptor

namespace Schema

/-- A family of the device subsystem. -/
def family? (ns name help : String) (labels : List String) : Except MetricError Descriptor :=
  Descriptor.ofParts? (qualifiedName ns deviceSubsystem name) help labels

/-- The families under a namespace, which may make their names invalid. -/
def ofNamespace? (ns : String) : Except MetricError Schema := do
  let deviceCount ← family? ns "num_devices" "Number of GPU devices" []
  let memoryUsed ← family? ns "memory_used_bytes" "Memory used by the GPU device in bytes"
    deviceLabels
  let memoryTotal ← family? ns "memory_total_bytes" "Total memory of the GPU device in bytes"
    deviceLabels
  let dutyCycle ← family? ns "duty_cycle"
    ("Percent of time over the past sample period during which one or more kernels were " ++
      "executing on the GPU device") deviceLabels
  let powerUsage ← family? ns "power_usage_milliwatts"
    "Power usage of the GPU device in milliwatts" deviceLabels
  let temperature ← family? ns "temperature_celsius" "Temperature of the GPU device in celsius"
    deviceLabels
  let fanSpeed ← family? ns "fanspeed_percent"
    "Fanspeed of the GPU device as a percent of its maximum" deviceLabels
  return { deviceCount, memoryUsed, memoryTotal, dutyCycle, powerUsage, temperature, fanSpeed }

/-- All families, the device count first. -/
def all (s : Schema) : List Descriptor :=
  [s.deviceCount, s.memoryUsed, s.memoryTotal, s.dutyCycle, s.powerUsage, s.temperature,
   s.fanSpeed]

/-- The family of a single-number reading. -/
def reading (s : Schema) : Reading → Descriptor
  | .utilization => s.dutyCycle
  | .power => s.powerUsage
  | .temperature => s.temperature
  | .fanSpeed => s.fanSpeed

end Schema

end GpuMetrics.Collector
