import GpuMetrics.Binary64.Basic

/-!
# What can be read from a device

A device has an **identity**, which labels every series about it, two memory readings and four
further readings. Each read can fail on its own; a failed read costs the one sample it was for, or
the whole device if it was the identity that could not be read.
-/

namespace GpuMetrics.Device

/-- Why one read failed. -/
inductive QueryError where
  /-- There is no device of this number. -/
  | noSuchDevice (index : Nat)
  /-- The field has no value for this device. -/
  | unavailable (field reason : String)
  /-- The field has a value that is no number. -/
  | unparsable (field value : String)
  /-- The vendor's library refused the call for the field. -/
  | refused (field reason : String)
  deriving DecidableEq, Repr

/-- The wording of a failed read. -/
def QueryError.message : QueryError → String
  | .noSuchDevice index => s!"no device at index {index}"
  | .unavailable field reason => s!"{field} unavailable: {reason}"
  | .unparsable field value => s!"{field}: cannot parse '{value}': invalid float literal"
  | .refused field reason => s!"{field}: {reason}"

/-- The stable identity of a device. -/
structure Identity where
  minorNumber : String
  uuid : String
  name : String
  deriving DecidableEq, Repr

/-- The identity as label values: number, unique id and name. -/
def Identity.labelValues (i : Identity) : List String := [i.minorNumber, i.uuid, i.name]

/-- Memory in bytes. Either side may be missing. -/
structure Memory where
  used : Option Binary64
  total : Option Binary64
  deriving DecidableEq, Repr

/-- The readings that consist of a single number. -/
inductive Reading where
  /-- Percent of time during which the device was busy. -/
  | utilization
  /-- Power draw in milliwatts. -/
  | power
  /-- Temperature in degrees Celsius. -/
  | temperature
  /-- Fan speed in percent of its maximum. -/
  | fanSpeed
  deriving DecidableEq, Repr

/-- The readings in the order in which they are taken. -/
def Reading.all : List Reading := [.utilization, .power, .temperature, .fanSpeed]

/-- What a reading is called in events. -/
def Reading.label : Reading → String
  | .utilization => "utilization"
  | .power => "power"
  | .temperature => "temperature"
  | .fanSpeed => "fan speed"

/-- The two sides of a device's memory. -/
inductive MemorySide where
  | used
  | total
  deriving DecidableEq, Repr

end GpuMetrics.Device
