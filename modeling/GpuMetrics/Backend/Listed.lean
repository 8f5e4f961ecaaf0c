import GpuMetrics.Backend.Basic

/-!
# A device source with given answers

A source that answers from a list, for trying a collector without any device. Everything that can
go wrong with a source can be arranged: reads that fail, a device count that fails or does not
match the list, a source that is down or that cannot be released.
-/

namespace GpuMetrics.Backend

open Device

/-- The answers for one device. A missing answer is a read that fails. -/
structure ListedDevice where
  identity : Option Identity
  memory : Option Memory
  reading : Reading → Option Binary64

/-- A source that answers from a list. -/
structure Listed where
  name : String
  devices : List ListedDevice
  /-- The device count to give, where it is not the length of the list. -/
  count : Option UInt32
  countFails : Bool
  /-- Whether the source is released from the start. -/
  down : Bool
  /-- Whether releasing the source fails. -/
  releaseFails : Bool

namespace Listed

/-- The failing read of a field. -/
def missing (l : Listed) (field : String) : QueryError := .unavailable field l.name

/-- An answer about one device: devices beyond the list do not exist. -/
def read {α : Type} (l : Listed) (index : Nat) (field : String) (get : ListedDevice → Option α) :
    Except QueryError α :=
  match l.devices[index]? with
  | none => .error (.noSuchDevice index)
  | some device =>
    match get device with
    | some answer => .ok answer
    | none => .error (l.missing field)

/-- The name under which a failing reading is reported. -/
def fieldName : Reading → String
  | .utilization => "utilization"
  | .power => "power"
  | .temperature => "temperature"
  | .fanSpeed => "fan_speed"

/-- The answers, as they are read in one scrape. -/
def snapshot (l : Listed) : Snapshot where
  count :=
    if l.countFails then .error (l.missing "device count")
    else .ok (l.count.getD (UInt32.ofNat l.devices.length))
  identity index := l.read index "identity" (·.identity)
  memory index := ⟨l.read index "memory" (·.memory), []⟩
  reading r index := l.read index (fieldName r) (·.reading r)

/-- The list as a device source. A release that works takes it down. -/
def toBackend (l : Listed) : Backend where
  name := l.name
  query _ releases :=
    if l.down || (0 < releases && !l.releaseFails) then ⟨.error (.released l.name), []⟩
    else ⟨.ok l.snapshot, []⟩
  release _ := ⟨if l.releaseFails then .error (.releaseFailed l.name "busy") else .ok (), []⟩

end Listed

end GpuMetrics.Backend
