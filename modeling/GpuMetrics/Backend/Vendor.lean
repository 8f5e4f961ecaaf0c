import GpuMetrics.Backend.Basic

/-!
# The vendor's library

Besides its command, the vendor of the devices offers a library. A machine need not have it, and
where it has it the library need not work: then there is no device source, and what the library
says about that is passed on.

A library that works is asked call by call, and may refuse each call in its own words. Its source
holds it until the first release. There it lets go of it before the library is shut down, so even a
source that could not be released is without its library ever after.
-/

namespace GpuMetrics.Backend

open Device

/-- What the library answers about one device, or its words where it refuses to. -/
structure LibraryDevice where
  minorNumber : Except String UInt32
  uuid : Except String String
  name : Except String String
  /-- The bytes of memory in use, and all there are. -/
  memory : Except String (UInt64 × UInt64)
  /-- The readings, power in milliwatts. -/
  reading : Reading → Except String UInt32

/-- A library that works. -/
structure Library where
  /-- The version of its driver. -/
  driver : Except String String
  deviceCount : Except String UInt32
  device : Nat → Except String LibraryDevice
  /-- What comes of shutting it down. -/
  shutdown : Except String Unit

/-- The vendor's library as a machine has it. -/
inductive Vendor where
  /-- It cannot be set up, and these are its words on that. -/
  | unusable (reason : String)
  /-- It is set up. -/
  | ready (library : Library)

/-- The name of the library as a device source. -/
def Vendor.name : String := "nvml"

namespace Library

/-- The answer to a call, a refusal being reported with what was asked for. -/
def answer {α : Type} (field : String) : Except String α → Except QueryError α
  | .ok a => .ok a
  | .error reason => .error (.refused field reason)

/-- Looks a device up. -/
def handle (l : Library) (index : Nat) : Except QueryError LibraryDevice :=
  answer "device handle" (l.device index)

/-- The identity of a device. Without a unique id or without a name there is none. -/
def identity (l : Library) (index : Nat) : Except QueryError Identity := do
  let device ← l.handle index
  let minorNumber ← answer "minor number" device.minorNumber
  let uuid ← answer "uuid" device.uuid
  let name ← answer "name" device.name
  if uuid = "" then .error (.unavailable "uuid" "empty")
  else if name = "" then .error (.unavailable "name" "empty")
  else return ⟨toString minorNumber, uuid, name⟩

/-- The memory of a device, both sides of it. -/
def memory (l : Library) (index : Nat) : Except QueryError Memory := do
  let device ← l.handle index
  let bytes ← answer "memory info" device.memory
  return ⟨some (.ofNat bytes.1.toNat), some (.ofNat bytes.2.toNat)⟩

/-- What a reading is called where the library refuses it. -/
def callName : Reading → String
  | .utilization => "utilization rates"
  | .power => "power usage"
  | .temperature => "temperature"
  | .fanSpeed => "fan speed"

/-- A single-number reading of a device. -/
def reading (l : Library) (r : Reading) (index : Nat) : Except QueryError Binary64 := do
  let device ← l.handle index
  let x ← answer (callName r) (device.reading r)
  return .ofNat x.toNat

/-- The devices of one scrape. -/
def snapshot (l : Library) : Snapshot where
  count := answer "device count" l.deviceCount
  identity := l.identity
  memory index := ⟨l.memory index, []⟩
  reading := l.reading

/-- Shuts down the library. -/
def release (l : Library) : Noted (Except BackendError Unit) :=
  match l.shutdown with
  | .ok () => ⟨.ok (), [.libraryReleased]⟩
  | .error reason =>
    ⟨.error (.releaseFailed Vendor.name reason), [.libraryReleaseFailed reason]⟩

/-- The library as a device source. Only the first release finds it held, and whatever comes of
that, it is not held any more. -/
def toBackend (l : Library) : Backend where
  name := Vendor.name
  query _ releases :=
    if releases = 0 then ⟨.ok l.snapshot, []⟩ else ⟨.error (.released Vendor.name), []⟩
  release releases := if releases = 0 then l.release else ⟨.ok (), []⟩

end Library

namespace Vendor

/-- The library on a machine without it. -/
def missing : Vendor :=
  .unusable
    ("a libloading error occurred: libnvidia-ml.so.1: cannot open shared object file: " ++
      "No such file or directory")

/-- Sets the library up. A failure is told with what mends it most often. -/
def source? : Vendor → Noted (Except BackendError Backend)
  | .unusable reason =>
    ⟨.error (.initFailed name
      (reason ++ ". Make sure NVML is in the shared library search path")), []⟩
  | .ready library => ⟨.ok library.toBackend, [.libraryReady library.driver.toOption]⟩

end Vendor

end GpuMetrics.Backend
