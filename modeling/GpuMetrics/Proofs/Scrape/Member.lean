import GpuMetrics.Backend.Listed
import GpuMetrics.Collector.Fixed
import GpuMetrics.Collector.Gpu
import Mathlib.Logic.Basic

/-!
# Collectors that own a state

A collector answers by how often it was shut down, and a device source by how often it was
released. Both numbers stand for a state that lies behind the collector and that only a release is
trusted to change. Here that state is in the open: a `GpuMetrics.Resource` has a state of its own
which each of its two functions may change, being asked as well as being released.

A resource that is not changed by being asked (`GpuMetrics.Resource.Steady`) has no other history
than its releases, so counting them is enough, and it can be seen as what the rest of the program
takes it for:

* a source with a state as a device source (`GpuMetrics.Backend.Source.toBackend`);
* a collector with a state, called a `GpuMetrics.Collector.Member` here, as a collector
  (`GpuMetrics.Collector.Member.collector`).

The collectors there are come about in this way: the device collector owns what its source owns
(`GpuMetrics.Collector.Member.collector_gpu`), a source that answers from a list owns whether it is
down, one over the vendor's library owns whether it holds the library, and the command-line source
owns nothing.
-/

namespace GpuMetrics

open Backend Collector Log GpuMetrics.Metric

/-- Something that is asked and released, and that owns a state which either may change. -/
structure Resource (α β : Type) where
  name : String
  State : Type
  ask : Host → State → α × State
  release : State → β × State

namespace Resource

variable {α β : Type}

/-- A resource that is not changed by being asked. -/
def Steady (r : Resource α β) : Prop := ∀ host state, (r.ask host state).2 = state

/-- The state after so many releases. -/
def afterReleases (r : Resource α β) : Nat → r.State → r.State
  | 0, state => state
  | releases + 1, state => r.afterReleases releases (r.release state).2

end Resource

/-! ### Device sources -/

namespace Backend

/-- A device source with a state. -/
abbrev Source :=
  Resource (Noted (Except BackendError Snapshot)) (Noted (Except BackendError Unit))

/-- A source in some state, as a device source. -/
def Source.toBackend (s : Source) (state : s.State) : Backend where
  name := s.name
  query host releases := (s.ask host (s.afterReleases releases state)).1
  release releases := (s.release (s.afterReleases releases state)).1

/-- A source that is down in some state cannot be asked there, on any machine. -/
def Source.Down (s : Source) (state : s.State) : Prop :=
  ∀ host, ∃ cause, (s.ask host state).1.value = .error cause

/-- A source that is down stays down, if no release puts it up again. -/
theorem Source.Down.afterReleases {s : Source} {state : s.State} (hdown : s.Down state)
    (h : ∀ state, s.Down state → s.Down (s.release state).2) (releases : Nat) :
    s.Down (s.afterReleases releases state) := by
  induction releases generalizing state with
  | zero => exact hdown
  | succ releases ih => exact ih (h state hdown)

/-- The source that runs a command owns nothing. -/
def Source.smi (command : String) : Source where
  name := Smi.backendName
  State := Unit
  ask host st := ((Smi.backend command).query host 0, st)
  release st := ((Smi.backend command).release 0, st)

theorem Source.steady_smi (command : String) : (Source.smi command).Steady := fun _ _ => rfl

theorem Source.toBackend_smi (command : String) :
    (Source.smi command).toBackend () = Smi.backend command := rfl

/-- The source that answers from a list owns whether it is down. A release that fails changes
nothing. -/
abbrev Source.listed (l : Listed) : Source where
  name := l.name
  State := Bool
  ask _ down := (if down then ⟨.error (.released l.name), []⟩ else ⟨.ok l.snapshot, []⟩, down)
  release down :=
    if l.releaseFails then (⟨.error (.releaseFailed l.name "busy"), []⟩, down)
    else (⟨.ok (), []⟩, true)

theorem Source.steady_listed (l : Listed) : (Source.listed l).Steady := fun _ _ => rfl

theorem Source.afterReleases_listed (l : Listed) (releases : Nat) (down : Bool) :
    (Source.listed l).afterReleases releases down
      = (down || (decide (0 < releases) && !l.releaseFails)) := by
  induction releases generalizing down with
  | zero => simp [Resource.afterReleases]
  | succ releases ih =>
    rw [Resource.afterReleases, ih]
    by_cases hfails : l.releaseFails <;> simp [hfails]

theorem Source.toBackend_listed (l : Listed) :
    (Source.listed l).toBackend l.down = l.toBackend := by
  have hquery : ((Source.listed l).toBackend l.down).query = l.toBackend.query := by
    funext host releases
    simp only [Source.toBackend, afterReleases_listed, Source.listed, Listed.toBackend]
  have hrelease : ((Source.listed l).toBackend l.down).release = l.toBackend.release := by
    funext releases
    by_cases hfails : l.releaseFails <;>
      simp [Source.toBackend, Source.listed, Listed.toBackend, hfails]
  exact congrArg₂ (Backend.mk l.name) hquery hrelease

/-- The source over the vendor's library owns whether it holds the library. Being released it holds
it no longer, whatever comes of shutting the library down. -/
abbrev Source.library (l : Library) : Source where
  name := Vendor.name
  State := Bool
  ask _ held :=
    (if held then ⟨.ok l.snapshot, []⟩ else ⟨.error (.released Vendor.name), []⟩, held)
  release held := (if held then l.release else ⟨.ok (), []⟩, false)

theorem Source.steady_library (l : Library) : (Source.library l).Steady := fun _ _ => rfl

/-- **A library that is let go of is not asked again.** -/
theorem Source.ask_library (l : Library) (host : Host) :
    ((Source.library l).ask host false).1.value = .error (.released "nvml") := rfl

theorem Source.afterReleases_library (l : Library) (releases : Nat) (held : Bool) :
    (Source.library l).afterReleases releases held = (held && decide (releases = 0)) := by
  induction releases generalizing held with
  | zero => simp [Resource.afterReleases]
  | succ releases ih =>
    rw [Resource.afterReleases, ih]
    simp

theorem Source.toBackend_library (l : Library) :
    (Source.library l).toBackend true = l.toBackend := by
  have hquery : ((Source.library l).toBackend true).query = l.toBackend.query := by
    funext host releases
    simp [Source.toBackend, afterReleases_library, Library.toBackend]
  have hrelease : ((Source.library l).toBackend true).release = l.toBackend.release := by
    funext releases
    simp [Source.toBackend, afterReleases_library, Library.toBackend]
  exact congrArg₂ (Backend.mk Vendor.name) hquery hrelease

end Backend

/-! ### Collectors -/

namespace Collector

/-- A collector with a state, apart from the state that it is in. -/
abbrev Kind := Resource Update (List Event)

/-- The device collector over a source owns what the source owns. -/
abbrev Kind.gpu (schema : Schema) (source : Source) : Kind where
  name := Gpu.registeredName
  State := source.State
  ask host st := ((Gpu.mk schema (source.toBackend st)).update host 0, (source.ask host st).2)
  release st := ((Gpu.mk schema (source.toBackend st)).release 0, (source.release st).2)

/-- **The device collector adds no state of its own**: it is as steady as its source. -/
theorem Kind.steady_gpu (schema : Schema) {source : Source} (h : source.Steady) :
    (Kind.gpu schema source).Steady := h

theorem Kind.afterReleases_gpu (schema : Schema) (source : Source) (releases : Nat)
    (state : source.State) :
    (Kind.gpu schema source).afterReleases releases state
      = source.afterReleases releases state := by
  induction releases generalizing state with
  | zero => rfl
  | succ releases ih => exact ih (source.release state).2

/-- A collector with given answers owns nothing. -/
def Kind.fixed (f : Fixed) : Kind where
  name := f.name
  State := Unit
  ask _ st := (Fixed.emit f.ending f.parts, st)
  release st := ([], st)

theorem Kind.steady_fixed (f : Fixed) : (Kind.fixed f).Steady := fun _ _ => rfl

/-- A collector together with the state that it is in. -/
structure Member where
  kind : Kind
  state : kind.State

namespace Member

/-- What the rest of the program sees of a member. -/
def collector (m : Member) : Collector where
  name := m.kind.name
  updateAfter host releases := (m.kind.ask host (m.kind.afterReleases releases m.state)).1
  releaseAfter releases := (m.kind.release (m.kind.afterReleases releases m.state)).1

/-- The member after an update on a machine. -/
def updated (host : Host) (m : Member) : Member := ⟨m.kind, (m.kind.ask host m.state).2⟩

/-- The member after it was shut down. -/
def released (m : Member) : Member := ⟨m.kind, (m.kind.release m.state).2⟩

/-- The member after it was shut down so many times. -/
def releasedTimes (times : Nat) (m : Member) : Member :=
  ⟨m.kind, m.kind.afterReleases times m.state⟩

/-- A member of a steady kind is left as it was by an update. -/
theorem updated_of_steady {m : Member} (h : m.kind.Steady) (host : Host) : m.updated host = m :=
  congrArg (Member.mk m.kind) (h host m.state)

theorem releasedTimes_released (times : Nat) (m : Member) :
    m.released.releasedTimes times = m.releasedTimes (times + 1) := rfl

/-- A member that being shut down does not change stays as it is. -/
theorem releasedTimes_of_released {m : Member} (h : m.released = m) (times : Nat) :
    m.releasedTimes times = m := by
  induction times with
  | zero => rfl
  | succ times ih => rw [← releasedTimes_released, h, ih]

/-- The device collector over a source in some state. -/
def gpu (schema : Schema) (source : Source) (state : source.State) : Member :=
  ⟨Kind.gpu schema source, state⟩

/-- The device collector that runs a command. -/
def smi (schema : Schema) (command : String) : Member := gpu schema (Source.smi command) ()

/-- **What the program sees of a device collector with a state is a device collector.** -/
theorem collector_gpu (schema : Schema) (source : Source) (state : source.State) :
    (gpu schema source state).collector
      = (Gpu.mk schema (source.toBackend state)).toCollector := by
  have hupdate : (gpu schema source state).collector.updateAfter
      = (Gpu.mk schema (source.toBackend state)).update := by
    funext host releases
    simp only [collector, gpu, Kind.afterReleases_gpu]
    rfl
  have hrelease : (gpu schema source state).collector.releaseAfter
      = (Gpu.mk schema (source.toBackend state)).release := by
    funext releases
    simp only [collector, gpu, Kind.afterReleases_gpu]
    rfl
  exact congrArg₂ (Collector.mk Gpu.registeredName · · 0) hupdate hrelease

theorem collector_fixed (f : Fixed) : collector ⟨Kind.fixed f, ()⟩ = f.toCollector := rfl

theorem released_gpu (schema : Schema) (source : Source) (state : source.State) :
    (gpu schema source state).released = gpu schema source (source.release state).2 := rfl

theorem releasedTimes_gpu (schema : Schema) (source : Source) (state : source.State)
    (times : Nat) :
    (gpu schema source state).releasedTimes times
      = gpu schema source (source.afterReleases times state) :=
  congrArg (gpu schema source) (Kind.afterReleases_gpu schema source times state)

/-- Shutting it down does nothing to a collector that runs a command. -/
theorem releasedTimes_smi (schema : Schema) (command : String) (times : Nat) :
    (smi schema command).releasedTimes times = smi schema command :=
  releasedTimes_of_released rfl times

/-- An update over a command hangs on what the machine makes of that command, and nothing else. -/
theorem update_smi_congr (schema : Schema) {command : String} {host host' : Host}
    (h : host.launch command = host'.launch command) :
    (smi schema command).collector.update host = (smi schema command).collector.update host' := by
  have hquery : (Smi.backend command).query host 0 = (Smi.backend command).query host' 0 := by
    simp only [Smi.backend, Smi.query, h]
  change (Gpu.mk schema (Smi.backend command)).update host 0
    = (Gpu.mk schema (Smi.backend command)).update host' 0
  rw [Gpu.update, Gpu.update, hquery]

end Member

/-! ### Collectors that act as members -/

/-- The collector does, from now on, what the member does. -/
structure ActsAs (c : Collector) (m : Member) : Prop where
  name : c.name = m.kind.name
  update (host : Host) (releases : Nat) :
    c.updateAfter host (c.shutdowns + releases) = m.collector.updateAfter host releases
  release (releases : Nat) :
    c.releaseAfter (c.shutdowns + releases) = m.collector.releaseAfter releases

theorem actsAs_collector (m : Member) : ActsAs m.collector m where
  name := rfl
  update host releases := congrArg (m.collector.updateAfter host) (Nat.zero_add releases)
  release releases := congrArg m.collector.releaseAfter (Nat.zero_add releases)

namespace ActsAs

variable {c : Collector} {m : Member} (h : ActsAs c m)
include h

theorem update_eq (host : Host) : c.update host = m.collector.update host := h.update host 0

theorem snd_shutdown : c.shutdown.2 = (m.kind.release m.state).1 := h.release 0

/-- **Shutting both down keeps them together**: one more release counted is one more release. -/
theorem shutdown : ActsAs c.shutdown.1 m.released where
  name := h.name
  update host releases := by
    have hnext := h.update host (releases + 1)
    rwa [Nat.add_left_comm, Nat.add_comm releases] at hnext
  release releases := by
    have hnext := h.release (releases + 1)
    rwa [Nat.add_left_comm, Nat.add_comm releases] at hnext

end ActsAs

/-- A collector that owns how often it was shut down. -/
def Kind.counted (c : Collector) : Kind where
  name := c.name
  State := Nat
  ask host shutdowns := (c.updateAfter host shutdowns, shutdowns)
  release shutdowns := (c.releaseAfter shutdowns, shutdowns + 1)

theorem Kind.steady_counted (c : Collector) : (Kind.counted c).Steady := fun _ _ => rfl

theorem Kind.afterReleases_counted (c : Collector) (releases shutdowns : Nat) :
    (Kind.counted c).afterReleases releases shutdowns = shutdowns + releases := by
  induction releases generalizing shutdowns with
  | zero => rfl
  | succ releases ih => exact (ih (shutdowns + 1)).trans (Nat.add_right_comm shutdowns 1 releases)

/-- **Every collector acts as a member that is not changed by being asked.** -/
theorem actsAs_counted (c : Collector) : ActsAs c ⟨Kind.counted c, c.shutdowns⟩ where
  name := rfl
  update host releases := by
    simp only [Member.collector, Kind.afterReleases_counted]
    rfl
  release releases := by
    simp only [Member.collector, Kind.afterReleases_counted]
    rfl

end Collector

end GpuMetrics
