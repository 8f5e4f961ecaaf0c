import GpuMetrics.Collector.Gpu

/-!
# The registry of collectors

Collectors are registered under names, each with a default state and a factory. **Building** makes
the collectors that are enabled under a selection, in the order of registration; a selection that
names an unknown collector, or a factory that fails, fails the whole build.
-/

namespace GpuMetrics.Collector

open Backend Log

/-- Whether a collector runs when no list names it. -/
inductive DefaultState where
  | enabled
  | disabled
  deriving DecidableEq, Repr

/-- Makes a collector from the settings. -/
abbrev Factory := Settings → Noted (Except CollectorError Collector)

/-- A registered collector. -/
structure Registration where
  name : String
  defaultState : DefaultState
  factory : Factory

/-- The registered collectors, oldest first. -/
structure Registry where
  registrations : List Registration

namespace Registry

/-- The registry without collectors. -/
def empty : Registry := ⟨[]⟩

/-- The registered names, oldest first. -/
def names (r : Registry) : List String := r.registrations.map (·.name)

/-- The registration of a name. -/
def find? (r : Registry) (name : String) : Option Registration :=
  r.registrations.find? (·.name = name)

/-- Registers a collector under a name that is still free. -/
def register (r : Registry) (name : String) (defaultState : DefaultState) (factory : Factory) :
    Except CollectorError Registry :=
  if r.names.contains name then .error (.duplicate name)
  else .ok ⟨r.registrations ++ [⟨name, defaultState, factory⟩]⟩

/-- Makes the device collector. -/
def gpuFactory (vendor : Vendor := .missing) : Factory := fun settings =>
  let built := Gpu.ofSettings? settings vendor
  ⟨built.value.map Gpu.toCollector, built.events⟩

/-- The registry of the collectors that come with the program. -/
def builtin (vendor : Vendor := .missing) : Registry :=
  ⟨[⟨Gpu.registeredName, .disabled, gpuFactory vendor⟩]⟩

/-- The default state of a registered name. -/
def defaultState? (r : Registry) (name : String) : Option DefaultState :=
  (r.find? name).map (·.defaultState)

/-- Whether a name runs under a selection. -/
def isEnabled (r : Registry) (name : String) (selection : Selection) : Bool :=
  match selection.explicit? name with
  | some answer => answer
  | none => r.defaultState? name == some .enabled

/-- The first selected name that nothing is registered under, the enabled names first. -/
def unknown? (r : Registry) (selection : Selection) : Option String :=
  (selection.enabled ++ selection.disabled).find? fun name => (r.defaultState? name).isNone

/-- Builds the enabled collectors among the given registrations. -/
def buildEach (r : Registry) (selection : Selection) (settings : Settings) :
    List Registration → Noted (Except CollectorError (List Collector))
  | [] => ⟨.ok [], []⟩
  | registration :: rest =>
    if r.isEnabled registration.name selection then
      let built := registration.factory settings
      match built.value with
      | .error cause => ⟨.error cause, built.events⟩
      | .ok c =>
        let more := buildEach r selection settings rest
        ⟨more.value.map (c :: ·),
          built.events ++ .collectorEnabled registration.name :: more.events⟩
    else
      let more := buildEach r selection settings rest
      ⟨more.value, .collectorDisabled registration.name :: more.events⟩

/-- Builds every collector that is enabled under the selection. -/
def build (r : Registry) (selection : Selection) (settings : Settings) :
    Noted (Except CollectorError (List Collector)) :=
  match r.unknown? selection with
  | some name => ⟨.error (.unknown name), []⟩
  | none => r.buildEach selection settings r.registrations

end Registry

end GpuMetrics.Collector
