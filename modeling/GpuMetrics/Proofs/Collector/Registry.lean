import GpuMetrics.Collector.Registry
import Mathlib.Data.List.Nodup

/-!
# Which collectors a build makes

Three decisions have to agree before a build makes the collectors that a selection asks for: what
the lists say about a name (`GpuMetrics.Collector.Selection.explicit?`), what is registered as its
default (`GpuMetrics.Collector.Registry.defaultState?`) and whether it runs
(`GpuMetrics.Collector.Registry.isEnabled`). They agree on two conditions.

* **Names are registered once.** A default is looked up by name, and the first registration of the
  name answers. As a name that is taken is refused
  (`GpuMetrics.Collector.Registry.nodup_names_registerAll`), that is the only one.
* **Every listed name is registered.** A name that is enabled counts as running whether or not there
  is anything to run, so a build looks for unknown names before it makes anything
  (`GpuMetrics.Collector.Registry.unknown?_eq`).

A registration that is wanted is then one that runs
(`GpuMetrics.Collector.Registry.isEnabled_name`), and a build is a walk along the wanted
registrations that stops at the first factory that fails (`GpuMetrics.Collector.Registry.Calls`).
Which factories the walk calls shows when each of them notes its own call
(`GpuMetrics.Collector.Registry.calls`). The main statement is
`GpuMetrics.Collector.Registry.build_selects`.
-/

namespace GpuMetrics.Collector

open Backend Log

namespace Registry

/-! ### Registering one name after another -/

/-- The registry after trying to register something. A refusal changes nothing. -/
def registerOrKeep (r : Registry) (g : Registration) : Registry :=
  match r.register g.name g.defaultState g.factory with
  | .error _ => r
  | .ok next => next

/-- The registry after trying to register one thing after another. -/
def registerAll (r : Registry) (gs : List Registration) : Registry := gs.foldl registerOrKeep r

theorem registerOrKeep_eq (r : Registry) (g : Registration) :
    r.registerOrKeep g = if g.name ∈ r.names then r else ⟨r.registrations ++ [g]⟩ := by
  by_cases h : g.name ∈ r.names
  · simp [registerOrKeep, register, h]
  · simp [registerOrKeep, register, h]

theorem nodup_names_registerOrKeep {r : Registry} (h : r.names.Nodup) (g : Registration) :
    (r.registerOrKeep g).names.Nodup := by
  rw [registerOrKeep_eq]
  by_cases hg : g.name ∈ r.names
  · rwa [if_pos hg]
  · rw [if_neg hg, names, List.map_append, List.map_singleton, ← names, List.nodup_append_comm]
    exact List.nodup_cons.mpr ⟨hg, h⟩

/-- **However things are registered, the registered names are distinct.** -/
theorem nodup_names_registerAll {r : Registry} (h : r.names.Nodup) (gs : List Registration) :
    (r.registerAll gs).names.Nodup := by
  induction gs generalizing r with
  | nil => exact h
  | cons g gs ih => exact ih (nodup_names_registerOrKeep h g)

/-! ### Looking names up -/

theorem find?_name_eq_none_iff {r : Registry} {name : String} :
    r.find? name = none ↔ name ∉ r.names := by
  simp [find?, names]

/-- Where names are distinct, a registration is found under its name. -/
theorem find?_name {r : Registry} (hr : r.names.Nodup) {g : Registration}
    (hg : g ∈ r.registrations) : r.find? g.name = some g := by
  cases hfind : r.find? g.name with
  | none => exact absurd (List.mem_map_of_mem hg) (find?_name_eq_none_iff.mp hfind)
  | some g' =>
    have hname : g'.name = g.name := by simpa using List.find?_some hfind
    rw [List.inj_on_of_nodup_map hr (List.mem_of_find?_eq_some hfind) hg hname]

/-- **The unknown name of a selection** is its first name that is not registered. -/
theorem unknown?_eq (r : Registry) (s : Selection) :
    r.unknown? s = (s.enabled ++ s.disabled).find? (· ∉ r.names) := by
  rw [unknown?]
  congr 1
  funext name
  rw [Bool.eq_iff_iff, defaultState?, Option.isNone_map, Option.isNone_iff_eq_none,
    find?_name_eq_none_iff, decide_eq_true_iff]

theorem unknown?_eq_none_iff {r : Registry} {s : Selection} :
    r.unknown? s = none ↔ ∀ name ∈ s.enabled ++ s.disabled, name ∈ r.names := by
  simp only [unknown?_eq, List.find?_eq_none, decide_eq_true_eq, not_not]

end Registry

/-! ### What a selection wants -/

/-- A registration that a selection wants: its name is not disabled, and it is enabled by name or by
default. -/
def Registration.WantedBy (g : Registration) (s : Selection) : Prop :=
  g.name ∉ s.disabled ∧ (g.name ∈ s.enabled ∨ g.defaultState = .enabled)

instance (g : Registration) (s : Selection) : Decidable (g.WantedBy s) :=
  inferInstanceAs (Decidable (_ ∧ _))

namespace Registry

/-- The registrations that a selection wants, oldest first. -/
def wanted (r : Registry) (s : Selection) : List Registration :=
  r.registrations.filter (·.WantedBy s)

/-- **Where names are distinct, what is wanted is what runs.** -/
theorem isEnabled_name {r : Registry} (hr : r.names.Nodup) {g : Registration}
    (hg : g ∈ r.registrations) (s : Selection) :
    r.isEnabled g.name s = decide (g.WantedBy s) := by
  have hdefault : r.defaultState? g.name = some g.defaultState := by
    rw [defaultState?, find?_name hr hg, Option.map_some]
  by_cases hdisabled : g.name ∈ s.disabled
  · simp [isEnabled, Selection.explicit?, Registration.WantedBy, hdisabled]
  · by_cases henabled : g.name ∈ s.enabled
    · simp [isEnabled, Selection.explicit?, Registration.WantedBy, hdisabled, henabled]
    · rw [Bool.eq_iff_iff]
      simp [isEnabled, Selection.explicit?, Registration.WantedBy, hdisabled, henabled, hdefault]

/-- A name that is neither registered nor enabled does not run. -/
theorem isEnabled_of_notMem {r : Registry} {name : String} (hname : name ∉ r.names)
    {s : Selection} (henabled : name ∉ s.enabled) : r.isEnabled name s = false := by
  have hdefault : r.defaultState? name = none := by
    rw [defaultState?, find?_name_eq_none_iff.mpr hname, Option.map_none]
  by_cases hdisabled : name ∈ s.disabled
  · simp [isEnabled, Selection.explicit?, hdisabled]
  · simp [isEnabled, Selection.explicit?, hdisabled, henabled, hdefault]

/-- Where all listed names are registered, a name runs just if a registration of it is wanted. -/
theorem isEnabled_iff {r : Registry} (hr : r.names.Nodup) {s : Selection}
    (hknown : ∀ name ∈ s.enabled ++ s.disabled, name ∈ r.names) (name : String) :
    r.isEnabled name s = true ↔ ∃ g ∈ r.wanted s, g.name = name := by
  constructor
  · intro h
    by_cases hname : name ∈ r.names
    · obtain ⟨g, hg, rfl⟩ := List.mem_map.mp hname
      rw [isEnabled_name hr hg, decide_eq_true_iff] at h
      exact ⟨g, List.mem_filter.mpr ⟨hg, decide_eq_true h⟩, rfl⟩
    · have henabled : name ∉ s.enabled := fun hmem =>
        hname (hknown name (List.mem_append_left _ hmem))
      rw [isEnabled_of_notMem hname henabled] at h
      cases h
  · rintro ⟨g, hg, rfl⟩
    obtain ⟨hmem, hwanted⟩ := List.mem_filter.mp hg
    rw [isEnabled_name hr hmem]
    exact hwanted

/-- What is wanted hangs on which names are listed, and not on how. -/
theorem wanted_congr (r : Registry) {s s' : Selection}
    (henabled : ∀ name, name ∈ s.enabled ↔ name ∈ s'.enabled)
    (hdisabled : ∀ name, name ∈ s.disabled ↔ name ∈ s'.disabled) : r.wanted s = r.wanted s' := by
  refine List.filter_congr fun g _ => ?_
  rw [Bool.eq_iff_iff, decide_eq_true_iff, decide_eq_true_iff, Registration.WantedBy,
    Registration.WantedBy, henabled, hdisabled]

/-! ### Calling factories until one fails -/

/-- Calling the factories of some registrations in turn, until one fails: which of them are called,
and what comes of it. -/
inductive Calls (settings : Settings) :
    List Registration → List Registration → Except CollectorError (List Collector) → Prop
  /-- There is nothing to call. -/
  | nil : Calls settings [] [] (.ok [])
  /-- The first factory fails, and none is called after it. -/
  | failed {g : Registration} {gs : List Registration} {cause : CollectorError} :
    (g.factory settings).value = .error cause → Calls settings (g :: gs) [g] (.error cause)
  /-- The first factory makes a collector, which comes before those of the others. -/
  | made {g : Registration} {gs called : List Registration} {c : Collector}
    {result : Except CollectorError (List Collector)} :
    (g.factory settings).value = .ok c → Calls settings gs called result →
      Calls settings (g :: gs) (g :: called) (result.map (c :: ·))

/-- Where no factory fails, all are called, and each makes the collector in its place. -/
theorem Calls.of_ok {settings : Settings} {gs called : List Registration} {cs : List Collector}
    (h : Calls settings gs called (.ok cs)) :
    called = gs ∧ gs.map (fun g => (g.factory settings).value) = cs.map .ok := by
  generalize hresult : (Except.ok cs : Except CollectorError (List Collector)) = result at h
  induction h generalizing cs with
  | nil =>
    obtain rfl := Except.ok.inj hresult
    exact ⟨rfl, rfl⟩
  | failed => cases hresult
  | @made g gs called c result hc _ ih =>
    cases result with
    | error cause => cases hresult
    | ok more =>
      obtain rfl : cs = c :: more := Except.ok.inj hresult
      obtain ⟨rfl, hmore⟩ := ih rfl
      exact ⟨rfl, by rw [List.map_cons, List.map_cons, hc, hmore]⟩

/-- What comes of calling factories is determined by the factories. -/
theorem Calls.result_eq {settings : Settings} {gs called : List Registration}
    {result : Except CollectorError (List Collector)} (h : Calls settings gs called result) :
    result = gs.mapM fun g => (g.factory settings).value := by
  induction h with
  | nil => rfl
  | failed hcause =>
    rw [List.mapM_cons, hcause]
    rfl
  | @made g gs called c result hc _ ih =>
    rw [List.mapM_cons, hc, ← ih]
    cases result <;> rfl

end Registry

/-! ### Which factories a build calls

A factory is seen to be called by what it notes. So every factory is made to note its own call, and
nothing else. -/

/-- The registration whose factory makes what it made before, but notes just its own call. -/
def Registration.watched (g : Registration) : Registration :=
  { g with factory := fun settings => ⟨(g.factory settings).value, [.collectorCreated g.name]⟩ }

namespace Registry

/-- The registry in which every factory is watched. -/
def watched (r : Registry) : Registry := ⟨r.registrations.map Registration.watched⟩

/-- The calls among events. -/
def callsIn (events : List Event) : List String :=
  events.filterMap fun
    | .collectorCreated name => some name
    | _ => none

/-- The names of the registrations whose factories a build calls, in the order of the calls. -/
def calls (r : Registry) (s : Selection) (settings : Settings) : List String :=
  callsIn (r.watched.build s settings).events

@[simp] theorem defaultState?_watched (r : Registry) (name : String) :
    r.watched.defaultState? name = r.defaultState? name := by
  rw [defaultState?, defaultState?, find?, watched, List.find?_map, Option.map_map]
  rfl

@[simp] theorem isEnabled_watched (r : Registry) (name : String) (s : Selection) :
    r.watched.isEnabled name s = r.isEnabled name s := by
  rw [isEnabled, isEnabled, defaultState?_watched]

@[simp] theorem unknown?_watched (r : Registry) (s : Selection) :
    r.watched.unknown? s = r.unknown? s := by
  simp only [unknown?, defaultState?_watched]

theorem value_buildEach_watched (r : Registry) (s : Selection) (settings : Settings)
    (gs : List Registration) :
    (r.watched.buildEach s settings (gs.map Registration.watched)).value
      = (r.buildEach s settings gs).value := by
  induction gs with
  | nil => rfl
  | cons g gs ih =>
    by_cases hruns : r.isEnabled g.name s = true
    · cases hmade : (g.factory settings).value with
      | error cause => simp [buildEach, Registration.watched, hruns, hmade]
      | ok c => simp [buildEach, Registration.watched, hruns, hmade, ih]
    · simp [buildEach, Registration.watched, hruns, ih]

/-- Being watched changes nothing about what is built. -/
theorem value_build_watched (r : Registry) (s : Selection) (settings : Settings) :
    (r.watched.build s settings).value = (r.build s settings).value := by
  rw [build, build, unknown?_watched]
  cases r.unknown? s with
  | some name => rfl
  | none => exact value_buildEach_watched r s settings r.registrations

/-- **A build walks along what is wanted.** The other registrations are passed over. -/
theorem exists_calls_buildEach (r : Registry) (s : Selection) (settings : Settings)
    {gs : List Registration} (h : ∀ g ∈ gs, r.isEnabled g.name s = decide (g.WantedBy s)) :
    ∃ called,
      Calls settings (gs.filter (·.WantedBy s)) called (r.buildEach s settings gs).value ∧
      callsIn (r.watched.buildEach s settings (gs.map Registration.watched)).events
        = called.map (·.name) := by
  induction gs with
  | nil => exact ⟨[], .nil, rfl⟩
  | cons g gs ih =>
    obtain ⟨hg, hgs⟩ := List.forall_mem_cons.mp h
    obtain ⟨called, hcalls, hnoted⟩ := ih hgs
    by_cases hwanted : g.WantedBy s
    · have hruns : r.isEnabled g.name s = true := hg.trans (decide_eq_true hwanted)
      have hfilter : (g :: gs).filter (·.WantedBy s) = g :: gs.filter (·.WantedBy s) :=
        List.filter_cons_of_pos (decide_eq_true hwanted)
      rw [hfilter]
      cases hmade : (g.factory settings).value with
      | error cause =>
        refine ⟨[g], ?_, ?_⟩
        · simp only [buildEach, hruns, if_true, hmade]
          exact .failed hmade
        · simp [buildEach, Registration.watched, hruns, hmade, callsIn]
      | ok c =>
        refine ⟨g :: called, ?_, ?_⟩
        · simp only [buildEach, hruns, if_true, hmade]
          exact .made hmade hcalls
        · simpa [buildEach, Registration.watched, hruns, hmade, callsIn] using hnoted
    · have hpassed : r.isEnabled g.name s = false := hg.trans (decide_eq_false hwanted)
      rw [List.filter_cons_of_neg (by simpa using hwanted)]
      refine ⟨called, ?_, ?_⟩
      · simpa [buildEach, hpassed] using hcalls
      · simpa [buildEach, Registration.watched, hpassed, callsIn] using hnoted

section Distinct

variable {r : Registry} {s : Selection}

/-- A selection with an unknown name builds nothing and calls nothing. -/
theorem build_of_unknown (settings : Settings) {name : String} (h : r.unknown? s = some name) :
    (r.build s settings).value = .error (.unknown name) ∧ r.calls s settings = [] := by
  constructor
  · simp only [build, h]
  · simp only [calls, build, unknown?_watched, h]
    rfl

/-- **A selection of known names builds what it wants.** -/
theorem exists_calls_build (hr : r.names.Nodup) (settings : Settings) (h : r.unknown? s = none) :
    ∃ called, Calls settings (r.wanted s) called (r.build s settings).value ∧
      r.calls s settings = called.map (·.name) := by
  obtain ⟨called, hcalls, hnoted⟩ :=
    exists_calls_buildEach r s settings fun g hg => isEnabled_name hr hg s
  refine ⟨called, ?_, ?_⟩
  · rw [build, h]
    exact hcalls
  · rw [calls, build, unknown?_watched, h]
    exact hnoted

/-- What a selection of known names builds hangs on which names are listed, and not on how. -/
theorem value_build_congr (hr : r.names.Nodup) (settings : Settings) {s' : Selection}
    (henabled : ∀ name, name ∈ s.enabled ↔ name ∈ s'.enabled)
    (hdisabled : ∀ name, name ∈ s.disabled ↔ name ∈ s'.disabled)
    (h : r.unknown? s = none) (h' : r.unknown? s' = none) :
    (r.build s settings).value = (r.build s' settings).value := by
  obtain ⟨called, hcalls, -⟩ := exists_calls_build hr settings h
  obtain ⟨called', hcalls', -⟩ := exists_calls_build hr settings h'
  rw [← wanted_congr r henabled hdisabled] at hcalls'
  exact hcalls.result_eq.trans hcalls'.result_eq.symm

end Distinct

/-- **What a build makes.** Whatever was registered, in whatever order:

* a selection that lists an unknown name is refused for the first such name, the enabled names
  coming first, and no factory is called;
* any other selection makes the factories of the registrations that it wants be called in the order
  of registration, until one fails, and their collectors or that failure are the result;
* where the build succeeds, the names that run are those whose factories have contributed;
* two selections that list the same names build the same, or both fail. -/
theorem build_selects (gs : List Registration) (s : Selection) (settings : Settings) :
    let r := empty.registerAll gs
    (∀ name, (s.enabled ++ s.disabled).find? (· ∉ r.names) = some name →
      (r.build s settings).value = .error (.unknown name) ∧ r.calls s settings = []) ∧
    ((∀ name ∈ s.enabled ++ s.disabled, name ∈ r.names) →
      ∃ called, Calls settings (r.wanted s) called (r.build s settings).value ∧
        r.calls s settings = called.map (·.name)) ∧
    (∀ cs, (r.build s settings).value = .ok cs → ∀ name,
      r.isEnabled name s = true ↔
        name ∈ r.calls s settings ∧
          ∃ g ∈ r.registrations, g.name = name ∧ ∃ c ∈ cs, (g.factory settings).value = .ok c) ∧
    ∀ s' : Selection, (∀ name, name ∈ s.enabled ↔ name ∈ s'.enabled) →
      (∀ name, name ∈ s.disabled ↔ name ∈ s'.disabled) →
      (∃ cs, (r.build s settings).value = .ok cs ∧ (r.build s' settings).value = .ok cs) ∨
        ∃ cause cause', (r.build s settings).value = .error cause ∧
          (r.build s' settings).value = .error cause' := by
  intro r
  have hr : r.names.Nodup := nodup_names_registerAll (r := empty) List.nodup_nil gs
  refine ⟨fun name h => ?_, fun h => ?_, fun cs hcs name => ?_, fun s' henabled hdisabled => ?_⟩
  · exact build_of_unknown settings ((unknown?_eq r s).trans h)
  · exact exists_calls_build hr settings (unknown?_eq_none_iff.mpr h)
  · -- a build that succeeds knew all names, and called everything that it wanted
    have hnone : r.unknown? s = none := by
      cases hunknown : r.unknown? s with
      | none => rfl
      | some name =>
        rw [(build_of_unknown settings hunknown).1] at hcs
        cases hcs
    obtain ⟨called, hcalls, hnoted⟩ := exists_calls_build hr settings hnone
    rw [hcs] at hcalls
    obtain ⟨rfl, hmade⟩ := hcalls.of_ok
    rw [isEnabled_iff hr (unknown?_eq_none_iff.mp hnone), hnoted, List.mem_map]
    constructor
    · rintro ⟨g, hg, rfl⟩
      have hmem : (g.factory settings).value ∈ cs.map .ok :=
        hmade ▸ List.mem_map_of_mem (f := fun g => (g.factory settings).value) hg
      obtain ⟨c, hc, heq⟩ := List.mem_map.mp hmem
      exact ⟨⟨g, hg, rfl⟩, g, (List.mem_filter.mp hg).1, rfl, c, hc, heq.symm⟩
    · rintro ⟨hg, -⟩
      exact hg
  · have hiff : r.unknown? s = none ↔ r.unknown? s' = none := by
      simp only [unknown?_eq_none_iff, List.mem_append, henabled, hdisabled]
    cases hunknown : r.unknown? s with
    | none =>
      have heq := value_build_congr hr settings henabled hdisabled hunknown (hiff.mp hunknown)
      cases hvalue : (r.build s settings).value with
      | ok cs => exact Or.inl ⟨cs, rfl, heq ▸ hvalue⟩
      | error cause => exact Or.inr ⟨cause, cause, rfl, heq ▸ hvalue⟩
    | some name =>
      obtain ⟨name', hunknown'⟩ : ∃ name', r.unknown? s' = some name' :=
        Option.ne_none_iff_exists'.mp fun h => by simp [hiff.mpr h] at hunknown
      exact Or.inr ⟨_, _, (build_of_unknown settings hunknown).1,
        (build_of_unknown settings hunknown').1⟩

/-! ### The registry of the program -/

/-- The collectors that come with the program are registered without a refusal. -/
theorem register_empty_eq_builtin (vendor : Vendor) :
    empty.register Gpu.registeredName .disabled (gpuFactory vendor) = .ok (builtin vendor) :=
  rfl

theorem names_builtin (vendor : Vendor) : (builtin vendor).names = [Gpu.registeredName] := rfl

theorem unknown?_builtin (s : Selection) (vendor : Vendor) :
    (builtin vendor).unknown? s
      = (s.enabled ++ s.disabled).find? (· ≠ Gpu.registeredName) := by
  simp only [unknown?_eq, names_builtin, List.mem_singleton]

/-- What a selection of known names builds: the device collector, if that runs. -/
theorem value_build_builtin {s : Selection} {vendor : Vendor}
    (hknown : (builtin vendor).unknown? s = none) (settings : Settings) :
    ((builtin vendor).build s settings).value =
      if (builtin vendor).isEnabled Gpu.registeredName s then
        (Gpu.ofSettings? settings vendor).value.map fun g => [g.toCollector]
      else .ok [] := by
  rw [build, hknown]
  by_cases hruns : (builtin vendor).isEnabled Gpu.registeredName s = true
  · rw [if_pos hruns]
    simp only [builtin] at hruns
    simp only [builtin, buildEach, hruns, if_true, gpuFactory]
    cases (Gpu.ofSettings? settings vendor).value <;> rfl
  · rw [if_neg hruns]
    simp only [builtin] at hruns
    simp only [builtin, buildEach, hruns]
    rfl

end Registry

end GpuMetrics.Collector
