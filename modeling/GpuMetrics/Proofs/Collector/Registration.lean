import GpuMetrics.Collector.Fixed
import GpuMetrics.Proofs.Collector.Registry

/-!
# The first registration of a name counts

A run of registrations asks for one name after the other, and some of them twice. A call that
succeeds adds its registration behind the others, so what a registry holds are the calls that have
succeeded, in their order (`GpuMetrics.Collector.Registry.registrations_registerAll`); and a call
succeeds just if it is the first one for its name
(`GpuMetrics.Collector.Registry.accepted_eq`). A call for a name that is taken is refused and leaves
everything that can be asked of the registry as it was
(`GpuMetrics.Collector.Registry.AnswersAlike`).

Every answer is thus given by the first registration of a name, whether it is looked up on its own
or made use of in a build. The main statement is
`GpuMetrics.Collector.Registry.answers_of_first`.
-/

namespace GpuMetrics.Collector

open Backend Log

/-! ### First registrations -/

/-- The first registration of each name, in order. -/
def firsts : List Registration → List Registration
  | [] => []
  | g :: gs => g :: (firsts gs).filter (·.name ≠ g.name)

/-- Where names are distinct, each registration is the first of its name. -/
theorem firsts_eq_self {gs : List Registration} (h : (gs.map (·.name)).Nodup) : firsts gs = gs := by
  induction gs with
  | nil => rfl
  | cons g gs ih =>
    obtain ⟨hg, hgs⟩ := List.nodup_cons.mp h
    rw [firsts, ih hgs, List.filter_eq_self.mpr fun g' hg' => ?_]
    exact decide_eq_true fun hname => hg (List.mem_map.mpr ⟨g', hg', hname⟩)

theorem firsts_append (before gs : List Registration) :
    firsts (before ++ gs)
      = firsts before ++ (firsts gs).filter (·.name ∉ before.map (·.name)) := by
  induction before with
  | nil => simp [firsts]
  | cons g before ih =>
    rw [List.cons_append, firsts, firsts, ih, List.filter_append, List.filter_filter,
      List.cons_append]
    refine congrArg _ (congrArg _ (List.filter_congr fun g' _ => ?_))
    simp [-List.mem_map]

/-- Looked up by name, the first registrations answer like all of them. -/
theorem find?_firsts (gs : List Registration) (name : String) :
    (firsts gs).find? (·.name = name) = gs.find? (·.name = name) := by
  induction gs with
  | nil => rfl
  | cons g gs ih =>
    rw [firsts, List.find?_cons, List.find?_cons]
    by_cases hname : g.name = name
    · simp [hname]
    · -- those that bear the name of this one are not looked for
      rw [decide_eq_false hname, List.find?_filter, ← ih]
      refine congrArg (fun p => (firsts gs).find? p) (funext fun g' => ?_)
      by_cases hname' : g'.name = name
      · simp [hname', Ne.symm hname]
      · simp [hname']

namespace Registry

/-! ### The calls that succeed -/

/-- The calls that succeed when one thing after another is registered. -/
def accepted (r : Registry) : List Registration → List Registration
  | [] => []
  | g :: gs =>
    match r.register g.name g.defaultState g.factory with
    | .error _ => r.accepted gs
    | .ok next => g :: next.accepted gs

theorem register_of_mem {r : Registry} {g : Registration} (h : g.name ∈ r.names) :
    r.register g.name g.defaultState g.factory = .error (.duplicate g.name) := by
  rw [register, if_pos (List.contains_iff_mem.mpr h)]

theorem register_of_notMem {r : Registry} {g : Registration} (h : g.name ∉ r.names) :
    r.register g.name g.defaultState g.factory = .ok ⟨r.registrations ++ [g]⟩ := by
  rw [register, if_neg (mt List.contains_iff_mem.mp h)]

/-- **A registry holds the calls that have succeeded**, behind what it held before. -/
theorem registrations_registerAll (r : Registry) (gs : List Registration) :
    (r.registerAll gs).registrations = r.registrations ++ r.accepted gs := by
  induction gs generalizing r with
  | nil => exact (List.append_nil _).symm
  | cons g gs ih =>
    have hstep : r.registerAll (g :: gs) = (r.registerOrKeep g).registerAll gs := rfl
    rw [hstep, ih, registerOrKeep_eq, accepted]
    by_cases hg : g.name ∈ r.names
    · rw [if_pos hg, register_of_mem hg]
    · rw [if_neg hg, register_of_notMem hg, List.append_assoc, List.singleton_append]

/-- **A call succeeds just if it is the first for its name**, which the registry must not hold
yet. -/
theorem accepted_eq (r : Registry) (gs : List Registration) :
    r.accepted gs = (firsts gs).filter (·.name ∉ r.names) := by
  induction gs generalizing r with
  | nil => rfl
  | cons g gs ih =>
    rw [accepted, firsts]
    by_cases hg : g.name ∈ r.names
    · rw [register_of_mem hg, List.filter_cons_of_neg (by simpa using hg), List.filter_filter]
      -- what has the name of the call is held already
      refine (ih r).trans (List.filter_congr fun g' _ => ?_)
      by_cases hname : g'.name = g.name
      · simp [hname, hg]
      · simp [hname]
    · rw [register_of_notMem hg, List.filter_cons_of_pos (by simpa using hg), List.filter_filter]
      refine congrArg (g :: ·) ((ih _).trans (List.filter_congr fun g' _ => ?_))
      rw [Bool.eq_iff_iff]
      simp [names]

/-- What a registry with distinct names held at first, and the calls that have succeeded, are the
first registrations of their names. -/
theorem append_accepted_eq {r : Registry} (hr : r.names.Nodup) (gs : List Registration) :
    r.registrations ++ r.accepted gs = firsts (r.registrations ++ gs) := by
  rw [firsts_append, firsts_eq_self hr, accepted_eq]
  rfl

/-! ### One more call -/

theorem registerAll_concat (r : Registry) (gs : List Registration) (g : Registration) :
    r.registerAll (gs ++ [g]) = (r.registerAll gs).registerOrKeep g := by
  rw [registerAll, List.foldl_append]
  rfl

/-- A call for a name that is taken changes nothing. -/
theorem registerAll_concat_of_mem {r : Registry} {gs : List Registration} {g : Registration}
    (h : g.name ∈ (r.registerAll gs).names) : r.registerAll (gs ++ [g]) = r.registerAll gs := by
  rw [registerAll_concat, registerOrKeep_eq, if_pos h]

/-- A call for another name adds its registration behind the others. -/
theorem registerAll_concat_of_notMem {r : Registry} {gs : List Registration} {g : Registration}
    (h : g.name ∉ (r.registerAll gs).names) :
    r.registerAll (gs ++ [g]) = ⟨(r.registerAll gs).registrations ++ [g]⟩ := by
  rw [registerAll_concat, registerOrKeep_eq, if_neg h]

/-! ### What can be asked of a registry -/

/-- Two registries of which nothing that can be asked tells one from the other. -/
structure AnswersAlike (r r' : Registry) : Prop where
  names : r.names = r'.names
  defaultState : ∀ name, r.defaultState? name = r'.defaultState? name
  isEnabled : ∀ name s, r.isEnabled name s = r'.isEnabled name s
  build : ∀ s settings, r.build s settings = r'.build s settings

theorem AnswersAlike.refl (r : Registry) : AnswersAlike r r :=
  ⟨rfl, fun _ => rfl, fun _ _ => rfl, fun _ _ => rfl⟩

/-- **The default of a name is that of its first registration.** -/
theorem defaultState?_registerAll {r : Registry} (hr : r.names.Nodup) (gs : List Registration)
    (name : String) : (r.registerAll gs).defaultState? name
      = ((r.registrations ++ gs).find? (·.name = name)).map (·.defaultState) := by
  rw [defaultState?, find?, registrations_registerAll, append_accepted_eq hr, find?_firsts]

/-- What runs is enabled by name or by default, and not disabled. -/
theorem isEnabled_eq_true_iff {r : Registry} {name : String} {s : Selection} :
    r.isEnabled name s = true ↔
      name ∉ s.disabled ∧ (name ∈ s.enabled ∨ r.defaultState? name = some .enabled) := by
  by_cases hdisabled : name ∈ s.disabled
  · simp [isEnabled, Selection.explicit?, hdisabled]
  · by_cases henabled : name ∈ s.enabled
    · simp [isEnabled, Selection.explicit?, hdisabled, henabled]
    · simp [isEnabled, Selection.explicit?, hdisabled, henabled]

/-! ### Runs of registrations -/

/-- **The first registration of a name counts.** Start from the empty registry or from that of the
program, and register one thing after another, some of which may be refused. In every state that is
reached:

* the names are distinct and in the order in which they were registered, and what was registered are
  the first registrations of their names, with those of the program in front;
* registering a name that is taken is refused for that name, and leaves all answers as they were;
  registering another name succeeds and puts it last;
* the default of a name, and whether it runs, are given by its first registration;
* a build that is not refused for an unknown name calls the factories of the first registrations of
  the names that the selection wants, in order, until one fails. -/
theorem answers_of_first {start : Registry}
    (hstart : start = empty ∨ ∃ vendor, start = builtin vendor) (gs : List Registration) :
    let r := start.registerAll gs
    let held := start.registrations ++ start.accepted gs
    (r.names.Nodup ∧ r.names = held.map (·.name) ∧ held = firsts (start.registrations ++ gs)) ∧
    (∀ g : Registration,
      (g.name ∈ r.names →
        r.register g.name g.defaultState g.factory = .error (.duplicate g.name) ∧
          AnswersAlike (start.registerAll (gs ++ [g])) r) ∧
      (g.name ∉ r.names →
        r.register g.name g.defaultState g.factory = .ok (start.registerAll (gs ++ [g])) ∧
          (start.registerAll (gs ++ [g])).names = r.names ++ [g.name])) ∧
    (∀ name : String,
      let first := (start.registrations ++ gs).find? (·.name = name)
      held.find? (·.name = name) = first ∧
        r.defaultState? name = first.map (·.defaultState) ∧
        ∀ s : Selection, r.isEnabled name s = true ↔
          name ∉ s.disabled ∧ (name ∈ s.enabled ∨ first.map (·.defaultState) = some .enabled)) ∧
    ∀ (s : Selection) (settings : Settings),
      (∀ name, (s.enabled ++ s.disabled).find? (· ∉ r.names) = some name →
        (r.build s settings).value = .error (.unknown name) ∧ r.calls s settings = []) ∧
      ((∀ name ∈ s.enabled ++ s.disabled, name ∈ r.names) →
        ∃ called, Calls settings (held.filter (·.WantedBy s)) called (r.build s settings).value ∧
          r.calls s settings = called.map (·.name)) := by
  intro r held
  have hnodup : start.names.Nodup := by
    rcases hstart with rfl | ⟨vendor, rfl⟩
    · exact List.nodup_nil
    · exact List.nodup_singleton _
  have hr : r.names.Nodup := nodup_names_registerAll hnodup gs
  have hheld : r.registrations = held := registrations_registerAll start gs
  have hfirsts : held = firsts (start.registrations ++ gs) := append_accepted_eq hnodup gs
  have hdefault := defaultState?_registerAll hnodup gs
  refine ⟨⟨hr, congrArg (List.map Registration.name) hheld, hfirsts⟩,
    fun g => ⟨fun hg => ?_, fun hg => ?_⟩, fun name => ⟨?_, hdefault name, fun s => ?_⟩,
    fun s settings => ⟨fun name h => ?_, fun h => ?_⟩⟩
  · exact ⟨register_of_mem hg, registerAll_concat_of_mem hg ▸ AnswersAlike.refl _⟩
  · rw [registerAll_concat_of_notMem hg]
    exact ⟨register_of_notMem hg, List.map_append⟩
  · rw [hfirsts, find?_firsts]
  · rw [isEnabled_eq_true_iff, hdefault]
  · exact build_of_unknown settings ((unknown?_eq r s).trans h)
  · rw [← hheld]
    exact exists_calls_build hr settings (unknown?_eq_none_iff.mpr h)

/-- A registration of the collector that emits a constant. -/
def constantRegistration (name : String) (state : DefaultState) : Registration :=
  ⟨name, state, fun _ => ⟨.ok (Fixed.constant name).toCollector, []⟩⟩

/-- Of three calls on the registry of the program the last two are refused, one of them for a name
that comes with the program; the name of the first stays disabled, as it was registered. -/
theorem answers_of_first_repeated :
    let r := (builtin).registerAll [constantRegistration "alpha" .disabled,
      constantRegistration "gpu" .enabled, constantRegistration "alpha" .enabled]
    r.names = ["gpu", "alpha"] ∧ r.defaultState? "alpha" = some .disabled ∧
      r.defaultState? "gpu" = some .disabled ∧
      (constantRegistration "alpha" .enabled).name ∈ r.names ∧
      r.register "alpha" .enabled (constantRegistration "alpha" .enabled).factory
        = .error (.duplicate "alpha") := by
  intro r
  have hstart : builtin = empty ∨ ∃ vendor, builtin = builtin vendor := Or.inr ⟨.missing, rfl⟩
  obtain ⟨⟨-, hnames, -⟩, hcalls, hanswers, -⟩ := answers_of_first hstart
    [constantRegistration "alpha" .disabled, constantRegistration "gpu" .enabled,
      constantRegistration "alpha" .enabled]
  have htwo : r.names = ["gpu", "alpha"] := hnames.trans (by decide)
  have htaken : (constantRegistration "alpha" .enabled).name ∈ r.names :=
    htwo ▸ List.mem_cons_of_mem _ (List.mem_singleton.mpr rfl)
  obtain ⟨-, halpha, -⟩ := hanswers "alpha"
  obtain ⟨-, hgpu, -⟩ := hanswers "gpu"
  exact ⟨htwo, halpha, hgpu, htaken, ((hcalls (constantRegistration "alpha" .enabled)).1 htaken).1⟩

end Registry

end GpuMetrics.Collector
