import GpuMetrics.Proofs.Collector.Registry
import GpuMetrics.Proofs.Config.Verdict
import GpuMetrics.Proofs.Scrape.Blocks

/-!
# From a valid configuration to the first scrape

What was checked of a configuration is relied on by what comes after: the address is read again, the
namespace becomes part of every metric name, and a selection without conflicts is one whose enabled
names run. Here it is shown that the check covers what the others need
(`GpuMetrics.Exporter.comesOf_firstScrape`), so that between a valid configuration and its first
scrape only two things can go wrong (`GpuMetrics.Exporter.FirstScrape.ComesOf`). Neither is one that
the check asks about:

* a listed name may be unknown to the registry;
* the vendor's library may be unusable on the machine.

The command is not among them. It is run by the scrape, and may do what it likes: the collector over
it fails in its own way at worst.

The steps are those by which the program prepares its scraper
(`GpuMetrics.Exporter.value_prepare`), with one scrape behind them.
-/

namespace GpuMetrics

open Backend Collector Json5 GpuMetrics.Metric

namespace Collector

/-! ### The device collector -/

namespace Gpu

/-- There is a device source unless it would be the vendor's library and that is unusable. -/
theorem exists_sourceOf? {settings : GpuSettings} {vendor : Vendor}
    (h : ¬(settings.backend = .nvml ∧ ∃ reason, vendor = .unusable reason)) :
    ∃ source, (sourceOf? settings vendor).value = .ok source := by
  rw [sourceOf?]
  cases hbackend : settings.backend with
  | nvidiaSmi => exact ⟨_, rfl⟩
  | nvml =>
    cases vendor with
    | unusable reason => exact absurd ⟨hbackend, reason, rfl⟩ h
    | ready library => exact ⟨_, rfl⟩

theorem value_ofSettings?_of_unusable {settings : Settings} {vendor : Vendor} {reason : String}
    (hbackend : settings.gpu.backend = .nvml) (hvendor : vendor = .unusable reason) :
    (ofSettings? settings vendor).value = .error (.backend (.initFailed Vendor.name
      (reason ++ ". Make sure NVML is in the shared library search path"))) := by
  simp only [ofSettings?, sourceOf?, hbackend, hvendor, Vendor.source?]

/-- Over a device source, a namespace is all that a collector needs. -/
theorem exists_ofSettings? {settings : Settings} {vendor : Vendor} {source : Backend}
    (hns : IsNamespace settings.ns) (h : (sourceOf? settings.gpu vendor).value = .ok source) :
    ∃ g, (ofSettings? settings vendor).value = .ok g ∧
      g.schema.IsUnder settings.ns ∧ g.source = source := by
  obtain ⟨schema, hschema⟩ := Schema.exists_ofNamespace?_iff.mpr hns
  exact ⟨⟨schema, source⟩, by simp only [ofSettings?, h, ofBackend?, hschema],
    Schema.isUnder_of_ofNamespace? hschema, rfl⟩

/-- The device collector fails for its device source only. -/
theorem exists_backend_of_failed {g : Gpu} {host : Host} {cause : CollectorError}
    (h : (g.toCollector.update host).ending = .failed cause) : ∃ e, cause = .backend e := by
  obtain ⟨e, he, -⟩ := expectedEnding_eq_failed_iff.mp ((ending_update g host 0).symm.trans h)
  exact ⟨e, he⟩

end Gpu

/-- As nothing runs by default, a selection without conflicts runs what it enables. -/
theorem Registry.isEnabled_builtin {s : Selection} (hs : s.IsConsistent) (vendor : Vendor) :
    (builtin vendor).isEnabled Gpu.registeredName s = decide (Gpu.registeredName ∈ s.enabled) := by
  by_cases henabled : Gpu.registeredName ∈ s.enabled
  · have hdisabled : Gpu.registeredName ∉ s.disabled := hs _ henabled
    simp [isEnabled, Selection.explicit?, henabled, hdisabled]
  · have hdefault : (builtin vendor).defaultState? Gpu.registeredName = some .disabled := rfl
    by_cases hdisabled : Gpu.registeredName ∈ s.disabled
    · simp [isEnabled, Selection.explicit?, henabled, hdisabled]
    · simp [isEnabled, Selection.explicit?, henabled, hdisabled, hdefault]

end Collector

namespace Exporter

/-! ### What a first scrape comes to -/

/-- What became of going from a configuration to its first scrape. -/
inductive FirstScrape where
  /-- The registry of the program could not be made. -/
  | notRegistered (cause : CollectorError)
  /-- The collectors could not be built. -/
  | notBuilt (cause : CollectorError)
  /-- There were collectors, but no scraper could be made of them. -/
  | noScraper (cause : CollectorError)
  | scraped (s : Scraper) (scrape : Scrape)

/-- From a configuration to its first scrape: the registry is made, the collectors are built, a
scraper is made of them, and it is used once. -/
def firstScrape (c : Config) (vendor : Vendor) (host : Host) (elapsed : Nat → Binary64) :
    FirstScrape :=
  match Registry.empty.register Gpu.registeredName .disabled (Registry.gpuFactory vendor) with
  | .error cause => .notRegistered cause
  | .ok registry =>
    match (registry.build c.collectors c.collectorSettings).value with
    | .error cause => .notBuilt cause
    | .ok collectors =>
      match Scraper.ofCollectors? c.endpoint.ns collectors with
      | .error cause => .noScraper cause
      | .ok s => .scraped s (s.scrape host elapsed)

namespace FirstScrape

/-- The scraper that was made, or what kept it from being made. -/
def scraper? : FirstScrape → Except CollectorError Scraper
  | .notRegistered cause | .notBuilt cause | .noScraper cause => .error cause
  | .scraped s _ => .ok s

/-- What ought to be seen of a scrape of the device collector alone, over a source and in so many
seconds. -/
def expectedOf (ns : String) (source : Backend) (host : Host) (elapsed : Binary64) :
    List Observed :=
  let opened := (source.query host 0).value
  expected ns opened ++
    [⟨Scraper.nameUnder ns "collector_duration_seconds", [("collector", Gpu.registeredName)],
      elapsed⟩,
     ⟨Scraper.nameUnder ns "collector_success", [("collector", Gpu.registeredName)],
      if opened.toOption.isSome then .one else .zero⟩]

/-- What may come of a configuration that is valid. -/
inductive ComesOf (c : Config) (vendor : Vendor) (host : Host) (elapsed : Nat → Binary64) :
    FirstScrape → Prop where
  /-- A listed name is not that of the device collector. The first such name is reported, the
  enabled names coming first. -/
  | unknown {name : String}
    (hname : (c.collectors.enabled ++ c.collectors.disabled).find? (· ≠ Gpu.registeredName)
      = some name) :
    ComesOf c vendor host elapsed (.notBuilt (.unknown name))
  /-- The device collector would be over the vendor's library, which is unusable. -/
  | unusable {reason : String}
    (hknown : ∀ name ∈ c.collectors.enabled ++ c.collectors.disabled, name = Gpu.registeredName)
    (henabled : Gpu.registeredName ∈ c.collectors.enabled) (hbackend : c.gpu.backend = .nvml)
    (hvendor : vendor = .unusable reason) :
    ComesOf c vendor host elapsed (.notBuilt (.backend (.initFailed Vendor.name
      (reason ++ ". Make sure NVML is in the shared library search path"))))
  /-- Nothing is enabled, so there is a scrape of nothing. -/
  | idle {s : Scraper}
    (hknown : ∀ name ∈ c.collectors.enabled ++ c.collectors.disabled, name = Gpu.registeredName)
    (hdisabled : Gpu.registeredName ∉ c.collectors.enabled) (hnames : s.names = []) :
    ComesOf c vendor host elapsed (.scraped s ⟨.ok [], []⟩)
  /-- The device collector is scraped over its source. It may fail, but only for that source, and no
  sample of it or about it is refused. -/
  | watching {s : Scraper} {source : Backend} {samples : List Sample} {events : List Log.Event}
    (hknown : ∀ name ∈ c.collectors.enabled ++ c.collectors.disabled, name = Gpu.registeredName)
    (henabled : Gpu.registeredName ∈ c.collectors.enabled)
    (husable : ¬(c.gpu.backend = .nvml ∧ ∃ reason, vendor = .unusable reason))
    (hsource : (Gpu.sourceOf? c.gpu vendor).value = .ok source)
    (hnames : s.names = [Gpu.registeredName])
    (hfailures : ∀ k ∈ s.collectors, ∀ cause, (k.update host).ending = .failed cause →
      ∃ e, cause = .backend e)
    (hshown : samples.map Sample.observed
      = expectedOf c.endpoint.ns source host (elapsed 0)) :
    ComesOf c vendor host elapsed (.scraped s ⟨.ok samples, events⟩)

end FirstScrape

/-- A first scrape is over the scraper that the program prepares. -/
theorem value_prepare (c : Config) (vendor : Vendor) (host : Host) (elapsed : Nat → Binary64) :
    (prepare c vendor).value = (firstScrape c vendor host elapsed).scraper? := by
  simp only [prepare, firstScrape, Registry.register_empty_eq_builtin]
  cases hbuilt : ((Registry.builtin vendor).build c.collectors c.collectorSettings).value with
  | error cause => rfl
  | ok collectors =>
    cases hs : Scraper.ofCollectors? c.endpoint.ns collectors with
    | error cause => simp only [hs, FirstScrape.scraper?]
    | ok s => simp only [hs, FirstScrape.scraper?]

section Build

variable {c : Config} {vendor : Vendor} (host : Host) (elapsed : Nat → Binary64)

theorem firstScrape_of_error {cause : CollectorError}
    (h : ((Registry.builtin vendor).build c.collectors c.collectorSettings).value
      = .error cause) : firstScrape c vendor host elapsed = .notBuilt cause := by
  simp only [firstScrape, Registry.register_empty_eq_builtin, h]

/-- Under a namespace, and with collectors that do not crash, a scrape takes place. -/
theorem exists_firstScrape_of_ok (hns : IsNamespace c.endpoint.ns) {collectors : List Collector}
    (h : ((Registry.builtin vendor).build c.collectors c.collectorSettings).value
      = .ok collectors) (hsurvives : ∀ k ∈ collectors, k.Survives host) :
    ∃ s : Scraper, s.IsUnder c.endpoint.ns ∧ s.collectors = collectors ∧
      firstScrape c vendor host elapsed = .scraped s
        ⟨.ok (samplesOf collectors host ++ (s.reports host elapsed 0 collectors).samples),
          eventsOf collectors host⟩ := by
  obtain ⟨s, hs⟩ : ∃ s, Scraper.ofCollectors? c.endpoint.ns collectors = .ok s :=
    Scraper.exists_ofCollectors?_iff.mpr hns
  have hunder := Scraper.isUnder_of_ofCollectors? hs
  obtain rfl := (Scraper.ofCollectors?_eq_ok_iff.mp hs).1
  refine ⟨s, hunder, rfl, ?_⟩
  simp only [firstScrape, Registry.register_empty_eq_builtin, h, hs,
    Scraper.scrape_eq_of_survives hunder elapsed hsurvives]

/-- What is seen of a scrape of the device collector alone is what ought to be seen of it. -/
theorem map_observed_of_gpu {ns : String} {s : Scraper} (hs : s.IsUnder ns) {g : Gpu}
    (hg : g.schema.IsUnder ns) :
    (samplesOf [g.toCollector] host ++
        (s.reports host elapsed 0 [g.toCollector]).samples).map Sample.observed
      = FirstScrape.expectedOf ns g.source host (elapsed 0) := by
  have hwell : g.toCollector.endsWell host
      = (g.source.query host 0).value.toOption.isSome := by
    rw [Bool.eq_iff_iff, Gpu.endsWell_toCollector_iff]
    cases (g.source.query host 0).value <;> simp [Except.toOption]
  have hupdate : (samplesOf [g.toCollector] host).map Sample.observed
      = expected ns (g.source.query host 0).value := by
    rw [samplesOf, List.flatMap_singleton]
    exact Gpu.map_observed_update hg host 0
  rw [List.map_append, hupdate, Scraper.map_observed_reports hs]
  simp only [List.zipIdx_singleton, List.flatMap_singleton, Scraper.expectedReports, hwell]
  rfl

end Build

/-- **A valid configuration comes to its first scrape** unless it lists an unknown name or the
vendor's library is wanted and unusable. -/
theorem comesOf_firstScrape {c : Config} (hvalid : c.IsValid) (vendor : Vendor) (host : Host)
    (elapsed : Nat → Binary64) :
    FirstScrape.ComesOf c vendor host elapsed (firstScrape c vendor host elapsed) := by
  cases hunknown : (Registry.builtin vendor).unknown? c.collectors with
  | some name =>
    rw [firstScrape_of_error host elapsed
      (Registry.build_of_unknown c.collectorSettings hunknown).1]
    exact .unknown ((Registry.unknown?_builtin c.collectors vendor).symm.trans hunknown)
  | none =>
    have hbuild := Registry.value_build_builtin hunknown c.collectorSettings
    rw [Registry.isEnabled_builtin hvalid.consistent] at hbuild
    have hknown : ∀ name ∈ c.collectors.enabled ++ c.collectors.disabled,
        name = Gpu.registeredName := by
      simpa only [Registry.names_builtin, List.mem_singleton] using
        Registry.unknown?_eq_none_iff.mp hunknown
    by_cases henabled : Gpu.registeredName ∈ c.collectors.enabled
    · rw [if_pos (decide_eq_true henabled)] at hbuild
      by_cases hunusable : c.gpu.backend = .nvml ∧ ∃ reason, vendor = .unusable reason
      · obtain ⟨hbackend, reason, hvendor⟩ := hunusable
        rw [Gpu.value_ofSettings?_of_unusable hbackend hvendor] at hbuild
        rw [firstScrape_of_error host elapsed hbuild]
        exact .unusable hknown henabled hbackend hvendor
      · obtain ⟨source, hsource⟩ := Gpu.exists_sourceOf? hunusable
        obtain ⟨g, hg, hunder, rfl⟩ :
            ∃ g, (Gpu.ofSettings? c.collectorSettings vendor).value = .ok g ∧
              g.schema.IsUnder c.endpoint.ns ∧ g.source = source :=
          Gpu.exists_ofSettings? hvalid.ns hsource
        rw [hg] at hbuild
        obtain ⟨s, hs, hcollectors, hscraped⟩ := exists_firstScrape_of_ok host elapsed
          hvalid.ns hbuild (List.forall_mem_singleton.mpr (g.survives_toCollector host))
        rw [hscraped]
        refine .watching hknown henabled hunusable hsource ?_ ?_
          (map_observed_of_gpu host elapsed hs hunder)
        · rw [Scraper.names, hcollectors]
          rfl
        · rw [hcollectors, List.forall_mem_singleton]
          exact fun _ => Gpu.exists_backend_of_failed
    · rw [if_neg (by simpa using henabled)] at hbuild
      obtain ⟨s, -, hcollectors, hscraped⟩ := exists_firstScrape_of_ok host elapsed hvalid.ns
        hbuild (by simp)
      rw [hscraped]
      refine .idle hknown henabled ?_
      rw [Scraper.names, hcollectors, List.map_nil]

/-- **What is checked is enough to start.** A text that is accepted as a configuration gives an
address that can be read and comes to its first scrape, whatever the command does in it, unless it
lists an unknown name or the vendor's library is wanted and unusable. The registry of the program is
always there, no metric is refused, and where there are collectors there is a scraper. -/
theorem firstScrape_of_ofText? {text : String} {c : Config} (h : Config.ofText? text = .ok c)
    (vendor : Vendor) (host : Host) (elapsed : Nat → Binary64) :
    let first := firstScrape c vendor host elapsed
    (∃ address, Net.SocketAddress.ofText? c.endpoint.listen = some address) ∧
      FirstScrape.ComesOf c vendor host elapsed first ∧
      (∀ cause, first ≠ .notRegistered cause ∧ first ≠ .noScraper cause) ∧
      (∀ cause, first ≠ .notBuilt (.metric cause)) ∧
      ∀ name, first ≠ .notBuilt (.duplicate name) := by
  obtain ⟨-, hvalid⟩ := Config.ofText?_eq_ok_iff.mp h
  intro first
  have hcomes : FirstScrape.ComesOf c vendor host elapsed first :=
    comesOf_firstScrape hvalid vendor host elapsed
  refine ⟨Option.isSome_iff_exists.mp hvalid.listen, hcomes, ?_⟩
  clear_value first
  cases hcomes with
  | unknown => simp
  | unusable => simp
  | idle => simp
  | watching => simp

/-- A text that enables the device collector and leaves the rest to the defaults. -/
def deviceText : String := "\x7b'collectors':\x7b'enabled':['gpu']\x7d\x7d"

theorem ofText?_deviceText :
    Config.ofText? deviceText = .ok { collectors := { enabled := ["gpu"] } } := by
  have htokens : Token.scan? deviceText.toList = some
      [.openBrace, .string ("collectors".toList.map .literal), .colon, .openBrace,
       .string ("enabled".toList.map .literal), .colon, .openBracket,
       .string ("gpu".toList.map .literal), .closeBracket, .closeBrace, .closeBrace] := by
    decide +kernel
  have hread : Config.read? deviceText = .ok { collectors := { enabled := ["gpu"] } } := by
    simp [Config.read?, Value.ofText?, htokens, Value.read?, Value.readMembers?,
      Value.readItems?, Token.key?, Left.widen]
    rfl
  exact Config.ofText?_eq_ok_iff.mpr
    ⟨hread, Config.problem?_eq_none_iff.mp (by decide +kernel)⟩

/-- A machine on which no command can be run. -/
def bareHost : Host := ⟨fun _ => .refused .notFound⟩

/-- A library with one device, of which it tells the fan speed and little else. -/
def fanLibrary : Library where
  driver := .error "Not Supported"
  deviceCount := .ok 1
  device _ := .ok
    { minorNumber := .ok 0
      uuid := .ok "GPU-1"
      name := .ok "T4"
      memory := .error "Not Supported"
      reading := fun r => if r = .fanSpeed then .ok 30 else .error "Not Supported" }
  shutdown := .ok ()

/-- The library is what that text asks for: without it nothing is built, and with it there is a
scrape. -/
theorem firstScrape_of_ofText?_deviceText :
    ∃ c, Config.ofText? deviceText = .ok c ∧
      firstScrape c (.unusable "absent") bareHost (fun _ => .zero)
        = .notBuilt (.backend (.initFailed "nvml"
            "absent. Make sure NVML is in the shared library search path")) ∧
      ∃ (s : Scraper) (samples : List Sample) (events : List Log.Event),
        s.names = ["gpu"] ∧
          firstScrape c (.ready fanLibrary) bareHost (fun _ => .zero)
            = .scraped s ⟨.ok samples, events⟩ := by
  refine ⟨_, ofText?_deviceText, ?_, ?_⟩
  · obtain ⟨-, hcomes, -⟩ :=
      firstScrape_of_ofText? ofText?_deviceText (.unusable "absent") bareHost fun _ => .zero
    generalize firstScrape _ _ _ _ = first at hcomes ⊢
    cases hcomes with
    | unknown hname => cases hname
    | unusable _ _ _ hvendor => cases hvendor; rfl
    | idle _ hdisabled => exact absurd (List.mem_singleton_self _) hdisabled
    | watching _ _ husable => exact absurd ⟨rfl, _, rfl⟩ husable
  · obtain ⟨-, hcomes, -⟩ :=
      firstScrape_of_ofText? ofText?_deviceText (.ready fanLibrary) bareHost fun _ => .zero
    generalize firstScrape _ _ _ _ = first at hcomes ⊢
    cases hcomes with
    | unknown hname => cases hname
    | unusable _ _ _ hvendor => cases hvendor
    | idle _ hdisabled => exact absurd (List.mem_singleton_self _) hdisabled
    | @watching s source samples events _ _ _ _ hnames => exact ⟨s, samples, events, hnames, rfl⟩

end Exporter

end GpuMetrics
