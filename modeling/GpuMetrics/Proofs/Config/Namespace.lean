import GpuMetrics.Proofs.Config.Verdict
import GpuMetrics.Proofs.Scrape.Blocks
import Mathlib.Data.List.Nodup

/-!
# One namespace, three checks

A namespace is met three times on the way to a scrape. The configuration looks at the namespace
itself; the schema of the device metrics and the scraper look at the names that they build under it,
seven and two of them. The three agree on every text
(`GpuMetrics.Exporter.checkedAlike`), although only the first of them asks about the text alone:

* of the nine names either all are metric names or none is
  (`GpuMetrics.Exporter.isMetricName_iff_of_mem_namesUnder`), so a text that is no namespace is
  found out at the first name, and that name is reported;
* the nine names are distinct under whatever text
  (`GpuMetrics.Exporter.nodup_namesUnder`), valid or not.
-/

namespace GpuMetrics

open Collector GpuMetrics.Metric

/-! ### The check of the configuration -/

namespace Config

/-- The checks before that of the namespace find nothing wrong. -/
structure ReachesNamespace (c : Config) : Prop where
  listen : (Net.SocketAddress.ofText? c.endpoint.listen).isSome = true
  path_absolute : c.endpoint.path.toList.head? = some '/'
  path_free : c.endpoint.path ∉ reservedPaths

/-- One check among others, where a later one reports something else. -/
theorem ite_some_eq_some_iff {α : Type} {p : Prop} [Decidable p] {a b : α} {rest : Option α}
    (hne : a ≠ b) : (if p then some a else rest) = some b ↔ ¬p ∧ rest = some b := by
  by_cases h : p <;> simp [h, hne]

/-- **A configuration is refused for its namespace** just if that is none and nothing is wrong
before it. -/
theorem validate_eq_badNamespace_iff {c : Config} {ns : String} :
    c.validate = .error (.badNamespace ns) ↔
      c.ReachesNamespace ∧ c.endpoint.ns = ns ∧ ¬IsNamespace ns := by
  have hproblem : c.validate = .error (.badNamespace ns) ↔
      c.problem? = some (.badNamespace ns) := by
    rw [validate]
    cases c.problem? <;> simp
  simp only [hproblem, problem?, ite_some_eq_some_iff, reduceCtorEq, ne_eq, not_false_eq_true,
    not_not]
  constructor
  · rintro ⟨hlisten, hpath, hfree, h⟩
    by_cases hnone : ¬c.endpoint.ns = "" ∧ ¬isMetricName c.endpoint.ns = true
    · obtain rfl : c.endpoint.ns = ns := by simpa [hnone] using h
      refine ⟨⟨?_, hpath, by simpa using hfree⟩, rfl, not_or.mpr hnone⟩
      simpa [Option.isSome_iff_ne_none] using hlisten
    · -- the checks behind it report something else
      simp only [if_neg hnone, ite_some_eq_some_iff, reduceCtorEq, ne_eq, not_false_eq_true,
        and_false] at h
  · rintro ⟨⟨hlisten, hpath, hfree⟩, rfl, hnone⟩
    refine ⟨?_, hpath, by simpa using hfree, if_pos (not_or.mp hnone)⟩
    simpa [Option.isSome_iff_ne_none] using hlisten

end Config

/-! ### The checks of the schema and of the scraper -/

/-- What is no namespace is reported by the schema with the first name under it. -/
theorem Collector.Schema.ofNamespace?_of_not_isNamespace {ns : String} (h : ¬IsNamespace ns) :
    Schema.ofNamespace? ns = .error (.badName (Schema.nameUnder ns "num_devices")) := by
  have hname : ¬isMetricName (Schema.nameUnder ns "num_devices") = true :=
    (isMetricName_qualifiedName_iff (by decide) (by decide)).not.mpr h
  have hfamily : Schema.family? ns "num_devices" "Number of GPU devices" []
      = .error (.badName (Schema.nameUnder ns "num_devices")) :=
    Descriptor.ofParts?_of_not_isMetricName hname _ _
  rw [Schema.ofNamespace?, hfamily]
  rfl

/-- What is no namespace is reported by the scraper with the first name under it. -/
theorem Scraper.ofCollectors?_of_not_isNamespace {ns : String} (h : ¬IsNamespace ns)
    (cs : List Collector) :
    Scraper.ofCollectors? ns cs
      = .error (.metric (.badName (nameUnder ns "collector_duration_seconds"))) := by
  have hname : ¬isMetricName (nameUnder ns "collector_duration_seconds") = true :=
    (isMetricName_qualifiedName_iff (by decide) (by decide)).not.mpr h
  have hfamily := Descriptor.ofParts?_of_not_isMetricName hname
    "Duration of a collector scrape." labels
  rw [nameUnder] at hfamily
  simp only [ofCollectors?, hfamily, nameUnder]

namespace Exporter

/-! ### The names under a namespace -/

/-- The names that the program builds, each as its subsystem and its last component. -/
def nameParts : List (String × String) :=
  ("num_devices" :: Quantity.all.map Quantity.metric).map (deviceSubsystem, ·) ++
    ["collector_duration_seconds", "collector_success"].map (Scraper.subsystem, ·)

/-- The names that the program builds under a namespace. -/
def namesUnder (ns : String) : List String := nameParts.map fun p => qualifiedName ns p.1 p.2

/-- **Of the names under a text all are metric names or none is.** -/
theorem isMetricName_iff_of_mem_namesUnder {ns name : String} (h : name ∈ namesUnder ns) :
    isMetricName name = true ↔ IsNamespace ns := by
  have hparts : ∀ p ∈ nameParts, isMetricName p.1 = true ∧ isMetricName p.2 = true := by decide
  obtain ⟨p, hp, rfl⟩ := List.mem_map.mp h
  exact isMetricName_qualifiedName_iff (hparts p hp).1 (hparts p hp).2

/-- **No two of the names under a text are alike**, whether they are metric names or not. -/
theorem nodup_namesUnder (ns : String) : (namesUnder ns).Nodup := by
  have hne : ∀ p ∈ nameParts, p.1 ≠ "" ∧ p.2 ≠ "" := by decide
  have hhead : ∀ p ∈ nameParts, ∀ q ∈ nameParts,
      p.1 ≠ q.1 → p.1.toList.head? ≠ q.1.toList.head? := by decide
  have hnodup : nameParts.Nodup := by decide
  rw [namesUnder, List.nodup_map_iff_inj_on hnodup]
  intro p hp q hq heq
  by_cases hsub : p.1 = q.1
  · -- in one subsystem the last component makes the difference
    rw [hsub, qualifiedName_inj (hne p hp).2 (hne q hq).2] at heq
    exact Prod.ext hsub heq
  · exact absurd heq (qualifiedName_ne_of_subsystem (hne p hp).2 (hne q hq).2 (hne p hp).1
      (hne q hq).1 (hhead p hp q hq hsub))

/-- The names of the families of a schema and of a scraper. -/
def familyNames (schema : Schema) (s : Scraper) : List String :=
  schema.all.map (·.name) ++ [s.duration.name, s.success.name]

/-- The families have the names that they ought to have. -/
theorem familyNames_eq {ns : String} {schema : Schema} {s : Scraper} (hschema : schema.IsUnder ns)
    (hs : s.IsUnder ns) : familyNames schema s = namesUnder ns := by
  have hquantities : (Quantity.all.map schema.family).map (·.name)
      = Quantity.all.map fun q => Schema.nameUnder ns q.metric := by
    rw [List.map_map]
    exact List.map_congr_left fun q _ => (hschema.family q).1
  have hall : schema.all = schema.deviceCount :: Quantity.all.map schema.family := rfl
  rw [familyNames, hall, List.map_cons, hquantities, hschema.count_name, hs.duration_name,
    hs.success_name]
  rfl

/-! ### The three checks agree -/

/-- What becomes of a text as a namespace. -/
structure CheckedAlike (ns : String) : Prop where
  /-- A configuration that has it, and nothing wrong before it, is refused for it just if it is no
  namespace. -/
  config_iff (c : Config) (hns : c.endpoint.ns = ns) (hreaches : c.ReachesNamespace) :
    c.validate = .error (.badNamespace ns) ↔ ¬IsNamespace ns
  /-- There is a schema just under a namespace. -/
  schema_iff : (∃ schema, Schema.ofNamespace? ns = .ok schema) ↔ IsNamespace ns
  /-- There is a scraper of any collectors just under a namespace. -/
  scraper_iff (cs : List Collector) :
    (∃ s, Scraper.ofCollectors? ns cs = .ok s) ↔ IsNamespace ns
  /-- Otherwise each of the two reports the first name that it builds. -/
  schema_error : ¬IsNamespace ns →
    Schema.ofNamespace? ns = .error (.badName (ns ++ "_gpu_num_devices"))
  scraper_error (cs : List Collector) : ¬IsNamespace ns →
    Scraper.ofCollectors? ns cs
      = .error (.metric (.badName (ns ++ "_scrape_collector_duration_seconds")))
  /-- Where both are there, their nine names are valid and distinct. -/
  names (cs : List Collector) : IsNamespace ns →
    ∃ schema s, Schema.ofNamespace? ns = .ok schema ∧ Scraper.ofCollectors? ns cs = .ok s ∧
      familyNames schema s = namesUnder ns ∧ (familyNames schema s).length = 9 ∧
      (∀ name ∈ familyNames schema s, isMetricName name = true) ∧ (familyNames schema s).Nodup

/-- **The three checks of a namespace agree**, on every text. Where they refuse it, the names that
are reported are the first ones built; where they accept it, nine valid names come of it, and no two
of them are alike. -/
theorem checkedAlike (ns : String) : CheckedAlike ns where
  config_iff c hns hreaches := by
    rw [Config.validate_eq_badNamespace_iff]
    exact ⟨fun h => h.2.2, fun h => ⟨hreaches, hns, h⟩⟩
  schema_iff := Schema.exists_ofNamespace?_iff
  scraper_iff cs := Scraper.exists_ofCollectors?_iff
  schema_error h := by
    have hempty : ns ≠ "" := fun hempty => h (.inl hempty)
    rw [Schema.ofNamespace?_of_not_isNamespace h, Schema.nameUnder,
      qualifiedName_of_ne_empty hempty (by decide) (by decide)]
    rfl
  scraper_error cs h := by
    have hempty : ns ≠ "" := fun hempty => h (.inl hempty)
    rw [Scraper.ofCollectors?_of_not_isNamespace h, Scraper.nameUnder,
      qualifiedName_of_ne_empty hempty (by decide) (by decide)]
    rfl
  names cs h := by
    obtain ⟨schema, hschema⟩ := Schema.exists_ofNamespace?_iff.mpr h
    obtain ⟨s, hs⟩ : ∃ s, Scraper.ofCollectors? ns cs = .ok s :=
      Scraper.exists_ofCollectors?_iff.mpr h
    have hnames : familyNames schema s = namesUnder ns :=
      familyNames_eq (Schema.isUnder_of_ofNamespace? hschema) (Scraper.isUnder_of_ofCollectors? hs)
    refine ⟨schema, s, hschema, hs, hnames, ?_⟩
    rw [hnames]
    exact ⟨rfl, fun name hname => (isMetricName_iff_of_mem_namesUnder hname).mpr h,
      nodup_namesUnder ns⟩

end Exporter

end GpuMetrics
