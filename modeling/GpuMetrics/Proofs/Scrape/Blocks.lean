import GpuMetrics.Collector.Fixed
import GpuMetrics.Proofs.Collector.Sampler
import GpuMetrics.Scrape

/-!
# A scrape is what its collectors emit, and the reports on them

A scrape goes through its collectors twice: once to update them, and once to report how long each
took and whether it succeeded. Here the two passes are put side by side. As long as no collector
crashes:

* the samples of the updates come first, collector by collector
  (`GpuMetrics.Collector.samplesOf`), those emitted before a failure among them;
* two reports on each collector follow, in the same order, and none of them can be refused
  (`GpuMetrics.Scraper.IsUnder`, `GpuMetrics.Scraper.map_observed_reports`).

A report is about the ending of one collector and nothing else, so replacing a collector by another
one of its name leaves everything as it was but that collector's samples, its events and whether it
succeeded. The main statement is `GpuMetrics.Scraper.scrape_of_survives`.
-/

namespace GpuMetrics

open Backend Collector Log GpuMetrics.Metric

/-! ### Emissions, one after the other -/

namespace Collector

@[simp] theorem Emission.concat_nil : Emission.concat [] = .none := rfl

@[simp] theorem Emission.concat_cons (e : Emission) (parts : List Emission) :
    Emission.concat (e :: parts) = e ++ Emission.concat parts := rfl

theorem Emission.append_event (a : Emission) (e : Event) :
    a ++ .event e = ⟨a.samples, a.events ++ [e]⟩ :=
  congrArg (Emission.mk · _) (List.append_nil a.samples)

/-! ### What a collector leaves in a scrape -/

/-- A collector that does not crash on the machine. -/
def Survives (c : Collector) (host : Host) : Prop :=
  ∀ message, (c.update host).ending ≠ .crashed message

/-- Whether the collector's update ends well. -/
def endsWell (c : Collector) (host : Host) : Bool := (c.update host).ending = .succeeded

/-- The event that tells how the collector's update ended. -/
def outcome (c : Collector) (host : Host) : Event :=
  match (c.update host).ending with
  | .failed cause => .collectorFailed c.name cause
  | _ => .collectorSucceeded c.name

/-- The samples that the collectors emit, in order. -/
def samplesOf (cs : List Collector) (host : Host) : List Sample :=
  cs.flatMap fun c => (c.update host).emission.samples

theorem samplesOf_append_cons (before after : List Collector) (c : Collector) (host : Host) :
    samplesOf (before ++ c :: after) host
      = samplesOf before host ++ (c.update host).emission.samples ++ samplesOf after host := by
  rw [samplesOf, List.flatMap_append, List.flatMap_cons, List.append_assoc]
  rfl

/-- The events of the collectors' updates, in order, each update followed by its outcome. -/
def eventsOf (cs : List Collector) (host : Host) : List Event :=
  cs.flatMap fun c => (c.update host).emission.events ++ [c.outcome host]

/-! ### The device collector in a scrape -/

theorem Gpu.survives_toCollector (g : Gpu) (host : Host) : g.toCollector.Survives host := by
  intro message h
  exact expectedEnding_ne_crashed _ message ((ending_update g host 0).symm.trans h)

theorem Gpu.endsWell_toCollector_iff {g : Gpu} {host : Host} :
    g.toCollector.endsWell host = true ↔ ∃ s, (g.source.query host 0).value = .ok s := by
  rw [endsWell, decide_eq_true_iff, ← expectedEnding_eq_succeeded_iff, ← ending_update]
  rfl

end Collector

namespace Scraper

/-- The name of a family of the scrape subsystem. -/
def nameUnder (ns metric : String) : String := qualifiedName ns subsystem metric

/-- The reports that ought to be seen on a collector whose update took `elapsed` seconds. -/
def expectedReports (ns : String) (host : Host) (c : Collector) (elapsed : Binary64) :
    List Observed :=
  [⟨nameUnder ns "collector_duration_seconds", [("collector", c.name)], elapsed⟩,
   ⟨nameUnder ns "collector_success", [("collector", c.name)],
     if c.endsWell host then .one else .zero⟩]

/-! ### The two passes, side by side -/

/-- The reports on some collectors, of which the first has the given index. -/
def reports (s : Scraper) (host : Host) (elapsed : Nat → Binary64) (index : Nat)
    (cs : List Collector) : Emission :=
  Emission.concat ((cs.zipIdx index).map fun p =>
    s.closing p.1.name (elapsed p.2) (p.1.endsWell host))

/-- **Both passes go through all collectors**, if none of them crashes. -/
theorem scrapeEach_of_survives (s : Scraper) {host : Host} (elapsed : Nat → Binary64) (index : Nat)
    {cs : List Collector} (h : ∀ c ∈ cs, c.Survives host) :
    s.scrapeEach host elapsed index cs
      = .ok (⟨samplesOf cs host, eventsOf cs host⟩, s.reports host elapsed index cs) := by
  induction cs generalizing index with
  | nil => rfl
  | cons c cs ih =>
    obtain ⟨hc, hcs⟩ := List.forall_mem_cons.mp h
    have hrest := ih (index + 1) hcs
    -- the event behind the update and the report on it are taken from one ending
    cases hending : (c.update host).ending with
    | succeeded =>
      have hwell : c.endsWell host = true := by simp [endsWell, hending]
      have houtcome : c.outcome host = .collectorSucceeded c.name := by simp [outcome, hending]
      simp only [scrapeEach, hending, hrest, reports, List.zipIdx_cons, List.map_cons,
        Emission.concat_cons, Emission.append_event, hwell, samplesOf, eventsOf,
        List.flatMap_cons, houtcome]
      rfl
    | failed cause =>
      have hwell : c.endsWell host = false := by simp [endsWell, hending]
      have houtcome : c.outcome host = .collectorFailed c.name cause := by simp [outcome, hending]
      simp only [scrapeEach, hending, hrest, reports, List.zipIdx_cons, List.map_cons,
        Emission.concat_cons, Emission.append_event, hwell, samplesOf, eventsOf,
        List.flatMap_cons, houtcome]
      rfl
    | crashed message => exact absurd hending (hc message)

/-! ### Reports are never refused -/

/-- A scraper whose families have the names and the label that they ought to have under a
namespace. -/
structure IsUnder (ns : String) (s : Scraper) : Prop where
  duration_name : s.duration.name = nameUnder ns "collector_duration_seconds"
  duration_labels : s.duration.labelNames = labels
  success_name : s.success.name = nameUnder ns "collector_success"
  success_labels : s.success.labelNames = labels

/-- A scraper is made of its collectors and the two families, both of which have to be accepted. -/
theorem ofCollectors?_eq_ok_iff {ns : String} {cs : List Collector} {s : Scraper} :
    ofCollectors? ns cs = .ok s ↔
      s.collectors = cs ∧
        Descriptor.ofParts? (nameUnder ns "collector_duration_seconds")
          "Duration of a collector scrape." labels = .ok s.duration ∧
        Descriptor.ofParts? (nameUnder ns "collector_success")
          "Whether a collector succeeded." labels = .ok s.success := by
  simp only [ofCollectors?, nameUnder]
  cases Descriptor.ofParts? (qualifiedName ns subsystem "collector_duration_seconds")
      "Duration of a collector scrape." labels with
  | error cause => simp
  | ok duration =>
    cases Descriptor.ofParts? (qualifiedName ns subsystem "collector_success")
        "Whether a collector succeeded." labels with
    | error cause => simp
    | ok success =>
      simp only [Except.ok.injEq]
      constructor
      · rintro rfl
        exact ⟨rfl, rfl, rfl⟩
      · rintro ⟨rfl, rfl, rfl⟩
        rfl

theorem isUnder_of_ofCollectors? {ns : String} {cs : List Collector} {s : Scraper}
    (h : ofCollectors? ns cs = .ok s) : s.IsUnder ns := by
  obtain ⟨-, hduration, hsuccess⟩ := ofCollectors?_eq_ok_iff.mp h
  obtain ⟨hname, -, -, hlabels⟩ := Descriptor.eq_of_ofParts? hduration
  obtain ⟨hname', -, -, hlabels'⟩ := Descriptor.eq_of_ofParts? hsuccess
  exact ⟨hname, hlabels, hname', hlabels'⟩

/-- Whether a scraper can be made hangs on the namespace alone, and so do its families. -/
theorem ofCollectors?_of_ok {ns : String} {cs : List Collector} {s : Scraper}
    (h : ofCollectors? ns cs = .ok s) (cs' : List Collector) :
    ofCollectors? ns cs' = .ok { s with collectors := cs' } :=
  ofCollectors?_eq_ok_iff.mpr ⟨rfl, (ofCollectors?_eq_ok_iff.mp h).2⟩

/-- **There is a scraper just under a namespace**, whatever it scrapes. -/
theorem exists_ofCollectors?_iff {ns : String} {cs : List Collector} :
    (∃ s, ofCollectors? ns cs = .ok s) ↔ IsNamespace ns := by
  constructor
  · rintro ⟨s, hs⟩
    have hduration : isMetricName (nameUnder ns "collector_duration_seconds") = true :=
      (isUnder_of_ofCollectors? hs).duration_name ▸ s.duration.name_valid
    exact (isMetricName_qualifiedName_iff (by decide) (by decide)).mp hduration
  · intro hns
    have made (name help : String) (hname : isMetricName name = true) :
        ∃ d, Descriptor.ofParts? (nameUnder ns name) help labels = .ok d :=
      Descriptor.exists_ofParts? ((isMetricName_qualifiedName_iff (by decide) hname).mpr hns)
        (by decide) help
    obtain ⟨duration, hduration⟩ := made "collector_duration_seconds"
      "Duration of a collector scrape." (by decide)
    obtain ⟨success, hsuccess⟩ := made "collector_success" "Whether a collector succeeded."
      (by decide)
    exact ⟨⟨cs, duration, success⟩, ofCollectors?_eq_ok_iff.mpr ⟨rfl, hduration, hsuccess⟩⟩

/-- The namespace that is used unless another is configured is accepted. -/
theorem exists_ofCollectors?_node (cs : List Collector) :
    ∃ s, ofCollectors? "node" cs = .ok s :=
  exists_ofCollectors?_iff.mpr (by decide)

/-- A report is a single sample, labelled with the collector that it is about. -/
theorem exists_report_eq {family : Descriptor} (h : family.labelNames = labels) (name : String)
    (value : Binary64) :
    ∃ sample : Sample, report family name value = ⟨[sample], []⟩ ∧
      sample.observed = ⟨family.name, [("collector", name)], value⟩ := by
  have harity : [name].length = family.labelNames.length := by
    rw [h]
    rfl
  refine ⟨⟨family, [name], value, harity⟩, ?_, ?_⟩
  · rw [report, Sample.ofParts?, dif_pos harity]
  · simp [Sample.observed, Sample.name, Sample.labels, h, labels]

section Under

variable {ns : String} {s : Scraper} (h : s.IsUnder ns)
include h

/-- Of the two reports on a collector only the second tells whether it succeeded. -/
theorem exists_closing_eq (name : String) (elapsed : Binary64) :
    ∃ took : Sample,
      took.observed
        = ⟨nameUnder ns "collector_duration_seconds", [("collector", name)], elapsed⟩ ∧
      ∀ ok : Bool, ∃ succeeded : Sample,
        s.closing name elapsed ok = ⟨[took, succeeded], []⟩ ∧
        succeeded.observed = ⟨nameUnder ns "collector_success", [("collector", name)],
          if ok then .one else .zero⟩ := by
  obtain ⟨took, htook, hseen⟩ := exists_report_eq h.duration_labels name elapsed
  refine ⟨took, h.duration_name ▸ hseen, fun ok => ?_⟩
  obtain ⟨succeeded, hsucceeded, hseen'⟩ :=
    exists_report_eq h.success_labels name (if ok then .one else .zero)
  refine ⟨succeeded, ?_, h.success_name ▸ hseen'⟩
  rw [closing, htook, hsucceeded]
  rfl

/-- **What is seen of the reports**: two for each collector, in order. -/
theorem map_observed_reports (host : Host) (elapsed : Nat → Binary64) (index : Nat)
    (cs : List Collector) :
    (s.reports host elapsed index cs).samples.map Sample.observed
      = (cs.zipIdx index).flatMap fun p => expectedReports ns host p.1 (elapsed p.2) := by
  rw [reports, Emission.concat, List.flatMap_map, List.map_flatMap]
  refine List.flatMap_congr fun p _ => ?_
  obtain ⟨took, htook, hclosing⟩ := exists_closing_eq h p.1.name (elapsed p.2)
  obtain ⟨succeeded, heq, hsucceeded⟩ := hclosing (p.1.endsWell host)
  rw [heq, List.map_cons, List.map_singleton, htook, hsucceeded, expectedReports]

/-- Reports leave nothing in the log. -/
theorem events_reports (host : Host) (elapsed : Nat → Binary64) (index : Nat)
    (cs : List Collector) : (s.reports host elapsed index cs).events = [] := by
  simp only [reports, Emission.concat, List.flatMap_map]
  refine List.flatMap_eq_nil_iff.mpr fun p _ => ?_
  obtain ⟨took, -, hclosing⟩ := exists_closing_eq h p.1.name (elapsed p.2)
  obtain ⟨succeeded, heq, -⟩ := hclosing (p.1.endsWell host)
  rw [heq]

theorem length_reports (host : Host) (elapsed : Nat → Binary64) (index : Nat)
    (cs : List Collector) :
    (s.reports host elapsed index cs).samples.length = 2 * cs.length := by
  have hlength := congrArg List.length (map_observed_reports h host elapsed index cs)
  rw [List.length_map] at hlength
  rw [hlength, List.length_flatMap]
  simp [expectedReports, Nat.mul_comm]

/-- **A scrape is what its collectors emit, and the reports on them.** -/
theorem scrape_eq_of_survives {host : Host} (elapsed : Nat → Binary64)
    (hsurvives : ∀ c ∈ s.collectors, c.Survives host) :
    s.scrape host elapsed =
      ⟨.ok (samplesOf s.collectors host ++ (s.reports host elapsed 0 s.collectors).samples),
        eventsOf s.collectors host⟩ := by
  rw [scrape, scrapeEach_of_survives s elapsed 0 hsurvives]
  simp only [Emission.samples_append, Emission.events_append, events_reports h, List.append_nil]

end Under

/-- The reports on one of several collectors stand between those on the others. -/
theorem samples_reports_append_cons (s : Scraper) (host : Host) (elapsed : Nat → Binary64)
    (before after : List Collector) (c : Collector) :
    (s.reports host elapsed 0 (before ++ c :: after)).samples
      = (s.reports host elapsed 0 before).samples ++
        ((s.closing c.name (elapsed before.length) (c.endsWell host)).samples ++
          (s.reports host elapsed (before.length + 1) after).samples) := by
  simp only [reports, Emission.concat, List.zipIdx_append, List.zipIdx_cons, List.map_append,
    List.map_cons, List.flatMap_append, List.flatMap_cons, Nat.zero_add]

/-- A scrape that gives samples came past every collector. -/
theorem survives_of_scrapeEach_eq_ok {s : Scraper} {host : Host} {elapsed : Nat → Binary64}
    {index : Nat} {cs : List Collector} {parts : Emission × Emission}
    (h : s.scrapeEach host elapsed index cs = .ok parts) : ∀ c ∈ cs, c.Survives host := by
  induction cs generalizing index parts with
  | nil => simp
  | cons c cs ih =>
    -- a crash further on would have ended the scrape, and so would one here
    cases hrest : s.scrapeEach host elapsed (index + 1) cs with
    | error failure =>
      cases hending : (c.update host).ending <;> simp [scrapeEach, hending, hrest] at h
    | ok parts' =>
      refine List.forall_mem_cons.mpr ⟨fun message hcrash => ?_, ih hrest⟩
      simp [scrapeEach, hcrash] at h

/-- **A scrape gives samples just if every collector survives it.** -/
theorem exists_result_eq_ok_iff {s : Scraper} {host : Host} {elapsed : Nat → Binary64} :
    (∃ samples, (s.scrape host elapsed).result = .ok samples) ↔
      ∀ c ∈ s.collectors, c.Survives host := by
  constructor
  · rintro ⟨samples, hsamples⟩
    rw [scrape] at hsamples
    cases hparts : s.scrapeEach host elapsed 0 s.collectors with
    | error failure => simp [hparts] at hsamples
    | ok parts => exact survives_of_scrapeEach_eq_ok hparts
  · intro hsurvives
    rw [scrape, scrapeEach_of_survives s elapsed 0 hsurvives]
    exact ⟨_, rfl⟩

/-- Where a scrape gives samples, those of one collector stand between those of the collectors
before and behind it, and the reports on it between the reports on them. -/
theorem exists_of_scrape_eq_ok {ns : String} {s : Scraper} (h : s.IsUnder ns) {host : Host}
    {elapsed : Nat → Binary64} {samples : List Sample} {events : List Event}
    (hscrape : s.scrape host elapsed = ⟨.ok samples, events⟩) {i : Nat} {c : Collector}
    (hc : s.collectors[i]? = some c) :
    ∃ (first last : List Sample) (took succeeded : Sample),
      samples = samplesOf (s.collectors.take i) host ++ (c.update host).emission.samples ++
        samplesOf (s.collectors.drop (i + 1)) host ++ (first ++ took :: succeeded :: last) ∧
      first.length = 2 * i ∧
      took.observed
        = ⟨nameUnder ns "collector_duration_seconds", [("collector", c.name)], elapsed i⟩ ∧
      succeeded.observed = ⟨nameUnder ns "collector_success", [("collector", c.name)],
        if c.endsWell host then .one else .zero⟩ := by
  have hsurvives : ∀ c ∈ s.collectors, c.Survives host :=
    exists_result_eq_ok_iff.mp ⟨samples, congrArg Scrape.result hscrape⟩
  rw [scrape_eq_of_survives h elapsed hsurvives, Scrape.mk.injEq, Except.ok.injEq] at hscrape
  obtain ⟨hi, rfl⟩ := List.getElem?_eq_some_iff.mp hc
  have hsplit : s.collectors
      = s.collectors.take i ++ s.collectors[i] :: s.collectors.drop (i + 1) := by
    rw [← List.drop_eq_getElem_cons hi, List.take_append_drop]
  have hlength : (s.collectors.take i).length = i := List.length_take_of_le (Nat.le_of_lt hi)
  -- both parts of the samples are cut at the collector
  have hown := congrArg (samplesOf · host) hsplit
  have hreports := congrArg (fun cs => (s.reports host elapsed 0 cs).samples) hsplit
  simp only [samplesOf_append_cons] at hown
  simp only [samples_reports_append_cons, hlength] at hreports
  obtain ⟨took, htook, hclosing⟩ := exists_closing_eq h s.collectors[i].name (elapsed i)
  obtain ⟨succeeded, hsucceeded, hseen⟩ := hclosing (s.collectors[i].endsWell host)
  refine ⟨(s.reports host elapsed 0 (s.collectors.take i)).samples,
    (s.reports host elapsed (i + 1) (s.collectors.drop (i + 1))).samples, took, succeeded, ?_,
    (length_reports h host elapsed 0 _).trans (by rw [hlength]), htook, hseen⟩
  rw [← hscrape.1, hreports, hsucceeded, hown]
  rfl

/-- **What a scrape gives**, for collectors of any number, any names and any behaviour but
crashing. There are the samples of all updates, collector by collector and whatever became of each,
then for each collector, in the same order, how long it took and whether it succeeded; and in the
log every update is followed by its outcome. Another collector of the same name in the place of one
of them changes the samples and events of that collector, and the report on its success. -/
theorem scrape_of_survives {ns : String} {collectors : List Collector} {s : Scraper}
    (hs : ofCollectors? ns collectors = .ok s) {host : Host} (elapsed : Nat → Binary64)
    (h : ∀ c ∈ collectors, c.Survives host) :
    (∃ closing : List Sample,
      s.scrape host elapsed
        = ⟨.ok (samplesOf collectors host ++ closing), eventsOf collectors host⟩ ∧
      closing.length = 2 * collectors.length ∧
      closing.map Sample.observed
        = collectors.zipIdx.flatMap fun p => expectedReports ns host p.1 (elapsed p.2)) ∧
    ∀ (before after : List Collector) (c c' : Collector) (s' : Scraper),
      collectors = before ++ c :: after → c'.name = c.name → c'.Survives host →
      ofCollectors? ns (before ++ c' :: after) = .ok s' →
      ∃ (first last : List Sample) (took succeeded succeeded' : Sample),
        first.length = 2 * before.length ∧
        s.scrape host elapsed =
          ⟨.ok (samplesOf (before ++ c :: after) host ++
              (first ++ took :: succeeded :: last)), eventsOf (before ++ c :: after) host⟩ ∧
        s'.scrape host elapsed =
          ⟨.ok (samplesOf (before ++ c' :: after) host ++
              (first ++ took :: succeeded' :: last)), eventsOf (before ++ c' :: after) host⟩ := by
  have hunder := isUnder_of_ofCollectors? hs
  have hcollectors := (ofCollectors?_eq_ok_iff.mp hs).1
  have hscrape : s.scrape host elapsed =
      ⟨.ok (samplesOf collectors host ++ (s.reports host elapsed 0 collectors).samples),
        eventsOf collectors host⟩ := by
    subst hcollectors
    exact scrape_eq_of_survives hunder elapsed h
  refine ⟨⟨_, hscrape, length_reports hunder host elapsed 0 collectors,
    map_observed_reports hunder host elapsed 0 collectors⟩, ?_⟩
  rintro before after c c' s' rfl hname hc' hs'
  -- the other scraper has the same families, and so the same reports where the endings agree
  obtain rfl : { s with collectors := before ++ c' :: after } = s' :=
    Except.ok.inj ((ofCollectors?_of_ok hs _).symm.trans hs')
  have h' : ∀ d ∈ before ++ c' :: after, d.Survives host := by
    intro d hd
    rcases List.mem_append.mp hd with hd | hd
    · exact h d (List.mem_append_left _ hd)
    · rcases List.mem_cons.mp hd with rfl | hd
      · exact hc'
      · exact h d (List.mem_append_right _ (List.mem_cons_of_mem _ hd))
  have hscrape' : ({ s with collectors := before ++ c' :: after } : Scraper).scrape host elapsed =
      ⟨.ok (samplesOf (before ++ c' :: after) host ++
          (s.reports host elapsed 0 (before ++ c' :: after)).samples),
        eventsOf (before ++ c' :: after) host⟩ :=
    scrape_eq_of_survives (isUnder_of_ofCollectors? hs') elapsed h'
  obtain ⟨took, -, hclosing⟩ := exists_closing_eq hunder c.name (elapsed before.length)
  obtain ⟨succeeded, hsucceeded, -⟩ := hclosing (c.endsWell host)
  obtain ⟨succeeded', hsucceeded', -⟩ := hclosing (c'.endsWell host)
  refine ⟨(s.reports host elapsed 0 before).samples,
    (s.reports host elapsed (before.length + 1) after).samples, took, succeeded, succeeded',
    length_reports hunder host elapsed 0 before, ?_, ?_⟩
  · rw [hscrape, samples_reports_append_cons, hsucceeded]
    rfl
  · rw [hscrape', samples_reports_append_cons, hname, hsucceeded']
    rfl

/-- A collector that fails after it has emitted a sample. -/
def halfway : Fixed where
  name := "half"
  parts := [⟨"half_value", "A half", [], [], .one⟩]
  ending := .failed (.unknown "rest")

/-- What it emitted stays, and the collector behind it is not affected. -/
theorem scrape_of_survives_halfway :
    ∃ s, ofCollectors? "node" [halfway.toCollector, (Fixed.constant "b").toCollector] = .ok s ∧
      ∃ samples,
        (s.scrape ⟨fun _ => .refused .notFound⟩ fun _ => .zero).result = .ok samples ∧
        samples.map Sample.observed =
          [⟨"half_value", [], .one⟩, ⟨"static_b_value", [], .one⟩,
           ⟨"node_scrape_collector_duration_seconds", [("collector", "half")], .zero⟩,
           ⟨"node_scrape_collector_success", [("collector", "half")], .zero⟩,
           ⟨"node_scrape_collector_duration_seconds", [("collector", "b")], .zero⟩,
           ⟨"node_scrape_collector_success", [("collector", "b")], .one⟩] := by
  obtain ⟨s, hs⟩ := exists_ofCollectors?_node
    [halfway.toCollector, (Fixed.constant "b").toCollector]
  have hsurvives : ∀ c ∈ [halfway.toCollector, (Fixed.constant "b").toCollector],
      c.Survives ⟨fun _ => .refused .notFound⟩ := by
    simp only [List.forall_mem_cons]
    exact ⟨fun _ => Ending.noConfusion, fun _ => Ending.noConfusion, by simp⟩
  obtain ⟨⟨closing, hscrape, -, hclosing⟩, -⟩ :=
    scrape_of_survives hs (fun _ => .zero) hsurvives
  refine ⟨s, hs, _, congrArg Scrape.result hscrape, ?_⟩
  rw [List.map_append, hclosing]
  decide +kernel

end Scraper

end GpuMetrics
