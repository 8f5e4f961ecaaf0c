import GpuMetrics.Proofs.Scrape.History

/-!
# Device collectors in a run

If no member of a roster is changed by being asked, a run has no other history than its shutdowns
and the machine installed last (`GpuMetrics.Proofs.Scrape.History`). What a shutdown does to a
device collector is up to its source, and is said here for any source there may be:

* it is asked again in the state that its release left it in, whether or not the release failed,
  and one that was left as it was goes on as before;
* one that is down shows that there are no devices and that its collector failed, beside how long
  that took, at least until the next shutdown, and for good if releasing a source that is down does
  not put it up;
* the vendor's library is let go of before it is shut down, so it is down after the first shutdown,
  even one that failed;
* a command has nothing to release.

All this is one statement, `GpuMetrics.Roster.HistoryIndependent`. Its conditions are needed: a
source whose release failed need not go on as before
(`GpuMetrics.Roster.not_isLaw_keepsAnswering`), and one that is down need not stay so
(`GpuMetrics.Roster.not_isLaw_keepsFailing`).
-/

namespace GpuMetrics

open Backend Collector Log GpuMetrics.Metric

namespace Roster

/-! ### Members in a run -/

/-- A member in the same place after some more steps. -/
theorem getElem?_members_after {σ : Roster} (h : σ.Steady) {i : Nat} {m : Member}
    (hm : σ.members[i]? = some m) (steps : List Step) :
    (σ.after steps).members[i]? = some (m.releasedTimes (shutdowns steps)) := by
  rw [members_after h, List.getElem?_map, hm]
  rfl

/-- A member in the same place after a shutdown and some more steps. -/
theorem getElem?_members_released {σ : Roster} (h : σ.Steady) {steps : List Step} {i : Nat}
    {m : Member} (hm : (σ.after steps).members[i]? = some m) (later : List Step) :
    (σ.after (steps ++ .shutdown :: later)).members[i]?
      = some (m.released.releasedTimes (shutdowns later)) := by
  rw [after_append, getElem?_members_after (steady_after h steps) hm, shutdowns,
    Member.releasedTimes_released]

theorem getElem?_collectors_scraper {σ : Roster} {i : Nat} {m : Member}
    (hm : σ.members[i]? = some m) : σ.scraper.collectors[i]? = some m.collector := by
  rw [scraper, List.getElem?_map, hm]
  rfl

/-- An update over a source that cannot be asked fails for the same reason, and tells that there
are no devices. -/
theorem update_gpu_of_error {ns : String} {schema : Schema} (hschema : schema.IsUnder ns)
    {source : Source} {state : source.State} {host : Host} {cause : BackendError}
    (h : (source.ask host state).1.value = .error cause) :
    let update := (Member.gpu schema source state).collector.update host
    update.ending = .failed (.backend cause) ∧
      update.emission.samples.map Sample.observed = [expectedCount ns 0] := by
  rw [Member.collector_gpu]
  have hquery : ((source.toBackend state).query host 0).value = .error cause := h
  have hending := Gpu.ending_update ⟨schema, source.toBackend state⟩ host 0
  have hseen := Gpu.map_observed_update (g := ⟨schema, source.toBackend state⟩) hschema host 0
  rw [hquery] at hending hseen
  exact ⟨hending, hseen⟩

/-! ### What there is to know -/

/-- What there is to know about the runs of a roster whose own families are under a namespace. -/
structure HistoryIndependent (ns : String) (σ : Roster) : Prop where
  /-- A scrape, at whatever point of a run, answers what the scraper answers and leaves everything
  as it was, whether it gives samples or a crash. -/
  scrape_leaves (steps : List Step) (elapsed : Nat → Binary64) :
    let τ := σ.after steps
    τ.step (.scrape elapsed) = (.scraped (τ.scraper.scrape τ.host elapsed), τ)
  /-- So scrapes can be deleted from a run without changing any other answer. -/
  scrapes_deletable (steps : List Step) (kept : Transcript) :
    Thins kept (σ.transcript steps) →
      σ.transcript (kept.map Prod.fst) = kept ∧ σ.after (kept.map Prod.fst) = σ.after steps
  /-- A shutdown releases every member, in order, and says so of each, whatever came of releasing
  those before it. -/
  shutdown_releases (steps : List Step) :
    let τ := σ.after steps
    τ.step .shutdown =
      (.shutDown (τ.members.flatMap fun m =>
          (m.kind.release m.state).1 ++ [.collectorShutDown m.kind.name]),
        { τ with members := τ.members.map Member.released })
  /-- At the end of a run every member was released once for each shutdown, and the machine is the
  one that was installed last. -/
  once_per_shutdown (steps : List Step) :
    (σ.after steps).members = σ.members.map (Member.releasedTimes (shutdowns steps)) ∧
      (σ.after steps).host = lastHost σ.host steps
  /-- All this shows in the answers of the scraper that knows no states. -/
  answers_of_scraper (steps : List Step) :
    σ.transcript steps = (run Scraper.Installed.step ⟨σ.scraper, σ.host⟩ steps).1
  /-- After a shutdown, failed or not, a device collector asks its source in the state that the
  releases left it in; if the first left it as it was, the collector is the same ever after. -/
  asked_on (steps : List Step) (i : Nat) (schema : Schema) (source : Source)
      (state : source.State) (later : List Step) :
    (σ.after steps).members[i]? = some (.gpu schema source state) →
      let ρ := σ.after (steps ++ .shutdown :: later)
      ρ.members[i]? = some
        (.gpu schema source (source.afterReleases (shutdowns later) (source.release state).2)) ∧
      ((source.release state).2 = state → ρ.members[i]? = some (.gpu schema source state))
  /-- A device collector whose source is down since it was released shows in every later scrape
  that there are no devices, and the scrape adds how long that took and that it failed: at least
  until the next shutdown, and for good if releasing a source that is down does not put it up. -/
  down_since_release (steps : List Step) (i : Nat) (ns' : String) (schema : Schema)
      (source : Source) (state : source.State) (later : List Step) :
    Schema.ofNamespace? ns' = .ok schema →
      (σ.after steps).members[i]? = some (.gpu schema source state) →
      source.Down (source.release state).2 →
      (shutdowns later = 0 ∨ ∀ st, source.Down st → source.Down (source.release st).2) →
      ∀ elapsed samples events,
        let ρ := σ.after (steps ++ .shutdown :: later)
        ρ.scraper.scrape ρ.host elapsed = ⟨.ok samples, events⟩ →
        ∃ (own first last : List Sample) (took succeeded : Sample),
          samples = samplesOf (ρ.scraper.collectors.take i) ρ.host ++ own ++
            samplesOf (ρ.scraper.collectors.drop (i + 1)) ρ.host ++
              (first ++ took :: succeeded :: last) ∧
          first.length = 2 * i ∧
          own.map Sample.observed = [expectedCount ns' 0] ∧
          took.observed = ⟨Scraper.nameUnder ns "collector_duration_seconds",
            [("collector", "gpu")], elapsed i⟩ ∧
          succeeded.observed = ⟨Scraper.nameUnder ns "collector_success",
            [("collector", "gpu")], .zero⟩
  /-- A device collector over the vendor's library is without it after a shutdown, whether or not
  the library could be shut down: every later update fails, and tells that there are no devices. -/
  library_let_go (steps : List Step) (i : Nat) (ns' : String) (schema : Schema)
      (library : Library) (held : Bool) (later : List Step) :
    Schema.ofNamespace? ns' = .ok schema →
      (σ.after steps).members[i]? = some (.gpu schema (Source.library library) held) →
      let ρ := σ.after (steps ++ .shutdown :: later)
      let released := Member.gpu schema (Source.library library) false
      ρ.members[i]? = some released ∧
        ∀ host,
          (released.collector.update host).ending = .failed (.backend (.released "nvml")) ∧
          (released.collector.update host).emission.samples.map Sample.observed
            = [expectedCount ns' 0]
  /-- A device collector that runs a command is the same all through a run, and what it shows hangs
  on what the machine makes of that command. -/
  command_kept (i : Nat) (schema : Schema) (command : String) :
    σ.members[i]? = some (.smi schema command) →
      ∀ steps, (σ.after steps).members[i]? = some (.smi schema command) ∧
        ∀ host host' : Host, host.launch command = host'.launch command →
          (Member.smi schema command).collector.update host
            = (Member.smi schema command).collector.update host'
  /-- Where all collectors run commands, two runs with whatever scrapes, shutdowns and replacements
  end before the same scrape if the commands that are installed in the end behave the same. -/
  commands_alone (specs : List (Schema × String)) :
    σ.members = specs.map (fun spec => .smi spec.1 spec.2) →
      ∀ steps steps' elapsed,
        (∀ spec ∈ specs,
          (lastHost σ.host steps).launch spec.2 = (lastHost σ.host steps').launch spec.2) →
        ((σ.after steps).step (.scrape elapsed)).1 = ((σ.after steps').step (.scrape elapsed)).1

/-- **A run has no other history than its shutdowns and the machine installed last**, whatever
collectors there are, as long as none of them is changed by being asked: device collectors over such
sources (`GpuMetrics.Collector.Kind.steady_gpu`), and any others, be it that they fail or crash. -/
theorem historyIndependent {ns : String} {σ : Roster} (h : σ.Steady)
    (hs : Scraper.ofCollectors? ns (σ.members.map Member.collector) = .ok σ.scraper) :
    σ.HistoryIndependent ns where
  scrape_leaves steps elapsed := step_scrape (steady_after h steps) elapsed
  scrapes_deletable steps kept hkept := by
    have hrun : run step σ (kept.map Prod.fst) = (kept, σ.after steps) :=
      run_of_thins (fun _ x hσ => steady_step hσ x)
        (fun _ elapsed hσ => congrArg Prod.snd (step_scrape hσ elapsed)) h hkept
    rw [transcript, after, hrun]
    exact ⟨rfl, rfl⟩
  shutdown_releases steps := by
    intro τ
    rw [step, Scraper.shutdown_events, scraper, List.flatMap_map]
    rfl
  once_per_shutdown steps := ⟨members_after h steps, host_after σ steps⟩
  answers_of_scraper := transcript_eq h
  asked_on steps i schema source state later hm := by
    intro ρ
    have hρ := getElem?_members_released h hm later
    refine ⟨?_, fun hleft => ?_⟩
    · rwa [Member.released_gpu, Member.releasedTimes_gpu] at hρ
    · have hfixed : (Member.gpu schema source state).released = .gpu schema source state :=
        congrArg (Member.gpu schema source) hleft
      rwa [hfixed, Member.releasedTimes_of_released hfixed] at hρ
  down_since_release steps i ns' schema source state later hschema hm hdown hkept := by
    intro elapsed samples events ρ hscrape
    have hρ := getElem?_members_released h hm later
    rw [Member.released_gpu, Member.releasedTimes_gpu] at hρ
    -- it is down still, for want of a shutdown or because none puts it up
    have hstill :
        source.Down (source.afterReleases (shutdowns later) (source.release state).2) := by
      rcases hkept with hnone | hkept
      · rwa [hnone]
      · exact hdown.afterReleases hkept (shutdowns later)
    obtain ⟨cause, hcause⟩ := hstill ρ.host
    obtain ⟨hending, hown⟩ :=
      update_gpu_of_error (Schema.isUnder_of_ofNamespace? hschema) hcause
    have hunder : ρ.scraper.IsUnder ns :=
      isUnder_after (Scraper.isUnder_of_ofCollectors? hs) (steps ++ .shutdown :: later)
    obtain ⟨first, last, took, succeeded, hsamples, hfirst, htook, hsucceeded⟩ :=
      Scraper.exists_of_scrape_eq_ok hunder hscrape (getElem?_collectors_scraper hρ)
    rw [endsWell, hending] at hsucceeded
    exact ⟨_, first, last, took, succeeded, hsamples, hfirst, hown, htook, hsucceeded⟩
  library_let_go steps i ns' schema library held later hschema hm := by
    intro ρ released
    have hρ := getElem?_members_released h hm later
    have hleft : (Member.gpu schema (Source.library library) held).released = released := rfl
    have hfixed : released.released = released := rfl
    rw [hleft, Member.releasedTimes_of_released hfixed] at hρ
    exact ⟨hρ, fun host => update_gpu_of_error (Schema.isUnder_of_ofNamespace? hschema)
      (Source.ask_library library host)⟩
  command_kept i schema command hm steps := by
    refine ⟨?_, fun host host' => Member.update_smi_congr schema⟩
    rw [getElem?_members_after h hm, Member.releasedTimes_smi]
  commands_alone specs hmembers steps steps' elapsed hlaunch := by
    -- no shutdown has changed a member, so only the machines of the two runs can differ
    have hafter (steps : List Step) : (σ.after steps).members = σ.members := by
      rw [members_after h, hmembers, List.map_map]
      exact List.map_congr_left fun spec _ => Member.releasedTimes_smi spec.1 spec.2 _
    have hfamilies := families_after σ
    refine congrArg Answer.scraped (Scraper.scrape_congr ((hfamilies steps).1.trans
      (hfamilies steps').1.symm) ((hfamilies steps).2.trans (hfamilies steps').2.symm) elapsed ?_)
    simp only [scraper, hafter, host_after, hmembers, List.map_map]
    refine List.forall₂_map_left_iff.mpr (List.forall₂_map_right_iff.mpr
      (List.forall₂_same.mpr fun spec hspec => ⟨rfl, ?_⟩))
    exact Member.update_smi_congr spec.1 (hlaunch spec hspec)

/-- A source without devices, which perhaps cannot be released. -/
def busy (releaseFails : Bool) : Listed where
  name := "busy"
  devices := []
  count := none
  countFails := false
  down := false
  releaseFails := releaseFails

/-- A library without devices, which cannot be shut down. -/
def stuck : Library where
  driver := .error "Unknown Error"
  deviceCount := .ok 0
  device _ := .error "Invalid Argument"
  shutdown := .error "Unknown Error"

/-- A collector that crashes at every update. -/
def crashing : Fixed := ⟨"crash", [], .crashed "out of order"⟩

/-- Device collectors over two such sources, one over the library, one over a command, and one
collector that crashes. The first source cannot be released, and a shutdown takes down the next
two. -/
def busyMembers (schema : Schema) (shutDown : Bool) : List Member :=
  [.gpu schema (Source.listed (busy true)) false,
   .gpu schema (Source.listed (busy false)) shutDown,
   .gpu schema (Source.library stuck) (!shutDown),
   .smi schema "smi",
   ⟨Kind.fixed crashing, ()⟩]

theorem steady_of_mem_busyMembers (schema : Schema) :
    ∀ m ∈ busyMembers schema false, m.kind.Steady := by
  simp only [busyMembers, List.forall_mem_cons]
  exact ⟨Kind.steady_gpu schema (Source.steady_listed (busy true)),
    Kind.steady_gpu schema (Source.steady_listed (busy false)),
    Kind.steady_gpu schema (Source.steady_library stuck),
    Kind.steady_gpu schema (Source.steady_smi "smi"), Kind.steady_fixed crashing, by simp⟩

/-- Any members make a roster under the namespace that is used unless another is configured. -/
theorem exists_roster_node (members : List Member) :
    ∃ σ : Roster, σ.members = members ∧
      Scraper.ofCollectors? "node" (σ.members.map Member.collector) = .ok σ.scraper := by
  obtain ⟨s, hs⟩ := Scraper.exists_ofCollectors?_node (members.map Member.collector)
  refine ⟨⟨members, s.duration, s.success, ⟨fun _ => .refused .notFound⟩⟩, rfl, hs.trans ?_⟩
  rw [scraper, ← (Scraper.ofCollectors?_eq_ok_iff.mp hs).1]

/-- In a run over them the first source fails to be released and stays up. The second is down from
the first shutdown on, whatever follows, and so is the library, although shutting it down fails.
The other two collectors stay as they are. -/
theorem historyIndependent_busy :
    ((Source.listed (busy true)).release false).1.value = .error (.releaseFailed "busy" "busy") ∧
      ((Source.library stuck).release true).1.value
        = .error (.releaseFailed "nvml" "Unknown Error") ∧
      (Source.listed (busy false)).Down ((Source.listed (busy false)).release false).2 ∧
      ∃ (schema : Schema) (σ : Roster), Schema.ofNamespace? "node" = .ok schema ∧
        σ.members = busyMembers schema false ∧ σ.Steady ∧ σ.HistoryIndependent "node" ∧
        ∀ later, (σ.after (.shutdown :: later)).members = busyMembers schema true := by
  refine ⟨rfl, rfl, fun _ => ⟨.released "busy", rfl⟩, ?_⟩
  obtain ⟨schema, hschema⟩ := Schema.exists_ofNamespace?_node
  obtain ⟨σ, hmembers, hs⟩ := exists_roster_node (busyMembers schema false)
  have hsteady : σ.Steady := fun m hm => steady_of_mem_busyMembers schema m (hmembers ▸ hm)
  have hindependent : σ.HistoryIndependent "node" := historyIndependent hsteady hs
  refine ⟨schema, σ, hschema, hmembers, hsteady, hindependent, fun later => ?_⟩
  rw [(hindependent.once_per_shutdown (.shutdown :: later)).1, hmembers]
  have hfixed : (Member.mk (Kind.fixed crashing) ()).released = ⟨Kind.fixed crashing, ()⟩ := rfl
  simp only [busyMembers, List.map_cons, List.map_nil, shutdowns, Member.releasedTimes_gpu,
    Source.afterReleases_listed, Source.afterReleases_library, busy, Member.releasedTimes_smi,
    Member.releasedTimes_of_released hfixed]
  simp

/-! ### What does not hold of every run -/

/-- What is said of a namespace and a roster holds whatever collectors there are, as long as none
of them is changed by being asked. -/
def IsLaw (P : String → Roster → Prop) : Prop :=
  ∀ ns σ, σ.Steady → Scraper.ofCollectors? ns (σ.members.map Member.collector) = .ok σ.scraper →
    P ns σ

/-- There is a roster of a single device collector, over any source that is not changed by being
asked. -/
theorem exists_single_node {source : Source} (h : source.Steady) (state : source.State) :
    ∃ (schema : Schema) (σ : Roster), Schema.ofNamespace? "node" = .ok schema ∧
      σ.members = [.gpu schema source state] ∧ σ.Steady ∧
      Scraper.ofCollectors? "node" (σ.members.map Member.collector) = .ok σ.scraper := by
  obtain ⟨schema, hschema⟩ := Schema.exists_ofNamespace?_node
  obtain ⟨σ, hmembers, hs⟩ := exists_roster_node [.gpu schema source state]
  refine ⟨schema, σ, hschema, hmembers, ?_, hs⟩
  rw [Steady, hmembers]
  exact List.forall_mem_singleton.mpr (Kind.steady_gpu schema h)

/-- A device collector whose source could not be released keeps answering as before. -/
def KeepsAnswering (σ : Roster) : Prop :=
  ∀ (steps : List Step) (i : Nat) (schema : Schema) (source : Source) (state : source.State)
      (cause : BackendError) (later : List Step) (now : Member),
    (σ.after steps).members[i]? = some (.gpu schema source state) →
      (source.release state).1.value = .error cause →
      (σ.after (steps ++ .shutdown :: later)).members[i]? = some now →
      now.collector.update = (Member.gpu schema source state).collector.update

/-- The library that cannot be shut down is let go of all the same. -/
theorem not_isLaw_keepsAnswering : ¬IsLaw fun _ => KeepsAnswering := by
  intro hlaw
  obtain ⟨schema, σ, -, hmembers, hsteady, hs⟩ :=
    exists_single_node (Source.steady_library stuck) true
  have hm : σ.members[0]? = some (.gpu schema (Source.library stuck) true) :=
    congrArg (·[0]?) hmembers
  have hkept := hlaw "node" σ hsteady hs [] 0 schema (Source.library stuck) true _ [] _ hm rfl
    (getElem?_members_released hsteady hm [])
  -- before the shutdown the library was asked, and now it is not
  have hending : Ending.failed (.backend (.released "nvml")) = .succeeded :=
    congrArg Update.ending (congrFun hkept σ.host)
  cases hending

/-- A device collector whose source is down since it was released fails from then on. -/
def KeepsFailing (σ : Roster) : Prop :=
  ∀ (steps : List Step) (i : Nat) (schema : Schema) (source : Source) (state : source.State)
      (later : List Step) (now : Member),
    (σ.after steps).members[i]? = some (.gpu schema source state) →
      source.Down (source.release state).2 →
      (σ.after (steps ++ .shutdown :: later)).members[i]? = some now →
      ∀ host, now.collector.endsWell host = false

/-- A source without devices that every release takes down or puts up again. -/
def flickering : Source where
  name := "flickering"
  State := Bool
  ask _ down :=
    (if down then ⟨.error (.released "flickering"), []⟩ else ⟨.ok stuck.snapshot, []⟩, down)
  release down := (⟨.ok (), []⟩, !down)

theorem steady_flickering : flickering.Steady := fun _ _ => rfl

/-- A source that the first release took down can be put up by the second. -/
theorem not_isLaw_keepsFailing : ¬IsLaw fun _ => KeepsFailing := by
  intro hlaw
  obtain ⟨schema, σ, -, hmembers, hsteady, hs⟩ := exists_single_node steady_flickering false
  have hm : σ.members[0]? = some (.gpu schema flickering false) := congrArg (·[0]?) hmembers
  have hfails := hlaw "node" σ hsteady hs [] 0 schema flickering false [.shutdown] _ hm
    (fun _ => ⟨_, rfl⟩) (getElem?_members_released hsteady hm [.shutdown]) σ.host
  have hending : Ending.succeeded ≠ .succeeded := of_decide_eq_false hfails
  exact hending rfl

/-- A device collector that is alone, and whose source is down since it was released, yields only
that there are no devices and that it failed. -/
def YieldsTwo (ns : String) (σ : Roster) : Prop :=
  ∀ (schema : Schema) (source : Source) (state : source.State),
    Schema.ofNamespace? ns = .ok schema → σ.members = [.gpu schema source state] →
      source.Down (source.release state).2 →
      ∀ elapsed samples events,
        (σ.after [.shutdown]).scraper.scrape σ.host elapsed = ⟨.ok samples, events⟩ →
        samples.map Sample.observed
          = [expectedCount ns 0,
             ⟨Scraper.nameUnder ns "collector_success", [("collector", "gpu")], .zero⟩]

/-- A scrape always tells as well how long it took. -/
theorem not_isLaw_yieldsTwo : ¬IsLaw YieldsTwo := by
  intro hlaw
  obtain ⟨schema, σ, hschema, hmembers, hsteady, hs⟩ :=
    exists_single_node (Source.steady_listed (busy false)) false
  let ρ := σ.after [.shutdown]
  have hcollectors : ρ.scraper.collectors
      = [(Member.gpu schema (Source.listed (busy false)) true).collector] := by
    rw [scraper, members_after hsteady, hmembers]
    rfl
  have hsurvives : ∀ c ∈ ρ.scraper.collectors, c.Survives σ.host := by
    rw [hcollectors, Member.collector_gpu]
    exact List.forall_mem_singleton.mpr (Gpu.survives_toCollector _ σ.host)
  obtain ⟨samples, hresult⟩ :
      ∃ samples, (ρ.scraper.scrape σ.host fun _ => .zero).result = .ok samples :=
    Scraper.exists_result_eq_ok_iff.mpr hsurvives
  have hscrape : ρ.scraper.scrape σ.host (fun _ => .zero)
      = ⟨.ok samples, (ρ.scraper.scrape σ.host fun _ => .zero).events⟩ := by
    rw [← hresult]
  have htwo := hlaw "node" σ hsteady hs schema (Source.listed (busy false)) false hschema hmembers
    (fun _ => ⟨.released "busy", rfl⟩) (fun _ => .zero) samples _ hscrape
  obtain ⟨first, last, took, succeeded, hsamples, -⟩ := Scraper.exists_of_scrape_eq_ok
    (isUnder_after (Scraper.isUnder_of_ofCollectors? hs) [.shutdown]) hscrape
    (congrArg (·[0]?) hcollectors)
  have hdown : ((Source.listed (busy false)).ask σ.host true).1.value = .error (.released "busy") :=
    rfl
  have hown := congrArg List.length
    (update_gpu_of_error (Schema.isUnder_of_ofNamespace? hschema) hdown).2
  -- one sample is the collector's own, and there are two reports on it
  have hlength := congrArg List.length htwo
  rw [hsamples] at hlength
  simp only [List.length_map, List.length_append, List.length_cons, List.length_nil]
    at hown hlength
  omega

/-- **None of these is a law.** That a source could not be released does not mean that it was left
as it was; one that is down can be put up again; and no scrape tells just the two things. -/
theorem not_isLaw :
    ¬IsLaw (fun _ => KeepsAnswering) ∧ ¬IsLaw (fun _ => KeepsFailing) ∧ ¬IsLaw YieldsTwo :=
  ⟨not_isLaw_keepsAnswering, not_isLaw_keepsFailing, not_isLaw_yieldsTwo⟩

end Roster

end GpuMetrics
