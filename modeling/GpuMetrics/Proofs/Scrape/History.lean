import GpuMetrics.Proofs.Scrape.Blocks
import GpuMetrics.Proofs.Scrape.Member
import Mathlib.Data.List.Forall2

/-!
# Scrapes leave no trace

Between its start and its end a program scrapes, shuts its collectors down, and has the commands
that they run replaced, in any order. What it answers depends on its history, and here is on how
much of it. A `GpuMetrics.Roster` is a scraper whose collectors own states, on a machine; in a
scrape every member is updated in turn, until one crashes, and its state is then whatever the
update made of it (`GpuMetrics.Roster.updateEach`).

If no member is changed by being asked, there is only this to know about a run:

* a scrape leaves the roster as it is, so it can be deleted from a run with no effect on the other
  answers (`GpuMetrics.Roster.run_of_thins`);
* every member is as often released as the run has shutdowns, and the machine is the one that was
  installed last (`GpuMetrics.Roster.members_after`, `GpuMetrics.Roster.host_after`);
* a scraper that counts shutdowns, and knows no states, gives the same answers
  (`GpuMetrics.Roster.transcript_eq`).

What this means for device collectors depends on what a release does to their sources, and is said
in `GpuMetrics.Proofs.Scrape.Release`.
-/

namespace GpuMetrics

open Backend Collector Log GpuMetrics.Metric

/-- A scraper whose collectors own states, on the machine that they run on. -/
structure Roster where
  members : List Member
  duration : Descriptor
  success : Descriptor
  host : Host

namespace Roster

/-! ### Runs -/

/-- A step of a run. -/
inductive Step where
  /-- A scrape, the update of the collector at each index taking `elapsed` seconds. -/
  | scrape (elapsed : Nat → Binary64)
  | shutdown
  /-- The installed commands are replaced. -/
  | install (host : Host)

/-- What comes of a step. -/
inductive Answer where
  | scraped (s : Scrape)
  | shutDown (events : List Event)
  | installed

/-- The steps of a run, each with its answer. -/
abbrev Transcript := List (Step × Answer)

/-- The transcript of a run, and what is there in the end. -/
def run {S : Type*} (step : S → Step → Answer × S) : S → List Step → Transcript × S
  | s, [] => ([], s)
  | s, x :: rest =>
    let next := step s x
    let more := run step next.2 rest
    ((x, next.1) :: more.1, more.2)

/-- Some scrapes are deleted from a transcript, each with its answer. -/
inductive Thins : Transcript → Transcript → Prop where
  | nil : Thins [] []
  | keep (entry : Step × Answer) {kept all : Transcript} (rest : Thins kept all) :
      Thins (entry :: kept) (entry :: all)
  | delete (elapsed : Nat → Binary64) (answer : Answer) {kept all : Transcript}
      (rest : Thins kept all) : Thins kept ((.scrape elapsed, answer) :: all)

section Run

variable {S S' : Type*} {step : S → Step → Answer × S} {step' : S' → Step → Answer × S'}

/-- A run goes on from where an earlier part of it ended. -/
theorem run_append_snd (s : S) (steps later : List Step) :
    (run step s (steps ++ later)).2 = (run step (run step s steps).2 later).2 := by
  induction steps generalizing s with
  | nil => rfl
  | cons x steps ih => exact ih (step s x).2

/-- What every step preserves, a run preserves. -/
theorem run_preserves (Inv : S → Prop) (hstep : ∀ s x, Inv s → Inv (step s x).2) {s : S}
    (hs : Inv s) (steps : List Step) : Inv (run step s steps).2 := by
  induction steps generalizing s with
  | nil => exact hs
  | cons x steps ih => exact ih (hstep s x hs)

/-- **Scrapes that leave everything as it is can be deleted from a run**: what is left of its
transcript is the transcript of the steps that are left, and they end where the run ended. -/
theorem run_of_thins {Inv : S → Prop} (hstep : ∀ s x, Inv s → Inv (step s x).2)
    (hscrape : ∀ s elapsed, Inv s → (step s (.scrape elapsed)).2 = s) {s : S} (hs : Inv s)
    {steps : List Step} {kept : Transcript} (h : Thins kept (run step s steps).1) :
    run step s (kept.map Prod.fst) = (kept, (run step s steps).2) := by
  induction steps generalizing s kept with
  | nil =>
    cases h
    rfl
  | cons x steps ih =>
    cases h with
    | keep entry rest =>
      have hrest := ih (hstep s x hs) rest
      simp only [List.map_cons, run, hrest]
    | delete elapsed answer rest =>
      -- the scrape ended where it began, so the rest of the run does not notice it
      rw [hscrape s elapsed hs] at rest
      have hrest := ih hs rest
      simp only [run, hscrape s elapsed hs, hrest]

/-- Two systems that are related before a step, answer it alike and are related behind it answer
alike in every run. -/
theorem transcript_eq_of_simulates {R : S → S' → Prop}
    (hstep : ∀ s s' x, R s s' → (step s x).1 = (step' s' x).1 ∧ R (step s x).2 (step' s' x).2)
    {s : S} {s' : S'} (h : R s s') (steps : List Step) :
    (run step s steps).1 = (run step' s' steps).1 := by
  induction steps generalizing s s' with
  | nil => rfl
  | cons x steps ih =>
    obtain ⟨hanswer, hnext⟩ := hstep s s' x h
    exact congrArg₂ (fun answer rest => (x, answer) :: rest) hanswer (ih hnext)

end Run

/-! ### Steps of a roster -/

/-- The scraper that the rest of the program takes the roster for. -/
def scraper (σ : Roster) : Scraper := ⟨σ.members.map Member.collector, σ.duration, σ.success⟩

/-- What the members are after a scrape, which a crash ends. -/
def updateEach (host : Host) : List Member → List Member
  | [] => []
  | m :: rest =>
    match (m.collector.update host).ending with
    | .crashed _ => m.updated host :: rest
    | _ => m.updated host :: updateEach host rest

/-- One step of a roster. -/
def step (σ : Roster) : Step → Answer × Roster
  | .scrape elapsed =>
    (.scraped (σ.scraper.scrape σ.host elapsed),
      { σ with members := updateEach σ.host σ.members })
  | .shutdown =>
    (.shutDown σ.scraper.shutdown.2, { σ with members := σ.members.map Member.released })
  | .install host => (.installed, { σ with host := host })

/-- The transcript of a run. -/
def transcript (σ : Roster) (steps : List Step) : Transcript := (run step σ steps).1

/-- The roster at the end of a run. -/
def after (σ : Roster) (steps : List Step) : Roster := (run step σ steps).2

theorem after_append (σ : Roster) (steps later : List Step) :
    σ.after (steps ++ later) = (σ.after steps).after later :=
  run_append_snd σ steps later

/-- A roster whose members are not changed by being asked. -/
def Steady (σ : Roster) : Prop := ∀ m ∈ σ.members, m.kind.Steady

/-- However far a scrape comes, it leaves steady members as they were. -/
theorem updateEach_of_steady {ms : List Member} (h : ∀ m ∈ ms, m.kind.Steady) (host : Host) :
    updateEach host ms = ms := by
  induction ms with
  | nil => rfl
  | cons m ms ih =>
    obtain ⟨hm, hms⟩ := List.forall_mem_cons.mp h
    rw [updateEach, Member.updated_of_steady hm host, ih hms]
    cases (m.collector.update host).ending <;> rfl

/-- **A scrape leaves a steady roster as it was**, however it ends. -/
theorem step_scrape {σ : Roster} (h : σ.Steady) (elapsed : Nat → Binary64) :
    σ.step (.scrape elapsed) = (.scraped (σ.scraper.scrape σ.host elapsed), σ) := by
  rw [step, updateEach_of_steady h]

theorem steady_step {σ : Roster} (h : σ.Steady) (x : Step) : (σ.step x).2.Steady := by
  cases x with
  | scrape elapsed => rwa [step_scrape h]
  | shutdown => exact List.forall_mem_map.mpr h
  | install host => exact h

theorem steady_after {σ : Roster} (h : σ.Steady) (steps : List Step) : (σ.after steps).Steady :=
  run_preserves Steady (fun _ x hσ => steady_step hσ x) h steps

/-- The families of a roster do not change. -/
theorem families_after (σ : Roster) (steps : List Step) :
    (σ.after steps).duration = σ.duration ∧ (σ.after steps).success = σ.success := by
  refine run_preserves (fun τ : Roster => τ.duration = σ.duration ∧ τ.success = σ.success)
    (fun τ x hτ => ?_) ⟨rfl, rfl⟩ steps
  cases x <;> exact hτ

theorem isUnder_after {ns : String} {σ : Roster} (h : σ.scraper.IsUnder ns) (steps : List Step) :
    (σ.after steps).scraper.IsUnder ns := by
  obtain ⟨hduration, hsuccess⟩ := families_after σ steps
  exact ⟨(congrArg Descriptor.name hduration).trans h.duration_name,
    (congrArg Descriptor.labelNames hduration).trans h.duration_labels,
    (congrArg Descriptor.name hsuccess).trans h.success_name,
    (congrArg Descriptor.labelNames hsuccess).trans h.success_labels⟩

/-! ### What is left of a history -/

/-- The number of shutdowns in a run. -/
def shutdowns : List Step → Nat
  | [] => 0
  | .shutdown :: rest => shutdowns rest + 1
  | _ :: rest => shutdowns rest

/-- The machine at the end of a run that began on the given one. -/
def lastHost : Host → List Step → Host
  | host, [] => host
  | _, .install host :: rest => lastHost host rest
  | host, _ :: rest => lastHost host rest

/-- **Each shutdown releases each member once**, and nothing else changes a member. -/
theorem members_after {σ : Roster} (h : σ.Steady) (steps : List Step) :
    (σ.after steps).members = σ.members.map (Member.releasedTimes (shutdowns steps)) := by
  induction steps generalizing σ with
  | nil => exact (List.map_id' σ.members).symm
  | cons x steps ih =>
    refine (ih (steady_step h x)).trans ?_
    -- only a shutdown touches the members, and it is one release more for each
    cases x with
    | scrape elapsed =>
      rw [step_scrape h]
      rfl
    | shutdown => exact List.map_map
    | install host => rfl

theorem host_after (σ : Roster) (steps : List Step) :
    (σ.after steps).host = lastHost σ.host steps := by
  induction steps generalizing σ with
  | nil => rfl
  | cons x steps ih =>
    refine (ih (σ.step x).2).trans ?_
    cases x <;> rfl

end Roster

/-! ### The same run, with shutdowns counted -/

/-- A scraper on the machine that its collectors run on. -/
structure Scraper.Installed where
  scraper : Scraper
  host : Host

/-- One step of a scraper. -/
def Scraper.Installed.step (v : Scraper.Installed) : Roster.Step → Roster.Answer × Scraper.Installed
  | .scrape elapsed => (.scraped (v.scraper.scrape v.host elapsed), v)
  | .shutdown => (.shutDown v.scraper.shutdown.2, { v with scraper := v.scraper.shutdown.1 })
  | .install host => (.installed, { v with host := host })

namespace Scraper

/-- A scrape asks its collectors for their names and their updates. -/
theorem scrape_congr {s s' : Scraper} (hduration : s.duration = s'.duration)
    (hsuccess : s.success = s'.success) {host host' : Host} (elapsed : Nat → Binary64)
    (h : List.Forall₂ (fun c c' : Collector => c.name = c'.name ∧ c.update host = c'.update host')
      s.collectors s'.collectors) :
    s.scrape host elapsed = s'.scrape host' elapsed := by
  have heach (index : Nat) : s.scrapeEach host elapsed index s.collectors
      = s'.scrapeEach host' elapsed index s'.collectors := by
    generalize s.collectors = cs at h ⊢
    generalize s'.collectors = cs' at h ⊢
    induction h generalizing index with
    | nil => rfl
    | cons hc _ ih =>
      simp only [scrapeEach, closing, hc.1, hc.2, hduration, hsuccess, ih]
  rw [scrape, scrape, heach]

/-- A shutdown shuts every collector down, in order. -/
theorem shutdown_events (s : Scraper) :
    s.shutdown.2 = s.collectors.flatMap fun c => c.shutdown.2 ++ [.collectorShutDown c.name] := by
  rw [shutdown, List.flatMap_map]
  rfl

/-- A shutdown asks its collectors for their names and for what they release. -/
theorem shutdown_events_congr {s s' : Scraper}
    (h : List.Forall₂ (fun c c' : Collector => c.name = c'.name ∧ c.shutdown.2 = c'.shutdown.2)
      s.collectors s'.collectors) : s.shutdown.2 = s'.shutdown.2 := by
  rw [shutdown_events, shutdown_events]
  generalize s.collectors = cs at h ⊢
  generalize s'.collectors = cs' at h ⊢
  induction h with
  | nil => rfl
  | cons hc _ ih => rw [List.flatMap_cons, List.flatMap_cons, ih, hc.1, hc.2]

end Scraper

namespace Roster

/-- The scraper does, from now on, what the roster does. -/
structure Represents (σ : Roster) (v : Scraper.Installed) : Prop where
  steady : σ.Steady
  host : σ.host = v.host
  duration : σ.duration = v.scraper.duration
  success : σ.success = v.scraper.success
  collectors : List.Forall₂ ActsAs v.scraper.collectors σ.members

theorem represents_scraper {σ : Roster} (h : σ.Steady) : Represents σ ⟨σ.scraper, σ.host⟩ where
  steady := h
  host := rfl
  duration := rfl
  success := rfl
  collectors := List.forall₂_map_left_iff.mpr (List.forall₂_same.mpr fun m _ => actsAs_collector m)

/-- A step keeps the two together. -/
theorem Represents.step {σ : Roster} {v : Scraper.Installed} (h : Represents σ v) (x : Step) :
    (σ.step x).1 = (v.step x).1 ∧ Represents (σ.step x).2 (v.step x).2 := by
  cases x with
  | scrape elapsed =>
    -- neither side is changed, and the collectors answer as the members do
    rw [step_scrape h.steady]
    refine ⟨congrArg Answer.scraped ?_, h⟩
    rw [← h.host]
    refine Scraper.scrape_congr h.duration h.success elapsed ?_
    refine List.forall₂_map_left_iff.mpr (List.Forall₂.flip ?_)
    exact h.collectors.imp fun c m hc => ⟨hc.name.symm, (hc.update_eq _).symm⟩
  | shutdown =>
    refine ⟨congrArg Answer.shutDown (Scraper.shutdown_events_congr ?_),
      ⟨steady_step h.steady .shutdown, h.host, h.duration, h.success, ?_⟩⟩
    · refine List.forall₂_map_left_iff.mpr (List.Forall₂.flip ?_)
      exact h.collectors.imp fun c m hc => ⟨hc.name.symm, hc.snd_shutdown.symm⟩
    · rw [Scraper.Installed.step, Scraper.collectors_shutdown]
      exact List.forall₂_map_left_iff.mpr (List.forall₂_map_right_iff.mpr
        (h.collectors.imp fun c m hc => hc.shutdown))
  | install host =>
    exact ⟨rfl, h.steady, rfl, h.duration, h.success, h.collectors⟩

/-- **A scraper that counts shutdowns answers as the roster does.** -/
theorem transcript_eq {σ : Roster} (h : σ.Steady) (steps : List Step) :
    σ.transcript steps = (run Scraper.Installed.step ⟨σ.scraper, σ.host⟩ steps).1 :=
  transcript_eq_of_simulates (fun _ _ x hrep => hrep.step x) (represents_scraper h) steps

/-- A scraper as a roster. -/
def ofScraper (s : Scraper) (host : Host) : Roster where
  members := s.collectors.map fun c => ⟨Kind.counted c, c.shutdowns⟩
  duration := s.duration
  success := s.success
  host := host

/-- **Every scraper is represented by a steady roster.** -/
theorem represents_ofScraper (s : Scraper) (host : Host) :
    Represents (ofScraper s host) ⟨s, host⟩ where
  steady := List.forall_mem_map.mpr fun c _ => Kind.steady_counted c
  host := rfl
  duration := rfl
  success := rfl
  collectors := List.forall₂_map_right_iff.mpr (List.forall₂_same.mpr fun c _ => actsAs_counted c)

end Roster

end GpuMetrics
