import GpuMetrics.Collector.Fixed
import GpuMetrics.Exporter.Lifetime
import GpuMetrics.Proofs.Scrape.Blocks
import Mathlib.Data.List.Infix

/-!
# The program ends in order

The signal, the end of the server and the end of the grace period race with each other, and the
program notices each of them in its own time. Whatever the order, there is one happening at which a
life is **concluded** (`GpuMetrics.Exporter.Concludes`): the program notices that the server's task
has ended, or the grace period runs out on a server that was told to stop and has not. Two things
have to be kept apart.

* **Before that happening** the program waits (`GpuMetrics.Exporter.Lifetime.Waits`): no collector
  is shut down, and what the program knows of the signal and of the task is what has happened.
* **At that happening** all collectors are shut down, and no later happening touches them again
  (`GpuMetrics.Exporter.Lifetime.run_of_ended`).

Every course of happenings is of one of these two kinds
(`GpuMetrics.Exporter.Lifetime.waits_or_concludes`). The main statement is
`GpuMetrics.Exporter.Lifetime.ends_in_order`.
-/

namespace GpuMetrics.Exporter

open Http Log

/-! ### What has happened -/

/-- The end of the task that a happening is, if it is one. -/
def Happening.taskEnd? : Happening → Option TaskEnd
  | .taskEnds ending => some ending
  | _ => none

/-- The signal that a happening is, if it is one. -/
def Happening.signal? : Happening → Option StopRequest
  | .signal s => some s
  | _ => none

/-- How the server's task ended in a course of happenings, if it did. A task ends only once. -/
def taskEnd? (course : List Happening) : Option TaskEnd := course.findSome? Happening.taskEnd?

/-- In the course a signal came and was noticed later on. -/
def SignalNoticed (course : List Happening) : Prop :=
  ∃ earlier s, earlier ++ [Happening.noticeSignal] <+: course ∧ .signal s ∈ earlier

/-- **The happening that concludes a life**, by what happened before it: how the program takes the
server's task to have ended, and what it remarks on that. -/
inductive Concludes (before : List Happening) : Happening → TaskEnd → List Event → Prop where
  /-- The task has ended, and the program notices it. -/
  | afterEnd {ending : TaskEnd} (ended : taskEnd? before = some ending) :
      Concludes before .noticeEnd ending []
  /-- The server was told to stop, and its task has not ended in time. It is abandoned, and counts
  as finished. -/
  | afterGrace (told : SignalNoticed before) (running : taskEnd? before = none) :
      Concludes before .graceExpires .finished [.serverNotStoppedInTime]

/-- What the program ends with, by how it takes the server's task to have ended. -/
def verdict : TaskEnd → Except Failure Unit
  | .finished => .ok ()
  | .failed report => .error (.server report)
  | .crashed report => .error (.serverTask report)

theorem verdict_eq_ok_iff {ending : TaskEnd} : verdict ending = .ok () ↔ ending = .finished := by
  cases ending <;> simp [verdict]

/-- **A failure is the server's own**: its error, or the report on its crash. -/
theorem message_of_verdict_eq_error {ending : TaskEnd} {failure : Failure}
    (h : verdict ending = .error failure) :
    (∃ report, ending = .failed report ∧ failure.message = report) ∨
      ∃ report, ending = .crashed report ∧
        failure.message = "HTTP server task failed: " ++ report := by
  cases ending with
  | finished => cases h
  | failed report =>
    obtain rfl := Except.error.inj h
    exact Or.inl ⟨report, rfl, rfl⟩
  | crashed report =>
    obtain rfl := Except.error.inj h
    exact Or.inr ⟨report, rfl, rfl⟩

theorem signalNoticed_concat {course : List Happening} {next : Happening} :
    SignalNoticed (course ++ [next]) ↔
      SignalNoticed course ∨ next = .noticeSignal ∧ ∃ s, .signal s ∈ course := by
  constructor
  · rintro ⟨earlier, s, hinit, hs⟩
    rcases List.prefix_concat_iff.mp hinit with heq | hinit
    · obtain ⟨rfl, hnext⟩ := List.append_inj' heq rfl
      exact Or.inr ⟨(List.singleton_inj.mp hnext).symm, s, hs⟩
    · exact Or.inl ⟨earlier, s, hinit, hs⟩
  · rintro (⟨earlier, s, hinit, hs⟩ | ⟨rfl, s, hs⟩)
    · exact ⟨earlier, s, hinit.trans (List.prefix_append ..), hs⟩
    · exact ⟨course, s, List.prefix_rfl, hs⟩

namespace Lifetime

/-! ### Waiting for the conclusion -/

theorem task_step (l : Lifetime) (next : Happening) :
    (l.step next).task = l.task.or next.taskEnd? := by
  cases next with
  | taskEnds ending => cases h : l.task <;> simp [step, h, Happening.taskEnd?]
  | taskLogs events => cases h : l.task <;> simp [step, h, Happening.taskEnd?]
  | signal s => cases h : l.signal <;> simp [step, h, Happening.taskEnd?]
  | noticeSignal | noticeEnd | graceExpires =>
    change _ = l.task.or none
    rw [Option.or_none, step]
    split <;> rfl

theorem signal_step (l : Lifetime) (next : Happening) :
    (l.step next).signal = l.signal.or next.signal? := by
  cases next with
  | taskEnds ending => cases h : l.task <;> simp [step, h, Happening.signal?]
  | taskLogs events => cases h : l.task <;> simp [step, h, Happening.signal?]
  | signal s => cases h : l.signal <;> simp [step, h, Happening.signal?]
  | noticeSignal | noticeEnd | graceExpires =>
    change _ = l.signal.or none
    rw [Option.or_none, step]
    split <;> rfl

/-- A life that has not been concluded in the course: its collectors are untouched, and it knows
what has happened. -/
structure Waits (s : Scraper) (course : List Happening) (l : Lifetime) : Prop where
  scraper : l.scraper = s
  task : l.task = taskEnd? course
  signal : l.signal = course.findSome? Happening.signal?
  phase : l.phase = .serving ∧ ¬SignalNoticed course ∨ l.phase = .stopping ∧ SignalNoticed course

theorem waits_start (s : Scraper) (events : List Event) :
    Waits s [] { scraper := s, events } where
  scraper := rfl
  task := rfl
  signal := rfl
  phase := Or.inl ⟨rfl, by simp [SignalNoticed]⟩

/-- A signal is known just if one has come. -/
theorem Waits.isSome_signal_iff {s : Scraper} {course : List Happening} {l : Lifetime}
    (h : Waits s course l) : l.signal.isSome ↔ ∃ x, Happening.signal x ∈ course := by
  rw [h.signal, List.isSome_findSome?, List.any_eq_true]
  constructor
  · rintro ⟨x, hx, hsome⟩
    cases x with
    | signal x => exact ⟨x, hx⟩
    | _ => cases hsome
  · rintro ⟨x, hx⟩
    exact ⟨_, hx, rfl⟩

theorem Waits.task_concat {s : Scraper} {before : List Happening} {l : Lifetime}
    (h : Waits s before l) (next : Happening) :
    (l.step next).task = taskEnd? (before ++ [next]) := by
  rw [task_step, h.task, taskEnd?, taskEnd?, List.findSome?_append]
  exact congrArg _ (by cases next <;> rfl)

theorem Waits.signal_concat {s : Scraper} {before : List Happening} {l : Lifetime}
    (h : Waits s before l) (next : Happening) :
    (l.step next).signal = (before ++ [next]).findSome? Happening.signal? := by
  rw [signal_step, h.signal, List.findSome?_append]
  exact congrArg _ (by cases next <;> rfl)

/-- A happening after which the program stands where it stood leaves it waiting. -/
theorem Waits.of_kept {s : Scraper} {before : List Happening} {l : Lifetime} (h : Waits s before l)
    {next : Happening} (hscraper : (l.step next).scraper = l.scraper)
    (hphase : (l.step next).phase = l.phase)
    (hnoticed : SignalNoticed (before ++ [next]) ↔ SignalNoticed before) :
    Waits s (before ++ [next]) (l.step next) where
  scraper := hscraper.trans h.scraper
  task := h.task_concat next
  signal := h.signal_concat next
  phase := by
    rw [hphase, hnoticed]
    exact h.phase

/-- **A happening that does not conclude a life leaves it waiting.** -/
theorem Waits.step {s : Scraper} {before : List Happening} {l : Lifetime} (h : Waits s before l)
    {next : Happening} (hnext : ∀ ending remarks, ¬Concludes before next ending remarks) :
    Waits s (before ++ [next]) (l.step next) := by
  have hother : next ≠ .noticeSignal →
      (SignalNoticed (before ++ [next]) ↔ SignalNoticed before) := fun hne =>
    signalNoticed_concat.trans (or_iff_left fun hnext => hne hnext.1)
  cases next with
  | signal x =>
    refine h.of_kept ?_ ?_ (hother (by simp)) <;> rw [Lifetime.step] <;> split <;> rfl
  | taskLogs events =>
    refine h.of_kept ?_ ?_ (hother (by simp)) <;> rw [Lifetime.step] <;> split <;> rfl
  | taskEnds ending =>
    refine h.of_kept ?_ ?_ (hother (by simp)) <;> rw [Lifetime.step] <;> split <;> rfl
  | noticeSignal =>
    have hnoticed : SignalNoticed (before ++ [.noticeSignal]) ↔ _ := signalNoticed_concat
    rw [← h.isSome_signal_iff, eq_self, true_and] at hnoticed
    rcases h.phase with ⟨hserving, hno⟩ | ⟨hstopping, hyes⟩
    · cases hsignal : l.signal with
      | none =>
        -- there is nothing to notice
        have hstep : l.step .noticeSignal = l := by simp [Lifetime.step, hserving, hsignal]
        refine h.of_kept (congrArg _ hstep) (congrArg _ hstep) ?_
        rw [hnoticed, hsignal]
        simp
      | some x =>
        have hstep : (l.step .noticeSignal).phase = .stopping ∧
            (l.step .noticeSignal).scraper = l.scraper := by
          simp [Lifetime.step, hserving, hsignal]
        refine ⟨hstep.2.trans h.scraper, h.task_concat _, h.signal_concat _,
          Or.inr ⟨hstep.1, hnoticed.mpr (Or.inr ?_)⟩⟩
        rw [hsignal]
        rfl
    · -- it was noticed before
      have hstep : l.step .noticeSignal = l := by simp [Lifetime.step, hstopping]
      exact h.of_kept (congrArg _ hstep) (congrArg _ hstep)
        (hnoticed.trans (or_iff_left_of_imp fun _ => hyes))
  | noticeEnd =>
    have htask : l.task = none := Option.eq_none_iff_forall_ne_some.mpr fun ending hending =>
      hnext ending [] (.afterEnd (h.task.symm.trans hending))
    have hstep : l.step .noticeEnd = l := by
      rcases h.phase with ⟨hphase, -⟩ | ⟨hphase, -⟩ <;> simp [Lifetime.step, hphase, htask]
    exact h.of_kept (congrArg _ hstep) (congrArg _ hstep) (hother (by simp))
  | graceExpires =>
    have hstep : l.step .graceExpires = l := by
      rcases h.phase with ⟨hphase, -⟩ | ⟨hphase, hnoticed⟩
      · simp [Lifetime.step, hphase]
      · -- a server that was told to stop has stopped, or else it would be abandoned now
        cases htask : l.task with
        | none => exact absurd (.afterGrace hnoticed (h.task.symm.trans htask)) (hnext _ _)
        | some ending => simp [Lifetime.step, hphase, htask]
    exact h.of_kept (congrArg _ hstep) (congrArg _ hstep) (hother (by simp))

/-! ### The conclusion and what comes after it -/

/-- **At its conclusion a life shuts all collectors down**, and says how it ends. -/
theorem Waits.step_of_concludes {s : Scraper} {before : List Happening} {l : Lifetime}
    (h : Waits s before l) {last : Happening} {ending : TaskEnd} {remarks : List Event}
    (hlast : Concludes before last ending remarks) :
    l.step last = { l with
      scraper := s.shutdown.1
      phase := .ended ending
      events := l.events ++ remarks ++ s.shutdown.2 ++ closingEvents ending } := by
  cases hlast with
  | afterEnd ended =>
    have htask := h.task.trans ended
    rcases h.phase with ⟨hphase, -⟩ | ⟨hphase, -⟩ <;>
      simp [Lifetime.step, conclude, hphase, htask, h.scraper]
  | afterGrace told running =>
    have htask := h.task.trans running
    rcases h.phase with ⟨-, hnot⟩ | ⟨hphase, -⟩
    · exact absurd told hnot
    · simp [Lifetime.step, conclude, awaitServer, hphase, htask, h.scraper]

/-- Whatever happens to a program that has ended, its collectors are left alone. -/
theorem scraper_step_of_ended {l : Lifetime} {ending : TaskEnd} (h : l.phase = .ended ending)
    (next : Happening) : (l.step next).scraper = l.scraper := by
  cases next with
  | signal s => rw [Lifetime.step]; split <;> rfl
  | taskLogs events => rw [Lifetime.step]; split <;> rfl
  | taskEnds e => rw [Lifetime.step]; split <;> rfl
  | noticeSignal | noticeEnd | graceExpires => simp [Lifetime.step, h]

/-- **Nothing that happens after the conclusion undoes it**, or shuts a collector down again. -/
theorem run_of_ended {l : Lifetime} {ending : TaskEnd} (h : l.phase = .ended ending)
    (later : List Happening) :
    (l.run later).phase = .ended ending ∧ (l.run later).scraper = l.scraper := by
  induction later generalizing l with
  | nil => exact ⟨h, rfl⟩
  | cons next later ih =>
    obtain ⟨hphase, hscraper⟩ := ih (phase_step_of_ended h next)
    exact ⟨hphase, hscraper.trans (scraper_step_of_ended h next)⟩

theorem result?_of_ended {l : Lifetime} {ending : TaskEnd} (h : l.phase = .ended ending) :
    l.result? = some (verdict ending) := by
  rw [result?, h]
  cases ending <;> rfl

theorem Waits.result?_eq_none {s : Scraper} {course : List Happening} {l : Lifetime}
    (h : Waits s course l) : l.result? = none := by
  rcases h.phase with ⟨hphase, -⟩ | ⟨hphase, -⟩ <;> rw [result?, hphase]

/-! ### Whole lives -/

/-- The life of a program over a scraper, in a course of happenings. -/
def life (s : Scraper) (events : List Event) (course : List Happening) : Lifetime :=
  ({ scraper := s, events } : Lifetime).run course

theorem life_append (s : Scraper) (events : List Event) (earlier later : List Happening) :
    life s events (earlier ++ later) = (life s events earlier).run later := run_append ..

/-- **In every course a life still waits, or it was concluded once and for all.** -/
theorem waits_or_concludes (s : Scraper) (events : List Event) (course : List Happening) :
    Waits s course (life s events course) ∨
      ∃ before last after ending remarks, course = before ++ last :: after ∧
        Waits s before (life s events before) ∧ Concludes before last ending remarks := by
  induction course using List.reverseRecOn with
  | nil => exact Or.inl (waits_start s events)
  | append_singleton course next ih =>
    rcases ih with hwaits | ⟨before, last, after, ending, remarks, rfl, hwaits, hlast⟩
    · by_cases hnext : ∃ ending remarks, Concludes course next ending remarks
      · obtain ⟨ending, remarks, hnext⟩ := hnext
        exact Or.inr ⟨course, next, [], ending, remarks, rfl, hwaits, hnext⟩
      · refine Or.inl ?_
        rw [life_append]
        exact hwaits.step (by simpa using hnext)
    · exact Or.inr ⟨before, last, after ++ [next], ending, remarks, by simp, hwaits, hlast⟩

/-- **A life that was concluded has its result**, and has released its collectors, whatever happened
since. -/
theorem result?_of_concludes {s : Scraper} (events : List Event) {before : List Happening}
    (hwaits : Waits s before (life s events before)) {last : Happening} {ending : TaskEnd}
    {remarks : List Event} (hlast : Concludes before last ending remarks)
    (after : List Happening) :
    (life s events (before ++ last :: after)).result? = some (verdict ending) ∧
      (life s events (before ++ last :: after)).scraper = s.shutdown.1 := by
  have hstep := hwaits.step_of_concludes hlast
  have hended : ((life s events before).step last).phase = .ended ending := by rw [hstep]
  obtain ⟨hphase, hscraper⟩ := run_of_ended hended after
  rw [life_append, run_cons, result?_of_ended hphase, hscraper, hstep]
  exact ⟨rfl, rfl⟩

/-- A life that has no result yet still waits. -/
theorem waits_of_result?_eq_none {s : Scraper} {events : List Event} {course : List Happening}
    (h : (life s events course).result? = none) : Waits s course (life s events course) := by
  rcases waits_or_concludes s events course with hwaits | ⟨before, last, after, ending, remarks,
    rfl, hwaits, hlast⟩
  · exact hwaits
  · rw [(result?_of_concludes events hwaits hlast after).1] at h
    cases h

/-- A life that waits has waited at every point before. -/
theorem waits_of_prefix {s : Scraper} {events : List Event} {earlier course : List Happening}
    (hinit : earlier <+: course) (h : Waits s course (life s events course)) :
    Waits s earlier (life s events earlier) := by
  obtain ⟨later, rfl⟩ := hinit
  rcases waits_or_concludes s events earlier with hwaits | ⟨before, last, after, ending, remarks,
    rfl, hwaits, hlast⟩
  · exact hwaits
  · have hresult := h.result?_eq_none
    rw [List.append_assoc, List.cons_append,
      (result?_of_concludes events hwaits hlast (after ++ later)).1] at hresult
    cases hresult

/-- A life that ends in order, `last` being the happening that concludes it. -/
structure EndsAt (s : Scraper) (events : List Event) (before : List Happening) (last : Happening)
    (after : List Happening) (result : Except Failure Unit) : Prop where
  /-- At every point before the conclusion the program runs, and no collector was shut down. -/
  untouched : ∀ earlier, earlier <+: before →
    (life s events earlier).result? = none ∧ (life s events earlier).scraper = s
  /-- Then the server's task has ended or is abandoned. The collectors are shut down one after the
  other, and the last thing to be said is how the server ended. -/
  concluded : ∃ ending remarks, Concludes before last ending remarks ∧ result = verdict ending ∧
    (life s events (before ++ [last])).events = (life s events before).events ++ remarks ++
      s.collectors.flatMap (fun c => c.releaseAfter c.shutdowns ++ [.collectorShutDown c.name]) ++
      closingEvents ending
  /-- From then on the result stands, and every collector was shut down once, not more. -/
  released : ∀ later, later <+: after →
    (life s events (before ++ last :: later)).result? = some result ∧
      (life s events (before ++ last :: later)).scraper.collectors
        = s.collectors.map fun c => { c with shutdowns := c.shutdowns + 1 }
  /-- The program succeeds just if the task ended well, or was abandoned. -/
  success : result = .ok () ↔ taskEnd? before = some .finished ∨
    SignalNoticed before ∧ taskEnd? before = none ∧ last = .graceExpires
  /-- It fails with what the task failed with, or with the report on its crash. -/
  failure : ∀ failure, result = .error failure →
    (∃ report, taskEnd? before = some (.failed report) ∧ failure.message = report) ∨
      ∃ report, taskEnd? before = some (.crashed report) ∧
        failure.message = "HTTP server task failed: " ++ report

/-- A life that was concluded is one that ends in order. -/
theorem endsAt_of_concludes {s : Scraper} {events : List Event} {before : List Happening}
    (hwaits : Waits s before (life s events before)) {last : Happening} {ending : TaskEnd}
    {remarks : List Event} (hlast : Concludes before last ending remarks)
    (after : List Happening) : EndsAt s events before last after (verdict ending) where
  untouched earlier hinit := by
    have hearlier := waits_of_prefix hinit hwaits
    exact ⟨hearlier.result?_eq_none, hearlier.scraper⟩
  concluded := by
    refine ⟨ending, remarks, hlast, rfl, ?_⟩
    rw [life_append, run_cons, run_nil, hwaits.step_of_concludes hlast]
    simp [Scraper.shutdown, List.flatMap_map, Collector.shutdown]
  released later _ := by
    obtain ⟨hresult, hscraper⟩ := result?_of_concludes events hwaits hlast later
    exact ⟨hresult, by rw [hscraper]; exact s.collectors_shutdown⟩
  success := by
    rw [verdict_eq_ok_iff]
    cases hlast with
    | afterEnd ended => simp [ended]
    | afterGrace told running => simp [told, running]
  failure failure hfailure := by
    cases hlast with
    | afterEnd ended =>
      rw [ended]
      simpa using message_of_verdict_eq_error hfailure
    | afterGrace told running => cases hfailure

/-- **The program ends in order, in whatever order things happen.** As long as it has not ended no
collector is shut down. It ends with a result just if there is a happening that concludes its life
with that result: the server's task had ended by then, or was abandoned after the grace period, and
at that point every collector is shut down once. -/
theorem ends_in_order (s : Scraper) (events : List Event) (course : List Happening) :
    ((life s events course).result? = none → (life s events course).scraper = s) ∧
      ∀ result, (life s events course).result? = some result ↔
        ∃ before last after, course = before ++ last :: after ∧
          EndsAt s events before last after result := by
  refine ⟨fun h => (waits_of_result?_eq_none h).scraper, fun result => ⟨fun h => ?_, ?_⟩⟩
  · rcases waits_or_concludes s events course with hwaits | ⟨before, last, after, ending, remarks,
      rfl, hwaits, hlast⟩
    · rw [hwaits.result?_eq_none] at h
      cases h
    · have hends := endsAt_of_concludes hwaits hlast after
      obtain rfl := Option.some.inj ((hends.released after List.prefix_rfl).1.symm.trans h)
      exact ⟨before, last, after, rfl, hends⟩
  · rintro ⟨before, last, after, rfl, hends⟩
    exact (hends.released after List.prefix_rfl).1

/-- A course in which the signal is noticed first, the server crashes only then, and the grace
period runs out, as far as anybody waits for it, on a task that has ended already. -/
def lateCrash : List Happening :=
  [.taskLogs [.serverListening "127.0.0.1:1" "/metrics"], .noticeEnd, .signal .terminate,
   .noticeSignal, .signal .interrupt, .taskEnds (.crashed "boom"), .graceExpires,
   .taskEnds .finished, .noticeEnd, .graceExpires, .noticeEnd]

/-- Two collectors are then shut down once each, and the crash is what the program fails with. -/
theorem ends_in_order_lateCrash :
    ∃ s, Scraper.ofCollectors? "node" [(Collector.Fixed.constant "a").toCollector,
        (Collector.Fixed.constant "b").toCollector] = .ok s ∧
      (life s [] lateCrash).result? = some (.error (.serverTask "boom")) ∧
      (life s [] lateCrash).scraper.collectors.map (·.shutdowns) = [1, 1] ∧
      ∃ before last after, lateCrash = before ++ last :: after ∧
        EndsAt s [] before last after (.error (.serverTask "boom")) := by
  obtain ⟨s, hs⟩ := Scraper.exists_ofCollectors?_node [(Collector.Fixed.constant "a").toCollector,
    (Collector.Fixed.constant "b").toCollector]
  have hresult : (life s [] lateCrash).result? = some (.error (.serverTask "boom")) := rfl
  obtain ⟨before, last, after, heq, hends⟩ := ((ends_in_order s [] lateCrash).2 _).mp hresult
  refine ⟨s, hs, hresult, ?_, before, last, after, heq, hends⟩
  rw [heq, (hends.released after List.prefix_rfl).2, (Scraper.ofCollectors?_eq_ok_iff.mp hs).1]
  rfl

end Lifetime

end GpuMetrics.Exporter
