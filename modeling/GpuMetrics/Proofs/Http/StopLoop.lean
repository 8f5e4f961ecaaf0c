import GpuMetrics.Http.Server
import Mathlib.Data.List.Induction

/-!
# The server's loop ends when it is told to

What is written to a watch replaces what was there, so the loop may miss values, and between
noticing that something was written and looking at it there is room for more to be written. Here is
what holds all the same of every course of writes, steps of the loop and the writer going away
(`GpuMetrics.Http.StopLoop.stopsWhenTold`):

* **nothing but a stop ends the loop.** It ends in the step in which it looks and finds `true`, or
  in which it finds the writer gone and nothing to notice
  (`GpuMetrics.Http.StopLoop.phase_run_eq_ended_iff`), and each of these has been caused by then;
* **no stop is lost.** From the moment a `true` was written and until a `false` replaces it, the
  loop owes it an answer (`GpuMetrics.Http.StopLoop.Owes`): it does not wait with that `true`
  already noticed, and two of its steps are enough for it to end.

A turn of the loop is two of its steps, one to notice and one to look. So a loop whose turns cannot
be interrupted goes through some of the courses that are considered here, and nothing else.
-/

namespace GpuMetrics.Http

/-- The value that an action writes. -/
def LoopAction.value? : LoopAction → Option Bool
  | .send value => some value
  | .drop | .step => none

theorem LoopAction.value?_eq_some_iff {a : LoopAction} {value : Bool} :
    a.value? = some value ↔ a = .send value := by
  cases a <;> simp [value?]

namespace StopLoop

/-! ### One step -/

/-- The ways in which a step of the loop can go. -/
inductive Steps (l : StopLoop) : StopLoop → Prop where
  /-- It notices that something was written. -/
  | notices (hphase : l.phase = .waiting) (hunseen : l.watch.seen ≠ l.watch.version) :
    Steps l ⟨{ l.watch with seen := l.watch.version }, .looking⟩
  /-- It finds the writer gone, and nothing to notice. -/
  | deserted (hphase : l.phase = .waiting) (hseen : l.watch.seen = l.watch.version)
    (hclosed : l.watch.closed = true) : Steps l ⟨l.watch, .ended⟩
  /-- It goes on waiting. -/
  | idles (hphase : l.phase = .waiting) (hseen : l.watch.seen = l.watch.version)
    (hopen : l.watch.closed = false) : Steps l l
  /-- It looks and finds that it is to stop. -/
  | obeys (hphase : l.phase = .looking) (hlatest : l.watch.latest = true) :
    Steps l ⟨l.watch, .ended⟩
  /-- It looks and finds that it is to go on. -/
  | resumes (hphase : l.phase = .looking) (hlatest : l.watch.latest = false) :
    Steps l ⟨l.watch, .waiting⟩
  /-- It has ended before. -/
  | rests (hphase : l.phase = .ended) : Steps l l

theorem steps_step (l : StopLoop) : l.Steps l.step := by
  rw [step]
  cases hphase : l.phase with
  | waiting =>
    by_cases hseen : l.watch.seen = l.watch.version
    · have hnone : ¬l.watch.hasUnseen = true := by simp [Watch.hasUnseen, hseen]
      dsimp only
      rw [if_neg hnone]
      cases hclosed : l.watch.closed with
      | true => exact .deserted hphase hseen hclosed
      | false => exact .idles hphase hseen hclosed
    · have hunseen : l.watch.hasUnseen = true := by simp [Watch.hasUnseen, hseen]
      dsimp only
      rw [if_pos hunseen]
      exact .notices hphase hseen
  | looking =>
    cases hlatest : l.watch.latest with
    | true => exact .obeys hphase hlatest
    | false => exact .resumes hphase hlatest
  | ended => exact .rests hphase

/-- A step of the loop writes nothing. -/
@[simp] theorem latest_step (l : StopLoop) : l.step.watch.latest = l.watch.latest := by
  have h := l.steps_step
  generalize l.step = l' at h ⊢
  cases h <;> rfl

@[simp] theorem closed_step (l : StopLoop) : l.step.watch.closed = l.watch.closed := by
  have h := l.steps_step
  generalize l.step = l' at h ⊢
  cases h <;> rfl

/-- The next step of the loop ends it: it will look and find that it is to stop, or it waits while
the writer is gone and there is nothing to notice. -/
def EndsNext (l : StopLoop) : Prop :=
  l.phase = .looking ∧ l.watch.latest = true ∨
    l.phase = .waiting ∧ l.watch.seen = l.watch.version ∧ l.watch.closed = true

/-- **An action ends the loop only if it is such a step.** -/
theorem phase_act_eq_ended_iff {l : StopLoop} {a : LoopAction} :
    (l.act a).phase = .ended ↔ l.phase = .ended ∨ a = .step ∧ l.EndsNext := by
  cases a with
  | send value => simp [act, send]
  | drop => simp [act, drop]
  | step =>
    have h := l.steps_step
    rw [act]
    generalize l.step = l' at h ⊢
    cases h <;> simp_all [EndsNext]

/-! ### Runs -/

@[simp] theorem run_append (l : StopLoop) (before after : List LoopAction) :
    l.run (before ++ after) = (l.run before).run after :=
  List.foldl_append

/-- What every action of a course preserves, the course preserves. -/
theorem run_induction (P : StopLoop → Prop) (Ok : LoopAction → Prop)
    (hact : ∀ l a, Ok a → P l → P (l.act a)) {l : StopLoop} (h : P l) {course : List LoopAction}
    (hcourse : ∀ a ∈ course, Ok a) : P (l.run course) := by
  induction course generalizing l with
  | nil => exact h
  | cons a course ih =>
    obtain ⟨ha, hcourse⟩ := List.forall_mem_cons.mp hcourse
    exact ih (hact l a ha h) hcourse

theorem phase_run_of_ended {l : StopLoop} (h : l.phase = .ended) (course : List LoopAction) :
    (l.run course).phase = .ended :=
  run_induction (·.phase = .ended) (fun _ => True) (fun _ a _ hl => phase_act_of_ended hl a) h
    fun _ _ => trivial

/-- **A course ends the loop in one of its steps**, at which the loop was about to end. -/
theorem phase_run_eq_ended_iff (course : List LoopAction) :
    (fresh.run course).phase = .ended ↔
      ∃ before after, course = before ++ .step :: after ∧ (fresh.run before).EndsNext := by
  constructor
  · induction course using List.reverseRecOn with
    | nil => intro h; cases h
    | append_singleton course a ih =>
      rw [run_append]
      intro h
      rcases phase_act_eq_ended_iff.mp h with hended | ⟨rfl, hnext⟩
      · obtain ⟨before, after, rfl, hnext⟩ := ih hended
        exact ⟨before, after ++ [a], by simp, hnext⟩
      · exact ⟨course, [], rfl, hnext⟩
  · rintro ⟨before, after, rfl, hnext⟩
    have hended : ((fresh.run before).act .step).phase = .ended :=
      phase_act_eq_ended_iff.mpr (.inr ⟨rfl, hnext⟩)
    rw [run_append, run_cons]
    exact phase_run_of_ended hended after

/-! ### What the watch holds -/

/-- The value that was written last, `false` being there from the start. -/
def lastSent (course : List LoopAction) : Bool :=
  (course.filterMap LoopAction.value?).getLastD false

/-- **The watch holds what was written last.** -/
theorem latest_run (course : List LoopAction) :
    (fresh.run course).watch.latest = lastSent course := by
  induction course using List.reverseRecOn with
  | nil => rfl
  | append_singleton course a ih =>
    cases a with
    | send value => simp [lastSent, LoopAction.value?, act, send, Watch.send]
    | drop => simpa [lastSent, LoopAction.value?, act, drop, Watch.drop] using ih
    | step => simpa [lastSent, LoopAction.value?, act] using ih

/-- If that is `true`, it was written, and no `false` was written behind it. -/
theorem exists_eq_append_of_lastSent {course : List LoopAction} (h : lastSent course = true) :
    ∃ before after, course = before ++ .send true :: after ∧ .send false ∉ after := by
  induction course using List.reverseRecOn with
  | nil => cases h
  | append_singleton course a ih =>
    cases hvalue : a.value? with
    | none =>
      -- an action that writes nothing leaves the value of the course before it
      obtain ⟨before, after, rfl, hafter⟩ := ih (by simpa [lastSent, hvalue] using h)
      have hne : .send false ≠ a := by
        rintro rfl
        cases hvalue
      exact ⟨before, after ++ [a], by simp, by simp [hafter, hne]⟩
    | some value =>
      obtain rfl := LoopAction.value?_eq_some_iff.mp hvalue
      obtain rfl : value = true := by simpa [lastSent, hvalue] using h
      exact ⟨course, [], rfl, List.not_mem_nil⟩

/-- The watch is closed just if the writer went away. -/
theorem closed_run (course : List LoopAction) :
    (fresh.run course).watch.closed = true ↔ .drop ∈ course := by
  induction course using List.reverseRecOn with
  | nil => simp [fresh, Watch.fresh]
  | append_singleton course a ih =>
    cases a <;> simp [act, send, drop, Watch.send, Watch.drop, ih]

/-- The loop has seen nothing that was not written. -/
theorem seen_le_version (course : List LoopAction) :
    (fresh.run course).watch.seen ≤ (fresh.run course).watch.version := by
  refine run_induction (fun l => l.watch.seen ≤ l.watch.version) (fun _ => True)
    (fun l a _ h => ?_) (Nat.le_refl 0) fun _ _ => trivial
  cases a with
  | send value => exact Nat.le_succ_of_le h
  | drop => exact h
  | step =>
    have hstep := l.steps_step
    rw [act]
    generalize l.step = l' at hstep ⊢
    cases hstep with
    | notices => exact Nat.le_refl _
    | deserted => exact h
    | idles => exact h
    | obeys => exact h
    | resumes => exact h
    | rests => exact h

/-! ### Nothing but a stop ends the loop -/

/-- A loop that has not been told to end. -/
structure Untold (l : StopLoop) : Prop where
  running : l.phase ≠ .ended
  latest : l.watch.latest = false
  closed : l.watch.closed = false

/-- Neither writing `false` nor a step of the loop tells it to end. -/
theorem Untold.act {l : StopLoop} (h : l.Untold) {a : LoopAction}
    (ha : a = .send false ∨ a = .step) : (l.act a).Untold := by
  rcases ha with rfl | rfl
  · exact ⟨h.running, rfl, h.closed⟩
  · refine ⟨fun hended => ?_, (latest_step l).trans h.latest, (closed_step l).trans h.closed⟩
    rcases phase_act_eq_ended_iff.mp hended with hended | ⟨-, ⟨-, hlatest⟩ | ⟨-, -, hclosed⟩⟩
    · exact h.running hended
    · rw [h.latest] at hlatest
      cases hlatest
    · rw [h.closed] at hclosed
      cases hclosed

/-! ### No stop is lost -/

/-- A loop that owes an answer to the `true` that was written as the given version: it has not gone
back to waiting since it noticed that version, and nothing but `true` was written since. -/
structure Owes (version : Nat) (l : StopLoop) : Prop where
  latest : l.watch.latest = true
  written : version ≤ l.watch.version
  unseen : l.phase = .waiting → l.watch.seen < version

/-- A `true` is owed an answer once it is written. -/
theorem owes_send {l : StopLoop} (h : l.watch.seen ≤ l.watch.version) :
    (l.send true).Owes (l.watch.version + 1) where
  latest := rfl
  written := Nat.le_refl _
  unseen _ := Nat.lt_succ_of_le h

/-- **Only a `false` takes the stop back.** -/
theorem Owes.act {version : Nat} {l : StopLoop} (h : l.Owes version) {a : LoopAction}
    (ha : a ≠ .send false) : (l.act a).Owes version := by
  cases a with
  | send value =>
    cases value with
    | true => exact ⟨rfl, Nat.le_succ_of_le h.written, h.unseen⟩
    | false => exact absurd rfl ha
  | drop => exact ⟨h.latest, h.written, h.unseen⟩
  | step =>
    have hstep := l.steps_step
    rw [StopLoop.act]
    generalize l.step = l' at hstep ⊢
    cases hstep with
    -- from where the step leads the loop does not wait
    | notices => exact ⟨h.latest, h.written, fun hphase => by cases hphase⟩
    | deserted => exact ⟨h.latest, h.written, fun hphase => by cases hphase⟩
    | obeys => exact ⟨h.latest, h.written, fun hphase => by cases hphase⟩
    | idles => exact h
    | rests => exact h
    | resumes hphase hlatest =>
      rw [h.latest] at hlatest
      cases hlatest

/-- How many steps a loop that owes an answer needs for it. -/
def stepsLeft (l : StopLoop) : Nat :=
  match l.phase with
  | .waiting => 2
  | .looking => 1
  | .ended => 0

theorem stepsLeft_le (l : StopLoop) : l.stepsLeft ≤ 2 := by
  unfold stepsLeft
  split <;> decide

/-- Each step brings the answer nearer. -/
theorem Owes.stepsLeft_step {version : Nat} {l : StopLoop} (h : l.Owes version) :
    l.step.stepsLeft = l.stepsLeft - 1 := by
  have hseen (hphase : l.phase = .waiting) : l.watch.seen ≠ l.watch.version :=
    Nat.ne_of_lt (Nat.lt_of_lt_of_le (h.unseen hphase) h.written)
  have hstep := l.steps_step
  generalize l.step = l' at hstep ⊢
  cases hstep with
  | notices hphase => simp [stepsLeft, hphase]
  | deserted hphase hnone => exact absurd hnone (hseen hphase)
  | idles hphase hnone => exact absurd hnone (hseen hphase)
  | obeys hphase => simp [stepsLeft, hphase]
  | resumes hphase hlatest =>
    rw [h.latest] at hlatest
    cases hlatest
  | rests hphase => simp [stepsLeft, hphase]

/-- **A stop that is not taken back is obeyed** after two steps at the latest, whatever comes
between them. -/
theorem Owes.phase_run {version : Nat} {l : StopLoop} (h : l.Owes version)
    {later : List LoopAction} (hlater : .send false ∉ later)
    (hsteps : l.stepsLeft ≤ later.count .step) : (l.run later).phase = .ended := by
  induction later generalizing l with
  | nil =>
    have hnone : l.stepsLeft = 0 := by simpa using hsteps
    cases hphase : l.phase <;> simp [stepsLeft, hphase] at hnone
    exact hphase
  | cons a later ih =>
    obtain ⟨ha, hlater⟩ := not_or.mp (List.mem_cons.not.mp hlater)
    refine ih (h.act (Ne.symm ha)) hlater ?_
    cases a with
    | send value => simpa [stepsLeft, StopLoop.act, send] using hsteps
    | drop => simpa [stepsLeft, StopLoop.act, drop] using hsteps
    | step =>
      rw [List.count_cons_self] at hsteps
      rw [StopLoop.act, h.stepsLeft_step]
      omega

/-! ### Loops that come to a standstill -/

/-- To settle is to take some more steps. -/
theorem settle_eq_run (l : StopLoop) : l.settle = l.run (List.replicate 4 .step) := rfl

/-- Once the writer is gone the loop comes to its end. -/
theorem phase_settle_of_closed {l : StopLoop} (h : l.watch.closed = true) :
    l.settle.phase = .ended := by
  obtain ⟨⟨latest, version, seen, closed⟩, phase⟩ := l
  obtain rfl : closed = true := h
  by_cases hseen : seen = version <;> cases latest <;> cases phase <;>
    simp [settle, step, Watch.hasUnseen, hseen]

/-- **The loop comes to its end just if it was told to**: it has ended, or the writer is gone, or
the value written last is `true`. -/
theorem phase_settle_iff (course : List LoopAction) :
    (fresh.run course).settle.phase = .ended ↔
      (fresh.run course).phase = .ended ∨ .drop ∈ course ∨ lastSent course = true := by
  rw [settle_eq_run]
  constructor
  · intro h
    by_contra hno
    obtain ⟨hrunning, hdrop, hlast⟩ : (fresh.run course).phase ≠ .ended ∧ .drop ∉ course ∧
        lastSent course ≠ true := by simpa [not_or] using hno
    have huntold : (fresh.run course).Untold :=
      ⟨hrunning, by rw [latest_run]; exact Bool.eq_false_iff.mpr hlast,
        Bool.eq_false_iff.mpr ((closed_run course).not.mpr hdrop)⟩
    exact (run_induction Untold (· = .step) (fun l a ha hl => hl.act (.inr ha)) huntold
      fun a ha => List.eq_of_mem_replicate ha).running h
  · rintro (hended | hdrop | hlast)
    · exact phase_run_of_ended hended _
    · exact phase_settle_of_closed ((closed_run course).mpr hdrop)
    · obtain ⟨before, after, rfl, hafter⟩ := exists_eq_append_of_lastSent hlast
      rw [run_append, run_cons, ← run_append]
      refine (owes_send (seen_le_version before)).phase_run ?_
        (Nat.le_trans (stepsLeft_le _) ?_)
      · simpa [List.mem_replicate] using hafter
      · simp [List.count_append]

/-! ### The whole course -/

/-- What holds of a loop that has gone through a course. -/
structure StopsWhenTold (course : List LoopAction) : Prop where
  /-- It has ended only if a `true` was written or the writer went away. -/
  told : (fresh.run course).phase = .ended → .send true ∈ course ∨ .drop ∈ course
  /-- It ends in one of its steps: it looks and the value written last is `true`, or it waits, and
  the writer is gone and all that was written is seen. -/
  ended_iff : (fresh.run course).phase = .ended ↔
    ∃ before after, course = before ++ .step :: after ∧
      ((fresh.run before).phase = .looking ∧ lastSent before = true ∨
        (fresh.run before).phase = .waiting ∧ (fresh.run before).watch.hasUnseen = false ∧
          .drop ∈ before)
  /-- However often `false` is written then, that does not end it, and takes back what was written
  before. -/
  kept_running (later : List LoopAction) : (fresh.run course).phase ≠ .ended → .drop ∉ course →
    (∀ a ∈ later, a = .send false ∨ a = .step) →
      (fresh.run (course ++ .send false :: later)).phase ≠ .ended
  /-- A turn that is taken while the latest value is an unseen `true` ends it. A turn is two steps,
  and anything but a `false` may be written while it is taken. -/
  turn_of_unseen (later : List LoopAction) : (fresh.run course).watch.hasUnseen = true →
    (fresh.run course).watch.latest = true → .send false ∉ later → 2 ≤ later.count .step →
      (fresh.run (course ++ later)).phase = .ended
  /-- A turn that is taken while the writer is gone and nothing is unseen ends it with its first
  step. -/
  turn_of_closed : (fresh.run course).phase = .waiting →
    (fresh.run course).watch.hasUnseen = false → (fresh.run course).watch.closed = true →
      (fresh.run (course ++ [.step])).phase = .ended
  /-- After a `true` that no `false` follows, it does not wait with that `true` seen. -/
  not_lost (before after : List LoopAction) : course = before ++ .send true :: after →
    .send false ∉ after → ¬((fresh.run course).phase = .waiting ∧
      (fresh.run before).watch.version < (fresh.run course).watch.seen)
  /-- A server with this loop has finished, once the loop has nothing left to notice, just if the
  loop had ended, the writer is gone, or the value written last is `true`. -/
  server_finished_iff (s : Server) (router : Router) (hrouter : Router.ofPath? s.path = some router)
    (network : Network) (address : String) (elapsed : Nat → Binary64) (task : Nat)
    (requests : List (Request × Backend.Host)) :
    (s.serve network address elapsed task requests (fresh.run course)).ending = some .finished ↔
      (fresh.run course).phase = .ended ∨ .drop ∈ course ∨ lastSent course = true

/-- **The loop ends when it is told to, and only then**, in whatever order values are written, the
writer goes away and the loop takes its steps. -/
theorem stopsWhenTold (course : List LoopAction) : StopsWhenTold course where
  told h := by
    obtain ⟨before, after, rfl, ⟨-, hlatest⟩ | ⟨-, -, hclosed⟩⟩ :=
      (phase_run_eq_ended_iff course).mp h
    · obtain ⟨earlier, later, rfl, -⟩ :=
        exists_eq_append_of_lastSent ((latest_run before).symm.trans hlatest)
      simp
    · simp [(closed_run before).mp hclosed]
  ended_iff := by
    simp only [phase_run_eq_ended_iff, EndsNext, latest_run, closed_run, Watch.hasUnseen,
      bne_eq_false_iff_eq]
  kept_running later hrunning hdrop hlater := by
    have huntold : ((fresh.run course).act (.send false)).Untold :=
      ⟨hrunning, rfl, Bool.eq_false_iff.mpr ((closed_run course).not.mpr hdrop)⟩
    rw [run_append, run_cons]
    exact (run_induction Untold _ (fun l a ha hl => hl.act ha) huntold hlater).running
  turn_of_unseen later hunseen hlatest hlater hsteps := by
    have hseen : (fresh.run course).watch.seen ≠ (fresh.run course).watch.version := by
      simpa [Watch.hasUnseen] using hunseen
    have howes : (fresh.run course).Owes (fresh.run course).watch.version :=
      ⟨hlatest, Nat.le_refl _, fun _ => Nat.lt_of_le_of_ne (seen_le_version course) hseen⟩
    rw [run_append]
    exact howes.phase_run hlater (Nat.le_trans (stepsLeft_le _) hsteps)
  turn_of_closed hphase hseen hclosed := by
    have hseen : (fresh.run course).watch.seen = (fresh.run course).watch.version := by
      simpa [Watch.hasUnseen] using hseen
    rw [run_append]
    exact phase_act_eq_ended_iff.mpr (.inr ⟨rfl, .inr ⟨hphase, hseen, hclosed⟩⟩)
  not_lost before after := by
    rintro rfl hafter ⟨hphase, hseen⟩
    have howes : (fresh.run (before ++ .send true :: after)).Owes
        ((fresh.run before).watch.version + 1) := by
      rw [run_append, run_cons]
      exact run_induction _ (· ≠ .send false) (fun l a ha hl => hl.act ha)
        (owes_send (seen_le_version before)) fun a ha heq => hafter (heq ▸ ha)
    exact absurd (howes.unseen hphase) (Nat.not_lt.mpr hseen)
  server_finished_iff s router hrouter network address elapsed task requests := by
    rw [← phase_settle_iff, Server.serve, hrouter]
    dsimp only
    split_ifs with hended <;> simp [hended]

/-- A `true` can be taken back even after it was noticed: the loop looks at what is there then. -/
example : (fresh.run [.send true, .step, .send false, .step]).phase = .waiting := rfl

end StopLoop

end GpuMetrics.Http
