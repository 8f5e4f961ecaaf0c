import GpuMetrics.Proofs.Collector.Sampler
import GpuMetrics.Proofs.Smi.Verdict
import GpuMetrics.Smi.Backend

/-!
# A failing command costs the devices and nothing else

The device collector may run a command of which nothing is known: it need not exist, it may end in
any way and print anything. What can go wrong comes in an order, and each way of failing takes for
granted that those before it did not happen (`GpuMetrics.Smi.Fails`): the command was started, it
ended well, its records are of one width, its rows make a table. Whatever it is, the update fails
with that one error and still tells the number of devices, which is then zero.

The main statement is `GpuMetrics.Collector.Gpu.update_contains_failures`.
-/

namespace GpuMetrics

namespace Smi

open Backend Csv

/-! ### What becomes of a run -/

/-- How a run of the command fails, by what became of starting it. -/
inductive Fails (command : String) : Launch → BackendError → Prop where
  | notStarted {cause : SystemError} : Fails command (.refused cause) (.notStarted command cause)
  /-- It ended badly. What it printed does not matter, be it a table. -/
  | endedBadly {status : ExitStatus} {stdout stderr : List UInt8} (bad : status ≠ .exited 0) :
      Fails command (.ended status stdout stderr)
        (.commandFailed command status (Text.trim (Text.decodeLossy stderr)))
  /-- Its records differ in width. What the first of them names does not matter. -/
  | malformed {stdout stderr : List UInt8} {cause : WidthError} (misfit : Misfit stdout cause) :
      Fails command (.ended (.exited 0) stdout stderr) (.malformed cause)
  /-- Its rows make no table. -/
  | lacking {stdout stderr : List UInt8} {rows : List (List Cell)} {e : BackendError}
      (even : rows? stdout = .ok rows) (lacks : Lacks rows e) :
      Fails command (.ended (.exited 0) stdout stderr) e

theorem isSuccess_eq_true_iff {status : ExitStatus} :
    status.isSuccess = true ↔ status = .exited 0 := by
  rcases status with (_ | code) | signal <;> simp [ExitStatus.isSuccess]

section Query

variable {command : String} {host : Host}

theorem query_of_refused {cause : SystemError} (h : host.launch command = .refused cause) :
    (query command host).value = .error (.notStarted command cause) := by
  simp only [query, h]

theorem query_of_bad {status : ExitStatus} {stdout stderr : List UInt8}
    (h : host.launch command = .ended status stdout stderr) (bad : status ≠ .exited 0) :
    (query command host).value
      = .error (.commandFailed command status (Text.trim (Text.decodeLossy stderr))) := by
  simp only [query, h, isSuccess_eq_true_iff, bad, if_false]

/-- A command that ended well is taken at what it printed. -/
theorem query_of_good {stdout stderr : List UInt8}
    (h : host.launch command = .ended (.exited 0) stdout stderr) :
    (query command host).value = Table.ofOutput? stdout := by
  simp only [query, h, isSuccess_eq_true_iff, if_true]
  cases Table.ofOutput? stdout <;> rfl

/-- **A run gives a table just if the command ended well and printed one.** -/
theorem query_eq_ok_iff {t : Table} : (query command host).value = .ok t ↔
    ∃ stdout stderr, host.launch command = .ended (.exited 0) stdout stderr ∧
      Table.ofOutput? stdout = .ok t := by
  constructor
  · intro h
    cases hlaunch : host.launch command with
    | refused cause =>
      rw [query_of_refused hlaunch] at h
      cases h
    | ended status stdout stderr =>
      by_cases hstatus : status = .exited 0
      · subst hstatus
        exact ⟨stdout, stderr, rfl, (query_of_good hlaunch).symm.trans h⟩
      · rw [query_of_bad hlaunch hstatus] at h
        cases h
  · rintro ⟨stdout, stderr, hlaunch, htable⟩
    rw [query_of_good hlaunch, htable]

/-- **A run fails with the first thing that went wrong.** -/
theorem query_eq_error_iff {e : BackendError} :
    (query command host).value = .error e ↔ Fails command (host.launch command) e := by
  cases hlaunch : host.launch command with
  | refused cause =>
    rw [query_of_refused hlaunch, Except.error.injEq]
    refine ⟨fun h => h ▸ .notStarted, fun h => ?_⟩
    cases h
    rfl
  | ended status stdout stderr =>
    by_cases hstatus : status = .exited 0
    · subst hstatus
      rw [query_of_good hlaunch, ofOutput?_eq_error_iff]
      constructor
      · rintro (⟨cause, hmisfit, rfl⟩ | ⟨rows, hrows, hlacks⟩)
        · exact .malformed hmisfit
        · exact .lacking hrows hlacks
      · rintro (_ | hbad | hmisfit | ⟨hrows, hlacks⟩)
        · exact absurd rfl hbad
        · exact Or.inl ⟨_, hmisfit, rfl⟩
        · exact Or.inr ⟨_, hrows, hlacks⟩
    · rw [query_of_bad hlaunch hstatus, Except.error.injEq]
      constructor
      · rintro rfl
        exact .endedBadly hstatus
      · rintro (_ | hbad | hmisfit | ⟨hrows, hlacks⟩)
        · rfl
        · exact absurd rfl hstatus
        · exact absurd rfl hstatus

/-- **The source gives a snapshot just if the run gave a table**, and then it is the table's. -/
theorem value_query_backend_eq_ok_iff {releases : Nat} {s : Snapshot} :
    ((backend command).query host releases).value = .ok s ↔
      ∃ t, (query command host).value = .ok t ∧ t.snapshot = s := by
  simp only [backend]
  cases (query command host).value <;> simp [Except.map]

theorem value_query_backend_eq_error_iff {releases : Nat} {e : BackendError} :
    ((backend command).query host releases).value = .error e ↔
      Fails command (host.launch command) e := by
  simp only [← query_eq_error_iff, backend]
  cases (query command host).value <;> simp [Except.map]

/-- Of a command that ended well its error output is not looked at. -/
theorem query_congr_of_good {host' : Host} {stdout stderr stderr' : List UInt8}
    (h : host.launch command = .ended (.exited 0) stdout stderr)
    (h' : host'.launch command = .ended (.exited 0) stdout stderr') :
    query command host' = query command host := by
  simp only [query, h, h', isSuccess_eq_true_iff, if_true]

end Query

/-- A table that was read has as many devices as rows, as long as these can be counted. -/
theorem Table.length_snapshot {t : Table} (h : t.rows.length < UInt32.size) :
    t.snapshot.length = t.rows.length := by
  simp only [Snapshot.length, Table.snapshot, Table.count]
  exact UInt32.toNat_ofNat_of_lt' h

end Smi

namespace Collector

open Backend Csv Smi GpuMetrics.Metric

namespace Gpu

/-! ### Updates over a command -/

/-- **A failing command costs the devices and nothing else.** Whatever becomes of the command, an
update over it comes to an end. It succeeds just if the command was started, ended well and printed
a table. Otherwise it fails with one error, the first in the order of `Smi.Fails`, and emits the
number of devices alone, which is zero. When it succeeds the number is that of the table's rows,
without the header, and the error output has no say in anything that the update leaves. -/
theorem update_contains_failures {ns command : String} {g : Gpu}
    (h : (ofBackend? ns (backend command)).value = .ok g) (host : Host) (releases : Nat) :
    let update := g.update host releases
    let launch := host.launch command
    (∀ message, update.ending ≠ .crashed message) ∧
      (update.ending = .succeeded ↔ ∃ stdout stderr t,
        launch = .ended (.exited 0) stdout stderr ∧ Table.ofOutput? stdout = .ok t) ∧
      (∀ cause, update.ending = .failed cause ↔
        ∃ e, cause = .backend e ∧ Fails command launch e) ∧
      (update.ending ≠ .succeeded →
        update.emission.samples.map Sample.observed = [expectedCount ns 0]) ∧
      ∀ stdout stderr t, launch = .ended (.exited 0) stdout stderr →
        Table.ofOutput? stdout = .ok t →
          (∃ rows, rows? stdout = .ok rows ∧ Makes rows t) ∧
          (t.rows.length < UInt32.size →
            update.emission.samples.map Sample.observed = expectedCount ns t.rows.length ::
              (List.range t.rows.length).flatMap (expectedOfDevice ns t.snapshot)) ∧
          ∀ (host' : Host) (releases' : Nat) (stderr' : List UInt8),
            host'.launch command = .ended (.exited 0) stdout stderr' →
              g.update host' releases' = update := by
  obtain ⟨hunder, hsource⟩ := isUnder_of_ofBackend? h
  intro update launch
  have hending : update.ending
      = expectedEnding ((backend command).query host releases).value := by
    rw [ending_update, hsource]
  have hsamples : update.emission.samples.map Sample.observed
      = expected ns ((backend command).query host releases).value := by
    rw [map_observed_update hunder, hsource]
  have hgood {stdout stderr : List UInt8} {t : Table}
      (hlaunch : launch = .ended (.exited 0) stdout stderr) (ht : Table.ofOutput? stdout = .ok t) :
      ((backend command).query host releases).value = .ok t.snapshot :=
    value_query_backend_eq_ok_iff.mpr ⟨t, query_eq_ok_iff.mpr ⟨stdout, stderr, hlaunch, ht⟩, rfl⟩
  refine ⟨fun message => ?_, ⟨fun hok => ?_, fun ⟨stdout, stderr, t, hlaunch, ht⟩ => ?_⟩,
    fun cause => ?_, fun hfailed => ?_,
    fun stdout stderr t hlaunch ht => ⟨ofOutput?_eq_ok_iff.mp ht, ?_, ?_⟩⟩
  · rw [hending]
    exact expectedEnding_ne_crashed _ message
  · rw [hending, expectedEnding_eq_succeeded_iff] at hok
    obtain ⟨s, hok⟩ := hok
    obtain ⟨t, hquery, -⟩ := value_query_backend_eq_ok_iff.mp hok
    obtain ⟨stdout, stderr, hlaunch, ht⟩ := query_eq_ok_iff.mp hquery
    exact ⟨stdout, stderr, t, hlaunch, ht⟩
  · rw [hending, hgood hlaunch ht]
    rfl
  · simp only [hending, expectedEnding_eq_failed_iff, value_query_backend_eq_error_iff]
    rfl
  · cases hopened : ((backend command).query host releases).value with
    | ok s =>
      rw [hending, hopened] at hfailed
      exact absurd rfl hfailed
    | error e =>
      rw [hsamples, hopened]
      rfl
  · intro hcount
    rw [hsamples, hgood hlaunch ht, expected, Table.length_snapshot hcount]
  · intro host' releases' stderr' hlaunch'
    have hsame : g.source.query host' releases' = g.source.query host releases := by
      rw [hsource]
      simp only [backend, query_congr_of_good hlaunch hlaunch']
    simp only [update, Gpu.update, hsame]

/-- A machine on which a signal ends the command after it has printed a table. -/
def killedHost : Host where
  launch _ := .ended (.signaled 9) (write [reversedHeader, sevens]) [0x20, 0x78]

/-- Of that table nothing is exported. -/
theorem update_contains_failures_killed :
    (Table.ofOutput? (write [reversedHeader, sevens])).toOption.isSome = true ∧
      ∃ g, (ofBackend? "node" (backend "smi")).value = .ok g ∧
        (g.update killedHost 0).ending
          = .failed (.backend (.commandFailed "smi" (.signaled 9) "x")) ∧
        (g.update killedHost 0).emission.samples.map Sample.observed
          = [⟨"node_gpu_num_devices", [], .zero⟩] := by
  refine ⟨by decide +kernel, ?_⟩
  obtain ⟨g, hg⟩ := exists_ofBackend?_node (backend "smi")
  obtain ⟨-, -, hfails, hcount, -⟩ := update_contains_failures hg killedHost 0
  have hended : Fails "smi" (killedHost.launch "smi") (.commandFailed "smi" (.signaled 9) "x") :=
    .endedBadly (by decide)
  have hending := (hfails _).mpr ⟨_, rfl, hended⟩
  refine ⟨g, hg, hending, (hcount ?_).trans (by decide +kernel)⟩
  rw [hending]
  exact Ending.noConfusion

end Gpu

end Collector

end GpuMetrics
