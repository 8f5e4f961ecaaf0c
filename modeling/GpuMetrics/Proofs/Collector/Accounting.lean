import GpuMetrics.Proofs.Collector.Isolation

/-!
# No reading is lost silently

A field of a device that cannot be read costs its own sample and nothing else, and the log is the
only place where that shows. The account of a device (`GpuMetrics.Collector.Accounts`) is therefore
drawn up from both: the samples that are about the device, and the events about it in which a read
failed. The two are counted, so that a reading which is both shown and reported, or reported twice,
breaks the account just as one which is neither.

The memory is what makes the account more than a table with two columns. Its two sides are read
together, an event about one side comes from the table and an event about both from the collector,
and the four cases in which the sides can be are the four of `GpuMetrics.Collector.MemoryAccount`
(`GpuMetrics.Collector.memoryAccount`).

An account is first drawn up for one device (`GpuMetrics.Collector.accounts_device`). An update
concatenates what its devices leave, so samples and events are lists made index by index, out of
which those of one device can be had back (`GpuMetrics.Collector.filter_flatMap_range`); the main
statement is `GpuMetrics.Collector.Gpu.update_accounts`.
-/

namespace GpuMetrics

namespace Log

/-! ### Events about reads that failed -/

/-- The messages of the events about a read of a device that failed. -/
def failureMessages : List String :=
  ["Skipping GPU device without identity", "GPU reading unavailable",
   "memory.used unavailable", "memory.total unavailable"]

namespace Event

/-- Whether the event is about a read of a device that failed. -/
def isReadFailure (e : Event) : Bool := failureMessages.contains e.message

/-- The number of the device that stands in the event's fields. -/
def device? (e : Event) : Option Nat :=
  match e.fields.lookup "device" with
  | some (.number device) => some device
  | _ => none

/-- Whether the event says that a field of an identified device is unavailable as a whole. -/
def isUnavailable (field : String) (e : Event) : Bool :=
  e.message == "GPU reading unavailable" && e.fields.lookup "field" == some (.text field)

/-- Whether the event says that one side of a device's memory is unavailable. -/
def isSideUnavailable (side : Device.MemorySide) (e : Event) : Bool :=
  e.message == match side with
    | .used => "memory.used unavailable"
    | .total => "memory.total unavailable"

end Event

end Log

/-! ### Lists that are made index by index -/

/-- Out of a list that is made index by index, with elements that know their index, the elements of
one index can be had back. -/
theorem filter_flatMap_range {α : Type} (key : α → Option Nat) {f : Nat → List α}
    (hkey : ∀ j, ∀ x ∈ f j, key x = some j) (n i : Nat) :
    ((List.range n).flatMap f).filter (fun x => key x = some i) = if i < n then f i else [] := by
  induction n with
  | zero => rfl
  | succ n ih =>
    rw [List.range_succ, List.flatMap_append, List.filter_append, ih, List.flatMap_singleton]
    have hlast : (f n).filter (fun x => key x = some i) = if i = n then f i else [] := by
      split_ifs with hi
      · subst hi
        exact List.filter_eq_self.mpr fun x hx => by simp [hkey i x hx]
      · exact List.filter_eq_nil_iff.mpr fun x hx => by simp [hkey n x hx, Ne.symm hi]
    rw [hlast]
    split_ifs <;> first | omega | simp_all

/-- Such a list is in the order of the indices. -/
theorem pairwise_flatMap_range {α : Type} {key : α → Option Nat} {f : Nat → List α}
    (hkey : ∀ j, ∀ x ∈ f j, key x = some j) (n : Nat) :
    ((List.range n).flatMap f).Pairwise
      fun x y => ∀ i j, key x = some i → key y = some j → i ≤ j := by
  refine List.pairwise_flatMap.mpr ⟨fun j _ => ?_, ?_⟩
  · refine List.pairwise_of_forall_mem_list fun x hx y hy i j' hi hj' => ?_
    rw [hkey j x hx, Option.some.injEq] at hi
    rw [hkey j y hy, Option.some.injEq] at hj'
    omega
  · refine List.pairwise_lt_range.imp fun {i j} hij x hx y hy i' j' hi' hj' => ?_
    rw [hkey i x hx, Option.some.injEq] at hi'
    rw [hkey j y hy, Option.some.injEq] at hj'
    omega

namespace Collector

open Backend Csv Device Log Smi GpuMetrics.Metric

/-! ### The account of one device -/

/-- The account of a device's memory, by how often each side is shown, how often each side alone is
reported unavailable, and how often the memory as a whole is. -/
inductive MemoryAccount : (shownUsed shownTotal lostUsed lostTotal lost : Nat) → Prop where
  | both : MemoryAccount 1 1 0 0 0
  | onlyUsed : MemoryAccount 1 0 0 1 0
  | onlyTotal : MemoryAccount 0 1 1 0 0
  | neither : MemoryAccount 0 0 0 0 1

/-- How many of the samples show a quantity. -/
def shown (ns : String) (samples : List Sample) (q : Quantity) : Nat :=
  samples.countP (·.name = Schema.nameUnder ns q.metric)

/-- The account of an identified device, by the samples and by the failure events about it. -/
structure Shown (ns : String) (identity : Identity) (samples : List Sample)
    (failures : List Event) : Prop where
  /-- Every sample has the device's own labels and shows one of the quantities. -/
  ofSample : ∀ x ∈ samples, x.labels = identityLabels identity ∧
    ∃ q : Quantity, x.name = Schema.nameUnder ns q.metric
  /-- Every event is about one of the readings, about the memory or about a side of it. -/
  ofFailure : ∀ e ∈ failures, e.isUnavailable "memory" ∨ (∃ side, e.isSideUnavailable side) ∨
    ∃ r : Reading, e.isUnavailable (fieldOf r)
  /-- For each reading there is either a sample or an event. -/
  reading : ∀ r : Reading,
    shown ns samples (.reading r) + failures.countP (·.isUnavailable (fieldOf r)) = 1
  memory : MemoryAccount (shown ns samples (.memory .used)) (shown ns samples (.memory .total))
    (failures.countP (·.isSideUnavailable .used)) (failures.countP (·.isSideUnavailable .total))
    (failures.countP (·.isUnavailable "memory"))

/-- The account of a device, by what came of identifying it. -/
inductive Accounts (ns : String) :
    Except QueryError Identity → List Sample → List Event → Prop where
  /-- A device that could not be identified is passed over, with one event and no sample. -/
  | skipped {cause : QueryError} {e : Event}
      (message : e.message = "Skipping GPU device without identity") :
      Accounts ns (.error cause) [] [e]
  | shown {identity : Identity} {samples : List Sample} {failures : List Event}
      (account : Shown ns identity samples failures) : Accounts ns (.ok identity) samples failures

/-! ### The samples of one device, counted -/

theorem countP_all (p : Quantity → Bool) (q : Quantity) :
    Quantity.all.countP (fun q' => decide (q' = q) && p q') = if p q then 1 else 0 := by
  rcases q with (_ | _) | (_ | _ | _ | _) <;> simp [Quantity.all, List.countP_cons]

/-- **A quantity of an identified device is shown once if it has a value**, and otherwise not. -/
theorem countP_expectedOfDevice {ns : String} {s : Snapshot} {index : Nat} {identity : Identity}
    (h : s.identity index = .ok identity) (q : Quantity) :
    (expectedOfDevice ns s index).countP (·.name = Schema.nameUnder ns q.metric)
      = if (s.value? index q).isSome then 1 else 0 := by
  rw [expectedOfDevice, h, List.countP_filterMap]
  refine Eq.trans (List.countP_congr fun q' _ => ?_)
    (countP_all (fun q => (s.value? index q).isSome) q)
  cases s.value? index q' <;> simp [Schema.nameUnder_inj]

theorem of_mem_expectedOfDevice {ns : String} {s : Snapshot} {index : Nat} {identity : Identity}
    (h : s.identity index = .ok identity) {o : Observed} (ho : o ∈ expectedOfDevice ns s index) :
    o.labels = identityLabels identity ∧ ∃ q : Quantity, o.name = Schema.nameUnder ns q.metric := by
  simp only [expectedOfDevice, h, List.mem_filterMap, Option.map_eq_some_iff] at ho
  obtain ⟨q, -, x, -, rfl⟩ := ho
  exact ⟨rfl, q, rfl⟩

/-! ### The events of one device, counted -/

section Events

variable (device : Nat) (cause : QueryError)

@[simp] theorem isUnavailable_readingUnavailable (field field' : String) :
    (Event.readingUnavailable device field cause).isUnavailable field' = (field == field') := by
  have hfield : (Event.readingUnavailable device field cause).fields.lookup "field"
      = some (.text field) := rfl
  simp [Event.isUnavailable, Event.message, hfield]

@[simp] theorem isUnavailable_memorySideUnavailable (side : MemorySide) (field : String) :
    (Event.memorySideUnavailable device side cause).isUnavailable field = false := by
  cases side <;> simp [Event.isUnavailable, Event.message]

@[simp] theorem isSideUnavailable_memorySideUnavailable (side side' : MemorySide) :
    (Event.memorySideUnavailable device side cause).isSideUnavailable side'
      = decide (side = side') := by
  cases side <;> cases side' <;> simp [Event.isSideUnavailable, Event.message]

@[simp] theorem isSideUnavailable_readingUnavailable (field : String) (side : MemorySide) :
    (Event.readingUnavailable device field cause).isSideUnavailable side = false := by
  cases side <;> simp [Event.isSideUnavailable, Event.message]

end Events

/-- **A read that failed leaves one event about its field**, and one that did not leaves none. -/
theorem countP_isUnavailable_failureEvents {α : Type} (device : Nat) (field field' : String)
    (x : Except QueryError α) :
    (failureEvents device field x).countP (·.isUnavailable field')
      = if field = field' ∧ x.toOption = none then 1 else 0 := by
  cases x <;> simp [failureEvents, Except.toOption, List.countP_cons]

theorem countP_isSideUnavailable_failureEvents {α : Type} (device : Nat) (field : String)
    (side : MemorySide) (x : Except QueryError α) :
    (failureEvents device field x).countP (·.isSideUnavailable side) = 0 := by
  cases x <;> simp [failureEvents]

theorem countP_isUnavailable_readingEvents (s : Snapshot) (index : Nat) (r : Reading) :
    (readingEvents s index).countP (·.isUnavailable (fieldOf r))
      = if (s.reading r index).toOption = none then 1 else 0 := by
  cases r <;> simp [readingEvents, fieldOf, countP_isUnavailable_failureEvents]

theorem countP_isUnavailable_memory_readingEvents (s : Snapshot) (index : Nat) :
    (readingEvents s index).countP (·.isUnavailable "memory") = 0 := by
  simp [readingEvents, fieldOf, countP_isUnavailable_failureEvents]

theorem countP_isSideUnavailable_readingEvents (s : Snapshot) (index : Nat) (side : MemorySide) :
    (readingEvents s index).countP (·.isSideUnavailable side) = 0 := by
  simp [readingEvents, countP_isSideUnavailable_failureEvents]

/-- The events about the memory of a device: those of the snapshot itself, and that of a read that
failed as a whole. -/
def memoryEvents (s : Snapshot) (index : Nat) : List Event :=
  (s.memory index).events ++ failureEvents index "memory" (s.memory index).value

/-- What a table can answer about the memory of a device: both sides, one side with an event about
the other, or neither. -/
theorem memory_cases (t : Table) (index : Nat) :
    (∃ used total, t.snapshot.memory index = ⟨.ok ⟨some used, some total⟩, []⟩) ∨
      (∃ used cause, t.snapshot.memory index
        = ⟨.ok ⟨some used, none⟩, [.memorySideUnavailable index .total cause]⟩) ∨
      (∃ total cause, t.snapshot.memory index
        = ⟨.ok ⟨none, some total⟩, [.memorySideUnavailable index .used cause]⟩) ∨
      ∃ cause, t.snapshot.memory index = ⟨.error cause, []⟩ := by
  simp only [Table.snapshot, Table.memory]
  cases t.memoryBytes index .memoryUsed with
  | ok used =>
    cases t.memoryBytes index .memoryTotal with
    | ok total => exact Or.inl ⟨used, total, rfl⟩
    | error cause => exact Or.inr (Or.inl ⟨used, cause, rfl⟩)
  | error cause =>
    cases t.memoryBytes index .memoryTotal with
    | ok total => exact Or.inr (Or.inr (Or.inl ⟨total, cause, rfl⟩))
    | error _ => exact Or.inr (Or.inr (Or.inr ⟨cause, rfl⟩))

/-- **The memory of a device in a table is accounted for**, whichever of its cells are readable. -/
theorem memoryAccount (t : Table) (index : Nat) :
    MemoryAccount (if (t.snapshot.value? index (.memory .used)).isSome then 1 else 0)
      (if (t.snapshot.value? index (.memory .total)).isSome then 1 else 0)
      ((memoryEvents t.snapshot index).countP (·.isSideUnavailable .used))
      ((memoryEvents t.snapshot index).countP (·.isSideUnavailable .total))
      ((memoryEvents t.snapshot index).countP (·.isUnavailable "memory")) := by
  rcases memory_cases t index with ⟨used, total, h⟩ | ⟨used, cause, h⟩ | ⟨total, cause, h⟩ |
    ⟨cause, h⟩
  · simpa [memoryEvents, Snapshot.value?, h, Except.toOption, failureEvents]
      using MemoryAccount.both
  · simpa [memoryEvents, Snapshot.value?, h, Except.toOption, failureEvents]
      using MemoryAccount.onlyUsed
  · simpa [memoryEvents, Snapshot.value?, h, Except.toOption, failureEvents]
      using MemoryAccount.onlyTotal
  · simpa [memoryEvents, Snapshot.value?, h, Except.toOption, failureEvents]
      using MemoryAccount.neither

theorem of_mem_failureEvents {α : Type} {device : Nat} {field : String} {x : Except QueryError α}
    {e : Event} (he : e ∈ failureEvents device field x) :
    ∃ cause, e = .readingUnavailable device field cause := by
  cases x with
  | ok a => cases he
  | error cause => exact ⟨cause, List.mem_singleton.mp he⟩

theorem of_mem_memoryEvents {t : Table} {index : Nat} {e : Event}
    (he : e ∈ memoryEvents t.snapshot index) :
    (∃ cause, e = .readingUnavailable index "memory" cause) ∨
      ∃ side cause, e = .memorySideUnavailable index side cause := by
  rcases List.mem_append.mp he with he | he
  · rcases memory_cases t index with ⟨used, total, h⟩ | ⟨used, cause, h⟩ | ⟨total, cause, h⟩ |
      ⟨cause, h⟩ <;> rw [h] at he
    · cases he
    · exact Or.inr ⟨_, _, List.mem_singleton.mp he⟩
    · exact Or.inr ⟨_, _, List.mem_singleton.mp he⟩
    · cases he
  · exact Or.inl (of_mem_failureEvents he)

theorem of_mem_readingEvents {s : Snapshot} {index : Nat} {e : Event}
    (he : e ∈ readingEvents s index) :
    ∃ (r : Reading) (cause : QueryError), e = .readingUnavailable index (fieldOf r) cause := by
  obtain ⟨r, -, he⟩ := List.mem_flatMap.mp he
  exact ⟨r, of_mem_failureEvents he⟩

/-- No event about the memory of a device is taken for one about a reading. -/
theorem countP_isUnavailable_memoryEvents (t : Table) (index : Nat) (r : Reading) :
    (memoryEvents t.snapshot index).countP (·.isUnavailable (fieldOf r)) = 0 := by
  have hfield : ("memory" == fieldOf r) = false := by cases r <;> decide
  refine List.countP_eq_zero.mpr fun e he => ?_
  rcases of_mem_memoryEvents he with ⟨cause, rfl⟩ | ⟨side, cause, rfl⟩ <;> simp [hfield]

/-! ### The account of a device in a table -/

theorem expectedEventsOfDevice_eq {s : Snapshot} {index : Nat} {identity : Identity}
    (h : s.identity index = .ok identity) :
    expectedEventsOfDevice s index = memoryEvents s index ++ readingEvents s index := by
  rw [expectedEventsOfDevice, h]
  rfl

/-- **Every event that a device leaves is about a read that failed, and bears the device's
number.** -/
theorem of_mem_expectedEventsOfDevice {t : Table} {index : Nat} {e : Event}
    (he : e ∈ expectedEventsOfDevice t.snapshot index) :
    e.isReadFailure = true ∧ e.device? = some index := by
  cases hidentity : t.snapshot.identity index with
  | error cause =>
    rw [expectedEventsOfDevice, hidentity] at he
    obtain rfl := List.mem_singleton.mp he
    exact ⟨rfl, rfl⟩
  | ok identity =>
    rw [expectedEventsOfDevice_eq hidentity, List.mem_append] at he
    rcases he with he | he
    · rcases of_mem_memoryEvents he with ⟨cause, rfl⟩ | ⟨side, cause, rfl⟩
      · exact ⟨rfl, rfl⟩
      · cases side <;> exact ⟨rfl, rfl⟩
    · obtain ⟨r, cause, rfl⟩ := of_mem_readingEvents he
      exact ⟨rfl, rfl⟩

section Device

variable {ns : String} {t : Table} {index : Nat} {samples : List Sample}
  (hsamples : samples.map Sample.observed = expectedOfDevice ns t.snapshot index)
include hsamples

theorem shown_eq {identity : Identity} (h : t.snapshot.identity index = .ok identity)
    (q : Quantity) :
    shown ns samples q = if (t.snapshot.value? index q).isSome then 1 else 0 := by
  rw [← countP_expectedOfDevice h, ← hsamples, List.countP_map]
  rfl

/-- **Each device of a table is accounted for**, by the samples that are seen of it and the events
that it leaves. -/
theorem accounts_device :
    Accounts ns (t.identity index) samples (expectedEventsOfDevice t.snapshot index) := by
  cases hidentity : t.identity index with
  | error cause =>
    have hskipped : t.snapshot.identity index = .error cause := hidentity
    rw [expectedOfDevice, hskipped, List.map_eq_nil_iff] at hsamples
    rw [hsamples, expectedEventsOfDevice, hskipped]
    exact .skipped rfl
  | ok identity =>
    have hshown : t.snapshot.identity index = .ok identity := hidentity
    rw [expectedEventsOfDevice_eq hshown]
    refine .shown ⟨fun x hx => ?_, fun e he => ?_, fun r => ?_, ?_⟩
    · exact of_mem_expectedOfDevice hshown (o := x.observed)
        (hsamples ▸ List.mem_map_of_mem hx)
    · rcases List.mem_append.mp he with he | he
      · rcases of_mem_memoryEvents he with ⟨cause, rfl⟩ | ⟨side, cause, rfl⟩
        · exact Or.inl (by simp)
        · exact Or.inr (Or.inl ⟨side, by simp⟩)
      · obtain ⟨r, cause, rfl⟩ := of_mem_readingEvents he
        exact Or.inr (Or.inr ⟨r, by simp⟩)
    · rw [shown_eq hsamples hshown, List.countP_append, countP_isUnavailable_memoryEvents,
        countP_isUnavailable_readingEvents, Snapshot.value?]
      cases t.snapshot.reading r index <;> rfl
    · rw [shown_eq hsamples hshown, shown_eq hsamples hshown, List.countP_append,
        List.countP_append, List.countP_append, countP_isSideUnavailable_readingEvents,
        countP_isSideUnavailable_readingEvents, countP_isUnavailable_memory_readingEvents]
      exact memoryAccount t index

end Device

namespace Gpu

/-! ### The account of an update -/

/-- The samples of an update that are about a device. -/
def samplesAbout (g : Gpu) (host : Host) (releases device : Nat) : List Sample :=
  ((g.attributed host releases).filter (·.1 = some device)).map Prod.snd

/-- The events of an update about reads of a device that failed. -/
def failuresAbout (g : Gpu) (host : Host) (releases device : Nat) : List Event :=
  ((g.update host releases).emission.events.filter Event.isReadFailure).filter
    (·.device? = some device)

theorem attributedDevices_filter {g : Gpu} {ns : String} (h : g.schema.IsUnder ns) {s : Snapshot}
    {device : Nat} (hdevice : device < s.length) :
    (((g.attributedDevices s).filter (·.1 = some device)).map Prod.snd).map Sample.observed
      = expectedOfDevice ns s device := by
  have hblocks := filter_flatMap_range Prod.fst
    (f := fun i => (g.deviceBlock s i).samples.map (some i, ·)) (fun j x hx => by
      obtain ⟨y, -, rfl⟩ := List.mem_map.mp hx
      rfl) s.length device
  have hcount : ((Emission.sample g.schema.deviceCount [] (.ofNat s.length)).samples.map
      ((none : Option Nat), ·)).filter (·.1 = some device) = [] := by
    simp
  rw [attributedDevices, List.filter_append, hblocks, if_pos hdevice, hcount, List.nil_append,
    List.map_map, List.map_map, ← map_observed_deviceBlock h]
  rfl

section Update

variable {ns command : String} {g : Gpu} (hg : (ofBackend? ns (backend command)).value = .ok g)
  {host : Host} {stdout stderr : List UInt8} {t : Table}
  (hhost : host.launch command = .ended (.exited 0) stdout stderr)
  (ht : Table.ofOutput? stdout = .ok t) (releases : Nat)
include hg hhost ht

/-- Behind the two events about the output come those of the devices, and no others. -/
theorem events_update_of_table :
    (g.update host releases).emission.events
      = [.outputReceived stdout.length, .tableParsed t.rows.length] ++
        (List.range t.count.toNat).flatMap (expectedEventsOfDevice t.snapshot) := by
  obtain ⟨hunder, hsource⟩ := isUnder_of_ofBackend? hg
  have hquery : (backend command).query host releases
      = ⟨.ok t.snapshot, [.outputReceived stdout.length, .tableParsed t.rows.length]⟩ := by
    simp [backend, Smi.query, hhost, ExitStatus.isSuccess, ht, Except.map]
  rw [events_update hunder, hsource, hquery]
  rfl

theorem attributed_of_table : g.attributed host releases = g.attributedDevices t.snapshot := by
  obtain ⟨-, hsource⟩ := isUnder_of_ofBackend? hg
  rw [attributed, hsource, query_of_output hhost ht]

/-- The events about reads that failed are those of the devices, one device after the other. -/
theorem filter_isReadFailure_of_table :
    (g.update host releases).emission.events.filter Event.isReadFailure
      = (List.range t.count.toNat).flatMap (expectedEventsOfDevice t.snapshot) := by
  rw [events_update_of_table hg hhost ht, List.filter_append]
  refine congrArg _ (List.filter_eq_self.mpr fun e he => ?_)
  obtain ⟨device, -, he⟩ := List.mem_flatMap.mp he
  exact (of_mem_expectedEventsOfDevice he).1

theorem failuresAbout_of_table {device : Nat} (hdevice : device < t.count.toNat) :
    g.failuresAbout host releases device = expectedEventsOfDevice t.snapshot device := by
  rw [failuresAbout, filter_isReadFailure_of_table hg hhost ht,
    filter_flatMap_range _ fun _ _ he => (of_mem_expectedEventsOfDevice he).2, if_pos hdevice]

end Update

/-- The device count is the only sample that is about no device, and there is no other device than
those that are counted. -/
theorem device_of_mem_attributedDevices {g : Gpu} {ns : String} (h : g.schema.IsUnder ns)
    {s : Snapshot} {x : Option Nat × Sample} (hx : x ∈ g.attributedDevices s) :
    (x.1 = none ∧ x.2.observed = expectedCount ns s.length) ∨ ∃ i < s.length, x.1 = some i := by
  obtain ⟨count, hcount, hobserved⟩ := sample_deviceCount h (.ofNat s.length)
  rw [attributedDevices, hcount, List.mem_append] at hx
  rcases hx with hx | hx
  · obtain rfl := List.mem_singleton.mp hx
    exact Or.inl ⟨rfl, hobserved⟩
  · obtain ⟨i, hi, hx⟩ := List.mem_flatMap.mp hx
    obtain ⟨y, -, rfl⟩ := List.mem_map.mp hx
    exact Or.inr ⟨i, List.mem_range.mp hi, rfl⟩

/-- **No reading is lost silently.** Over every output that is read as a table, an update accounts
for each device: one that cannot be identified leaves one event and no sample, and of one that can
be identified each reading, and each side of its memory, is either shown once or reported
unavailable once. No other event is about a read that failed, none of them bears the number of a
device that is not there, and they come in the order of the devices. -/
theorem update_accounts {ns command : String} {g : Gpu}
    (hg : (ofBackend? ns (backend command)).value = .ok g) {host : Host}
    {stdout stderr : List UInt8} {t : Table}
    (hhost : host.launch command = .ended (.exited 0) stdout stderr)
    (ht : Table.ofOutput? stdout = .ok t) (releases : Nat) :
    let update := g.update host releases
    (g.attributed host releases).map Prod.snd = update.emission.samples ∧
      (∀ x ∈ g.attributed host releases,
        (x.1 = none ∧ x.2.observed = expectedCount ns t.count.toNat) ∨
          ∃ device < t.count.toNat, x.1 = some device) ∧
      (∀ device < t.count.toNat, Accounts ns (t.identity device)
        (g.samplesAbout host releases device) (g.failuresAbout host releases device)) ∧
      update.emission.events
        = [.outputReceived stdout.length, .tableParsed t.rows.length] ++
          update.emission.events.filter Event.isReadFailure ∧
      (∀ e ∈ update.emission.events, e.isReadFailure →
        ∃ device < t.count.toNat, e.device? = some device) ∧
      (update.emission.events.filter Event.isReadFailure).Pairwise fun e e' =>
        ∀ device device', e.device? = some device → e'.device? = some device' →
          device ≤ device' := by
  intro update
  obtain ⟨hunder, -⟩ := isUnder_of_ofBackend? hg
  have hlength : t.snapshot.length = t.count.toNat := rfl
  have hattributed := attributed_of_table hg hhost ht releases
  have hfailures : update.emission.events.filter Event.isReadFailure
      = (List.range t.count.toNat).flatMap (expectedEventsOfDevice t.snapshot) :=
    filter_isReadFailure_of_table hg hhost ht releases
  have hkey (device : Nat) : ∀ e ∈ expectedEventsOfDevice t.snapshot device,
      e.device? = some device := fun e he => (of_mem_expectedEventsOfDevice he).2
  refine ⟨map_snd_attributed .., fun x hx => ?_, fun device hdevice => ?_, ?_, fun e he hread => ?_,
    ?_⟩
  · rw [hattributed] at hx
    rw [← hlength]
    exact device_of_mem_attributedDevices hunder hx
  · have hsamples : (g.samplesAbout host releases device).map Sample.observed
        = expectedOfDevice ns t.snapshot device := by
      rw [samplesAbout, hattributed]
      exact attributedDevices_filter hunder hdevice
    rw [failuresAbout_of_table hg hhost ht releases hdevice]
    exact accounts_device hsamples
  · rw [hfailures]
    exact events_update_of_table hg hhost ht releases
  · have he' : e ∈ update.emission.events.filter Event.isReadFailure :=
      List.mem_filter.mpr ⟨he, hread⟩
    rw [hfailures] at he'
    obtain ⟨device, hdevice, he'⟩ := List.mem_flatMap.mp he'
    exact ⟨device, List.mem_range.mp hdevice, hkey device e he'⟩
  · rw [hfailures]
    exact pairwise_flatMap_range hkey _

/-- A row that tells neither how much memory is used nor the power, with sevens elsewhere. -/
def gappyRow : Line where
  cells := [] :: Column.all.reverse.map fun c =>
    if c = .memoryUsed ∨ c = .powerDraw then [0x5b] else [0x37]
  ending := .lf

/-- A machine on which the command prints a device without a name and one with such a row. -/
def gappyHost : Host where
  launch _ := .ended (.exited 0) (write [reversedHeader, sevens, gappyRow]) [0x78]

/-- The first device is passed over; of the second one side of the memory and the power are
reported unavailable, and the rest is shown. -/
theorem update_accounts_gappy :
    ∃ g t, (ofBackend? "node" (backend "smi")).value = .ok g ∧
      Table.ofOutput? (write [reversedHeader, sevens, gappyRow]) = .ok t ∧
      Accounts "node" (.error (.unavailable "name" "not valid UTF-8"))
        (g.samplesAbout gappyHost 0 0) (g.failuresAbout gappyHost 0 0) ∧
      Accounts "node" (.ok ⟨"7", "7", "7"⟩)
        (g.samplesAbout gappyHost 0 1) (g.failuresAbout gappyHost 0 1) ∧
      g.failuresAbout gappyHost 0 1
        = [.memorySideUnavailable 1 .used (.unavailable "memory.used" "["),
           .readingUnavailable 1 "power" (.unavailable "power.draw" "[")] := by
  obtain ⟨g, hg⟩ := exists_ofBackend?_node (backend "smi")
  have htable : IsDeviceTable reversedHeader [sevens, gappyRow] :=
    ⟨spells_reversedHeader, by decide⟩
  have ht : Table.ofOutput? (write [reversedHeader, sevens, gappyRow])
      = .ok (Table.ofLines reversedHeader [sevens, gappyRow]) :=
    ofOutput?_write htable.named htable.width
  have hhost : gappyHost.launch "smi"
      = .ended (.exited 0) (write [reversedHeader, sevens, gappyRow]) [0x78] := rfl
  obtain ⟨-, -, haccounts, -, -, -⟩ := update_accounts hg hhost ht 0
  have hfirst : (Table.ofLines reversedHeader [sevens, gappyRow]).identity 0
      = .error (.unavailable "name" "not valid UTF-8") := by decide +kernel
  have hsecond : (Table.ofLines reversedHeader [sevens, gappyRow]).identity 1
      = .ok ⟨"7", "7", "7"⟩ := by decide +kernel
  refine ⟨g, _, hg, ht, hfirst ▸ haccounts 0 (by decide), hsecond ▸ haccounts 1 (by decide), ?_⟩
  rw [failuresAbout_of_table hg hhost ht 0 (by decide)]
  decide +kernel

end Gpu

end Collector

end GpuMetrics
