import GpuMetrics.Proofs.Collector.Accounting
import GpuMetrics.Proofs.Exposition.Named

/-!
# From a cell of the device table to a line of the text

A number that can be read in a cell of an identified device goes a long way: it is converted to the
unit of its quantity, becomes the value of a sample, is grouped with the samples of its family and
is written down among whatever the other collectors have to say. Where the way ends is said at once
(`GpuMetrics.Collector.Gpu.IsWritten`): under the name of the quantity the text has one series about
the device, with the labels of the device and with the converted number for a value.

That every readable cell gets there is `GpuMetrics.Collector.Gpu.isWritten_of_number`. What is left
to ask about a cell is how its text is read, and what text the converted number has.
-/

namespace GpuMetrics

namespace Smi.Table

open Csv Device

/-! ### The number in a cell -/

/-- A text with a first character that is no bracket is a value. -/
theorem isPlaceholder_cons {first : Char} (h : first ≠ '[') (rest : List Char) :
    isPlaceholder (String.ofList (first :: rest)) = false := by
  rw [isPlaceholder, String.toList_ofList, List.head?_cons, Option.all_some]
  exact beq_false_of_ne h

/-- A cell with a value holds the number that its text is read as. -/
theorem number_of_cell {t : Table} {index : Nat} {c : Column} {value : String} {x : Binary64}
    (hcell : t.cell index c = .ok value) (hvalue : isPlaceholder value = false)
    (hread : Binary64.ofText? value.toList = some x) : t.number index c = .ok x := by
  simp [number, text, hcell, hvalue, hread]

end Smi.Table

namespace Collector

open Backend Csv Device Smi GpuMetrics.Metric GpuMetrics.Metric.Exposition

/-! ### The value of a quantity -/

/-- The value of a quantity when its cell holds the given number: memory is converted to bytes and
power to milliwatts. -/
def Quantity.ofNumber : Quantity → Binary64 → Binary64
  | .memory _, x => x.scale 1048576
  | .reading .power, x => x.scale 1000
  | .reading _, x => x

/-- **A number in the cell of a quantity gives it a value**, whatever the other cells hold. -/
theorem value?_of_number {t : Table} {index : Nat} {q : Quantity} {x : Binary64}
    (h : t.number index q.column = .ok x) :
    t.snapshot.value? index q = some (q.ofNumber x) := by
  rcases q with side | r
  · -- the other side of the memory decides on events, not on this side
    cases side with
    | used =>
      have hused : t.memoryBytes index .memoryUsed = .ok (x.scale 1048576) :=
        congrArg (Except.map _) h
      cases htotal : t.memoryBytes index .memoryTotal <;>
        simp [Snapshot.value?, Table.snapshot, Table.memory, hused, htotal, Except.toOption,
          Quantity.ofNumber]
    | total =>
      have htotal : t.memoryBytes index .memoryTotal = .ok (x.scale 1048576) :=
        congrArg (Except.map _) h
      cases hused : t.memoryBytes index .memoryUsed <;>
        simp [Snapshot.value?, Table.snapshot, Table.memory, hused, htotal, Except.toOption,
          Quantity.ofNumber]
  · have hnumber : t.number index (columnOf r) = .ok x := h
    have hreading : t.reading r index = .ok ((Quantity.reading r).ofNumber x) := by
      simp only [Table.reading, readingColumn_eq, hnumber]
      cases r <;> rfl
    simp [Snapshot.value?, Table.snapshot, hreading, Except.toOption]

/-! ### The series of a quantity -/

theorem filterMap_all {α : Type} (f : Quantity → Option α) (q : Quantity) :
    Quantity.all.filterMap (fun q' => if q' = q then f q' else none) = (f q).toList := by
  rcases q with (_ | _) | (_ | _ | _ | _) <;>
    simp [Quantity.all, List.filterMap_cons, Option.toList] <;> split <;> simp_all

/-- Of what is seen of an identified device, the value of a quantity is what has its name. -/
theorem filter_expectedOfDevice {ns : String} {s : Snapshot} {index : Nat} {identity : Identity}
    (h : s.identity index = .ok identity) (q : Quantity) :
    (expectedOfDevice ns s index).filter (·.name = Schema.nameUnder ns q.metric)
      = ((s.value? index q).map
          (⟨Schema.nameUnder ns q.metric, identityLabels identity, ·⟩)).toList := by
  have hpick := filterMap_all (fun q' => (s.value? index q').map fun x =>
    (⟨Schema.nameUnder ns q.metric, identityLabels identity, x⟩ : Observed)) q
  rw [expectedOfDevice, h, List.filter_filterMap, ← hpick]
  refine List.filterMap_congr fun q' _ => ?_
  cases s.value? index q' with
  | none => simp
  | some x =>
    by_cases hq : q' = q
    · simp [hq]
    · simp [hq, Schema.nameUnder_inj]

/-- The series that shows what is seen of a sample. -/
def seriesOf (o : Observed) : Series := ⟨o.labels, String.ofList (valueText o.value)⟩

namespace Gpu

/-- The series of a quantity in an update, each with the device that it is about. -/
def seriesAbout (g : Gpu) (ns : String) (host : Host) (releases : Nat) (q : Quantity) :
    List (Option Nat × Series) :=
  ((g.attributed host releases).filter (·.2.name = Schema.nameUnder ns q.metric)).map
    fun x => (x.1, seriesOf x.2.observed)

/-- A quantity of a device is written with the given value, whatever other samples are written
before and behind those of the update. -/
structure IsWritten (g : Gpu) (ns : String) (host : Host) (releases device : Nat)
    (identity : Identity) (q : Quantity) (value : List Char) : Prop where
  /-- One series is about the device, with its labels and the value. -/
  series : (g.seriesAbout ns host releases q).filter (·.1 = some device)
    = [(some device, ⟨identityLabels identity, String.ofList value⟩)]
  /-- The text tells these series in order, and between them no other of their name. -/
  text : ∀ before after : List Sample,
    seriesUnder? (render (before ++ (g.update host releases).emission.samples ++ after))
        (Schema.nameUnder ns q.metric)
      = some ((before.filter (·.name = Schema.nameUnder ns q.metric)).map .ofSample ++
          (g.seriesAbout ns host releases q).map Prod.snd ++
          (after.filter (·.name = Schema.nameUnder ns q.metric)).map .ofSample)

theorem seriesUnder?_render_update (g : Gpu) (ns : String) (host : Host) (releases : Nat)
    (q : Quantity) (before after : List Sample) :
    seriesUnder? (render (before ++ (g.update host releases).emission.samples ++ after))
        (Schema.nameUnder ns q.metric)
      = some ((before.filter (·.name = Schema.nameUnder ns q.metric)).map .ofSample ++
          (g.seriesAbout ns host releases q).map Prod.snd ++
          (after.filter (·.name = Schema.nameUnder ns q.metric)).map .ofSample) := by
  rw [seriesUnder?_render, List.filter_append, List.filter_append, List.map_append,
    List.map_append, ← map_snd_attributed, List.filter_map, List.map_map, seriesAbout,
    List.map_map]
  rfl

section Update

variable {ns command : String} {g : Gpu} (hg : (ofBackend? ns (backend command)).value = .ok g)
  {host : Host} {stdout stderr : List UInt8} {t : Table}
  (hhost : host.launch command = .ended (.exited 0) stdout stderr)
  (ht : Table.ofOutput? stdout = .ok t) (releases : Nat)
  {device : Nat} (hdevice : device < t.count.toNat) {identity : Identity}
  (hidentity : t.identity device = .ok identity)
include hg hhost ht hdevice hidentity

/-- The series of a quantity that are about a device: one if it has a value, and otherwise none. -/
theorem filter_seriesAbout (q : Quantity) :
    (g.seriesAbout ns host releases q).filter (·.1 = some device)
      = ((t.snapshot.value? device q).map fun x =>
          (some device, ⟨identityLabels identity, String.ofList (valueText x)⟩)).toList := by
  obtain ⟨hunder, -⟩ := isUnder_of_ofBackend? hg
  have hseen := attributedDevices_filter hunder (s := t.snapshot) hdevice
  rw [← attributed_of_table hg hhost ht releases, List.map_map] at hseen
  have hown : ∀ x ∈ (g.attributed host releases).filter (·.1 = some device),
      (x.1, seriesOf x.2.observed) = (some device, seriesOf x.2.observed) := fun x hx => by
    rw [of_decide_eq_true (List.mem_filter.mp hx).2]
  calc (g.seriesAbout ns host releases q).filter (·.1 = some device)
      = (((g.attributed host releases).filter (·.1 = some device)).filter
          (·.2.name = Schema.nameUnder ns q.metric)).map
            fun x => (x.1, seriesOf x.2.observed) := by
        rw [seriesAbout, List.filter_map, List.filter_comm]
        rfl
    _ = (((g.attributed host releases).filter (·.1 = some device)).filter
          (·.2.name = Schema.nameUnder ns q.metric)).map
            fun x => (some device, seriesOf x.2.observed) :=
        List.map_congr_left fun x hx => hown x (List.mem_filter.mp hx).1
    _ = ((expectedOfDevice ns t.snapshot device).filter
          (·.name = Schema.nameUnder ns q.metric)).map fun o => (some device, seriesOf o) := by
        rw [← hseen, List.filter_map, List.map_map]
        rfl
    _ = _ := by
        rw [filter_expectedOfDevice (s := t.snapshot) hidentity]
        cases t.snapshot.value? device q <;> rfl

/-- **A number in a cell is written**, converted to the unit of its quantity. -/
theorem isWritten_of_number {q : Quantity} {x : Binary64}
    (h : t.number device q.column = .ok x) :
    g.IsWritten ns host releases device identity q (valueText (q.ofNumber x)) := by
  refine ⟨?_, seriesUnder?_render_update g ns host releases q⟩
  rw [filter_seriesAbout hg hhost ht releases hdevice hidentity, value?_of_number h]
  rfl

end Update

end Gpu

end Collector

end GpuMetrics
