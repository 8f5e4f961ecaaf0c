import GpuMetrics.Collector.Schema
import GpuMetrics.Proofs.Metric.Name

/-!
# The families of the device metrics

A schema is a record of seven families, and the collector treats the six of them that are about
single devices alike. Here they are put under one name: a `Quantity` is what such a family shows,
and `GpuMetrics.Collector.Schema.family` is the family that shows it.

The schema of a namespace is what it says it is
(`GpuMetrics.Collector.Schema.IsUnder`, `GpuMetrics.Collector.Schema.isUnder_of_ofNamespace?`): each
family has its own qualified name, the device count has no labels and the others have those of a
device. As a qualified name determines its last component
(`GpuMetrics.Metric.qualifiedName_inj`), the seven names are distinct under every namespace.
-/

namespace GpuMetrics

/-- A sequence of two steps succeeds only if the first does, and the second on what the first
gave. -/
theorem Except.exists_of_bind_eq_ok {ε α β : Type} {x : Except ε α} {f : α → Except ε β} {b : β}
    (h : x >>= f = .ok b) : ∃ a, x = .ok a ∧ f a = .ok b := by
  cases x with
  | error e => cases h
  | ok a => exact ⟨a, rfl, h⟩

/-- A sequence of two steps succeeds if the first does, and the second whatever the first gave. -/
theorem Except.exists_bind_eq_ok {ε α β : Type} {x : Except ε α} {f : α → Except ε β}
    (hx : ∃ a, x = .ok a) (hf : ∀ a, ∃ b, f a = .ok b) : ∃ b, x >>= f = .ok b := by
  obtain ⟨a, rfl⟩ := hx
  exact hf a

/-- A result that can be seen not to be a failure. -/
theorem Except.exists_eq_ok_of_isSome {ε α : Type} {x : Except ε α} (h : x.toOption.isSome = true) :
    ∃ a, x = .ok a := by
  cases x with
  | error e => cases h
  | ok a => exact ⟨a, rfl⟩

namespace Collector

open Device GpuMetrics.Metric

/-! ### What a device series shows -/

/-- What a series about a single device can show: one side of its memory, or a reading that
consists of a single number. -/
inductive Quantity where
  | memory (side : MemorySide)
  | reading (r : Reading)
  deriving DecidableEq, Repr

namespace Quantity

/-- The quantities in the order in which a device's samples are emitted. -/
def all : List Quantity :=
  [.memory .used, .memory .total, .reading .utilization, .reading .power, .reading .temperature,
   .reading .fanSpeed]

/-- The last component of the name under which a quantity is shown. -/
def metric : Quantity → String
  | .memory .used => "memory_used_bytes"
  | .memory .total => "memory_total_bytes"
  | .reading .utilization => "duty_cycle"
  | .reading .power => "power_usage_milliwatts"
  | .reading .temperature => "temperature_celsius"
  | .reading .fanSpeed => "fanspeed_percent"

theorem metric_ne_empty (q : Quantity) : q.metric ≠ "" := by
  rcases q with (_ | _) | (_ | _ | _ | _) <;> decide

theorem metric_ne_count (q : Quantity) : q.metric ≠ "num_devices" := by
  rcases q with (_ | _) | (_ | _ | _ | _) <;> decide

theorem metric_injective {q q' : Quantity} (h : q.metric = q'.metric) : q = q' := by
  rcases q with (_ | _) | (_ | _ | _ | _) <;> rcases q' with (_ | _) | (_ | _ | _ | _) <;>
    first | rfl | exact absurd h (by decide)

end Quantity

namespace Schema

/-- The family that shows a quantity. -/
def family (s : Schema) : Quantity → Descriptor
  | .memory .used => s.memoryUsed
  | .memory .total => s.memoryTotal
  | .reading r => s.reading r

/-! ### The schema of a namespace -/

/-- The name of a family of the device subsystem. -/
def nameUnder (ns metric : String) : String := qualifiedName ns deviceSubsystem metric

/-- A schema whose families have the names and the labels that they ought to have under a
namespace. -/
structure IsUnder (ns : String) (s : Schema) : Prop where
  count_name : s.deviceCount.name = nameUnder ns "num_devices"
  count_labels : s.deviceCount.labelNames = []
  family (q : Quantity) :
    (s.family q).name = nameUnder ns q.metric ∧ (s.family q).labelNames = deviceLabels

/-- **The schema of a namespace has the names and labels that it ought to have.** -/
theorem isUnder_of_ofNamespace? {ns : String} {s : Schema} (h : ofNamespace? ns = .ok s) :
    IsUnder ns s := by
  -- each step makes one family, and the schema is there only if all of them succeed
  obtain ⟨deviceCount, hcount, h⟩ := Except.exists_of_bind_eq_ok h
  obtain ⟨memoryUsed, hused, h⟩ := Except.exists_of_bind_eq_ok h
  obtain ⟨memoryTotal, htotal, h⟩ := Except.exists_of_bind_eq_ok h
  obtain ⟨dutyCycle, hduty, h⟩ := Except.exists_of_bind_eq_ok h
  obtain ⟨powerUsage, hpower, h⟩ := Except.exists_of_bind_eq_ok h
  obtain ⟨temperature, htemperature, h⟩ := Except.exists_of_bind_eq_ok h
  obtain ⟨fanSpeed, hfan, h⟩ := Except.exists_of_bind_eq_ok h
  obtain rfl := Except.ok.inj h
  have parts {name help : String} {labels : List String} {d : Descriptor}
      (hd : family? ns name help labels = .ok d) :
      d.name = nameUnder ns name ∧ d.labelNames = labels :=
    ⟨(Descriptor.eq_of_ofParts? hd).1, (Descriptor.eq_of_ofParts? hd).2.2.2⟩
  refine ⟨(parts hcount).1, (parts hcount).2, fun q => ?_⟩
  rcases q with (_ | _) | (_ | _ | _ | _)
  · exact parts hused
  · exact parts htotal
  · exact parts hduty
  · exact parts hpower
  · exact parts htemperature
  · exact parts hfan

theorem exists_family? {ns name : String} {labels : List String} (hns : IsNamespace ns)
    (hname : isMetricName name = true) (hlabels : labels.all isLabelName = true) (help : String) :
    ∃ d, family? ns name help labels = .ok d :=
  Descriptor.exists_ofParts? ((isMetricName_qualifiedName_iff (by decide) hname).mpr hns) hlabels
    help

/-- **There is a schema just under a namespace.** -/
theorem exists_ofNamespace?_iff {ns : String} :
    (∃ s, ofNamespace? ns = .ok s) ↔ IsNamespace ns := by
  constructor
  · rintro ⟨s, hs⟩
    have hcount : isMetricName (nameUnder ns "num_devices") = true :=
      (isUnder_of_ofNamespace? hs).count_name ▸ s.deviceCount.name_valid
    exact (isMetricName_qualifiedName_iff (by decide) (by decide)).mp hcount
  · intro hns
    have made (name help : String) (hname : isMetricName name = true) :
        ∃ d, family? ns name help deviceLabels = .ok d :=
      exists_family? hns hname (by decide) help
    refine Except.exists_bind_eq_ok (exists_family? hns (by decide) rfl _) fun _ => ?_
    iterate 6 refine Except.exists_bind_eq_ok (made _ _ (by decide)) fun _ => ?_
    exact ⟨_, rfl⟩

/-- The namespace that is used unless another is configured is accepted. -/
theorem exists_ofNamespace?_node : ∃ s, ofNamespace? "node" = .ok s :=
  exists_ofNamespace?_iff.mpr (by decide)

/-- Two quantities are shown under one name only if they are one. -/
theorem nameUnder_inj {ns : String} {q q' : Quantity} :
    nameUnder ns q.metric = nameUnder ns q'.metric ↔ q = q' := by
  rw [nameUnder, nameUnder, qualifiedName_inj q.metric_ne_empty q'.metric_ne_empty]
  exact ⟨Quantity.metric_injective, congrArg Quantity.metric⟩

/-- No quantity is shown under the name of the device count. -/
theorem nameUnder_ne_count (ns : String) (q : Quantity) :
    nameUnder ns q.metric ≠ nameUnder ns "num_devices" := by
  rw [nameUnder, nameUnder, Ne, qualifiedName_inj q.metric_ne_empty (by decide)]
  exact q.metric_ne_count

end Schema

end Collector

end GpuMetrics
