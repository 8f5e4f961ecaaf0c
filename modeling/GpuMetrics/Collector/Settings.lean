import GpuMetrics.Smi.Backend

/-!
# What collectors are built from

The settings that a collector can depend on, and the **selection** of collectors: which names are
listed as enabled and which as disabled. A name in both lists is a conflict; where it matters all
the same, disabled wins.
-/

namespace GpuMetrics.Collector

/-- Where device readings come from. -/
inductive BackendKind where
  /-- The vendor's library. -/
  | nvml
  /-- The vendor's command-line tool, run once per scrape. -/
  | nvidiaSmi
  deriving DecidableEq, Repr

/-- The settings of the device collector. -/
structure GpuSettings where
  backend : BackendKind := .nvml
  smiCommand : String := Smi.defaultCommand
  deriving DecidableEq, Repr

/-- Everything that building a collector can depend on. -/
structure Settings where
  /-- The first component of every metric name. -/
  ns : String
  gpu : GpuSettings
  deriving DecidableEq, Repr

/-- Collectors that are enabled or disabled by name. -/
structure Selection where
  enabled : List String := []
  disabled : List String := []
  deriving DecidableEq, Repr

/-- What the lists say about a name: whether it runs, or nothing. -/
def Selection.explicit? (s : Selection) (name : String) : Option Bool :=
  if s.disabled.contains name then some false
  else if s.enabled.contains name then some true
  else none

/-- The enabled names that are disabled as well, as often as they are enabled. -/
def Selection.conflicts (s : Selection) : List String :=
  s.enabled.filter s.disabled.contains

/-- The selection with a name enabled: it leaves the disabled names and joins the enabled ones. -/
def Selection.enable (s : Selection) (name : String) : Selection :=
  { enabled := s.enabled ++ [name], disabled := s.disabled.filter (· ≠ name) }

/-- The selection with a name disabled. -/
def Selection.disable (s : Selection) (name : String) : Selection :=
  { enabled := s.enabled.filter (· ≠ name), disabled := s.disabled ++ [name] }

/-! ### The last word counts

Enabling or disabling a name settles what the lists say about that name, and about no other. -/

@[simp] theorem Selection.explicit?_enable (s : Selection) (a b : String) :
    (s.enable a).explicit? b = if b = a then some true else s.explicit? b := by
  by_cases h : b = a
  · simp [Selection.explicit?, Selection.enable, h]
  · simp [Selection.explicit?, Selection.enable, h]

@[simp] theorem Selection.explicit?_disable (s : Selection) (a b : String) :
    (s.disable a).explicit? b = if b = a then some false else s.explicit? b := by
  by_cases h : b = a
  · simp [Selection.explicit?, Selection.disable, h]
  · simp [Selection.explicit?, Selection.disable, h]

/-- Enabling a name makes no conflict, and resolves the one about that name. -/
@[simp] theorem Selection.conflicts_enable (s : Selection) (a : String) :
    (s.enable a).conflicts = s.conflicts.filter (· ≠ a) := by
  unfold Selection.conflicts Selection.enable
  rw [List.filter_append, List.filter_filter]
  simp only [List.filter_cons, List.filter_nil]
  have ha : (s.disabled.filter (· ≠ a)).contains a = false := by simp
  rw [ha]
  simp only [Bool.false_eq_true, if_false, List.append_nil]
  refine List.filter_congr fun x _ => ?_
  by_cases hx : x = a <;> simp [hx]

/-- Disabling a name makes no conflict, and resolves the one about that name. -/
@[simp] theorem Selection.conflicts_disable (s : Selection) (a : String) :
    (s.disable a).conflicts = s.conflicts.filter (· ≠ a) := by
  unfold Selection.conflicts Selection.disable
  rw [List.filter_filter, List.filter_filter]
  refine List.filter_congr fun x _ => ?_
  by_cases hx : x = a <;> simp [hx]

end GpuMetrics.Collector
