import GpuMetrics.Exporter.Start

/-!
# The last word on a configuration

Options override the configuration: an address to listen on and a log level replace those of the
configuration, and names of collectors are enabled one after the other and then disabled one after
the other (`GpuMetrics.Config.override`). Two things carry over from one name to all of them.

* **Whoever speaks last is heard.** After a list of names is enabled, those names are enabled and
  all others are what they were, and likewise for disabling
  (`GpuMetrics.Collector.Selection.explicit?_foldl`). As disabling comes second, a name that is to
  be both is disabled.
* **Conflicts only go away.** A name that is enabled or disabled leaves the other list first, so
  what is left are the conflicts about names that no option names
  (`GpuMetrics.Collector.Selection.conflicts_foldl`, `GpuMetrics.Config.conflicts_override`).

The main statement is `GpuMetrics.Config.override_lastWord`.
-/

namespace GpuMetrics

open Collector Exporter

namespace Collector.Selection

/-- A selection that does not list a name as both enabled and disabled. -/
def IsConsistent (s : Selection) : Prop := ∀ name ∈ s.enabled, name ∉ s.disabled

instance (s : Selection) : Decidable s.IsConsistent :=
  inferInstanceAs (Decidable (∀ name ∈ s.enabled, name ∉ s.disabled))

theorem conflicts_eq_nil_iff {s : Selection} : s.conflicts = [] ↔ s.IsConsistent := by
  simp [conflicts, IsConsistent, List.filter_eq_nil_iff]

/-! ### One name after another -/

/-- **Whoever speaks last is heard.** A step that settles what the lists say about its name, taken
for one name after another, settles it for all of them, and says nothing about other names. -/
theorem explicit?_foldl {step : Selection → String → Selection} {answer : Bool}
    (hstep : ∀ s a b, (step s a).explicit? b = if b = a then some answer else s.explicit? b)
    (s : Selection) (names : List String) (name : String) :
    (names.foldl step s).explicit? name
      = if name ∈ names then some answer else s.explicit? name := by
  induction names generalizing s with
  | nil => simp
  | cons a names ih =>
    rw [List.foldl_cons, ih, hstep]
    by_cases hname : name ∈ names
    · simp [hname]
    · by_cases ha : name = a
      · simp [ha]
      · simp [hname, ha]

/-- A step that only resolves the conflict about its name, taken for one name after another, leaves
the conflicts about other names. -/
theorem conflicts_foldl {step : Selection → String → Selection}
    (hstep : ∀ s a, (step s a).conflicts = s.conflicts.filter (· ≠ a)) (s : Selection)
    (names : List String) :
    (names.foldl step s).conflicts = s.conflicts.filter (· ∉ names) := by
  induction names generalizing s with
  | nil => exact (List.filter_eq_self.mpr fun _ _ => by simp).symm
  | cons a names ih =>
    rw [List.foldl_cons, ih, hstep, List.filter_filter]
    refine List.filter_congr fun name _ => ?_
    rw [Bool.eq_iff_iff]
    simp [and_comm]

end Collector.Selection

namespace Config

open Selection

/-! ### Enabling first, disabling second -/

/-- What the lists say about a name once the options are through. -/
theorem explicit?_override (c : Config) (o : Options) (name : String) :
    (c.override o).collectors.explicit? name =
      if name ∈ o.noCollectors then some false
      else if name ∈ o.collectors then some true
      else c.collectors.explicit? name := by
  rw [override, explicit?_foldl explicit?_disable, explicit?_foldl explicit?_enable]

/-- **No option makes a conflict**, and those about the names of the options are resolved. -/
theorem conflicts_override (c : Config) (o : Options) :
    (c.override o).collectors.conflicts
      = c.collectors.conflicts.filter fun name => name ∉ o.collectors ∧ name ∉ o.noCollectors := by
  rw [override, conflicts_foldl conflicts_disable, conflicts_foldl conflicts_enable,
    List.filter_filter]
  refine List.filter_congr fun name _ => ?_
  rw [Bool.eq_iff_iff]
  simp [and_comm]

/-- Options that override a consistent selection leave a consistent one. -/
theorem isConsistent_override {c : Config} (h : c.collectors.IsConsistent) (o : Options) :
    (c.override o).collectors.IsConsistent := by
  rw [← conflicts_eq_nil_iff] at h ⊢
  rw [conflicts_override, h, List.filter_nil]

/-- **The options have the last word.** Over a configuration that does not contradict itself, they
leave one that does not either, in which a name is disabled if they disable it, otherwise enabled if
they enable it, and otherwise what it was; the address and the log level are theirs where they give
one, and nothing else changes. Saying the same again changes nothing about any name. -/
theorem override_lastWord {c : Config} (h : c.collectors.IsConsistent) (o : Options) :
    let after := c.override o
    after.collectors.IsConsistent ∧
      (∀ name, after.collectors.explicit? name =
        if name ∈ o.noCollectors then some false
        else if name ∈ o.collectors then some true
        else c.collectors.explicit? name) ∧
      after.endpoint.listen = o.listen.getD c.endpoint.listen ∧
      after.logging.level = o.logLevel.getD c.logging.level ∧
      (after.endpoint.path = c.endpoint.path ∧ after.endpoint.ns = c.endpoint.ns ∧
        after.gpu = c.gpu ∧ after.logging.format = c.logging.format) ∧
      ∀ name, (after.override o).collectors.explicit? name = after.collectors.explicit? name := by
  intro after
  refine ⟨isConsistent_override h o, explicit?_override c o, rfl, rfl, ⟨rfl, rfl, rfl, rfl⟩,
    fun name => ?_⟩
  -- what the options say of a name they have said before, and of others they say nothing
  rw [explicit?_override, explicit?_override]
  by_cases hdisabled : name ∈ o.noCollectors
  · rw [if_pos hdisabled, if_pos hdisabled]
  · by_cases henabled : name ∈ o.collectors
    · simp only [if_neg hdisabled, if_pos henabled]
    · simp only [if_neg hdisabled, if_neg henabled]

/-- A configuration that enables two names and disables a third. -/
def threeNames : Config where
  collectors := ⟨["first", "second"], ["third"]⟩

/-- Options that are against it on two of them, and of two minds about a fourth. -/
def contrary : Options where
  listen := some "[::1]:80"
  collectors := ["third", "fourth", "third"]
  noCollectors := ["fourth", "first"]

/-- The options are heard on the names they name, and on the fourth it is the second word that
counts. -/
theorem override_lastWord_contrary :
    threeNames.collectors.IsConsistent ∧
      (threeNames.override contrary).collectors.IsConsistent ∧
      ["first", "second", "third", "fourth"].map
          (threeNames.override contrary).collectors.explicit?
        = [some false, some true, some true, some false] ∧
      (threeNames.override contrary).endpoint.listen = "[::1]:80" := by
  have hconsistent : threeNames.collectors.IsConsistent := by decide
  obtain ⟨hafter, hexplicit, hlisten, -⟩ := override_lastWord hconsistent contrary
  refine ⟨hconsistent, hafter, ?_, hlisten⟩
  simp only [List.map_cons, List.map_nil, hexplicit]
  decide

end Config

end GpuMetrics
