import GpuMetrics.Proofs.Exposition.RoundTrip

/-!
# The series that a text has under a name

Whoever follows one metric looks at the lines of one name and passes over the rest. What such a
reader finds is the series of the samples of that name, in order
(`GpuMetrics.Metric.Exposition.seriesUnder?_render`): no sample of another name gets among them,
whatever its labels or its help text may say.
-/

namespace GpuMetrics.Metric.Exposition

/-- The series that a line tells under a name, if it is a sample of that name. -/
def Entry.seriesUnder? (name : String) : Entry → Option Series
  | .series name' s => if name' = name then some s else none
  | _ => none

/-- The series under a name, in the order of the text, if every line of it can be read. -/
def seriesUnder? (text : String) (name : String) : Option (List Series) :=
  (splitLines? text.toList).bind fun lines =>
    (lines.mapM Entry.ofLine?).map (List.filterMap (Entry.seriesUnder? name))

/-- A family of another name has no series under the name; one of the name has all of its own. -/
theorem filterMap_entries {f : Family} (hown : ∀ s ∈ f.samples, s.name = f.name) (name : String) :
    (entries f).filterMap (Entry.seriesUnder? name)
      = if f.name = name then f.samples.map .ofSample else [] := by
  have hseries : ∀ s ∈ f.samples, (Entry.seriesUnder? name ∘ fun s => Entry.series s.name
      (.ofSample s)) s = if f.name = name then some (.ofSample s) else none := fun s hs => by
    simp only [Function.comp_apply, Entry.seriesUnder?, hown s hs]
  rw [entries, List.filterMap_cons_none rfl, List.filterMap_cons_none rfl, List.filterMap_map,
    List.filterMap_congr hseries]
  split_ifs with hname
  · exact congrFun List.filterMap_eq_map f.samples
  · exact List.filterMap_eq_nil_iff.mpr fun _ _ => rfl

/-- Out of distinct keys one is picked at most once. -/
theorem flatMap_ite_of_nodup {α β : Type} [DecidableEq α] {keys : List α} (h : keys.Nodup)
    (key : α) (found : List β) :
    keys.flatMap (fun k => if k = key then found else []) = if key ∈ keys then found else [] := by
  induction keys with
  | nil => rfl
  | cons k keys ih =>
    obtain ⟨hk, hnodup⟩ := List.nodup_cons.mp h
    rw [List.flatMap_cons, ih hnodup]
    by_cases hkey : k = key
    · subst hkey
      simp [hk]
    · simp [hkey, Ne.symm hkey]

/-- **Under a name a text has the series of the samples of that name**, in order. -/
theorem seriesUnder?_render (samples : List Sample) (name : String) :
    seriesUnder? (render samples) name
      = some ((samples.filter (·.name = name)).map .ofSample) := by
  have hfamily : ∀ f ∈ Family.group samples, (entries f).filterMap (Entry.seriesUnder? name)
      = if f.name = name then (samples.filter (·.name = name)).map .ofSample else [] := by
    intro f hf
    have hsamples := Family.samples_of_mem_group hf
    have hown : ∀ s ∈ f.samples, s.name = f.name := fun s hs => by
      rw [hsamples] at hs
      exact of_decide_eq_true (List.mem_filter.mp hs).2
    rw [filterMap_entries hown]
    split_ifs with hname
    · rw [hsamples, hname]
    · rfl
  have hnone (h : name ∉ (Family.group samples).map Family.name) :
      samples.filter (·.name = name) = [] := by
    refine List.filter_eq_nil_iff.mpr fun s hs hname => h ?_
    rw [Family.map_name_group, List.mem_eraseDups, ← of_decide_eq_true hname]
    exact List.mem_map_of_mem hs
  rw [seriesUnder?, splitLines?_render, Option.bind_some, lines, mapM_lines, Option.map_some,
    List.filterMap_flatMap, List.flatMap_congr hfamily, ← List.flatMap_map Family.name
      (fun n => if n = name then (samples.filter (·.name = name)).map Series.ofSample else []),
    flatMap_ite_of_nodup (Family.nodup_map_name_group samples)]
  split_ifs with hmem
  · rfl
  · rw [hnone hmem, List.map_nil]

end GpuMetrics.Metric.Exposition
