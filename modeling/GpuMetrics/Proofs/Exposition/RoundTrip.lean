import GpuMetrics.Proofs.Exposition.Line
import Mathlib.Data.List.Induction
import Mathlib.Data.List.Nodup

/-!
# An exposition is read back as the families of its samples

Writing groups the samples by inserting them one after the other into a list of families
(`GpuMetrics.Metric.Family.group`). What the grouping comes to is said here without that loop: the
names in the order in which they are first seen, and under each name the samples that bear it, in
the order in which they stand (`GpuMetrics.Metric.Exposition.FamilyText.collect`). The two agree
because the loop keeps an invariant, in two parts:

* the names of the families are the names seen so far, each at its first place
  (`GpuMetrics.Metric.Family.map_name_group`);
* every family holds exactly the samples of its name, oldest first
  (`GpuMetrics.Metric.Family.samples_of_mem_group`).

Together with the lines being read back one by one this gives the main statement,
`GpuMetrics.Metric.Exposition.read?_render`.
-/

namespace GpuMetrics.Metric

/-! ### What the grouping loop keeps -/

namespace Family

/-- The last sample is the last to be inserted. -/
theorem group_concat (samples : List Sample) (s : Sample) :
    group (samples ++ [s]) = insert s (group samples) := by
  simp [group]

/-- Inserting a sample adds its name at the end, unless it is there already. -/
theorem map_name_insert (s : Sample) (fs : List Family) :
    (insert s fs).map name
      = if s.name ∈ fs.map name then fs.map name else fs.map name ++ [s.name] := by
  induction fs with
  | nil => rfl
  | cons f fs ih =>
    rw [insert]
    by_cases hname : f.name = s.name
    · -- the sample joins this family, which keeps its name
      rw [if_pos hname, if_pos (by simp [hname])]
      rfl
    · rw [if_neg hname, List.map_cons, ih]
      by_cases hmem : s.name ∈ fs.map name
      · rw [if_pos hmem, if_pos (by simp [hmem])]
        rfl
      · rw [if_neg hmem, if_neg (by simp [Ne.symm hname, hmem])]
        rfl

/-- **The families stand in the order in which their names are first seen.** -/
theorem map_name_group (samples : List Sample) :
    (group samples).map name = (samples.map Sample.name).eraseDups := by
  induction samples using List.reverseRecOn with
  | nil => rfl
  | append_singleton samples s ih =>
    rw [group_concat, map_name_insert, ih, List.map_append, List.eraseDups_append]
    by_cases hmem : s.name ∈ samples.map Sample.name
    · rw [if_pos (List.mem_eraseDups.mpr hmem)]
      simp [List.removeAll, hmem, -List.mem_map]
    · rw [if_neg (fun h => hmem (List.mem_eraseDups.mp h))]
      simp [List.removeAll, List.eraseDups_cons, hmem, -List.mem_map]

theorem nodup_map_name_insert {s : Sample} {fs : List Family} (h : (fs.map name).Nodup) :
    ((insert s fs).map name).Nodup := by
  rw [map_name_insert]
  split_ifs with hmem
  · exact h
  · exact List.nodup_append.mpr ⟨h, List.nodup_singleton _, by grind⟩

/-- **No two families have one name.** -/
theorem nodup_map_name_group (samples : List Sample) : ((group samples).map name).Nodup := by
  induction samples using List.reverseRecOn with
  | nil => exact List.nodup_nil
  | append_singleton samples s ih =>
    rw [group_concat]
    exact nodup_map_name_insert ih

/-- What a family can be after an insertion: one that was there and has another name, the one of
the sample's name with the sample at its end, or a new one. -/
theorem mem_insert {s : Sample} {fs : List Family} (h : (fs.map name).Nodup) {f : Family}
    (hf : f ∈ insert s fs) :
    (f ∈ fs ∧ f.name ≠ s.name) ∨
      (∃ g ∈ fs, g.name = s.name ∧ f.name = s.name ∧ f.samples = g.samples ++ [s]) ∨
        (f = ⟨s, []⟩ ∧ s.name ∉ fs.map name) := by
  induction fs with
  | nil => exact Or.inr (Or.inr ⟨List.mem_singleton.mp hf, by simp⟩)
  | cons g fs ih =>
    obtain ⟨hg, hnodup⟩ := List.nodup_cons.mp h
    rw [insert] at hf
    by_cases hname : g.name = s.name
    · rw [if_pos hname] at hf
      rcases List.mem_cons.mp hf with rfl | hf
      · exact Or.inr (Or.inl ⟨g, List.mem_cons_self .., hname, hname, rfl⟩)
      · refine Or.inl ⟨List.mem_cons_of_mem g hf, fun hfs => hg ?_⟩
        rw [hname, ← hfs]
        exact List.mem_map_of_mem hf
    · rw [if_neg hname] at hf
      rcases List.mem_cons.mp hf with rfl | hf
      · exact Or.inl ⟨List.mem_cons_self .., hname⟩
      rcases ih hnodup hf with ⟨hmem, hne⟩ | ⟨g', hmem, hg'⟩ | ⟨rfl, hmem⟩
      · exact Or.inl ⟨List.mem_cons_of_mem g hmem, hne⟩
      · exact Or.inr (Or.inl ⟨g', List.mem_cons_of_mem g hmem, hg'⟩)
      · exact Or.inr (Or.inr ⟨rfl, by simp [Ne.symm hname, hmem]⟩)

/-- **A family holds exactly the samples of its name, oldest first.** -/
theorem samples_of_mem_group {samples : List Sample} {f : Family} (hf : f ∈ group samples) :
    f.samples = samples.filter (·.name = f.name) := by
  induction samples using List.reverseRecOn generalizing f with
  | nil => exact absurd hf List.not_mem_nil
  | append_singleton samples s ih =>
    rw [group_concat] at hf
    rw [List.filter_append]
    rcases mem_insert (nodup_map_name_group samples) hf with
      ⟨hmem, hne⟩ | ⟨g, hmem, hg, hname, hsamples⟩ | ⟨rfl, hnew⟩
    · -- a family of another name does not notice the sample
      simp [ih hmem, Ne.symm hne]
    · simp [hsamples, ih hmem, hname, hg]
    · -- no sample of this name came before
      have hnone : samples.filter (·.name = s.name) = [] := by
        refine List.filter_eq_nil_iff.mpr fun t ht hts => hnew ?_
        rw [map_name_group, List.mem_eraseDups, ← of_decide_eq_true hts]
        exact List.mem_map_of_mem ht
      have hname : name ⟨s, []⟩ = s.name := rfl
      rw [hname, hnone]
      simp [Family.samples]

/-- Inserting a sample adds just that sample. -/
theorem flatMap_samples_insert (s : Sample) (fs : List Family) :
    ((insert s fs).flatMap samples).Perm (fs.flatMap samples ++ [s]) := by
  induction fs with
  | nil => exact List.Perm.refl _
  | cons f fs ih =>
    rw [insert]
    split_ifs
    · have hmove : (f.samples ++ ([s] ++ fs.flatMap samples)).Perm
          (f.samples ++ (fs.flatMap samples ++ [s])) :=
        List.Perm.append_left _ List.perm_append_comm
      simpa [samples] using hmove
    · simpa using ih.append_left f.samples

/-- **Grouping loses no sample and repeats none.** -/
theorem flatMap_samples_group (samples : List Sample) :
    ((group samples).flatMap Family.samples).Perm samples := by
  induction samples using List.reverseRecOn with
  | nil => exact List.Perm.refl _
  | append_singleton samples s ih =>
    rw [group_concat]
    exact (flatMap_samples_insert s _).trans (ih.append_right [s])

end Family

namespace Exposition

/-! ### The families to be read -/

/-- The family of the given name, as it ought to be told by the text: help and kind are those of
its first sample, and all samples of the name are in it, oldest first. -/
def FamilyText.ofName (samples : List Sample) (name : String) : FamilyText :=
  let own := samples.filter (·.name = name)
  { name
    help := (own.head?.map (·.descriptor.help)).getD ""
    kind := (own.head?.map (·.descriptor.kind)).getD .gauge
    series := own.map .ofSample }

/-- The families that the text of the samples ought to tell: one for each name, in the order in
which the names are first seen. -/
def FamilyText.collect (samples : List Sample) : List FamilyText :=
  (samples.map Sample.name).eraseDups.map (FamilyText.ofName samples)

/-- What the lines of a family tell. -/
def FamilyText.ofFamily (f : Family) : FamilyText :=
  ⟨f.name, f.first.descriptor.help, f.first.descriptor.kind, f.samples.map .ofSample⟩

/-- **Grouping gives the families to be read.** -/
theorem map_ofFamily_group (samples : List Sample) :
    (Family.group samples).map .ofFamily = FamilyText.collect samples := by
  rw [FamilyText.collect, ← Family.map_name_group, List.map_map]
  refine List.map_congr_left fun f hf => ?_
  have hsamples := Family.samples_of_mem_group hf
  simp [FamilyText.ofFamily, FamilyText.ofName, ← hsamples, Family.samples]

/-! ### From lines to entries -/

/-- The entries of a family, line by line. -/
def entries (f : Family) : List Entry :=
  .help f.name f.first.descriptor.help :: .kind f.name f.first.descriptor.kind ::
    f.samples.map fun s => .series s.name (.ofSample s)

theorem mapM_sampleLine (samples : List Sample) :
    (samples.map sampleLine).mapM Entry.ofLine?
      = some (samples.map fun s => .series s.name (.ofSample s)) := by
  induction samples with
  | nil => rfl
  | cons s samples ih =>
    rw [List.map_cons, List.mapM_cons, ofLine?_sampleLine, ih]
    rfl

theorem mapM_familyLines (f : Family) :
    (familyLines f).mapM Entry.ofLine? = some (entries f) := by
  rw [familyLines, List.mapM_cons, List.mapM_cons, ofLine?_helpLine, ofLine?_typeLine,
    mapM_sampleLine]
  rfl

/-- **Every line of an exposition is read.** -/
theorem mapM_lines (fs : List Family) :
    (fs.flatMap familyLines).mapM Entry.ofLine? = some (fs.flatMap entries) := by
  induction fs with
  | nil => rfl
  | cons f fs ih =>
    rw [List.flatMap_cons, List.mapM_append, mapM_familyLines, ih]
    rfl

/-! ### From entries to families -/

/-- Samples of the open family go to its end. -/
theorem familiesFrom?_series (f : FamilyText) (samples : List Sample)
    (h : ∀ s ∈ samples, s.name = f.name) (rest : List Entry) :
    familiesFrom? f (samples.map (fun s => Entry.series s.name (.ofSample s)) ++ rest)
      = familiesFrom? { f with series := f.series ++ samples.map .ofSample } rest := by
  induction samples generalizing f with
  | nil => simp
  | cons s samples ih =>
    rw [List.map_cons, List.cons_append, familiesFrom?, if_pos (h s (List.mem_cons_self ..))]
    refine (ih { f with series := f.series ++ [.ofSample s] }
      fun t ht => h t (List.mem_cons_of_mem s ht)).trans ?_
    simp

/-- Once its two marked lines are read, a family is read to its end. -/
theorem familiesFrom?_family (g : Family) (h : ∀ s ∈ g.samples, s.name = g.name)
    (rest : List Entry) :
    familiesFrom? ⟨g.name, g.first.descriptor.help, g.first.descriptor.kind, []⟩
        (g.samples.map (fun s => Entry.series s.name (.ofSample s)) ++ rest)
      = familiesFrom? (.ofFamily g) rest :=
  familiesFrom?_series _ g.samples h rest

/-- The entries of one family after the other are read as these families, behind the open one. -/
theorem familiesFrom?_entries (f : FamilyText) (fs : List Family)
    (h : ∀ g ∈ fs, ∀ s ∈ g.samples, s.name = g.name) :
    familiesFrom? f (fs.flatMap entries) = some (f :: fs.map .ofFamily) := by
  induction fs generalizing f with
  | nil => rfl
  | cons g fs ih =>
    rw [List.flatMap_cons, entries, List.cons_append, List.cons_append, familiesFrom?, if_pos rfl,
      familiesFrom?_family g (h g (List.mem_cons_self ..)),
      ih _ fun g' hg' => h g' (List.mem_cons_of_mem g hg')]
    rfl

/-- Families under distinct names are read from their entries. -/
theorem families?_entries (fs : List Family) (h : ∀ g ∈ fs, ∀ s ∈ g.samples, s.name = g.name)
    (hnodup : (fs.map Family.name).Nodup) :
    families? (fs.flatMap entries) = some (fs.map .ofFamily) := by
  have hnames : ((fs.map FamilyText.ofFamily).map (·.name)).Nodup := by
    rw [List.map_map]
    exact hnodup
  cases fs with
  | nil => rfl
  | cons g fs =>
    have hrest := familiesFrom?_entries (.ofFamily g) fs
      fun g' hg' => h g' (List.mem_cons_of_mem g hg')
    simp only [families?, List.flatMap_cons, entries, List.cons_append, if_true]
    rw [familiesFrom?_family g (h g (List.mem_cons_self ..)), hrest, ← List.map_cons,
      Option.filter_some, if_pos (decide_eq_true hnames)]

/-! ### The round trip -/

/-- No text can break a line of an exposition: every line feed in it is escaped. -/
theorem splitLines?_render (samples : List Sample) :
    splitLines? (render samples).toList = some (lines samples) := by
  have hlines : ∀ l ∈ lines samples, '\n' ∉ l := by
    intro l hl
    obtain ⟨f, -, hf⟩ := List.mem_flatMap.mp hl
    exact lineFeed_notMem_of_mem_familyLines hf
  rw [render, String.toList_ofList, splitLines?_flatMap hlines]

/-- **An exposition is read back as the families of its samples.** Whatever the help texts, the
label values and the numbers, and however the names alternate, reading the text gives one family
for each name, in the order in which the names are first seen, with the help and the kind of its
first sample and with the labels and value texts of all its samples in order. So no family is told
twice, and the series of all families together are those of the samples: none is lost, repeated or
under another name. -/
theorem read?_render (samples : List Sample) :
    read? (render samples) = some (FamilyText.collect samples) ∧
      ((FamilyText.collect samples).map (·.name)).Nodup ∧
      ((FamilyText.collect samples).flatMap fun f => f.series.map fun s => (f.name, s)).Perm
        (samples.map fun s => (s.name, Series.ofSample s)) := by
  have hown : ∀ f ∈ Family.group samples, ∀ s ∈ f.samples, s.name = f.name := by
    intro f hf s hs
    rw [Family.samples_of_mem_group hf] at hs
    simpa using (List.mem_filter.mp hs).2
  have hnodup := Family.nodup_map_name_group samples
  rw [← map_ofFamily_group]
  refine ⟨?_, ?_, ?_⟩
  · rw [read?, splitLines?_render, Option.bind_some, lines, mapM_lines, Option.bind_some,
      families?_entries _ hown hnodup]
  · rw [List.map_map]
    exact hnodup
  · have hseries : ((Family.group samples).map FamilyText.ofFamily).flatMap
        (fun f => f.series.map fun s => (f.name, s))
          = ((Family.group samples).flatMap Family.samples).map
              fun s => (s.name, Series.ofSample s) := by
      rw [List.flatMap_map, List.map_flatMap]
      refine List.flatMap_congr fun f hf => ?_
      rw [FamilyText.ofFamily, List.map_map]
      refine List.map_congr_left fun s hs => ?_
      rw [hown f hf s hs]
      rfl
    rw [hseries]
    exact (Family.flatMap_samples_group samples).map _

/-- A sample is not read without the lines that open its family. -/
example : read? "a 1\n" = none := by decide

end Exposition

end GpuMetrics.Metric
