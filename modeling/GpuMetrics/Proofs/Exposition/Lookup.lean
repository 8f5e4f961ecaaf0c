import GpuMetrics.Proofs.Exposition.RoundTrip

/-!
# Labels read back by their names

A sample has one value for each label name of its descriptor, in order. To look a name up gives the
value at the first place where the name stands
(`GpuMetrics.Metric.Sample.label?_eq`). So every value is read back by its name as long as the names
are distinct, and a name that stands twice hides what it stands for the second time.

A descriptor is accepted name by name, and nothing is asked about the list as a whole: names may be
repeated (`GpuMetrics.Metric.not_readsBack`). What is true of every accepted descriptor, and which
ones read back all that their samples hold, is `GpuMetrics.Metric.lookup_of_ofParts?`. The same ones
have lines on which no label is named twice
(`GpuMetrics.Metric.Exposition.forall_not_namesTwice_iff`).
-/

namespace GpuMetrics.Metric

/-! ### The first place of a name -/

/-- **To look a key up among pairs** is to take the value at the first place of the key. -/
theorem lookup_zip (names values : List String) (h : values.length = names.length) (k : String) :
    (names.zip values).lookup k = values[names.idxOf k]? := by
  induction names generalizing values with
  | nil => simp_all
  | cons name names ih =>
    cases values with
    | nil => simp at h
    | cons value values =>
      rw [List.zip_cons_cons]
      by_cases hk : k = name
      · rw [hk, List.lookup_cons_self, List.idxOf_cons_self, List.getElem?_cons_zero]
      · have hbeq : (k == name) = false := beq_eq_false_iff_ne.mpr hk
        rw [List.lookup_cons, hbeq, List.idxOf_cons_ne _ (Ne.symm hk), List.getElem?_cons_succ]
        exact ih values (by simpa using h)

/-- Names are distinct just if each of them stands at its first place. -/
theorem nodup_iff_idxOf_getElem {names : List String} :
    names.Nodup ↔ ∀ (i : Nat) (h : i < names.length), names.idxOf names[i] = i := by
  refine ⟨fun hnodup i h => hnodup.idxOf_getElem i h, fun hfirst => ?_⟩
  rw [List.nodup_iff_injective_getElem]
  intro i j hij
  ext
  rw [← hfirst i i.isLt, ← hfirst j j.isLt]
  exact congrArg names.idxOf hij

namespace Sample

/-- A sample is accepted with as many values as there are labels, and has the parts it was made
of. -/
theorem ofParts?_eq_ok_iff {d : Descriptor} {values : List String} {value : Binary64} {s : Sample} :
    ofParts? d values value = .ok s ↔
      s.descriptor = d ∧ s.labelValues = values ∧ s.value = value := by
  rw [ofParts?]
  constructor
  · intro h
    split_ifs at h
    obtain rfl := Except.ok.inj h
    exact ⟨rfl, rfl, rfl⟩
  · rintro ⟨rfl, rfl, rfl⟩
    exact dif_pos s.arity

/-- **A label is looked up at the first place of its name.** -/
theorem label?_eq (s : Sample) (k : String) :
    s.label? k = s.labelValues[s.descriptor.labelNames.idxOf k]? :=
  lookup_zip _ _ s.arity k

theorem label?_eq_none_iff {s : Sample} {k : String} :
    s.label? k = none ↔ k ∉ s.descriptor.labelNames := by
  rw [label?_eq, List.getElem?_eq_none_iff, s.arity, ← List.idxOf_lt_length_iff, Nat.not_lt]

theorem length_labels (s : Sample) : s.labels.length = s.labelValues.length := by
  rw [labels, List.length_zip, s.arity, Nat.min_self]

theorem map_fst_labels (s : Sample) : s.labels.map Prod.fst = s.descriptor.labelNames :=
  List.map_fst_zip (Nat.le_of_eq s.arity.symm)

end Sample

/-! ### The labels of a line -/

namespace Exposition

/-- A line about a series that names one label twice. -/
def NamesTwice (line : List Char) : Prop :=
  ∃ name series, Entry.ofLine? line = some (.series name series) ∧
    ¬(series.labels.map Prod.fst).Nodup

/-- The line of a sample names its labels as the descriptor does. -/
theorem namesTwice_sampleLine_iff (s : Sample) :
    NamesTwice (sampleLine s) ↔ ¬s.descriptor.labelNames.Nodup := by
  rw [NamesTwice, ofLine?_sampleLine, ← s.map_fst_labels]
  constructor
  · rintro ⟨name, series, heq, htwice⟩
    cases heq
    exact htwice
  · exact fun htwice => ⟨s.name, .ofSample s, rfl, htwice⟩

/-- Of the lines of a family only those of its samples name labels. -/
theorem forall_mem_familyLines_iff (f : Family) :
    (∀ line ∈ familyLines f, ¬NamesTwice line) ↔
      ∀ s ∈ f.samples, s.descriptor.labelNames.Nodup := by
  have hhelp : ¬NamesTwice (helpLine f) := by
    rintro ⟨name, series, heq, -⟩
    rw [ofLine?_helpLine] at heq
    cases heq
  have htype : ¬NamesTwice (typeLine f) := by
    rintro ⟨name, series, heq, -⟩
    rw [ofLine?_typeLine] at heq
    cases heq
  rw [familyLines, List.forall_mem_cons, and_iff_right hhelp, List.forall_mem_cons,
    and_iff_right htype, List.forall_mem_map]
  simp only [namesTwice_sampleLine_iff, not_not]

/-- **No line of a text names a label twice** just if the samples in it have descriptors with
distinct label names. -/
theorem forall_not_namesTwice_iff (samples : List Sample) :
    ∃ ls, splitLines? (render samples).toList = some ls ∧
      ((∀ line ∈ ls, ¬NamesTwice line) ↔ ∀ s ∈ samples, s.descriptor.labelNames.Nodup) := by
  refine ⟨_, splitLines?_render samples, ?_⟩
  rw [lines, List.forall_mem_flatMap]
  simp only [forall_mem_familyLines_iff]
  rw [← List.forall_mem_flatMap]
  simp only [(Family.flatMap_samples_group samples).mem_iff]

end Exposition

/-! ### Reading back all that a sample holds -/

open Exposition

/-- Every value of the sample is read back by the name at its place. -/
def Sample.ReadsBack (s : Sample) : Prop :=
  ∀ (i : Nat) (name : String), s.descriptor.labelNames[i]? = some name →
    s.label? name = s.labelValues[i]?

/-- Distinct names read everything back. -/
theorem Sample.readsBack_of_nodup {s : Sample} (h : s.descriptor.labelNames.Nodup) :
    s.ReadsBack := by
  intro i name hname
  obtain ⟨hi, rfl⟩ := List.getElem?_eq_some_iff.mp hname
  rw [label?_eq, nodup_iff_idxOf_getElem.mp h i hi]

/-- **A descriptor whose samples all read back has distinct names**: among its samples is one that
marks any place that one likes. -/
theorem nodup_of_readsBack {d : Descriptor}
    (h : ∀ values value s, Sample.ofParts? d values value = .ok s → s.ReadsBack) :
    d.labelNames.Nodup := by
  rw [nodup_iff_idxOf_getElem]
  intro i hi
  -- the value at the place is found at the first place of the name, and nowhere else
  let values := (List.range d.labelNames.length).map fun j => if j = i then "1" else ""
  have harity : values.length = d.labelNames.length := by simp [values]
  have hread := h values .zero ⟨d, values, .zero, harity⟩ (Sample.ofParts?_eq_ok_iff.mpr
    ⟨rfl, rfl, rfl⟩) i _ (List.getElem?_eq_getElem hi)
  have hfirst : d.labelNames.idxOf d.labelNames[i] < d.labelNames.length :=
    List.idxOf_lt_length_of_mem (List.getElem_mem hi)
  rw [Sample.label?_eq] at hread
  simpa [values, hi, hfirst] using hread

/-- What can be read back of a sample with the given label names and values. -/
structure LooksUp (names values : List String) (s : Sample) : Prop where
  /-- There are as many labels as values. -/
  length : s.labels.length = values.length
  /-- A name gives the value at its first place. -/
  first (k : String) : s.label? k = values[names.idxOf k]?
  /-- No other text gives a value. -/
  absent_iff (k : String) : s.label? k = none ↔ k ∉ names
  /-- Distinct names give all values back. -/
  readsBack : names.Nodup → s.ReadsBack

/-- **What is read back of the samples of an accepted descriptor.** Its label names are distinct
just if all its samples give back all that they hold, and just if no line about them names a label
twice. -/
theorem lookup_of_ofParts? {name help : String} {names : List String} {d : Descriptor}
    (h : Descriptor.ofParts? name help names = .ok d) :
    (∀ values value s, Sample.ofParts? d values value = .ok s → LooksUp names values s) ∧
      ((∀ values value s, Sample.ofParts? d values value = .ok s → s.ReadsBack) ↔
        names.Nodup) ∧
      ∀ samples : List Sample, samples ≠ [] → (∀ s ∈ samples, s.descriptor = d) →
        ∃ ls, splitLines? (render samples).toList = some ls ∧
          ((∀ line ∈ ls, ¬NamesTwice line) ↔ names.Nodup) := by
  obtain ⟨-, -, -, rfl⟩ := Descriptor.eq_of_ofParts? h
  refine ⟨?looksUp, ⟨nodup_of_readsBack, ?readsBack⟩, ?lines⟩
  case looksUp =>
    intro values value s hs
    obtain ⟨rfl, rfl, -⟩ := Sample.ofParts?_eq_ok_iff.mp hs
    exact ⟨s.length_labels, s.label?_eq, fun k => Sample.label?_eq_none_iff,
      Sample.readsBack_of_nodup⟩
  case readsBack =>
    intro hnodup values value s hs
    obtain ⟨rfl, -, -⟩ := Sample.ofParts?_eq_ok_iff.mp hs
    exact Sample.readsBack_of_nodup hnodup
  case lines =>
    intro samples hne hown
    obtain ⟨ls, hls, htwice⟩ := forall_not_namesTwice_iff samples
    refine ⟨ls, hls, htwice.trans ⟨fun hall => ?_, fun hnodup s hs => hown s hs ▸ hnodup⟩⟩
    obtain ⟨s, hs⟩ := List.exists_mem_of_ne_nil samples hne
    exact hown s hs ▸ hall s hs

/-- Two names with their values, one of them empty. -/
theorem lookup_of_ofParts?_twoNames :
    ∃ d s, Descriptor.ofParts? "up" "" ["job", "instance"] = .ok d ∧
      Sample.ofParts? d ["api", ""] .one = .ok s ∧ s.ReadsBack ∧ s.label? "instance" = some "" ∧
      s.label? "uuid" = none := by
  obtain ⟨d, hd⟩ : ∃ d, Descriptor.ofParts? "up" "" ["job", "instance"] = .ok d :=
    Descriptor.exists_ofParts? (by decide) (by decide) ""
  obtain ⟨hlooks, hall, -⟩ := lookup_of_ofParts? hd
  have harity : ["api", ""].length = d.labelNames.length := by
    rw [(Descriptor.eq_of_ofParts? hd).2.2.2]
    rfl
  have hs : Sample.ofParts? d ["api", ""] .one = .ok ⟨d, ["api", ""], .one, harity⟩ :=
    dif_pos harity
  have hback := hlooks _ _ _ hs
  refine ⟨d, _, hd, hs, hall.mpr (by decide) _ _ _ hs, ?_, ?_⟩
  · rw [hback.first]
    rfl
  · exact (hback.absent_iff "uuid").mpr (by decide)

/-- **Not all accepted samples give their labels back**: a descriptor may have one label name twice,
and then the second value is out of reach, and the line of the sample names the label twice. -/
theorem not_readsBack :
    ¬∀ (name help : String) (names : List String) (d : Descriptor) (values : List String)
      (value : Binary64) (s : Sample), Descriptor.ofParts? name help names = .ok d →
      Sample.ofParts? d values value = .ok s →
      s.labels.length = values.length ∧ s.ReadsBack ∧ (∀ k, k ∉ names → s.label? k = none) ∧
        ∃ ls, splitLines? (render [s]).toList = some ls ∧ ∀ line ∈ ls, ¬NamesTwice line := by
  intro hlaw
  have hd : Descriptor.ofParts? "x" "" ["a", "a"]
      = .ok ⟨"x", "", .gauge, ["a", "a"], by decide, by decide⟩ := rfl
  have hs : Sample.ofParts? ⟨"x", "", .gauge, ["a", "a"], by decide, by decide⟩ ["1", "2"] .one
      = .ok ⟨⟨"x", "", .gauge, ["a", "a"], by decide, by decide⟩, ["1", "2"], .one, rfl⟩ := rfl
  obtain ⟨-, hread, -⟩ := hlaw _ _ _ _ _ _ _ hd hs
  have hsecond : some "1" = some "2" := hread 1 "a" rfl
  exact absurd hsecond (by decide)

end GpuMetrics.Metric
