import GpuMetrics.Proofs.Exposition.RoundTrip

/-!
# The series of an exposition

A line of an exposition that is no comment is about one series: it names the family and lists the
labels, and its value comes behind the last blank. No blank is in a value, so what stands before
that blank is just what was written for the name and the labels
(`GpuMetrics.Metric.Exposition.seriesOf_sampleLine`). That text tells the two apart again, whatever
characters the label values hold (`GpuMetrics.Metric.Exposition.seriesText_inj`), and so a series
is told twice just if two samples have one name and the same labels. This is
`GpuMetrics.Metric.Exposition.exists_sampleLines?_render`.
-/

namespace GpuMetrics.Metric

/-- What tells the series of a sample from others. -/
def Sample.key (s : Sample) : String × List (String × String) := (s.name, s.labels)

namespace Exposition

/-- The lines of a text that are no comments. -/
def sampleLines? (text : String) : Option (List (List Char)) :=
  (splitLines? text.toList).map (·.filter (·.head? ≠ some '#'))

/-- The series that a line is about: what stands before its last blank. -/
def seriesOf (line : List Char) : List Char :=
  ((line.reverse.dropWhile (· ≠ ' ')).drop 1).reverse

/-! ### The series of one line -/

/-- The series of a sample as it is written. -/
def seriesText (s : Sample) : List Char := s.name.toList ++ labelsText s

/-- **A value holds no blank**, so the series of a line is the series that was written. -/
theorem seriesOf_sampleLine (s : Sample) : seriesOf (sampleLine s) = seriesText s := by
  have hvalue : ∀ c ∈ (valueText s.value).reverse, decide (c ≠ ' ') = true := by
    intro c hc
    refine decide_eq_true fun hblank => ?_
    have := isValueChar_of_mem_valueText s.value c (List.mem_reverse.mp hc)
    exact absurd (hblank ▸ this) (by decide)
  have hline : (sampleLine s).reverse
      = (valueText s.value).reverse ++ ' ' :: (seriesText s).reverse := by
    simp [sampleLine, seriesText]
  rw [seriesOf, hline, dropWhile_run hvalue (by simp)]
  simp

/-- Behind the name of a written series no name goes on. -/
theorem not_isNameChar_labelsText (s : Sample) :
    ∀ c ∈ (labelsText s).head?, isNameChar c = false := by
  rw [labelsText]
  split_ifs
  · simp
  · exact not_isNameChar_brace _

/-- The labels of a sample, behind its name, are read back. -/
theorem labels_eq_of_labelsText_eq {s s' : Sample} (h : labelsText s = labelsText s') :
    s.labels = s'.labels := by
  have hread {t : Sample} (ht : t.labels ≠ []) :
      labels? ((labelsText t).drop 1) = some (t.labels, []) := by
    rw [labelsText, if_neg (by simpa using ht)]
    exact labels?_intercalate ht (isLabelName_of_mem_labels t) []
  by_cases hs : s.labels = [] <;> by_cases hs' : s'.labels = []
  · rw [hs, hs']
  -- only one of the two has braces
  · simp [labelsText, hs, hs'] at h
  · simp [labelsText, hs, hs'] at h
  · have hlabels := (hread hs).symm.trans (h ▸ hread hs')
    simpa using hlabels

/-- **A written series tells the name and the labels**, whatever the label values are. -/
theorem seriesText_inj {s s' : Sample} : seriesText s = seriesText s' ↔ s.key = s'.key := by
  constructor
  · intro h
    -- the readers of names and of labels tell the two parts apart
    have hname (t : Sample) : metricName? (seriesText t) = some (t.name, labelsText t) :=
      metricName?_append t.descriptor.name_valid (not_isNameChar_labelsText t)
    have hread := (hname s).symm.trans (h ▸ hname s')
    rw [Option.some.injEq, Prod.mk.injEq] at hread
    exact Prod.ext hread.1 (labels_eq_of_labelsText_eq hread.2)
  · intro h
    have hlabels : s.labels = s'.labels := congrArg Prod.snd h
    rw [seriesText, seriesText, labelsText, labelsText, hlabels,
      show s.name = s'.name from congrArg Prod.fst h]

/-! ### The series of all lines -/

/-- A line about a sample is no comment. -/
theorem head?_sampleLine_ne (s : Sample) : (sampleLine s).head? ≠ some '#' := by
  have hvalid : isMetricName s.name = true := s.descriptor.name_valid
  unfold isMetricName at hvalid
  split at hvalid
  · simp at hvalid
  · next first rest heq =>
    rintro hhead
    rw [sampleLine, heq] at hhead
    obtain rfl : first = '#' := by simpa using hhead
    have hmark : isNameStart '#' = false := by decide
    rw [hmark, Bool.false_and] at hvalid
    cases hvalid

/-- Of the lines of a family the first two are comments, and no others. -/
theorem filter_familyLines (f : Family) :
    (familyLines f).filter (·.head? ≠ some '#') = f.samples.map sampleLine := by
  have hhelp : (helpLine f).head? = some '#' := by
    rw [helpLine_eq]
    rfl
  have htype : (typeLine f).head? = some '#' := by
    rw [typeLine_eq]
    rfl
  rw [familyLines, List.filter_cons_of_neg (by simp [hhelp]),
    List.filter_cons_of_neg (by simp [htype]), List.filter_eq_self]
  intro line hline
  obtain ⟨s, -, rfl⟩ := List.mem_map.mp hline
  exact decide_eq_true (head?_sampleLine_ne s)

/-- **The series of an exposition are those of its samples**: there are as many sample lines as
samples, and no two of them are about one series just if no two samples have one name and the same
labels. -/
theorem exists_sampleLines?_render (samples : List Sample) :
    ∃ ls, sampleLines? (render samples) = some ls ∧
      (ls.map seriesOf).Perm (samples.map seriesText) ∧
      ((ls.map seriesOf).Nodup ↔ (samples.map Sample.key).Nodup) := by
  have hlines : sampleLines? (render samples)
      = some ((Family.group samples).flatMap fun f => f.samples.map sampleLine) := by
    rw [sampleLines?, splitLines?_render, Option.map_some, lines, List.filter_flatMap]
    exact congrArg _ (List.flatMap_congr fun f _ => filter_familyLines f)
  have hperm : (((Family.group samples).flatMap fun f => f.samples.map sampleLine).map
      seriesOf).Perm (samples.map seriesText) := by
    rw [← List.map_flatMap, List.map_map]
    refine List.Perm.trans (List.Perm.map _ (Family.flatMap_samples_group samples)) ?_
    exact List.Perm.of_eq (List.map_congr_left fun s _ => seriesOf_sampleLine s)
  refine ⟨_, hlines, hperm, hperm.nodup_iff.trans ?_⟩
  rw [List.Nodup, List.Nodup, List.pairwise_map, List.pairwise_map]
  simp only [Ne, seriesText_inj]

/-- Two lines, at different places, are about one series. -/
def TellsTwice (ls : List (List Char)) : Prop :=
  ∃ (i j : Nat) (line line' : List Char), i ≠ j ∧ ls[i]? = some line ∧ ls[j]? = some line' ∧
    seriesOf line = seriesOf line'

theorem tellsTwice_iff_not_nodup {ls : List (List Char)} :
    TellsTwice ls ↔ ¬(ls.map seriesOf).Nodup := by
  rw [List.Nodup, List.pairwise_map, List.pairwise_iff_getElem]
  constructor
  · rintro ⟨i, j, line, line', hne, hline, hline', hseries⟩ h
    obtain ⟨hi, rfl⟩ := List.getElem?_eq_some_iff.mp hline
    obtain ⟨hj, rfl⟩ := List.getElem?_eq_some_iff.mp hline'
    rcases Nat.lt_or_gt_of_ne hne with hlt | hlt
    · exact h i j hi hj hlt hseries
    · exact h j i hj hi hlt hseries.symm
  · intro h
    push Not at h
    obtain ⟨i, j, hi, hj, hlt, hseries⟩ := h
    exact ⟨i, j, ls[i], ls[j], Nat.ne_of_lt hlt, List.getElem?_eq_getElem hi,
      List.getElem?_eq_getElem hj, hseries⟩

end Exposition

end GpuMetrics.Metric
