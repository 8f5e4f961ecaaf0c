import GpuMetrics.Metric.Sample

/-!
# Names of metrics

A qualified name is made of a namespace, a subsystem and a name. Read from behind, it determines
the last of them (`GpuMetrics.Metric.qualifiedName_inj`). Read from the front, it is a metric name
just if its namespace is one or is left out (`GpuMetrics.Metric.isMetricName_qualifiedName_iff`):
only the first character of a metric name is special, so what follows a namespace neither mends nor
spoils it, and without a namespace the subsystem comes first. To look at the namespace alone is
therefore enough for all names under it.
-/

namespace GpuMetrics.Metric

/-! ### Characters of names -/

/-- Every character of a metric name is one that may stand in it. -/
theorem isNameChar_of_mem {name : String} (h : isMetricName name = true) :
    ∀ c ∈ name.toList, isNameChar c = true := by
  intro c hc
  unfold isMetricName at h
  split at h
  · simp at h
  · next first rest heq =>
    rw [heq] at hc
    simp only [Bool.and_eq_true, List.all_eq_true] at h
    rcases List.mem_cons.mp hc with rfl | hc
    · simp only [isNameStart, isNameChar, Char.isAlphanum, Bool.or_eq_true] at h ⊢
      grind
    · exact h.2 c hc

/-- Every character of a label name is one that may stand in it. -/
theorem isLabelChar_of_mem {name : String} (h : isLabelName name = true) :
    ∀ c ∈ name.toList, isLabelChar c = true := by
  intro c hc
  unfold isLabelName at h
  split at h
  · simp at h
  · next first rest heq =>
    rw [heq] at hc
    simp only [Bool.and_eq_true, List.all_eq_true] at h
    rcases List.mem_cons.mp hc with rfl | hc
    · simp only [isLabelChar, Char.isAlphanum, Bool.or_eq_true] at h ⊢
      grind
    · exact h.2 c hc

/-- **Name characters behind a text neither mend nor spoil it.** -/
theorem isMetricName_append {s t : String} (hs : s ≠ "") (ht : t.toList.all isNameChar = true) :
    isMetricName (s ++ t) = isMetricName s := by
  obtain ⟨first, rest, hcons⟩ := List.exists_cons_of_ne_nil (l := s.toList) (by simpa using hs)
  simp [isMetricName, hcons, ht]

/-! ### Qualified names -/

/-- A qualified name is its last component behind a text that depends on the other two alone. -/
theorem exists_qualifiedName_eq_append (ns subsystem : String) :
    ∃ start : String, ∀ name, name ≠ "" → qualifiedName ns subsystem name = start ++ name := by
  -- either component may be left out
  by_cases hns : ns = "" <;> by_cases hsub : subsystem = ""
  · exact ⟨"", fun name hname => by simp [qualifiedName, hns, hsub, hname]⟩
  · exact ⟨subsystem ++ "_", fun name hname => by
      simp [qualifiedName, hns, hsub, hname, String.intercalate_cons_cons]⟩
  · exact ⟨ns ++ "_", fun name hname => by
      simp [qualifiedName, hns, hsub, hname, String.intercalate_cons_cons]⟩
  · exact ⟨ns ++ "_" ++ (subsystem ++ "_"), fun name hname => by
      simp [qualifiedName, hns, hsub, hname, String.intercalate_cons_cons, String.append_assoc]⟩

/-- **A qualified name determines its last component.** -/
theorem qualifiedName_inj {ns subsystem name name' : String} (hname : name ≠ "")
    (hname' : name' ≠ "") :
    qualifiedName ns subsystem name = qualifiedName ns subsystem name' ↔ name = name' := by
  obtain ⟨start, hstart⟩ := exists_qualifiedName_eq_append ns subsystem
  rw [hstart name hname, hstart name' hname', String.append_right_inj]

/-- A qualified name of three components, the first of which may be left out. -/
theorem qualifiedName_eq (ns : String) {subsystem name : String} (hsub : subsystem ≠ "")
    (hname : name ≠ "") :
    qualifiedName ns subsystem name
      = (if ns = "" then "" else ns ++ "_") ++ (subsystem ++ ("_" ++ name)) := by
  by_cases hns : ns = "" <;>
    simp [qualifiedName, hns, hsub, hname, String.intercalate_cons_cons, String.append_assoc]

/-- A qualified name starts with its namespace, if there is one. -/
theorem qualifiedName_of_ne_empty {ns subsystem name : String} (hns : ns ≠ "")
    (hsub : subsystem ≠ "") (hname : name ≠ "") :
    qualifiedName ns subsystem name = ns ++ ("_" ++ (subsystem ++ ("_" ++ name))) := by
  rw [qualifiedName_eq ns hsub hname, if_neg hns, String.append_assoc]

/-- Two subsystems that do not start alike have no qualified name in common. -/
theorem qualifiedName_ne_of_subsystem {ns subsystem subsystem' name name' : String}
    (hname : name ≠ "") (hname' : name' ≠ "") (hsub : subsystem ≠ "") (hsub' : subsystem' ≠ "")
    (hhead : subsystem.toList.head? ≠ subsystem'.toList.head?) :
    qualifiedName ns subsystem name ≠ qualifiedName ns subsystem' name' := by
  have hhead_append {sub : String} (hs : sub ≠ "") (more : String) :
      (sub ++ more).toList.head? = sub.toList.head? := by
    have hne : sub.toList ≠ [] := by simpa using hs
    obtain ⟨c, cs, hcs⟩ := List.exists_cons_of_ne_nil hne
    rw [String.toList_append, hcs]
    rfl
  -- behind what the namespace gives, the name starts as the subsystem does
  rw [qualifiedName_eq ns hsub hname, qualifiedName_eq ns hsub' hname', Ne,
    String.append_right_inj]
  intro h
  exact hhead (by rw [← hhead_append hsub, h, hhead_append hsub'])

/-! ### Namespaces -/

/-- What can be the first component of metric names: nothing at all, or a metric name. -/
def IsNamespace (ns : String) : Prop := ns = "" ∨ isMetricName ns = true

instance (ns : String) : Decidable (IsNamespace ns) := inferInstanceAs (Decidable (_ ∨ _))

/-- The name of a metric in a subsystem is valid just under a namespace. -/
theorem isMetricName_qualifiedName_iff {ns subsystem name : String}
    (hsub : isMetricName subsystem = true) (hname : isMetricName name = true) :
    isMetricName (qualifiedName ns subsystem name) = true ↔ IsNamespace ns := by
  have hsub_ne : subsystem ≠ "" := by rintro rfl; cases hsub
  have hname_ne : name ≠ "" := by rintro rfl; cases hname
  have hsub_all := List.all_eq_true.mpr (isNameChar_of_mem hsub)
  have hname_all := List.all_eq_true.mpr (isNameChar_of_mem hname)
  rw [qualifiedName_eq ns hsub_ne hname_ne, IsNamespace]
  by_cases hns : ns = ""
  · -- the name starts with the subsystem, which is a metric name itself
    have hrest : ("_" ++ name).toList.all isNameChar = true := by simp [hname_all, isNameChar]
    rw [if_pos hns, String.empty_append, isMetricName_append hsub_ne hrest]
    exact iff_of_true hsub (Or.inl hns)
  · have hrest : ("_" ++ (subsystem ++ ("_" ++ name))).toList.all isNameChar = true := by
      simp [hsub_all, hname_all, isNameChar]
    rw [if_neg hns, String.append_assoc, isMetricName_append hns hrest]
    exact (or_iff_right hns).symm

/-! ### Descriptors and their parts -/

/-- A descriptor that was accepted has the parts it was made of. -/
theorem Descriptor.eq_of_ofParts? {name help : String} {labels : List String} {d : Descriptor}
    (h : Descriptor.ofParts? name help labels = .ok d) :
    d.name = name ∧ d.help = help ∧ d.kind = .gauge ∧ d.labelNames = labels := by
  unfold ofParts? at h
  split at h
  · split at h
    · obtain rfl := Except.ok.inj h
      exact ⟨rfl, rfl, rfl, rfl⟩
    · cases h
  · cases h

/-- Valid parts make a descriptor. -/
theorem Descriptor.exists_ofParts? {name : String} {labels : List String}
    (hname : isMetricName name = true) (hlabels : labels.all isLabelName = true) (help : String) :
    ∃ d, Descriptor.ofParts? name help labels = .ok d := by
  rw [ofParts?, dif_pos hname, dif_pos hlabels]
  exact ⟨_, rfl⟩

/-- A name that is no metric name makes no descriptor, whatever its labels are. -/
theorem Descriptor.ofParts?_of_not_isMetricName {name : String} (h : ¬isMetricName name = true)
    (help : String) (labels : List String) :
    Descriptor.ofParts? name help labels = .error (.badName name) :=
  dif_neg h

end GpuMetrics.Metric
