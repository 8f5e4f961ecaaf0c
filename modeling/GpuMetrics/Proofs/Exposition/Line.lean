import GpuMetrics.Proofs.Exposition.Reader
import GpuMetrics.Proofs.Metric.Name
import Mathlib.Tactic.SplitIfs

/-!
# The lines of an exposition are read back

Each kind of line, as it is written, is read back to what it was written from. What carries the
proofs is that every piece of a line ends at a character that its reader stops at: a metric name
before a blank or a brace (`GpuMetrics.Metric.Exposition.metricName?_append`), a label name before
its equality sign, an escaped value before its closing quote
(`GpuMetrics.Metric.Exposition.quoted?_escapeLabel`). The names are valid by construction, and that
is all that is needed of them; about label values, help texts and numbers nothing is assumed.

The other half of the matter is that no line holds a line feed
(`GpuMetrics.Metric.Exposition.lineFeed_notMem_of_mem_familyLines`), so that cutting the text at
its line feeds gives the written lines again.
-/

namespace GpuMetrics.Metric

namespace Exposition

/-! ### A run of characters up to one that cannot belong to it -/

/-- A text that starts with a run of characters satisfying `p` and goes on with one that does
not. -/
theorem takeWhile_run {p : Char → Bool} {run rest : List Char} (hrun : ∀ c ∈ run, p c = true)
    (hrest : ∀ c ∈ rest.head?, p c = false) : (run ++ rest).takeWhile p = run := by
  rw [List.takeWhile_append_of_pos hrun]
  cases rest with
  | nil => simp
  | cons c rest => simp [hrest c rfl]

theorem dropWhile_run {p : Char → Bool} {run rest : List Char} (hrun : ∀ c ∈ run, p c = true)
    (hrest : ∀ c ∈ rest.head?, p c = false) : (run ++ rest).dropWhile p = rest := by
  rw [List.dropWhile_append_of_pos hrun]
  cases rest with
  | nil => simp
  | cons c rest => simp [hrest c rfl]

/-- A metric name is read up to the first character that cannot stand in one. -/
theorem metricName?_append {name : String} (h : isMetricName name = true) {rest : List Char}
    (hrest : ∀ c ∈ rest.head?, isNameChar c = false) :
    metricName? (name.toList ++ rest) = some (name, rest) := by
  unfold metricName?
  rw [takeWhile_run (isNameChar_of_mem h) hrest, dropWhile_run (isNameChar_of_mem h) hrest]
  simp [h]

/-! ### The escapers undone -/

/-- One escaped character of a help text is read back as that character. -/
theorem helpText?_escapeHelpChar (c : Char) (rest : List Char) :
    helpText? (escapeHelpChar c ++ rest) = (helpText? rest).map (c :: ·) := by
  unfold escapeHelpChar
  split_ifs with hslash hfeed
  · subst hslash
    simp [helpText?, helpEscape?]
  · subst hfeed
    simp [helpText?, helpEscape?]
  · rw [List.singleton_append, helpText?.eq_def]
    simp [hslash]

/-- **Escaping a help text is undone by its reader.** -/
theorem helpText?_escapeHelp (s : String) : helpText? (escapeHelp s) = some s.toList := by
  rw [escapeHelp]
  induction s.toList with
  | nil => rfl
  | cons c cs ih => rw [List.flatMap_cons, helpText?_escapeHelpChar, ih, Option.map_some]

/-- A text in which every `c` is replaced by the given characters. -/
def replaceChar (c : Char) (new : List Char) (text : List Char) : List Char :=
  text.flatMap fun d => if d = c then new else [d]

/-- The two escapes of a help text may be made one after the other, the backslashes first: line
feeds are then still there to be escaped, and no backslash is escaped twice. -/
theorem replaceChar_replaceChar (s : String) :
    replaceChar '\n' ['\\', 'n'] (replaceChar '\\' ['\\', '\\'] s.toList) = escapeHelp s := by
  rw [replaceChar, replaceChar, List.flatMap_assoc, escapeHelp]
  congr 1
  funext c
  unfold escapeHelpChar
  split_ifs with hslash hfeed <;> simp_all

/-- One escaped character of a label value is read back as that character. -/
theorem quoted?_escapeLabelChar (c : Char) (rest : List Char) :
    quoted? (escapeLabelChar c ++ rest) = (quoted? rest).map fun r => (c :: r.1, r.2) := by
  unfold escapeLabelChar
  -- the three escapes, and every other character as it is
  split_ifs with hslash hquote hfeed
  · subst hslash
    simp [quoted?, labelEscape?, helpEscape?]
  · subst hquote
    simp [quoted?, labelEscape?]
  · subst hfeed
    simp [quoted?, labelEscape?, helpEscape?]
  · rw [List.singleton_append, quoted?.eq_def]
    simp [hslash, hquote]

/-- **Escaping a label value is undone by its reader**, which stops at the quote behind it and at
no quote inside. -/
theorem quoted?_escapeLabel (s : String) (rest : List Char) :
    quoted? (escapeLabel s ++ '"' :: rest) = some (s.toList, rest) := by
  rw [escapeLabel]
  induction s.toList with
  | nil =>
    rw [List.flatMap_nil, List.nil_append, quoted?.eq_def]
    simp
  | cons c cs ih =>
    rw [List.flatMap_cons, List.append_assoc, quoted?_escapeLabelChar, ih, Option.map_some]

/-! ### Labels -/

/-- A label is read back, whatever follows it. -/
theorem label?_labelText {l : String × String} (h : isLabelName l.1 = true) (rest : List Char) :
    label? (labelText l ++ rest) = some (l, rest) := by
  have htext : labelText l ++ rest
      = l.1.toList ++ '=' :: '"' :: (escapeLabel l.2 ++ '"' :: rest) := by
    simp [labelText]
  have hstop : ∀ c ∈ ('=' :: '"' :: (escapeLabel l.2 ++ '"' :: rest)).head?,
      isLabelChar c = false := by
    simp only [List.head?_cons, Option.mem_def, Option.some.injEq, forall_eq']
    decide
  unfold label?
  rw [htext, takeWhile_run (isLabelChar_of_mem h) hstop, dropWhile_run (isLabelChar_of_mem h) hstop]
  simp [h, quoted?_escapeLabel]

theorem labels?_of_comma {text more : List Char} {l : String × String}
    (h : label? text = some (l, ',' :: more)) :
    labels? text = (labels? more).map fun r => (l :: r.1, r.2) := by
  rw [labels?]
  split <;> simp_all

theorem labels?_of_brace {text more : List Char} {l : String × String}
    (h : label? text = some (l, '\x7d' :: more)) : labels? text = some ([l], more) := by
  rw [labels?]
  split <;> simp_all

/-- **The labels between two braces are read back**, all of them and in order. -/
theorem labels?_intercalate {ls : List (String × String)} (hne : ls ≠ [])
    (h : ∀ l ∈ ls, isLabelName l.1 = true) (rest : List Char) :
    labels? (List.intercalate [','] (ls.map labelText) ++ '\x7d' :: rest) = some (ls, rest) := by
  induction ls with
  | nil => exact absurd rfl hne
  | cons l ls ih =>
    have hl := label?_labelText (h l (List.mem_cons_self ..))
    -- a brace stands behind the last label, a comma behind every other
    cases ls with
    | nil =>
      rw [List.map_singleton, List.intercalate_singleton]
      exact labels?_of_brace (hl _)
    | cons l' ls =>
      rw [List.map_cons, List.map_cons, List.intercalate_cons_cons, ← List.map_cons,
        List.append_assoc, List.append_assoc, List.singleton_append, labels?_of_comma (hl _),
        ih (List.cons_ne_nil _ _) fun m hm => h m (List.mem_cons_of_mem l hm)]
      rfl

/-- The labels of a sample are those of its family, whose names are label names. -/
theorem isLabelName_of_mem_labels (s : Sample) :
    ∀ l ∈ s.labels, isLabelName l.1 = true := by
  intro l hl
  have hname : l.1 ∈ s.descriptor.labelNames := (List.of_mem_zip hl).1
  exact List.all_eq_true.mp s.descriptor.labels_valid _ hname

/-! ### Values -/

/-- A character that the text of a value may hold: a digit, a point, a sign, or a letter of the
three words for what is not a finite number. -/
def isValueChar (c : Char) : Bool :=
  c.isDigit || c ∈ ['.', '-', '+', 'I', 'n', 'f', 'N', 'a']

theorem isValueChar_of_isDigit {c : Char} (h : c.isDigit = true) : isValueChar c = true := by
  simp [isValueChar, h]

theorem isValueChar_of_mem_toDigits {n : Nat} {c : Char} (h : c ∈ Nat.toDigits 10 n) :
    isValueChar c = true :=
  isValueChar_of_isDigit (Nat.isDigit_of_mem_toDigits (by omega) (by omega) h)

/-- Positional notation has digits and at most a point. -/
theorem isValueChar_of_mem_positional {d : Binary64.Decimal} {c : Char} (h : c ∈ d.positional) :
    isValueChar c = true := by
  have hpadded : ∀ {k : Nat}, c ∈ List.replicate k '0' ++ Nat.toDigits 10 d.coefficient →
      isValueChar c = true := by
    intro k hc
    rcases List.mem_append.mp hc with hc | hc
    · rw [(List.mem_replicate.mp hc).2]
      rfl
    · exact isValueChar_of_mem_toDigits hc
  unfold Binary64.Decimal.positional at h
  split_ifs at h with hsign
  -- a whole number is followed by zeros, any other is padded and then cut in two at the point
  · rcases List.mem_append.mp h with h | h
    · exact isValueChar_of_mem_toDigits h
    · rw [(List.mem_replicate.mp h).2]
      rfl
  · rcases List.mem_append.mp h with h | h
    · exact hpadded (List.mem_of_mem_take h)
    · rcases List.mem_cons.mp h with rfl | h
      · rfl
      · exact hpadded (List.mem_of_mem_drop h)

/-- **Whatever the number, its text is made of value characters only**, so no blank, no line feed
and no brace is in it. -/
theorem isValueChar_of_mem_valueText (x : Binary64) : ∀ c ∈ valueText x, isValueChar c = true := by
  have hwhole : ∀ c ∈ Nat.toDigits 10 x.wholePart, isValueChar c = true :=
    fun c hc => isValueChar_of_mem_toDigits hc
  have hother : ∀ c ∈ (Binary64.shortest x.magnitude).positional, isValueChar c = true :=
    fun c hc => isValueChar_of_mem_positional hc
  unfold valueText
  split_ifs
  · exact List.all_eq_true.mp (by decide)
  · exact List.all_eq_true.mp (by decide)
  · exact List.all_eq_true.mp (by decide)
  · exact List.forall_mem_append.mpr ⟨List.all_eq_true.mp (by decide), hwhole⟩
  · exact List.forall_mem_append.mpr ⟨List.all_eq_true.mp (by decide), hother⟩
  · exact List.forall_mem_append.mpr ⟨List.all_eq_true.mp (by decide), hwhole⟩
  · exact List.forall_mem_append.mpr ⟨List.all_eq_true.mp (by decide), hother⟩

theorem positional_ne_nil (d : Binary64.Decimal) : d.positional ≠ [] := by
  unfold Binary64.Decimal.positional
  split_ifs <;> simp [Nat.toDigits_ne_nil]

theorem valueText_ne_nil (x : Binary64) : valueText x ≠ [] := by
  unfold valueText
  split_ifs <;> simp [Nat.toDigits_ne_nil, positional_ne_nil]

/-- A value is read back as its text. -/
theorem valueText?_valueText (x : Binary64) :
    valueText? (valueText x) = some (String.ofList (valueText x)) := by
  have hblank : ' ' ∉ valueText x := fun h => by
    have := isValueChar_of_mem_valueText x ' ' h
    exact absurd this (by decide)
  unfold valueText?
  rw [if_neg (not_or.mpr ⟨valueText_ne_nil x, hblank⟩)]

/-! ### Lines -/

/-- What the line of a sample has to show: the label names of its family, each with the value in
its place, and the text of its own value. -/
def Series.ofSample (s : Sample) : Series :=
  ⟨s.descriptor.labelNames.zip s.labelValues, String.ofList (valueText s.value)⟩

theorem Series.ofSample_eq (s : Sample) :
    ofSample s = ⟨s.labels, String.ofList (valueText s.value)⟩ := rfl

/-- A blank stops the reader of metric names. -/
theorem not_isNameChar_blank (rest : List Char) :
    ∀ c ∈ (' ' :: rest).head?, isNameChar c = false := by
  simp only [List.head?_cons, Option.mem_def, Option.some.injEq, forall_eq']
  decide

/-- A brace stops the reader of metric names. -/
theorem not_isNameChar_brace (rest : List Char) :
    ∀ c ∈ ('\x7b' :: rest).head?, isNameChar c = false := by
  simp only [List.head?_cons, Option.mem_def, Option.some.injEq, forall_eq']
  decide

/-- A help line is a mark, a name and a text. -/
theorem helpLine_eq (f : Family) : helpLine f
    = "# HELP ".toList ++ (f.name.toList ++ ' ' :: escapeHelp f.first.descriptor.help) :=
  List.append_assoc _ _ _

/-- A type line is a mark, a name and a word. -/
theorem typeLine_eq (f : Family) : typeLine f
    = "# TYPE ".toList ++ (f.name.toList ++ ' ' :: f.first.descriptor.kind.word.toList) :=
  List.append_assoc _ _ _

/-- The mark of a help line is recognized and passed over. -/
theorem ofLine?_helpMark (rest : List Char) :
    Entry.ofLine? ("# HELP ".toList ++ rest) = Entry.ofHelp? rest := by
  have hmark : "# HELP ".toList.isPrefixOf ("# HELP ".toList ++ rest) = true :=
    List.isPrefixOf_iff_prefix.mpr (List.prefix_append _ _)
  rw [Entry.ofLine?, if_pos hmark, List.drop_left' (by rfl)]

/-- The mark of a type line is recognized and passed over. -/
theorem ofLine?_typeMark (rest : List Char) :
    Entry.ofLine? ("# TYPE ".toList ++ rest) = Entry.ofKind? rest := by
  have hother : ¬"# HELP ".toList.isPrefixOf ("# TYPE ".toList ++ rest) = true := by
    rw [List.isPrefixOf_iff_prefix]
    intro h
    have := List.prefix_of_prefix_length_le h (List.prefix_append "# TYPE ".toList rest) (by decide)
    exact absurd this (by decide)
  have hmark : "# TYPE ".toList.isPrefixOf ("# TYPE ".toList ++ rest) = true :=
    List.isPrefixOf_iff_prefix.mpr (List.prefix_append _ _)
  rw [Entry.ofLine?, if_neg hother, if_pos hmark, List.drop_left' (by rfl)]

/-- **The help line of a family is read back.** -/
theorem ofLine?_helpLine (f : Family) :
    Entry.ofLine? (helpLine f) = some (.help f.name f.first.descriptor.help) := by
  have hname := metricName?_append f.first.descriptor.name_valid
    (not_isNameChar_blank (escapeHelp f.first.descriptor.help))
  rw [helpLine_eq, ofLine?_helpMark]
  simp only [Entry.ofHelp?, Family.name, Sample.name, hname, helpText?_escapeHelp,
    Option.map_some, String.ofList_toList]

/-- **The type line of a family is read back.** -/
theorem ofLine?_typeLine (f : Family) :
    Entry.ofLine? (typeLine f) = some (.kind f.name f.first.descriptor.kind) := by
  have hname := metricName?_append f.first.descriptor.name_valid
    (not_isNameChar_blank f.first.descriptor.kind.word.toList)
  have hkind : Kind.ofWord? f.first.descriptor.kind.word.toList
      = some f.first.descriptor.kind := by
    cases f.first.descriptor.kind
    rfl
  rw [typeLine_eq, ofLine?_typeMark]
  simp only [Entry.ofKind?, Family.name, Sample.name, hname, hkind, Option.map_some]

/-- A line that starts with a metric name has no mark in front. -/
theorem ofLine?_of_name {name : String} (h : isMetricName name = true) (rest : List Char) :
    Entry.ofLine? (name.toList ++ rest) = Entry.ofSample? (name.toList ++ rest) := by
  unfold isMetricName at h
  split at h
  · simp at h
  · next first more heq =>
    have hfirst : first ≠ '#' := by
      rintro rfl
      have hmark : isNameStart '#' = false := by decide
      rw [hmark, Bool.false_and] at h
      cases h
    simp [Entry.ofLine?, heq, hfirst.symm]

/-- **The line of a sample is read back**, with all labels in order and the text of the value. -/
theorem ofLine?_sampleLine (s : Sample) :
    Entry.ofLine? (sampleLine s) = some (.series s.name (.ofSample s)) := by
  have hvalue := valueText?_valueText s.value
  have hvalid : isMetricName s.name = true := s.descriptor.name_valid
  rw [sampleLine, List.append_assoc, ofLine?_of_name hvalid]
  by_cases hempty : s.labels = []
  · have htext : labelsText s = [] := by simp [labelsText, hempty]
    rw [htext, List.nil_append]
    simp only [Entry.ofSample?, metricName?_append hvalid (not_isNameChar_blank _), hvalue,
      Option.map_some, Series.ofSample_eq, hempty]
  · have htext : labelsText s ++ ' ' :: valueText s.value
        = '\x7b' :: (List.intercalate [','] (s.labels.map labelText)
            ++ '\x7d' :: ' ' :: valueText s.value) := by
      simp [labelsText, hempty]
    rw [htext]
    simp only [Entry.ofSample?, metricName?_append hvalid (not_isNameChar_brace _),
      labels?_intercalate hempty (isLabelName_of_mem_labels s), hvalue, Option.map_some,
      Series.ofSample_eq]

/-! ### No line feed inside a line -/

theorem lineFeed_notMem_of_isMetricName {name : String} (h : isMetricName name = true) :
    '\n' ∉ name.toList := fun hmem => by
  have := isNameChar_of_mem h '\n' hmem
  exact absurd this (by decide)

theorem lineFeed_notMem_valueText (x : Binary64) : '\n' ∉ valueText x := fun hmem => by
  have := isValueChar_of_mem_valueText x '\n' hmem
  exact absurd this (by decide)

theorem lineFeed_notMem_escapeHelp (s : String) : '\n' ∉ escapeHelp s := by
  intro hmem
  obtain ⟨c, -, hc⟩ := List.mem_flatMap.mp hmem
  unfold escapeHelpChar at hc
  split_ifs at hc with hslash hfeed
  · simp at hc
  · simp at hc
  · exact hfeed (List.mem_singleton.mp hc).symm

theorem lineFeed_notMem_escapeLabel (s : String) : '\n' ∉ escapeLabel s := by
  intro hmem
  obtain ⟨c, -, hc⟩ := List.mem_flatMap.mp hmem
  unfold escapeLabelChar at hc
  split_ifs at hc with hslash hquote hfeed
  · simp at hc
  · simp at hc
  · simp at hc
  · exact hfeed (List.mem_singleton.mp hc).symm

theorem lineFeed_notMem_labelText {l : String × String} (h : isLabelName l.1 = true) :
    '\n' ∉ labelText l := by
  have hname : '\n' ∉ l.1.toList := fun hmem => by
    have := isLabelChar_of_mem h '\n' hmem
    exact absurd this (by decide)
  simp [labelText, hname, lineFeed_notMem_escapeLabel]

theorem lineFeed_notMem_intercalate {ls : List (List Char)} (h : ∀ l ∈ ls, '\n' ∉ l) :
    '\n' ∉ List.intercalate [','] ls := by
  induction ls with
  | nil => simp
  | cons l ls ih =>
    have ih := ih fun m hm => h m (List.mem_cons_of_mem l hm)
    have hl := h l (List.mem_cons_self ..)
    cases ls with
    | nil => rwa [List.intercalate_singleton]
    | cons l' ls => simp [List.intercalate_cons_cons, hl, ih]

theorem lineFeed_notMem_labelsText (s : Sample) : '\n' ∉ labelsText s := by
  have hlabels : ∀ t ∈ s.labels.map labelText, '\n' ∉ t := by
    intro t ht
    obtain ⟨l, hl, rfl⟩ := List.mem_map.mp ht
    exact lineFeed_notMem_labelText (isLabelName_of_mem_labels s l hl)
  unfold labelsText
  split_ifs
  · exact List.not_mem_nil
  · simp [lineFeed_notMem_intercalate hlabels]

theorem lineFeed_notMem_helpLine (f : Family) : '\n' ∉ helpLine f := by
  have hname := lineFeed_notMem_of_isMetricName f.first.descriptor.name_valid
  rw [helpLine_eq, List.mem_append, not_or]
  refine ⟨by decide, ?_⟩
  simp [Family.name, Sample.name, hname, lineFeed_notMem_escapeHelp]

theorem lineFeed_notMem_typeLine (f : Family) : '\n' ∉ typeLine f := by
  have hname := lineFeed_notMem_of_isMetricName f.first.descriptor.name_valid
  have hword : '\n' ∉ f.first.descriptor.kind.word.toList := by
    cases f.first.descriptor.kind
    decide
  rw [typeLine_eq, List.mem_append, not_or]
  refine ⟨by decide, ?_⟩
  simp [Family.name, Sample.name, hname, hword]

theorem lineFeed_notMem_sampleLine (s : Sample) : '\n' ∉ sampleLine s := by
  have hname := lineFeed_notMem_of_isMetricName s.descriptor.name_valid
  simp [sampleLine, Sample.name, hname, lineFeed_notMem_labelsText, lineFeed_notMem_valueText]

/-- **No label value and no help text can forge a line**: what is written for a family holds no
line feed. -/
theorem lineFeed_notMem_of_mem_familyLines {f : Family} {line : List Char}
    (h : line ∈ familyLines f) : '\n' ∉ line := by
  rcases List.mem_cons.mp h with rfl | h
  · exact lineFeed_notMem_helpLine f
  rcases List.mem_cons.mp h with rfl | h
  · exact lineFeed_notMem_typeLine f
  · obtain ⟨s, -, rfl⟩ := List.mem_map.mp h
    exact lineFeed_notMem_sampleLine s

/-- **Cutting at the line feeds gives the written lines again**, if none of them holds one. -/
theorem splitLines?_flatMap {ls : List (List Char)} (h : ∀ l ∈ ls, '\n' ∉ l) :
    splitLines? (ls.flatMap (· ++ ['\n'])) = some ls := by
  have hpieces : (ls.flatMap (· ++ ['\n'])).splitOn '\n' = ls ++ [[]] := by
    induction ls with
    | nil => simp
    | cons l ls ih =>
      have ih := ih fun m hm => h m (List.mem_cons_of_mem l hm)
      rw [List.flatMap_cons, List.append_assoc, List.singleton_append,
        List.splitOn_append_cons_self_of_not_mem (h l (List.mem_cons_self ..)), ih,
        List.cons_append]
  simp [splitLines?, hpieces]

end Exposition

end GpuMetrics.Metric
