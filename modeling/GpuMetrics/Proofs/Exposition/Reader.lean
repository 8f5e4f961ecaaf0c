import GpuMetrics.Metric.Exposition

/-!
# Reading an exposition

What a scraper does with the text of `GpuMetrics.Metric.Exposition.render`, written down without
looking at how that text is made. Reading goes in three stages, each of which refuses what it does
not expect:

* the text is cut at its line feeds, and at nothing else
  (`GpuMetrics.Metric.Exposition.splitLines?`);
* every line is read on its own, as a `# HELP` line, a `# TYPE` line or a sample
  (`GpuMetrics.Metric.Exposition.Entry.ofLine?`);
* the entries are put together to families (`GpuMetrics.Metric.Exposition.families?`): one help
  line, directly after it one type line, then samples, all of them under one name that no other
  family has.

`GpuMetrics.Metric.Exposition.read?` runs the three.
-/

namespace GpuMetrics.Metric

namespace Exposition

/-! ### Lines -/

/-- The lines of a text without their line feeds. A last line that is left open is refused. -/
def splitLines? (text : List Char) : Option (List (List Char)) :=
  let pieces := text.splitOn '\n'
  if pieces.getLast? = some [] then some pieces.dropLast else none

/-! ### The parts of a line -/

/-- The character that an escape in a help text stands for. -/
def helpEscape? (c : Char) : Option Char :=
  if c = '\\' then some '\\' else if c = 'n' then some '\n' else none

/-- The character that an escape in a label value stands for. -/
def labelEscape? (c : Char) : Option Char :=
  if c = '"' then some '"' else helpEscape? c

/-- A help text with its escapes resolved. -/
def helpText? : List Char → Option (List Char)
  | [] => some []
  | c :: rest =>
    if c = '\\' then
      match rest with
      | [] => none
      | e :: more => (helpEscape? e).bind fun d => (helpText? more).map (d :: ·)
    else (helpText? rest).map (c :: ·)

/-- A label value up to its closing quote, with its escapes resolved, and what follows the
quote. -/
def quoted? : List Char → Option (List Char × List Char)
  | [] => none
  | c :: rest =>
    if c = '"' then some ([], rest)
    else if c = '\\' then
      match rest with
      | [] => none
      | e :: more => (labelEscape? e).bind fun d => (quoted? more).map fun r => (d :: r.1, r.2)
    else (quoted? rest).map fun r => (c :: r.1, r.2)

/-- The metric name that a text starts with, and what follows it. -/
def metricName? (text : List Char) : Option (String × List Char) :=
  let name := String.ofList (text.takeWhile isNameChar)
  if isMetricName name then some (name, text.dropWhile isNameChar) else none

/-- The label that a text starts with, its name and its value, and what follows it. -/
def label? (text : List Char) : Option ((String × String) × List Char) :=
  let name := String.ofList (text.takeWhile isLabelChar)
  match text.dropWhile isLabelChar with
  | '=' :: '"' :: rest =>
    if isLabelName name then (quoted? rest).map fun r => ((name, String.ofList r.1), r.2) else none
  | _ => none

/-- Reading a quoted value consumes at least the closing quote. -/
theorem length_of_quoted? {text : List Char} {r : List Char × List Char}
    (h : quoted? text = some r) : r.2.length < text.length := by
  fun_induction quoted? text generalizing r with
  | case1 => simp at h
  | case2 rest =>
    obtain rfl := Option.some.inj h
    simp
  | case3 => simp at h
  | case4 e more _ ih =>
    obtain ⟨d, -, hd⟩ := Option.bind_eq_some_iff.mp h
    obtain ⟨r', hr', rfl⟩ := Option.map_eq_some_iff.mp hd
    have := ih hr'
    simp only [List.length_cons]
    omega
  | case5 c rest _ _ ih =>
    obtain ⟨r', hr', rfl⟩ := Option.map_eq_some_iff.mp h
    have := ih hr'
    simp only [List.length_cons]
    omega

/-- Reading a label consumes at least its quotes. -/
theorem length_of_label? {text : List Char} {r : (String × String) × List Char}
    (h : label? text = some r) : r.2.length < text.length := by
  unfold label? at h
  split at h
  · next rest heq =>
    obtain ⟨-, h⟩ := Option.ite_none_right_eq_some.mp h
    obtain ⟨r', hr', rfl⟩ := Option.map_eq_some_iff.mp h
    have hlt := length_of_quoted? hr'
    have hle := (List.dropWhile_suffix isLabelChar (l := text)).length_le
    rw [heq] at hle
    simp only [List.length_cons] at hle ⊢
    omega
  · simp at h

/-- The labels between two braces, the first brace being read already, and what follows the
second. -/
def labels? (text : List Char) : Option (List (String × String) × List Char) :=
  match _h : label? text with
  | some (l, ',' :: more) => (labels? more).map fun r => (l :: r.1, r.2)
  | some (l, '\x7d' :: more) => some ([l], more)
  | _ => none
termination_by text.length
decreasing_by
  exact Nat.lt_of_succ_lt (length_of_label? _h)

/-- The kind that a word of a type line names. -/
def Kind.ofWord? (word : List Char) : Option Kind :=
  if word = "gauge".toList then some .gauge else none

/-- The text of a value, which is the rest of its line. A blank in it would begin a time stamp. -/
def valueText? (text : List Char) : Option String :=
  if text = [] ∨ ' ' ∈ text then none else some (String.ofList text)

/-! ### Entries -/

/-- What a line says about one series: its labels in order and the text of its value. -/
structure Series where
  labels : List (String × String)
  value : String
  deriving DecidableEq, Repr

/-- A line, read on its own. -/
inductive Entry where
  /-- The help text of a family. -/
  | help (name text : String)
  /-- The kind of a family. -/
  | kind (name : String) (kind : Kind)
  /-- A sample of a family. -/
  | series (name : String) (series : Series)
  deriving DecidableEq, Repr

/-- Reads a line that explains a family, behind its mark. -/
def Entry.ofHelp? (text : List Char) : Option Entry :=
  match metricName? text with
  | some (name, ' ' :: rest) => (helpText? rest).map fun t => .help name (String.ofList t)
  | _ => none

/-- Reads a line that gives the kind of a family, behind its mark. -/
def Entry.ofKind? (text : List Char) : Option Entry :=
  match metricName? text with
  | some (name, ' ' :: rest) => (Kind.ofWord? rest).map (.kind name)
  | _ => none

/-- Reads the line of a sample. -/
def Entry.ofSample? (text : List Char) : Option Entry :=
  match metricName? text with
  | some (name, ' ' :: rest) => (valueText? rest).map fun v => .series name ⟨[], v⟩
  | some (name, '\x7b' :: rest) =>
    match labels? rest with
    | some (labels, ' ' :: more) => (valueText? more).map fun v => .series name ⟨labels, v⟩
    | _ => none
  | _ => none

/-- Reads a line. -/
def Entry.ofLine? (line : List Char) : Option Entry :=
  if "# HELP ".toList.isPrefixOf line then ofHelp? (line.drop 7)
  else if "# TYPE ".toList.isPrefixOf line then ofKind? (line.drop 7)
  else ofSample? line

/-! ### Families -/

/-- A family as its lines tell it. -/
structure FamilyText where
  name : String
  help : String
  kind : Kind
  series : List Series
  deriving DecidableEq, Repr

/-- Reads on with the family `f` open. A sample has to bear its name; a help line opens the next
family and has to be followed by the type line of that family. -/
def familiesFrom? (f : FamilyText) : List Entry → Option (List FamilyText)
  | [] => some [f]
  | .series name s :: rest =>
    if name = f.name then familiesFrom? { f with series := f.series ++ [s] } rest else none
  | .help name text :: .kind name' kind :: rest =>
    if name' = name then (familiesFrom? ⟨name, text, kind, []⟩ rest).map (f :: ·) else none
  | _ => none

/-- The families that entries make up, no two of them under one name. -/
def families? (entries : List Entry) : Option (List FamilyText) :=
  let found := match entries with
    | [] => some []
    | .help name text :: .kind name' kind :: rest =>
      if name' = name then familiesFrom? ⟨name, text, kind, []⟩ rest else none
    | _ => none
  found.filter fun fs => (fs.map (·.name)).Nodup

/-- Reads an exposition. -/
def read? (text : String) : Option (List FamilyText) :=
  (splitLines? text.toList).bind fun lines => (lines.mapM Entry.ofLine?).bind families?

end Exposition

end GpuMetrics.Metric
