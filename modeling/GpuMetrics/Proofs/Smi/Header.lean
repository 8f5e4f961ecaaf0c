import GpuMetrics.Proofs.Text.Trim
import GpuMetrics.Smi.Column
import Mathlib.Tactic.SplitIfs

/-!
# Finding the columns of a header

A header cell may carry white space and a remark in brackets, and the clock columns have two names
each. `GpuMetrics.Smi.Column.Spells` says what may be written for a column, and whatever is written
so is taken for that column (`GpuMetrics.Smi.headerName_of_spells`).

A column stands where the header first names it (`GpuMetrics.Smi.firstNamed`). That the cells are
trimmed before they are looked at does not move it, even where a cell is not text at all
(`GpuMetrics.Smi.headerName_trimBy`), so a header that names every column gives the layout in
which each stands at its first name (`GpuMetrics.Smi.ofHeader?_of_named`).
-/

namespace GpuMetrics.Smi

open Csv

/-! ### What may be written for a column -/

/-- The words for a column: the name under which it is requested and, for a clock, a longer one. -/
def Column.spellings : Column → List String
  | .graphicsClock => ["clocks.gr", "clocks.current.graphics"]
  | .multiprocessorClock => ["clocks.sm", "clocks.current.sm"]
  | .memoryClock => ["clocks.mem", "clocks.current.memory"]
  | c => [c.label]

/-- A cell that is written for a column: one of its words with white space around it, and possibly
a remark that begins with a bracket. -/
def Column.Spells (c : Column) (cell : Cell) : Prop :=
  ∃ (lead trail remark : List Char) (word : String), word ∈ c.spellings ∧
    (∀ x ∈ lead, Text.isBlank x) ∧ (∀ x ∈ trail, Text.isBlank x) ∧
      (∀ x ∈ remark.head?, x = '[') ∧
        cell = Text.encode (lead ++ (word.toList ++ (trail ++ remark)))

/-! ### The name in a header cell -/

theorem ne_bracket_of_isBlank {x : Char} (h : Text.isBlank x) : x ≠ '[' := by
  rintro rfl
  exact absurd h (by decide)

theorem isBlank_of_isAsciiBlank {x : Char} (h : Text.isAsciiBlank x) : Text.isBlank x := by
  simp only [Text.isAsciiBlank, Bool.or_eq_true, beq_iff_eq] at h
  rcases h with (((rfl | rfl) | rfl) | rfl) | rfl <;> rfl

theorem ne_bracket_of_mem_spelling {c : Column} {word : String} (hword : word ∈ c.spellings) :
    ∀ x ∈ word.toList, x ≠ '[' := by
  have hall : (word.toList.all fun x => x ≠ '[') = true := by
    revert word
    cases c <;> decide
  exact fun x hx => of_decide_eq_true (List.all_eq_true.mp hall x hx)

theorem trimBy_spelling {c : Column} {word : String} (hword : word ∈ c.spellings) :
    Text.trimBy Text.isBlank word.toList = word.toList := by
  revert word
  cases c <;> decide

/-- A word for a column is shortened to its name. -/
theorem normalizeHeader_of_trim {c : Column} {word : String} (hword : word ∈ c.spellings)
    {cs : List Char}
    (htrim : Text.trimBy Text.isBlank (cs.takeWhile (· ≠ '[')) = word.toList) :
    normalizeHeader (String.ofList cs) = c.label := by
  have hname : Text.trim (String.ofList ((String.ofList cs).toList.takeWhile (· ≠ '['))) = word := by
    rw [Text.trim, String.toList_ofList, String.toList_ofList, htrim, String.ofList_toList]
  simp only [normalizeHeader, hname]
  cases c <;> simp only [Column.spellings, List.mem_cons, List.not_mem_nil, or_false] at hword
  case graphicsClock => rcases hword with rfl | rfl <;> rfl
  case multiprocessorClock => rcases hword with rfl | rfl <;> rfl
  case memoryClock => rcases hword with rfl | rfl <;> rfl
  all_goals subst hword; rfl

/-- **Whatever is written for a column names it.** -/
theorem headerName_of_spells {c : Column} {cell : Cell} (h : c.Spells cell) :
    headerName cell = c.label := by
  obtain ⟨lead, trail, remark, word, hword, hlead, htrail, hremark, rfl⟩ := h
  rw [headerName, Text.decodeUtf8?_encode]
  refine normalizeHeader_of_trim hword ?_
  have hstop : remark.takeWhile (· ≠ '[') = [] := by
    cases remark with
    | nil => rfl
    | cons x remark => simp [hremark x rfl]
  have hword' : ∀ x ∈ word.toList, x ≠ '[' := ne_bracket_of_mem_spelling hword
  rw [List.takeWhile_append_of_pos fun x hx => decide_eq_true (ne_bracket_of_isBlank (hlead x hx)),
    List.takeWhile_append_of_pos fun x hx => decide_eq_true (hword' x hx),
    List.takeWhile_append_of_pos fun x hx => decide_eq_true (ne_bracket_of_isBlank (htrail x hx)),
    hstop, List.append_nil, Text.trimBy_append hlead htrail, trimBy_spelling hword]

/-- Trimming a header cell does not change what it names. -/
theorem trimBy_takeWhile_trimBy (cs : List Char) :
    Text.trimBy Text.isBlank ((Text.trimBy Text.isAsciiBlank cs).takeWhile (· ≠ '['))
      = Text.trimBy Text.isBlank (cs.takeWhile (· ≠ '[')) := by
  obtain ⟨lead, trail, hlead, htrail, heq⟩ := Text.exists_eq_append_trimBy Text.isAsciiBlank cs
  generalize Text.trimBy Text.isAsciiBlank cs = core at heq ⊢
  subst heq
  have hlead' : ∀ x ∈ lead, decide (x ≠ '[') = true := fun x hx =>
    decide_eq_true (ne_bracket_of_isBlank (isBlank_of_isAsciiBlank (hlead x hx)))
  have htrail' : ∀ x ∈ trail, decide (x ≠ '[') = true := fun x hx =>
    decide_eq_true (ne_bracket_of_isBlank (isBlank_of_isAsciiBlank (htrail x hx)))
  have hblank : ∀ x ∈ lead, Text.isBlank x := fun x hx => isBlank_of_isAsciiBlank (hlead x hx)
  rw [List.takeWhile_append_of_pos hlead', List.takeWhile_append]
  split_ifs with hlength
  · -- no bracket at all: what was trimmed off is trimmed off again
    rw [List.takeWhile_eq_self_iff.mpr htrail',
      Text.trimBy_append hblank fun x hx => isBlank_of_isAsciiBlank (htrail x hx),
      (List.takeWhile_prefix _).eq_of_length hlength]
  · rw [← List.append_nil (core.takeWhile _), Text.trimBy_append hblank (by simp)]
    simp

theorem headerName_trimBy (cell : Cell) :
    headerName (Text.trimBy Text.isByteBlank cell) = headerName cell := by
  rw [headerName, headerName, Text.decodeUtf8?_trimBy]
  cases Text.decodeUtf8? cell with
  | none => rfl
  | some s =>
    simp only [Option.map_some, normalizeHeader, Text.trim, String.toList_ofList]
    rw [trimBy_takeWhile_trimBy]

/-! ### Where a column stands -/

theorem ofCell?_eq_some_iff {cell : Cell} {c : Column} :
    Column.ofCell? cell = some c ↔ headerName cell = c.label := by
  have hfound {c' : Column} (h : Column.ofCell? cell = some c') : headerName cell = c'.label := by
    have hlabel := List.find?_some h
    exact (of_decide_eq_true hlabel).symm
  refine ⟨hfound, fun h => ?_⟩
  -- some column is found, and as names are distinct it is this one
  have hsome : (Column.ofCell? cell).isSome := by
    rw [Column.ofCell?, List.find?_isSome]
    exact ⟨c, c.mem_all, decide_eq_true h.symm⟩
  obtain ⟨c', hc'⟩ := Option.isSome_iff_exists.mp hsome
  rw [hc', Column.label_injective ((hfound hc').symm.trans h)]

/-- The position at which a header first names a column. -/
def firstNamed (header : List Cell) (c : Column) : Nat :=
  header.findIdx fun cell => headerName cell = c.label

theorem firstNamed_lt {header : List Cell} {c : Column}
    (h : ∃ cell ∈ header, headerName cell = c.label) : firstNamed header c < header.length := by
  obtain ⟨cell, hmem, hname⟩ := h
  exact List.findIdx_lt_length_of_exists ⟨cell, hmem, decide_eq_true hname⟩

/-- No two columns are first named by one cell. -/
theorem firstNamed_inj {header : List Cell} {c c' : Column}
    (h : ∃ cell ∈ header, headerName cell = c.label)
    (heq : firstNamed header c = firstNamed header c') : c = c' := by
  have hlt := firstNamed_lt h
  have hlt' : firstNamed header c' < header.length := heq ▸ hlt
  have hname : headerName (header[firstNamed header c]) = c.label :=
    of_decide_eq_true (List.findIdx_getElem (w := hlt))
  have hname' : headerName (header[firstNamed header c']) = c'.label :=
    of_decide_eq_true (List.findIdx_getElem (w := hlt'))
  refine Column.label_injective (hname.symm.trans (Eq.trans ?_ hname'))
  simp only [heq]

/-- The header may be trimmed before the columns are looked for. -/
theorem firstNamed_map_trimBy (header : List Cell) (c : Column) :
    firstNamed (header.map (Text.trimBy Text.isByteBlank)) c = firstNamed header c := by
  rw [firstNamed, firstNamed, List.findIdx_map]
  simp only [Function.comp_def, headerName_trimBy]

theorem isHeader_of_named {header : List Cell} {c : Column}
    (h : ∃ cell ∈ header, headerName cell = c.label) : isHeader header = true := by
  obtain ⟨cell, hmem, hname⟩ := h
  exact List.any_eq_true.mpr ⟨cell, hmem, by rw [ofCell?_eq_some_iff.mpr hname]; rfl⟩

/-- **A header that names every column** gives the layout in which each column stands where it is
first named. -/
theorem ofHeader?_of_named {header : List Cell}
    (h : ∀ c : Column, ∃ cell ∈ header, headerName cell = c.label) :
    Layout.ofHeader? header = .ok ⟨firstNamed header⟩ := by
  have hnames (c : Column) : (header.map Column.ofCell?).contains (some c) = true := by
    obtain ⟨cell, hmem, hname⟩ := h c
    exact List.contains_iff_mem.mpr
      (List.mem_map.mpr ⟨cell, hmem, ofCell?_eq_some_iff.mpr hname⟩)
  have hidx (c : Column) : (header.map Column.ofCell?).idxOf (some c) = firstNamed header c := by
    rw [List.idxOf, List.findIdx_map, firstNamed]
    congr 1
    funext cell
    exact Bool.eq_iff_iff.mpr (by simp [ofCell?_eq_some_iff])
  have hmissing : Column.all.find? (fun c => !(header.map Column.ofCell?).contains (some c))
      = none := by
    refine List.find?_eq_none.mpr fun c _ => ?_
    rw [hnames c]
    decide
  rw [Layout.ofHeader?]
  simp only [hmissing, hidx]

end GpuMetrics.Smi
