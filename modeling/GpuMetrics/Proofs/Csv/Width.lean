import GpuMetrics.Csv.Record

/-!
# The width of a table

The rows of a text are there only if all of its records are as wide as the first. The check looks at
one record after the other and stops at the first misfit, and it is that record which the error is
about (`GpuMetrics.Csv.rows?_eq_error_iff`).
-/

namespace GpuMetrics.Csv

/-- The first misfit is the record behind which nothing has been checked yet: all records before it
have the width, and it has not. -/
theorem firstMisfit?_eq_some_iff {width number : Nat} {rs : List Record} {e : WidthError} :
    firstMisfit? width number rs = some e ↔
      ∃ before r after, rs = before ++ r :: after ∧ (∀ r' ∈ before, r'.cells.length = width) ∧
        r.cells.length ≠ width ∧
          e = ⟨number + before.length, r.start, width, r.cells.length⟩ := by
  induction rs generalizing number with
  | nil => simp [firstMisfit?]
  | cons r rs ih =>
    rw [firstMisfit?]
    by_cases hr : r.cells.length = width
    · rw [if_pos hr, ih]
      constructor
      · rintro ⟨before, s, after, rfl, hbefore, hs, rfl⟩
        refine ⟨r :: before, s, after, rfl, List.forall_mem_cons.mpr ⟨hr, hbefore⟩, hs, ?_⟩
        rw [List.length_cons, Nat.add_right_comm, Nat.add_assoc]
      · rintro ⟨_ | ⟨r', before⟩, s, after, heq, hbefore, hs, rfl⟩
        · obtain ⟨rfl, -⟩ := List.cons.inj heq
          exact absurd hr hs
        · obtain ⟨rfl, rfl⟩ := List.cons.inj heq
          refine ⟨before, s, after, rfl, (List.forall_mem_cons.mp hbefore).2, hs, ?_⟩
          rw [List.length_cons, Nat.add_right_comm, Nat.add_assoc]
    · rw [if_neg hr]
      constructor
      · intro h
        obtain rfl := Option.some.inj h
        exact ⟨[], r, rs, rfl, by simp, hr, rfl⟩
      · rintro ⟨_ | ⟨r', before⟩, s, after, heq, hbefore, -, rfl⟩
        · obtain ⟨rfl, -⟩ := List.cons.inj heq
          rfl
        · obtain ⟨rfl, -⟩ := List.cons.inj heq
          exact absurd (hbefore r (List.mem_cons_self ..)) hr

theorem firstMisfit?_eq_none_iff {width number : Nat} {rs : List Record} :
    firstMisfit? width number rs = none ↔ ∀ r ∈ rs, r.cells.length = width := by
  induction rs generalizing number with
  | nil => simp [firstMisfit?]
  | cons r rs ih =>
    rw [firstMisfit?, List.forall_mem_cons]
    by_cases hr : r.cells.length = width
    · rw [if_pos hr, ih]
      exact (and_iff_right hr).symm
    · rw [if_neg hr]
      simp [hr]

/-- A text whose records differ in width, with the error about it: the number and the place of the
first record that is not as wide as the record before it, and the two widths. -/
inductive Misfit (text : List UInt8) : WidthError → Prop where
  | mk {first r : Record} {others after : List Record}
      (split : records text = first :: others ++ r :: after)
      (fits : ∀ r' ∈ others, r'.cells.length = first.cells.length)
      (misfit : r.cells.length ≠ first.cells.length) :
      Misfit text ⟨others.length + 1, r.start, first.cells.length, r.cells.length⟩

/-- With a first record to take the width from, that record itself need not be checked. -/
theorem rows?_of_cons {text : List UInt8} {first : Record} {rest : List Record}
    (h : records text = first :: rest) :
    rows? text = (firstMisfit? first.cells.length 1 rest).elim
      (.ok ((first :: rest).map Record.trimmed)) .error := by
  simp only [rows?, h, firstMisfit?, List.head?_cons, Option.map_some, Option.getD_some, if_true]
  cases firstMisfit? first.cells.length 1 rest <;> rfl

/-- **The rows of a text are refused just for a misfit**, and the error is about the first. -/
theorem rows?_eq_error_iff {text : List UInt8} {e : WidthError} :
    rows? text = .error e ↔ Misfit text e := by
  cases hrecords : records text with
  | nil =>
    refine ⟨fun h => ?_, fun ⟨split, _, _⟩ => ?_⟩
    · simp [rows?, hrecords, firstMisfit?] at h
    · simp [hrecords] at split
  | cons first rest =>
    have hmisfit : rows? text = .error e ↔ firstMisfit? first.cells.length 1 rest = some e := by
      rw [rows?_of_cons hrecords]
      cases firstMisfit? first.cells.length 1 rest <;> simp
    rw [hmisfit, firstMisfit?_eq_some_iff]
    constructor
    · rintro ⟨others, r, after, rfl, hothers, hr, rfl⟩
      rw [Nat.add_comm]
      exact ⟨hrecords, hothers, hr⟩
    · rintro ⟨split, fits, misfit⟩
      rw [hrecords, List.cons_append] at split
      obtain ⟨rfl, rfl⟩ := List.cons.inj split
      exact ⟨_, _, _, rfl, fits, misfit, by rw [Nat.add_comm]⟩

/-- **The rows of a text are its records, trimmed**, if these are all of one width. -/
theorem rows?_eq_ok_iff {text : List UInt8} {rows : List (List Cell)} :
    rows? text = .ok rows ↔
      (∀ r ∈ records text, ∀ r' ∈ records text, r.cells.length = r'.cells.length) ∧
        rows = (records text).map Record.trimmed := by
  cases hrecords : records text with
  | nil => simp [rows?, hrecords, firstMisfit?, eq_comm]
  | cons first rest =>
    rw [rows?_of_cons hrecords]
    have hwidth : firstMisfit? first.cells.length 1 rest = none ↔
        ∀ r ∈ first :: rest, ∀ r' ∈ first :: rest, r.cells.length = r'.cells.length := by
      rw [firstMisfit?_eq_none_iff]
      constructor
      · intro h
        have hall : ∀ r ∈ first :: rest, r.cells.length = first.cells.length :=
          List.forall_mem_cons.mpr ⟨rfl, h⟩
        exact fun r hr r' hr' => (hall r hr).trans (hall r' hr').symm
      · exact fun h r hr => h r (List.mem_cons_of_mem first hr) first (List.mem_cons_self ..)
    rw [← hwidth]
    cases firstMisfit? first.cells.length 1 rest <;> simp [eq_comm]

/-- All rows are of one width. -/
theorem length_eq_of_rows? {text : List UInt8} {rows : List (List Cell)} (h : rows? text = .ok rows)
    {row row' : List Cell} (hrow : row ∈ rows) (hrow' : row' ∈ rows) :
    row.length = row'.length := by
  obtain ⟨hwidth, rfl⟩ := rows?_eq_ok_iff.mp h
  obtain ⟨r, hr, rfl⟩ := List.mem_map.mp hrow
  obtain ⟨r', hr', rfl⟩ := List.mem_map.mp hrow'
  simpa [Record.trimmed] using hwidth r hr r' hr'

end GpuMetrics.Csv
