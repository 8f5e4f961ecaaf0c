import GpuMetrics.Proofs.Binary64.Numeral
import GpuMetrics.Proofs.Exposition.Line
import GpuMetrics.Text.Blank

/-!
# The text of a value

Whole numbers are written with all their digits and other numbers in the fewest digits that read
back. Either way the text is a numeral to which the magnitude of the number is the nearest one
(`GpuMetrics.Metric.Exposition.valueText_of_isFinite`): in the first case because the numeral is
the value itself, in the second by the choice of the digits. Reading rounds to the nearest number,
so it gives the number back, down to the sign of a zero
(`GpuMetrics.Metric.Exposition.ofText?_valueText`).

That two numbers never have the same text, and that only what is no number is written as such, are
consequences.
-/

namespace GpuMetrics

namespace Binary64

/-! ### A number is its sign and its magnitude -/

theorem ofMagnitude_magnitude (x : Binary64) : ofMagnitude x.isNegative x.magnitude = x := by
  have hbits : (if x.isNegative = true then signBit else 0) + x.magnitude = x.bits.toNat := by
    have hlt := x.bits.toNat_lt
    rw [magnitude, isNegative]
    by_cases hsign : signBit ≤ x.bits.toNat
    · rw [decide_eq_true hsign, if_pos rfl]
      rw [signBit] at hsign ⊢
      omega
    · rw [decide_eq_false hsign, if_neg Bool.false_ne_true, Nat.zero_add]
      exact Nat.mod_eq_of_lt (not_le.mp hsign)
  rw [ofMagnitude, hbits, UInt64.ofNat_toNat]

theorem eq_infinity_of_isInfinite {x : Binary64} (h : x.isInfinite = true) :
    x = infinity x.isNegative := by
  have hmagnitude : x.magnitude = infiniteMagnitude := beq_iff_eq.mp h
  rw [infinity, ← hmagnitude, ofMagnitude_magnitude]

theorem isFinite_of_not {x : Binary64} (hnan : x.isNaN = false) (hinf : x.isInfinite = false) :
    x.isFinite = true := by
  simp only [isNaN, isInfinite, isFinite, decide_eq_false_iff_not, beq_eq_false_iff_ne,
    decide_eq_true_eq] at *
  omega

/-- A whole number is as many units as its whole part has. -/
theorem wholePart_mul_unitsPerOne {x : Binary64} (h : x.isWhole = true) :
    x.wholePart * unitsPerOne = unitsOf x.magnitude :=
  Nat.div_mul_cancel (Nat.dvd_of_mod_eq_zero (beq_iff_eq.mp h))

/-- Zero is whole, so a number that is not whole has a positive magnitude. -/
theorem magnitude_pos_of_not_isWhole {x : Binary64} (h : x.isWhole = false) : 0 < x.magnitude := by
  refine Nat.pos_of_ne_zero fun hzero => ?_
  have : x.isWhole = true := by
    rw [isWhole, units, hzero, unitsOf_zero, Nat.zero_mod]
    rfl
  rw [this] at h
  cases h

end Binary64

namespace Metric.Exposition

open Binary64

/-- **The text of a finite value** is a numeral behind the sign of the value, and the magnitude of
the value is the nearest one to it. -/
theorem valueText_of_isFinite {x : Binary64} (h : x.isFinite = true) : ∃ text digits e,
    valueText x = signText x.isNegative ++ text ∧ IsNumeral text digits e ∧
      IsNearest (digits * 10 ^ e * unitsPerOne) x.magnitude := by
  have hlt : x.magnitude < infiniteMagnitude := decide_eq_true_eq.mp h
  have hnan : x.isNaN = false := decide_eq_false_iff_not.mpr (by omega)
  have hinf : x.isInfinite = false := beq_eq_false_iff_ne.mpr hlt.ne
  cases hwhole : x.isWhole with
  | true =>
    refine ⟨_, _, _, by simp only [valueText, hnan, hinf, hwhole]; rfl, isNumeral_toDigits _, ?_⟩
    rw [zpow_zero, mul_one, ← Nat.cast_mul, wholePart_mul_unitsPerOne hwhole]
    exact isNearest_unitsOf _
  | false =>
    obtain ⟨digits, e, hnumeral, hvalue⟩ := isNumeral_positional (shortest x.magnitude)
    refine ⟨_, digits, e, by simp only [valueText, hnan, hinf, hwhole]; rfl, hnumeral, ?_⟩
    rw [hvalue]
    exact isNearest_shortest (magnitude_pos_of_not_isWhole hwhole)

/-- **The text of a number is read back as that number.** -/
theorem ofText?_valueText {x : Binary64} (h : x.isNaN = false) :
    ofText? (valueText x) = some x := by
  cases hinf : x.isInfinite with
  | true =>
    rw [eq_infinity_of_isInfinite hinf]
    cases x.isNegative <;> decide +kernel
  | false =>
    have hfinite := isFinite_of_not h hinf
    obtain ⟨text, digits, e, htext, hnumeral, hnearest⟩ := valueText_of_isFinite hfinite
    have hlt : x.magnitude < infiniteMagnitude := decide_eq_true_eq.mp hfinite
    rw [htext, ofText?_of_isNumeral _ hnumeral, ofDecimal_of_isNearest _ hnearest,
      Nat.min_eq_left hlt.le, ofMagnitude_magnitude]

/-- **The text is the word for what is no number** just if the value is none. -/
theorem valueText_eq_nan_iff {x : Binary64} : valueText x = ['N', 'a', 'N'] ↔ x.isNaN = true := by
  constructor
  · intro h
    by_contra hnan
    have hread := ofText?_valueText (Bool.not_eq_true _ ▸ hnan)
    rw [h] at hread
    have hx : nan = x := Option.some.inj hread
    exact hnan (hx ▸ by decide)
  · intro h
    rw [valueText, if_pos h]

theorem isBlank_of_isValueChar {c : Char} (h : isValueChar c = true) : Text.isBlank c = false := by
  rcases Bool.or_eq_true_iff.mp h with h | h
  · simp only [Char.isDigit, Bool.and_eq_true, decide_eq_true_eq] at h
    have hzero : 48 ≤ c.toNat := h.1
    have hnine : c.toNat ≤ 57 := h.2
    simp [Text.isBlank]
    omega
  · have hmark : ['.', '-', '+', 'I', 'n', 'f', 'N', 'a'].all (!Text.isBlank ·) = true := by decide
    have hno := List.all_eq_true.mp hmark c (decide_eq_true_eq.mp h)
    rwa [Bool.not_eq_true'] at hno

/-- **The text of a value stands for the value.** Read back, the text of every number is that very
number, bit for bit, so that no two numbers have one text. For a finite one it is a numeral behind
the sign, and of all magnitudes that of the number is nearest to what the numeral says, or the even
one of two that are equally near. Whatever the value, there is no blank, no line feed, no brace and
no exponent in its text, and the text is the word for what is no number just if the value is none.
-/
theorem valueText_determines (x : Binary64) :
    (x.isNaN = false → ofText? (valueText x) = some x ∧
      ∀ y : Binary64, y.isNaN = false → valueText y = valueText x → y = x) ∧
    (x.isFinite = true → ∃ text digits e, valueText x = signText x.isNegative ++ text ∧
      readDecimal? text = some (digits, e) ∧
      IsNearest (digits * 10 ^ e * unitsPerOne) x.magnitude) ∧
    (∀ c ∈ valueText x, Text.isBlank c = false ∧ c ∉ ['\n', '\x7b', '\x7d', 'e', 'E']) ∧
    (valueText x = ['N', 'a', 'N'] ↔ x.isNaN = true) := by
  refine ⟨fun hx => ⟨ofText?_valueText hx, fun y hy heq => ?_⟩, fun hx => ?_, fun c hc => ?_,
    valueText_eq_nan_iff⟩
  · have hread := ofText?_valueText hy
    rw [heq, ofText?_valueText hx] at hread
    exact (Option.some.inj hread).symm
  · obtain ⟨text, digits, e, htext, hnumeral, hnearest⟩ := valueText_of_isFinite hx
    exact ⟨text, digits, e, htext, hnumeral.read, hnearest⟩
  · have hvalue := isValueChar_of_mem_valueText x c hc
    refine ⟨isBlank_of_isValueChar hvalue, fun hmem => ?_⟩
    have hother : ['\n', '\x7b', '\x7d', 'e', 'E'].all (!isValueChar ·) = true := by decide
    have hno := List.all_eq_true.mp hother c hmem
    rw [hvalue] at hno
    cases hno

/-- Negative zero keeps its sign, the smallest number its 324 places, and a whole number beyond
`2 ^ 53` all its digits. -/
theorem valueText_determines_edges :
    (valueText ⟨0x8000000000000000⟩ = ['-', '0'] ∧
      ofText? (valueText ⟨0x8000000000000000⟩) = some ⟨0x8000000000000000⟩) ∧
    ((valueText ⟨1⟩).length = 326 ∧ ofText? (valueText ⟨1⟩) = some ⟨1⟩) ∧
    (valueText ⟨0x4340000000000001⟩ = "9007199254740994".toList ∧
      ofText? (valueText ⟨0x4340000000000001⟩) = some ⟨0x4340000000000001⟩) :=
  ⟨⟨by decide +kernel, ((valueText_determines _).1 (by decide)).1⟩,
    ⟨by decide +kernel, ((valueText_determines _).1 (by decide)).1⟩,
    ⟨by decide +kernel, ((valueText_determines _).1 (by decide)).1⟩⟩

end Metric.Exposition

end GpuMetrics
