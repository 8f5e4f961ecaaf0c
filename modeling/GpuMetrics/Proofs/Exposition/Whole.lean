import GpuMetrics.Proofs.Exposition.Value

/-!
# Whole numbers from their digits to their digits

A natural number is held by a number that is finite, has no minus sign and is as many units as the
natural number is (`GpuMetrics.Binary64.IsNat`). Only one number holds it, the one that it is
rounded to (`GpuMetrics.Binary64.IsNat.eq_ofNat`), so what has to be known about a natural number is
whether any magnitude has its value (`GpuMetrics.Binary64.IsHeld`).

A range does not tell. Doubling a magnitude gives a magnitude, since the blocks repeat at twice the
spacing (`GpuMetrics.Binary64.exists_unitsOf_eq_two_mul`), so it is the significant bits that count:
up to `2 ^ 53` every natural number is held, and so is each of these times a power of two
(`GpuMetrics.Binary64.isHeld_mul_two_pow`). Three steps then lose nothing:

* digits are read as the number that they denote (`GpuMetrics.Binary64.ofText?_digits`);
* scaling gives the number that holds the product (`GpuMetrics.Binary64.IsNat.scale_eq`);
* what is written is the digits again (`GpuMetrics.Metric.Exposition.valueText_of_isNat`).
-/

namespace GpuMetrics

namespace Binary64

/-! ### A sign and a magnitude make a number -/

section OfMagnitude

variable {m : Nat} (hm : m < signBit)
include hm

theorem toNat_bits_ofMagnitude (negative : Bool) :
    (ofMagnitude negative m).bits.toNat = (if negative then signBit else 0) + m := by
  rw [ofMagnitude, UInt64.toNat_ofNat_of_lt']
  simp only [signBit, UInt64.size] at hm ⊢
  split <;> omega

theorem magnitude_ofMagnitude (negative : Bool) : (ofMagnitude negative m).magnitude = m := by
  rw [magnitude, toNat_bits_ofMagnitude hm]
  cases negative with
  | true => rw [if_pos rfl, Nat.add_mod_left, Nat.mod_eq_of_lt hm]
  | false => rw [if_neg Bool.false_ne_true, Nat.zero_add, Nat.mod_eq_of_lt hm]

theorem isNegative_ofMagnitude (negative : Bool) :
    (ofMagnitude negative m).isNegative = negative := by
  rw [isNegative, toNat_bits_ofMagnitude hm]
  cases negative with
  | true => exact decide_eq_true (Nat.le_add_right _ _)
  | false =>
    rw [if_neg Bool.false_ne_true, Nat.zero_add]
    exact decide_eq_false (Nat.not_le.mpr hm)

end OfMagnitude

theorem infiniteMagnitude_lt_signBit : infiniteMagnitude < signBit := by decide

theorem isFinite_ofMagnitude {m : Nat} (hm : m < infiniteMagnitude) (negative : Bool) :
    (ofMagnitude negative m).isFinite = true := by
  rw [isFinite, magnitude_ofMagnitude (hm.trans infiniteMagnitude_lt_signBit)]
  exact decide_eq_true hm

/-! ### Numbers that are natural numbers -/

/-- A number that is exactly the given natural number. -/
structure IsNat (x : Binary64) (n : Nat) : Prop where
  finite : x.isFinite = true
  nonneg : x.isNegative = false
  units : x.units = n * unitsPerOne

/-- A natural number that is the value of some finite magnitude. -/
def IsHeld (n : Nat) : Prop := ∃ m < infiniteMagnitude, unitsOf m = n * unitsPerOne

theorem isNat_ofMagnitude {m n : Nat} (hm : m < infiniteMagnitude)
    (hunits : unitsOf m = n * unitsPerOne) : (ofMagnitude false m).IsNat n := by
  have hlt : m < signBit := hm.trans infiniteMagnitude_lt_signBit
  refine ⟨isFinite_ofMagnitude hm false, isNegative_ofMagnitude hlt false, ?_⟩
  rw [units, magnitude_ofMagnitude hlt, hunits]

/-- **A natural number is held by one number at most**, the one that it is rounded to. -/
theorem IsNat.eq_ofNat {x : Binary64} {n : Nat} (h : x.IsNat n) : x = ofNat n := by
  have hlt : x.magnitude < infiniteMagnitude := decide_eq_true_eq.mp h.finite
  have hnearest : IsNearest ((n * unitsPerOne : ℕ) / (1 : ℕ)) x.magnitude := by
    rw [Nat.cast_one, div_one, ← h.units]
    exact isNearest_unitsOf _
  rw [ofNat, nearestMagnitude_of_isNearest one_pos hnearest, Nat.min_eq_left hlt.le, ← h.nonneg,
    ofMagnitude_magnitude]

theorem isNat_ofNat {n : Nat} (h : IsHeld n) : (ofNat n).IsNat n := by
  obtain ⟨m, hm, hunits⟩ := h
  have hnat := isNat_ofMagnitude hm hunits
  exact hnat.eq_ofNat ▸ hnat

/-- A scaled natural number is rounded like the product. -/
theorem IsNat.scale_eq {x : Binary64} {n : Nat} (h : x.IsNat n) (factor : Nat) :
    x.scale factor = ofNat (n * factor) := by
  rw [scale, if_pos h.finite, h.nonneg, h.units, ofNat, Nat.mul_right_comm]

/-! ### Which natural numbers are held -/

/-- **Twice the value of a magnitude is the value of a magnitude.** -/
theorem exists_unitsOf_eq_two_mul (m : Nat) : ∃ m', unitsOf m' = 2 * unitsOf m := by
  rcases Nat.lt_or_ge m blockSize with h | h
  · -- the subnormal values are a unit apart, and so are the first that are not subnormal
    have hcount : 2 * m ≤ 2 ^ 53 := by
      rw [blockSize] at h
      omega
    have hm : unitsOf (0 * blockSize + m) = m * 2 ^ 0 := unitsOf_add (by omega) (Or.inl rfl)
    have hm' : unitsOf (0 * blockSize + 2 * m) = 2 * m * 2 ^ 0 := unitsOf_add hcount (Or.inl rfl)
    rw [pow_zero, mul_one, Nat.zero_mul, Nat.zero_add] at hm hm'
    exact ⟨2 * m, by rw [hm, hm']⟩
  · have hexponent : spacingExponent (m + blockSize) = spacingExponent m + 1 := by
      simp only [spacingExponent, blockSize] at h ⊢
      omega
    have hsignificand : significand (m + blockSize) = significand m := by
      rw [significand, significand, hexponent, Nat.add_mul, Nat.one_mul, Nat.add_sub_add_right]
    refine ⟨m + blockSize, ?_⟩
    rw [unitsOf_eq, unitsOf_eq, hsignificand, spacing, spacing, hexponent, pow_succ]
    ring

theorem exists_unitsOf_eq_mul_two_pow {n : Nat} (hn : n ≤ 2 ^ 53) (k : Nat) :
    ∃ m, unitsOf m = n * 2 ^ k := by
  induction k with
  | zero =>
    have hunits : unitsOf (0 * blockSize + n) = n * 2 ^ 0 := unitsOf_add hn (Or.inl rfl)
    rw [Nat.zero_mul, Nat.zero_add] at hunits
    exact ⟨n, hunits⟩
  | succ k ih =>
    obtain ⟨m, hm⟩ := ih
    obtain ⟨m', hm'⟩ := exists_unitsOf_eq_two_mul m
    exact ⟨m', by rw [hm', hm, pow_succ]; ring⟩

theorem two_pow_lt_unitsOf_infiniteMagnitude {e : Nat} (he : e < 2098) :
    2 ^ e < unitsOf infiniteMagnitude := by
  obtain ⟨shift, hshift⟩ : ∃ shift, shift = 2046 := ⟨_, rfl⟩
  have hunits : unitsOf (shift * blockSize + 2 ^ 52) = 2 ^ 52 * 2 ^ shift :=
    unitsOf_add (by norm_num) (Or.inr le_rfl)
  rw [← pow_add] at hunits
  calc 2 ^ e < 2 ^ (52 + shift) := Nat.pow_lt_pow_right one_lt_two (by omega)
    _ = unitsOf (shift * blockSize + 2 ^ 52) := hunits.symm
    _ = unitsOf infiniteMagnitude := by rw [hshift]; rfl

/-- **Up to `2 ^ 53` every natural number is held**, and so is each of these times a power of
two. -/
theorem isHeld_mul_two_pow {n k : Nat} (hn : n ≤ 2 ^ 53) (hk : k ≤ 970) : IsHeld (n * 2 ^ k) := by
  obtain ⟨e, he, hone⟩ := exists_unitsPerOne_eq
  obtain ⟨m, hm⟩ := exists_unitsOf_eq_mul_two_pow hn (k + e)
  refine ⟨m, unitsOf_strictMono.lt_iff_lt.mp ?_, ?_⟩
  · calc unitsOf m = n * 2 ^ (k + e) := hm
      _ ≤ 2 ^ 53 * 2 ^ (k + e) := Nat.mul_le_mul_right _ hn
      _ = 2 ^ (53 + (k + e)) := (Nat.pow_add 2 53 (k + e)).symm
      _ < unitsOf infiniteMagnitude := two_pow_lt_unitsOf_infiniteMagnitude (by omega)
  · rw [hm, hone, Nat.pow_add, mul_assoc]

theorem isHeld_of_le {n : Nat} (hn : n ≤ 2 ^ 53) : IsHeld n := by
  have hheld := isHeld_mul_two_pow hn (Nat.zero_le 970)
  rwa [pow_zero, mul_one] at hheld

/-- **Reading digits gives the number that they denote**, if there is one. -/
theorem ofText?_digits {digits : List Char} (hne : digits ≠ [])
    (hdigits : ∀ c ∈ digits, c.isDigit = true) (hheld : IsHeld (Text.natOfDigits digits)) :
    ofText? digits = some (ofNat (Text.natOfDigits digits)) := by
  obtain ⟨m, hm, hunits⟩ := hheld
  have hnearest : IsNearest (Text.natOfDigits digits * 10 ^ (0 : ℤ) * unitsPerOne) m := by
    rw [zpow_zero, mul_one, ← Nat.cast_mul, ← hunits]
    exact isNearest_unitsOf m
  have hread := ofText?_of_isNumeral false (isNumeral_whole hne hdigits)
  rw [signText, if_neg Bool.false_ne_true, List.nil_append] at hread
  rw [hread, ofDecimal_of_isNearest false hnearest, Nat.min_eq_left hm.le,
    (isNat_ofMagnitude hm hunits).eq_ofNat]

end Binary64

namespace Metric.Exposition

open Binary64

/-- **A natural number is written in its decimal digits**, all of them and nothing else. -/
theorem valueText_of_isNat {x : Binary64} {n : Nat} (h : x.IsNat n) :
    valueText x = Nat.toDigits 10 n := by
  have hlt : x.magnitude < infiniteMagnitude := decide_eq_true_eq.mp h.finite
  have hnan : x.isNaN = false := decide_eq_false_iff_not.mpr (by omega)
  have hinf : x.isInfinite = false := beq_eq_false_iff_ne.mpr hlt.ne
  have hwhole : x.isWhole = true := by
    rw [isWhole, h.units, Nat.mul_mod_left]
    rfl
  have hpart : x.wholePart = n := by
    rw [wholePart, h.units, Nat.mul_div_cancel _ unitsPerOne_pos]
  simp [valueText, hnan, hinf, hwhole, h.nonneg, hpart]

end Metric.Exposition

end GpuMetrics
