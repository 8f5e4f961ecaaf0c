import GpuMetrics.Proofs.Binary64.Shortest
import Mathlib.Data.Int.Log
import Mathlib.Data.Rat.Floor

/-!
# A rounded number times a thousand

A rational number is rounded, multiplied by a thousand and rounded again. What comes out is the
product of the rational number itself, if that is a magnitude at all, unless the first error has
grown too much.

The first error is at most half a spacing (`GpuMetrics.Binary64.IsNearest.two_mul_abs_sub_le`), and
multiplication makes it a thousand times as large. The spacing at the product is 1024 times as
large, provided that the product is ten powers of two farther up, and then the error stays below
half a spacing again. The product is only nine powers of two farther up where the number lies just
above a power of two, by no more than 24 thousandths of it
(`GpuMetrics.Binary64.IsJustAbovePower`). There it can be missed, but not by more than one step. The
main statement is `GpuMetrics.Binary64.isNearest_thousandfold`.
-/

namespace GpuMetrics.Binary64

/-! ### Nearest magnitudes in order -/

/-- A magnitude that is not above a value is not above the nearest one. -/
theorem IsNearest.le_of_unitsOf_le {q : ℚ} {a m : Nat} (h : IsNearest q m) (ha : unitsOf a ≤ q) :
    a ≤ m := by
  by_contra hlt
  have hsucc : (unitsOf (m + 1) : ℚ) ≤ unitsOf a :=
    Nat.cast_le.mpr (unitsOf_strictMono.monotone (Nat.lt_of_not_le hlt))
  have hm : (unitsOf m : ℚ) < unitsOf (m + 1) :=
    Nat.cast_lt.mpr (unitsOf_strictMono (Nat.lt_succ_self m))
  linarith [(isNearest_iff.mp h).2.le]

/-- One that is not below it is not below the nearest one. -/
theorem IsNearest.le_of_le_unitsOf {q : ℚ} {b m : Nat} (h : IsNearest q m) (hb : q ≤ unitsOf b) :
    m ≤ b := by
  by_contra hlt
  have hm : 0 < m := Nat.zero_lt_of_lt (Nat.lt_of_not_le hlt)
  have hpred : (unitsOf b : ℚ) ≤ unitsOf (m - 1) :=
    Nat.cast_le.mpr (unitsOf_strictMono.monotone (Nat.le_sub_one_of_lt (Nat.lt_of_not_le hlt)))
  have hstep := unitsOf_eq_add hm
  have hspacing : (0 : ℚ) < spacing (m - 1) := Nat.cast_pos.mpr (spacing_pos _)
  linarith [((isNearest_iff.mp h).1 hm).le]

/-! ### The error of one rounding -/

/-- Below `2 ^ 53` times a power of two the spacing is at most that power. -/
theorem spacing_le {shift m : Nat} (h : (unitsOf m : ℚ) < 2 ^ 53 * 2 ^ shift) :
    (spacing m : ℚ) ≤ 2 ^ shift := by
  have hend : unitsOf (shift * blockSize + 2 ^ 53) = 2 ^ 53 * 2 ^ shift :=
    unitsOf_add le_rfl (Or.inr (by decide))
  have hlt : unitsOf m < unitsOf (shift * blockSize + 2 ^ 53) := by
    rw [hend]
    exact_mod_cast h
  have hmagnitude := unitsOf_strictMono.lt_iff_lt.mp hlt
  have hexponent : spacingExponent m ≤ shift := by
    simp only [spacingExponent, blockSize] at hmagnitude ⊢
    omega
  rw [spacing, Nat.cast_pow, Nat.cast_ofNat]
  exact pow_le_pow_right₀ one_le_two hexponent

/-- Behind `2 ^ 52` times a power of two the spacing is at least that power, already before the
magnitude. -/
theorem le_spacing_pred {shift m : Nat} (h : (2 ^ 52 * 2 ^ shift : ℚ) < unitsOf m) :
    (2 ^ shift : ℚ) ≤ spacing (m - 1) := by
  have hstart : unitsOf (shift * blockSize + 2 ^ 52) = 2 ^ 52 * 2 ^ shift :=
    unitsOf_add (by norm_num) (Or.inr le_rfl)
  have hlt : unitsOf (shift * blockSize + 2 ^ 52) < unitsOf m := by
    rw [hstart]
    exact_mod_cast h
  have hmagnitude := unitsOf_strictMono.lt_iff_lt.mp hlt
  refine two_pow_le_spacing (Or.inr ?_)
  rw [Nat.add_mul, Nat.one_mul]
  exact Nat.le_sub_one_of_lt hmagnitude

/-- **A value is at most half a spacing from the nearest magnitude.** -/
theorem IsNearest.two_mul_abs_sub_le {q : ℚ} {m shift : Nat} (h : IsNearest q m) (hq : 0 ≤ q)
    (hlt : q < 2 ^ 53 * 2 ^ shift) : 2 * |q - unitsOf m| ≤ 2 ^ shift := by
  obtain ⟨hbelow, habove⟩ := isNearest_iff.mp h
  rcases le_or_gt (unitsOf m : ℚ) q with hle | hgt
  · -- the spacing above the magnitude
    have hspacing := spacing_le (hle.trans_lt hlt)
    have hsucc : (unitsOf (m + 1) : ℚ) = unitsOf m + spacing m := by
      rw [unitsOf_succ, Nat.cast_add]
    rw [abs_of_nonneg (by linarith)]
    linarith [habove.le]
  · -- the spacing below it, which is that above the magnitude before
    have hm : 0 < m := by
      rcases Nat.eq_zero_or_pos m with rfl | hm
      · rw [unitsOf_zero, Nat.cast_zero] at hgt
        exact absurd hgt (not_lt.mpr hq)
      · exact hm
    have hpred := unitsOf_eq_add hm
    have hspacing : (spacing (m - 1) : ℚ) ≤ 2 ^ shift :=
      spacing_le (lt_of_le_of_lt (by linarith [(hbelow hm).le]) hlt)
    rw [abs_of_neg (by linarith)]
    linarith [(hbelow hm).le]

theorem pos_of_unitsOf_pos {m : Nat} (h : (0 : ℚ) < unitsOf m) : 0 < m := by
  refine unitsOf_strictMono.lt_iff_lt.mp ?_
  rw [unitsOf_zero]
  exact_mod_cast h

/-! ### The error of the product -/

section Product

variable {q : ℚ} {m product m' shift : Nat} (h : IsNearest q m)
  (hle : 2 ^ 52 * 2 ^ shift ≤ q) (hlt : q < 2 ^ 53 * 2 ^ shift)
  (hproduct : (unitsOf product : ℚ) = 1000 * q)
include h hle hlt hproduct

theorem abs_sub_product_le : |(1000 * unitsOf m - unitsOf product : ℚ)| ≤ 500 * 2 ^ shift := by
  have hpow : (0 : ℚ) < 2 ^ shift := by positivity
  have herror := h.two_mul_abs_sub_le (by linarith) hlt
  have hscale : |1000 * (unitsOf m : ℚ) - unitsOf product| = 1000 * |q - unitsOf m| := by
    rw [hproduct, ← mul_sub, abs_mul, abs_sub_comm, abs_of_nonneg (by norm_num)]
  rw [hscale]
  linarith

variable (h' : IsNearest (1000 * unitsOf m) m')
include h'

/-- **The product is missed by one step at most.** -/
theorem thousandfold_beside : product ≤ m' + 1 ∧ m' ≤ product + 1 := by
  have hpow : (0 : ℚ) < 2 ^ shift := by positivity
  have herror := abs_le.mp (abs_sub_product_le h hle hlt hproduct)
  have hspacing : (2 ^ (shift + 9) : ℚ) ≤ spacing (product - 1) := le_spacing_pred (by
    rw [hproduct, pow_add]
    linarith)
  have hnine : (2 ^ (shift + 9) : ℚ) = 512 * 2 ^ shift := by ring
  have hpos : 0 < product := pos_of_unitsOf_pos (by
    rw [hproduct]
    linarith)
  have hpred := unitsOf_eq_add hpos
  have hsucc : (unitsOf (product + 1) : ℚ) = unitsOf product + spacing product := by
    rw [unitsOf_succ, Nat.cast_add]
  have hmono : (spacing (product - 1) : ℚ) ≤ spacing product :=
    Nat.cast_le.mpr (spacing_mono (Nat.sub_le product 1))
  have hlow : product - 1 ≤ m' := h'.le_of_unitsOf_le (by linarith)
  have hhigh : m' ≤ product + 1 := h'.le_of_le_unitsOf (by linarith)
  omega

/-- **The product is met** where it is ten powers of two farther up. -/
theorem thousandfold_eq (hfar : 1024 * (2 ^ 52 * 2 ^ shift) < 1000 * q) : m' = product := by
  have hpow : (0 : ℚ) < 2 ^ shift := by positivity
  have herror := abs_sub_product_le h hle hlt hproduct
  have hten : (2 ^ (shift + 10) : ℚ) = 1024 * 2 ^ shift := by ring
  have hspacing : (2 ^ (shift + 10) : ℚ) ≤ spacing (product - 1) := le_spacing_pred (by
    rw [hproduct, hten]
    linarith)
  have hpos : 0 < product := pos_of_unitsOf_pos (by
    rw [hproduct]
    linarith)
  exact h'.unique (isNearest_of_near hpos (by linarith))

end Product

/-! ### Where the product is met -/

/-- From a power of two on, by no more than 24 thousandths of it. -/
def IsJustAbovePower (v : ℚ) : Prop := ∃ k : ℤ, 2 ^ k ≤ v ∧ v ≤ 1.024 * 2 ^ k

theorem not_isJustAbovePower {v : ℚ} (k : ℤ) (hlow : 1.024 * 2 ^ k < v) (hhigh : v < 2 ^ (k + 1)) :
    ¬IsJustAbovePower v := by
  rintro ⟨k', hlow', hhigh'⟩
  have hle : k' < k + 1 :=
    (zpow_lt_zpow_iff_right₀ (one_lt_two (α := ℚ))).mp (hlow'.trans_lt hhigh)
  have hge : (2 : ℚ) ^ k < 2 ^ k' := by linarith
  have hlt : k < k' := (zpow_lt_zpow_iff_right₀ (one_lt_two (α := ℚ))).mp hge
  omega

/-- A value that is not too small lies between two powers of two that are counted in units. -/
theorem exists_shift {v : ℚ} (hv : 1 / 128 ≤ v) : ∃ (k : ℤ) (shift : Nat),
    2 ^ k ≤ v ∧ v < 2 * 2 ^ k ∧ (2 ^ 52 * 2 ^ shift : ℚ) = 2 ^ k * unitsPerOne := by
  obtain ⟨e, he, hone⟩ := exists_unitsPerOne_eq
  have hlow : (2 : ℚ) ^ Int.log 2 v ≤ v := Int.zpow_log_le_self one_lt_two (by linarith)
  have hhigh : v < 2 ^ (Int.log 2 v + 1) := Int.lt_zpow_succ_log_self one_lt_two v
  have hk : -7 < Int.log 2 v + 1 := by
    refine (zpow_lt_zpow_iff_right₀ (one_lt_two (α := ℚ))).mp (lt_of_le_of_lt ?_ hhigh)
    exact le_trans (by norm_num) hv
  obtain ⟨shift, hshift⟩ := Int.eq_ofNat_of_zero_le (by omega : 0 ≤ Int.log 2 v + e - 52)
  refine ⟨Int.log 2 v, shift, hlow, ?_, ?_⟩
  · rwa [zpow_add_one₀ two_ne_zero, mul_comm] at hhigh
  · have hexponent : (52 : ℤ) + shift = Int.log 2 v + e := by omega
    calc (2 ^ 52 * 2 ^ shift : ℚ) = 2 ^ ((52 : ℤ) + shift) := by
          rw [zpow_add₀ two_ne_zero, zpow_natCast, zpow_ofNat]
      _ = 2 ^ (Int.log 2 v + e) := by rw [hexponent]
      _ = 2 ^ Int.log 2 v * unitsPerOne := by
          rw [zpow_add₀ two_ne_zero, zpow_natCast, hone, Nat.cast_pow, Nat.cast_ofNat]

/-- **A rounded value times a thousand**, rounded again, is within one step of the thousandfold
value, and it is that value unless the value lies just above a power of two. -/
theorem isNearest_thousandfold {v : ℚ} (hv : 1 / 128 ≤ v) {m product m' : Nat}
    (h : IsNearest (v * unitsPerOne) m)
    (hproduct : (unitsOf product : ℚ) = 1000 * (v * unitsPerOne))
    (h' : IsNearest (1000 * unitsOf m) m') :
    (product ≤ m' + 1 ∧ m' ≤ product + 1) ∧ (¬IsJustAbovePower v → m' = product) := by
  have hone : (0 : ℚ) < unitsPerOne := Nat.cast_pos.mpr unitsPerOne_pos
  obtain ⟨k, shift, hlow, hhigh, hshift⟩ := exists_shift hv
  have hle : (2 ^ 52 * 2 ^ shift : ℚ) ≤ v * unitsPerOne := by
    rw [hshift]
    exact mul_le_mul_of_nonneg_right hlow hone.le
  have hlt : v * unitsPerOne < 2 ^ 53 * 2 ^ shift := by
    calc v * unitsPerOne < 2 * 2 ^ k * unitsPerOne := mul_lt_mul_of_pos_right hhigh hone
      _ = 2 * (2 ^ 52 * 2 ^ shift) := by rw [hshift, mul_assoc]
      _ = 2 ^ 53 * 2 ^ shift := by ring
  refine ⟨thousandfold_beside h hle hlt hproduct h', fun hnot => ?_⟩
  have hfar : (1.024 * 2 ^ k : ℚ) < v := not_le.mp fun hle => hnot ⟨k, hlow, hle⟩
  refine thousandfold_eq h hle hlt hproduct h' ?_
  calc (1024 * (2 ^ 52 * 2 ^ shift) : ℚ) = 1000 * (1.024 * 2 ^ k * unitsPerOne) := by
        rw [hshift]
        ring
    _ < 1000 * (v * unitsPerOne) :=
        mul_lt_mul_of_pos_left (mul_lt_mul_of_pos_right hfar hone) (by norm_num)

end GpuMetrics.Binary64
