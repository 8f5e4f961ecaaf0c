import GpuMetrics.Binary64.Basic
import Mathlib.Algebra.Order.Field.Rat
import Mathlib.Data.Nat.Cast.Order.Field
import Mathlib.Algebra.Order.Group.Unbundled.Abs
import Mathlib.Algebra.Group.Nat.Even
import Mathlib.Order.Monotone.Basic
import Mathlib.Tactic.Linarith
import Mathlib.Tactic.Positivity
import Mathlib.Tactic.FieldSimp
import Mathlib.Tactic.Ring

/-!
# Rounding to the nearest magnitude

What it is for a magnitude to be nearest to a rational number of units is said without any
rounding (`GpuMetrics.Binary64.IsNearest`): no other is nearer, and an odd one is nearer than all
others. There is at most one such magnitude (`GpuMetrics.Binary64.IsNearest.unique`), and it can be
told by its two neighbours alone, since the values grow with the magnitudes
(`GpuMetrics.Binary64.isNearest_iff`).

Rounding finds it (`GpuMetrics.Binary64.nearestMagnitude_of_isNearest`). A value is counted in the
spacing of its own block and the count is rounded; what has to be seen is that nothing goes wrong
at the two ends of a block, where the spacing changes
(`GpuMetrics.Binary64.isNearest_of_count`).
-/

namespace GpuMetrics.Binary64

/-! ### The spacing of the values -/

/-- The exponent of the spacing between a magnitude and the next, both in units. -/
def spacingExponent (m : Nat) : Nat := m / blockSize - 1

/-- How many units it is from a magnitude to the next. -/
def spacing (m : Nat) : Nat := 2 ^ spacingExponent m

/-- How many spacings a magnitude is away from zero. -/
def significand (m : Nat) : Nat := m - spacingExponent m * blockSize

theorem significand_lt (m : Nat) : significand m < 2 ^ 53 := by
  simp only [significand, spacingExponent, blockSize]
  omega

theorem eq_add_significand (m : Nat) : m = spacingExponent m * blockSize + significand m := by
  simp only [significand, spacingExponent, blockSize]
  omega

/-- **A magnitude is its significand times its spacing.** -/
theorem unitsOf_eq (m : Nat) : unitsOf m = significand m * spacing m := by
  rw [unitsOf, spacing, spacingExponent, Nat.pow_eq]
  split
  case isTrue h =>
    rw [significand, spacingExponent, Nat.div_eq_of_lt h]
    simp
  case isFalse h =>
    congr 1
    simp only [significand, spacingExponent, blockSize] at h ⊢
    omega

/-- Counted in any power of two of which it has no more than `2 ^ 53`, a magnitude is that count
after as many blocks. A count of exactly `2 ^ 53` is the first magnitude of the block after. -/
theorem unitsOf_add {shift count : Nat} (hcount : count ≤ 2 ^ 53)
    (hnormal : shift = 0 ∨ blockSize ≤ count) :
    unitsOf (shift * blockSize + count) = count * 2 ^ shift := by
  rcases hcount.lt_or_eq with hlt | rfl
  · have hexponent : spacingExponent (shift * blockSize + count) = shift := by
      simp only [spacingExponent, blockSize] at hnormal ⊢
      omega
    rw [unitsOf_eq, significand, spacing, hexponent, Nat.add_sub_cancel_left]
  · have hexponent : spacingExponent (shift * blockSize + 2 ^ 53) = shift + 1 := by
      simp only [spacingExponent, blockSize]
      omega
    have hsignificand : significand (shift * blockSize + 2 ^ 53) = 2 ^ 52 := by
      rw [significand, hexponent, blockSize]
      omega
    rw [unitsOf_eq, hsignificand, spacing, hexponent]
    ring

theorem unitsOf_succ (m : Nat) : unitsOf (m + 1) = unitsOf m + spacing m := by
  have hnormal : spacingExponent m = 0 ∨ blockSize ≤ significand m + 1 := by
    simp only [significand, spacingExponent, blockSize]
    omega
  have hadd := unitsOf_add (significand_lt m) hnormal
  rw [Nat.succ_eq_add_one, ← Nat.add_assoc, ← eq_add_significand] at hadd
  rw [hadd, unitsOf_eq, spacing]
  ring

theorem spacing_pos (m : Nat) : 0 < spacing m := Nat.two_pow_pos _

theorem spacing_mono : Monotone spacing := fun _ _ h =>
  Nat.pow_le_pow_right two_pos (Nat.sub_le_sub_right (Nat.div_le_div_right h) 1)

theorem unitsOf_strictMono : StrictMono unitsOf := strictMono_nat_of_lt_succ fun m => by
  rw [unitsOf_succ]
  exact Nat.lt_add_of_pos_right (spacing_pos m)

/-- A magnitude is at most `2 ^ 53` spacings above zero, counted in the spacing below it. -/
theorem unitsOf_succ_le (m : Nat) : unitsOf (m + 1) ≤ 2 ^ 53 * spacing m := by
  have hsignificand := significand_lt m
  calc unitsOf (m + 1) = (significand m + 1) * spacing m := by rw [unitsOf_succ, unitsOf_eq]; ring
    _ ≤ 2 ^ 53 * spacing m := Nat.mul_le_mul_right _ hsignificand

/-- A magnitude is one spacing above the one before. -/
theorem unitsOf_eq_add {m : Nat} (hm : 0 < m) :
    (unitsOf m : ℚ) = unitsOf (m - 1) + spacing (m - 1) := by
  rw [← Nat.cast_add, ← unitsOf_succ, Nat.sub_add_cancel hm]

/-- From the block on in which values are counted in a power of two, no spacing is smaller. -/
theorem two_pow_le_spacing {shift m : Nat} (h : shift = 0 ∨ (shift + 1) * blockSize ≤ m) :
    (2 ^ shift : ℚ) ≤ spacing m := by
  have hexponent : shift ≤ spacingExponent m := by
    simp only [spacingExponent, blockSize] at h ⊢
    omega
  rw [spacing, Nat.cast_pow, Nat.cast_ofNat]
  exact pow_le_pow_right₀ one_le_two hexponent

theorem unitsOf_zero : unitsOf 0 = 0 := rfl

/-! ### What it is to be nearest -/

/-- `m` is the magnitude nearest to `q` units; of two that are equally near, it is the even one. The
magnitudes go on behind the largest finite one, as if the exponent had no bound. -/
structure IsNearest (q : ℚ) (m : Nat) : Prop where
  nearest : ∀ m', |q - unitsOf m| ≤ |q - unitsOf m'|
  even_of_tie : ∀ m' ≠ m, |q - unitsOf m| = |q - unitsOf m'| → Even m

/-- Of two points, the lower one is nearer up to halfway between them, and the upper one from there
on. -/
theorem abs_sub_le_abs_sub_iff {q a b : ℚ} (hab : a < b) : |q - a| ≤ |q - b| ↔ 2 * q ≤ a + b := by
  rw [← sq_le_sq]
  constructor <;> intro h <;> nlinarith

theorem abs_sub_le_abs_sub_iff' {q a b : ℚ} (hab : a < b) : |q - b| ≤ |q - a| ↔ a + b ≤ 2 * q := by
  rw [← sq_le_sq]
  constructor <;> intro h <;> nlinarith

/-- They are equally near just halfway. -/
theorem abs_sub_eq_abs_sub_iff {q a b : ℚ} (hab : a < b) : |q - a| = |q - b| ↔ 2 * q = a + b := by
  rw [le_antisymm_iff, abs_sub_le_abs_sub_iff hab, abs_sub_le_abs_sub_iff' hab, le_antisymm_iff]

/-- The comparison at an end of the interval of an even or odd magnitude: `a` is at most `b`, and
equal to it only if the magnitude is even. -/
structure LeIfEven (m : Nat) (a b : ℚ) : Prop where
  le : a ≤ b
  even : a = b → Even m

theorem LeIfEven.of_lt {m : Nat} {a b : ℚ} (h : a < b) : LeIfEven m a b :=
  ⟨h.le, fun he => absurd he h.ne⟩

theorem LeIfEven.trans_le {m : Nat} {a b c : ℚ} (h : LeIfEven m a b) (hbc : b ≤ c) :
    LeIfEven m a c :=
  ⟨h.le.trans hbc, fun hac => h.even (le_antisymm h.le (hac ▸ hbc))⟩

theorem LeIfEven.le_trans {m : Nat} {a b c : ℚ} (hab : a ≤ b) (h : LeIfEven m b c) :
    LeIfEven m a c :=
  ⟨hab.trans h.le, fun hac => h.even (le_antisymm h.le (hac ▸ hab))⟩

theorem LeIfEven.imp {m m' : Nat} {a b : ℚ} (h : LeIfEven m a b) (hm : Even m → Even m') :
    LeIfEven m' a b :=
  ⟨h.le, fun he => hm (h.even he)⟩

theorem leIfEven_iff {m : Nat} {a b : ℚ} :
    LeIfEven m a b ↔ if m % 2 = 0 then a ≤ b else a < b := by
  split_ifs with h
  · exact ⟨LeIfEven.le, fun hle => ⟨hle, fun _ => Nat.even_iff.mpr h⟩⟩
  · exact ⟨fun hle => hle.le.lt_of_ne fun he => h (Nat.even_iff.mp (hle.even he)), .of_lt⟩

theorem LeIfEven.mul_right {m : Nat} {a b p : ℚ} (h : LeIfEven m a b) (hp : 0 < p) :
    LeIfEven m (a * p) (b * p) :=
  ⟨mul_le_mul_of_nonneg_right h.le hp.le, fun he => h.even (mul_right_cancel₀ hp.ne' he)⟩

/-- **The interval of a magnitude** reaches halfway to its two neighbours, and has its ends just if
the magnitude is even. -/
theorem isNearest_iff {q : ℚ} {m : Nat} : IsNearest q m ↔
    (0 < m → LeIfEven m (unitsOf (m - 1) + unitsOf m) (2 * q)) ∧
      LeIfEven m (2 * q) (unitsOf m + unitsOf (m + 1)) := by
  have hcast {a b : Nat} (h : a < b) : (unitsOf a : ℚ) < unitsOf b :=
    Nat.cast_lt.mpr (unitsOf_strictMono h)
  constructor
  · rintro ⟨hnearest, heven⟩
    refine ⟨fun hm => ?_, ?_⟩
    · have hlt : m - 1 < m := Nat.sub_lt hm one_pos
      exact ⟨(abs_sub_le_abs_sub_iff' (hcast hlt)).mp (hnearest _), fun htie =>
        heven _ hlt.ne ((abs_sub_eq_abs_sub_iff (hcast hlt)).mpr htie.symm).symm⟩
    · have hlt : m < m + 1 := Nat.lt_succ_self m
      exact ⟨(abs_sub_le_abs_sub_iff (hcast hlt)).mp (hnearest _), fun htie =>
        heven _ hlt.ne' ((abs_sub_eq_abs_sub_iff (hcast hlt)).mpr htie)⟩
  · rintro ⟨hbelow, habove⟩
    -- what lies beyond a neighbour is farther away than the neighbour is
    have hlow {m' : Nat} (h : m' < m) : LeIfEven m (unitsOf m' + unitsOf m) (2 * q) := by
      refine (hbelow (Nat.zero_lt_of_lt h)).le_trans (add_le_add_left ?_ _)
      exact Nat.cast_le.mpr (unitsOf_strictMono.monotone (Nat.le_sub_one_of_lt h))
    have hhigh {m' : Nat} (h : m < m') : LeIfEven m (2 * q) (unitsOf m + unitsOf m') := by
      refine habove.trans_le (add_le_add_right ?_ _)
      exact Nat.cast_le.mpr (unitsOf_strictMono.monotone h)
    constructor
    · intro m'
      rcases lt_trichotomy m' m with h | rfl | h
      · exact (abs_sub_le_abs_sub_iff' (hcast h)).mpr (hlow h).le
      · exact le_rfl
      · exact (abs_sub_le_abs_sub_iff (hcast h)).mpr (hhigh h).le
    · intro m' hne htie
      rcases hne.lt_or_gt with h | h
      · exact (hlow h).even ((abs_sub_eq_abs_sub_iff (hcast h)).mp htie.symm).symm
      · exact (hhigh h).even ((abs_sub_eq_abs_sub_iff (hcast h)).mp htie)

/-- A value is nearest to itself. -/
theorem isNearest_unitsOf (m : Nat) : IsNearest (unitsOf m) m where
  nearest m' := by
    rw [sub_self, abs_zero]
    exact abs_nonneg _
  even_of_tie m' hne htie := by
    rw [sub_self, abs_zero, eq_comm, abs_eq_zero, sub_eq_zero, Nat.cast_inj] at htie
    exact absurd (unitsOf_strictMono.injective htie).symm hne

theorem isNearest_zero : IsNearest 0 0 := by
  have h := isNearest_unitsOf 0
  rwa [unitsOf_zero, Nat.cast_zero] at h

/-- **There is only one nearest magnitude**: two that are equally near are neighbours, and of these
one is odd. -/
theorem IsNearest.unique {q : ℚ} {m m' : Nat} (h : IsNearest q m) (h' : IsNearest q m') :
    m = m' := by
  wlog hle : m ≤ m' generalizing m m'
  · exact (this h' h (Nat.le_of_not_le hle)).symm
  by_contra hne
  have hlt : m < m' := Nat.lt_of_le_of_ne hle hne
  have hcast {a b : Nat} (h : a < b) : (unitsOf a : ℚ) < unitsOf b :=
    Nat.cast_lt.mpr (unitsOf_strictMono h)
  have htie : |q - unitsOf m| = |q - unitsOf m'| := le_antisymm (h.nearest m') (h'.nearest m)
  have heven := h.even_of_tie m' (Ne.symm hne) htie
  have heven' := h'.even_of_tie m hne htie.symm
  rcases (Nat.succ_le_of_lt hlt).lt_or_eq with hbetween | rfl
  · -- a magnitude between the two would be nearer than both
    have hhalf := (abs_sub_eq_abs_sub_iff (hcast hlt)).mp htie
    have hnear := (abs_sub_le_abs_sub_iff (hcast (Nat.lt_succ_self m))).mp (h.nearest _)
    linarith [hcast hbetween]
  · exact absurd heven (Nat.even_add_one.mp heven')

/-! ### Rounding -/

/-- A fraction is its quotient and a part below one, which the remainder is of the denominator. -/
theorem exists_div_eq (n : Nat) {d : Nat} (hd : 0 < d) : ∃ t : ℚ, 0 ≤ t ∧ t < 1 ∧
    (n / d : ℚ) = (n / d : ℕ) + t ∧ ((n % d : ℕ) : ℚ) = t * d := by
  have hdpos : (0 : ℚ) < d := Nat.cast_pos.mpr hd
  refine ⟨(n % d : ℕ) / d, by positivity, ?_, ?_, by field_simp⟩
  · rw [div_lt_one hdpos]
    exact Nat.cast_lt.mpr (Nat.mod_lt n hd)
  · have hsplit : (n : ℚ) = d * (n / d : ℕ) + (n % d : ℕ) := by
      exact_mod_cast (Nat.div_add_mod n d).symm
    rw [hsplit]
    field_simp

/-- Rounding to a whole number gives one at most half away, and an even one if it is a half. -/
theorem roundHalfEven_spec (n : Nat) {d : Nat} (hd : 0 < d) :
    LeIfEven (roundHalfEven n d) (2 * roundHalfEven n d - 1) (2 * (n / d : ℚ)) ∧
      LeIfEven (roundHalfEven n d) (2 * (n / d : ℚ)) (2 * roundHalfEven n d + 1) := by
  have hdpos : (0 : ℚ) < d := Nat.cast_pos.mpr hd
  obtain ⟨t, hnonneg, hlt, hquotient, hremainder⟩ := exists_div_eq n hd
  rw [hquotient]
  rcases lt_trichotomy (2 * (n % d)) d with h | h | h
  · -- less than a half: down
    have hround : roundHalfEven n d = n / d := by simp [roundHalfEven, h]
    have hhalf : (2 * (n % d : ℕ) : ℚ) < d := by exact_mod_cast h
    have hhalf' : 2 * t < 1 := by
      rw [hremainder] at hhalf
      nlinarith
    rw [hround]
    exact ⟨.of_lt (by linarith), .of_lt (by linarith)⟩
  · -- a half: to the even side
    have hround : roundHalfEven n d = n / d + n / d % 2 := by simp [roundHalfEven, h]
    have hhalf : (2 * (n % d : ℕ) : ℚ) = d := by exact_mod_cast h
    have hhalf' : 2 * t = 1 := by
      rw [hremainder] at hhalf
      nlinarith
    rw [hround]
    rcases Nat.mod_two_eq_zero_or_one (n / d) with heven | hodd
    · rw [heven, Nat.add_zero]
      exact ⟨.of_lt (by linarith), by linarith, fun _ => Nat.even_iff.mpr heven⟩
    · rw [hodd, Nat.cast_add_one]
      refine ⟨⟨by linarith, fun _ => ?_⟩, .of_lt (by linarith)⟩
      exact Nat.even_add_one.mpr (Nat.not_even_iff.mpr hodd)
  · -- more than a half: up
    have hround : roundHalfEven n d = n / d + 1 := by simp [roundHalfEven, h, not_lt.mpr h.le]
    have hhalf : (d : ℚ) < 2 * (n % d : ℕ) := by exact_mod_cast h
    have hhalf' : 1 < 2 * t := by
      rw [hremainder] at hhalf
      nlinarith
    rw [hround, Nat.cast_add_one]
    exact ⟨.of_lt (by linarith), .of_lt (by linarith)⟩

theorem roundHalfEven_bounds (n d : Nat) :
    n / d ≤ roundHalfEven n d ∧ roundHalfEven n d ≤ n / d + 1 := by
  simp only [roundHalfEven]
  split_ifs <;> omega

/-- The magnitude nearest to `n / d` units, when the largest is not infinite. -/
def roundedMagnitude (n d : Nat) : Nat :=
  let shift := (n / d).log2 - 52
  shift * blockSize + roundHalfEven n (d * 2 ^ shift)

theorem nearestMagnitude_eq (n d : Nat) :
    nearestMagnitude n d = min (roundedMagnitude n d) infiniteMagnitude := rfl

/-- A count is below `2 ^ 53`, and at least `2 ^ 52` where its spacing is more than a unit. -/
theorem count_bounds (q : Nat) : q / 2 ^ (q.log2 - 52) < 2 ^ 53 ∧
    (q.log2 - 52 = 0 ∨ 2 ^ 52 * 2 ^ (q.log2 - 52) ≤ q) := by
  rcases Nat.le_total q.log2 52 with h | h
  · have hshift : q.log2 - 52 = 0 := by omega
    refine ⟨?_, Or.inl hshift⟩
    rw [hshift, pow_zero, Nat.div_one]
    exact Nat.lt_log2_self.trans_le (Nat.pow_le_pow_right two_pos (by omega))
  · obtain ⟨shift, hshift⟩ := Nat.exists_eq_add_of_le h
    have hne : q ≠ 0 := by
      rintro rfl
      simp at h
    rw [hshift, Nat.add_sub_cancel_left, ← pow_add, ← hshift]
    refine ⟨?_, Or.inr (Nat.log2_self_le hne)⟩
    rw [Nat.div_lt_iff_lt_mul (Nat.two_pow_pos _), ← pow_add]
    exact Nat.lt_log2_self.trans_eq (by rw [hshift]; ring)

/-- **A count nearest to a value in its spacing gives the nearest magnitude.** Above `2 ^ 52` all
neighbours are at least the spacing away; at `2 ^ 52` itself the lower one is nearer, but then the
value is not below the magnitude. -/
theorem isNearest_of_count {q : ℚ} {shift count : Nat} (hcount : count ≤ 2 ^ 53)
    (hnormal : shift = 0 ∨ blockSize ≤ count ∧ (blockSize * 2 ^ shift : ℕ) ≤ q)
    (hlow : LeIfEven count (2 * count - 1) (2 * (q / 2 ^ shift)))
    (hhigh : LeIfEven count (2 * (q / 2 ^ shift)) (2 * count + 1)) :
    IsNearest q (shift * blockSize + count) := by
  obtain ⟨m, hm⟩ : ∃ m, m = shift * blockSize + count := ⟨_, rfl⟩
  have hunits : (unitsOf m : ℚ) = count * 2 ^ shift := by
    rw [hm, unitsOf_add hcount (hnormal.imp_right And.left)]
    push_cast
    rfl
  have hparity : Even count → Even m := by
    rw [hm, Nat.even_iff, Nat.even_iff, blockSize]
    omega
  have hpow : (0 : ℚ) < 2 ^ shift := by positivity
  have hscale : 2 * (q / 2 ^ shift) * 2 ^ shift = 2 * q := by
    rw [mul_assoc, div_mul_cancel₀ q hpow.ne']
  have hlow' := (hlow.mul_right hpow).imp hparity
  have hhigh' := (hhigh.mul_right hpow).imp hparity
  rw [hscale] at hlow' hhigh'
  rw [← hm, isNearest_iff]
  refine ⟨fun hpos => ?_, ?_⟩
  · have hpred := unitsOf_eq_add hpos
    by_cases hedge : shift = 0 ∨ blockSize < count
    · have hspacing : (2 ^ shift : ℚ) ≤ spacing (m - 1) := two_pow_le_spacing (by
        rw [hm]
        simp only [blockSize] at hedge ⊢
        omega)
      exact hlow'.le_trans (by linarith)
    · obtain ⟨hshift, hle⟩ := not_or.mp hedge
      obtain ⟨hge, hvalue⟩ := hnormal.resolve_left hshift
      have hspacing : (0 : ℚ) < spacing (m - 1) := Nat.cast_pos.mpr (spacing_pos _)
      have hunits_le : (unitsOf m : ℚ) ≤ q := by
        rw [hunits, le_antisymm (not_lt.mp hle) hge]
        exact_mod_cast hvalue
      exact .of_lt (by linarith)
  · have hspacing : (2 ^ shift : ℚ) ≤ spacing m := two_pow_le_spacing (by
      rw [hm]
      simp only [blockSize] at hnormal ⊢
      omega)
    rw [unitsOf_succ, Nat.cast_add]
    exact hhigh'.trans_le (by linarith)

theorem isNearest_roundedMagnitude (n : Nat) {d : Nat} (hd : 0 < d) :
    IsNearest (n / d) (roundedMagnitude n d) := by
  obtain ⟨hcount, hnormal⟩ := count_bounds (n / d)
  rw [Nat.div_div_eq_div_mul] at hcount
  have hd' : 0 < d * 2 ^ ((n / d).log2 - 52) := Nat.mul_pos hd (Nat.two_pow_pos _)
  obtain ⟨hlow, hhigh⟩ := roundHalfEven_spec n hd'
  obtain ⟨hfloor, hceil⟩ := roundHalfEven_bounds n (d * 2 ^ ((n / d).log2 - 52))
  rw [Nat.cast_mul, ← div_div, Nat.cast_pow, Nat.cast_ofNat] at hlow hhigh
  refine isNearest_of_count (hceil.trans hcount) (hnormal.imp_right fun h => ⟨?_, ?_⟩) hlow hhigh
  · refine le_trans ?_ hfloor
    rw [← Nat.div_div_eq_div_mul, Nat.le_div_iff_mul_le (Nat.two_pow_pos _)]
    exact h
  · calc ((blockSize * 2 ^ ((n / d).log2 - 52) : ℕ) : ℚ) ≤ (n / d : ℕ) := Nat.cast_le.mpr h
      _ ≤ n / d := Nat.cast_div_le

/-- **Rounding gives the nearest magnitude**, infinity included. -/
theorem nearestMagnitude_of_isNearest {n d m : Nat} (hd : 0 < d) (h : IsNearest (n / d) m) :
    nearestMagnitude n d = min m infiniteMagnitude := by
  rw [nearestMagnitude_eq, (isNearest_roundedMagnitude n hd).unique h]

end GpuMetrics.Binary64
