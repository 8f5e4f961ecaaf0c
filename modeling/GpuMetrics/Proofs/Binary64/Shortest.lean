import GpuMetrics.Binary64.Shortest
import GpuMetrics.Proofs.Binary64.Nearest
import Mathlib.Algebra.Order.Field.Power

/-!
# The shortest decimal reads back

A decimal is accepted for a magnitude if it lies in the interval of reals that round to it, which
is tested on natural numbers; in other words, if that magnitude is the nearest one to its value
(`GpuMetrics.Binary64.Decimal.roundsTo_iff`). So whatever the search returns reads back, and the
question is whether it returns anything.

It does, on the grid of seventeen digits at the latest
(`GpuMetrics.Binary64.exists_shortestOn?_seventeen`). A magnitude is at most `2 ^ 53` times its
spacing, which is less than `10 ^ 16`, and at least the power of ten of its leading digit; so the
cells of that grid are narrower than the spacing on both sides, and the nearer end of the cell that
the magnitude is in is less than half a spacing away.
-/

namespace GpuMetrics.Binary64

/-! ### The value of a decimal -/

theorem unitsPerOne_pos : 0 < unitsPerOne := by decide +kernel

/-- The number of units to a one is a power of two, with an exponent that no step evaluates. -/
theorem exists_unitsPerOne_eq : ∃ e, e = 1074 ∧ unitsPerOne = 2 ^ e :=
  ⟨1074, rfl, by decide +kernel⟩

/-- A power of ten as a fraction, of which one side is one. -/
theorem ten_zpow_eq (e : ℤ) :
    (10 : ℚ) ^ e = (10 ^ e.toNat : ℕ) / (10 ^ (-e).toNat : ℕ) := by
  rcases Int.le_total 0 e with h | h
  · rw [Int.toNat_eq_zero.mpr (Int.neg_nonpos_of_nonneg h), pow_zero, Nat.cast_one, div_one,
      Nat.cast_pow, Nat.cast_ofNat, ← zpow_natCast, Int.toNat_of_nonneg h]
  · rw [Int.toNat_eq_zero.mpr h, pow_zero, Nat.cast_one, one_div, Nat.cast_pow, Nat.cast_ofNat,
      ← zpow_natCast, Int.toNat_of_nonneg (Int.neg_nonneg_of_nonpos h), zpow_neg, inv_inv]

/-- The value of a decimal. -/
def Decimal.value (d : Decimal) : ℚ := d.coefficient * 10 ^ d.exponent

theorem Decimal.doubledUnits_eq (d : Decimal) :
    2 * (d.value * unitsPerOne) = d.doubledUnits.1 / d.doubledUnits.2 := by
  simp only [value, doubledUnits, ten_zpow_eq, Nat.pow_eq]
  push_cast
  ring

/-- **A decimal is in the interval of a magnitude just if that is the nearest one.** -/
theorem Decimal.roundsTo_iff {d : Decimal} {m : Nat} (hm : 0 < m) :
    d.roundsTo m = true ↔ IsNearest (d.value * unitsPerOne) m := by
  have hden : (0 : ℚ) < d.doubledUnits.2 := Nat.cast_pos.mpr (Nat.pow_pos (by decide))
  rw [isNearest_iff, doubledUnits_eq, leIfEven_iff, leIfEven_iff, roundsTo]
  simp only [hm, forall_const]
  split_ifs
  · simp only [Bool.and_eq_true, decide_eq_true_eq]
    rw [le_div_iff₀ hden, div_le_iff₀ hden]
    norm_cast
  · simp only [Bool.and_eq_true, decide_eq_true_eq]
    rw [lt_div_iff₀ hden, div_lt_iff₀ hden]
    norm_cast

/-- A value less than half a spacing away from a magnitude is nearest to it. The spacing below it
counts, which is at most the one above. -/
theorem isNearest_of_near {q : ℚ} {m : Nat} (hm : 0 < m)
    (h : 2 * |q - unitsOf m| < spacing (m - 1)) : IsNearest q m := by
  have hpred := unitsOf_eq_add hm
  have hsucc : (unitsOf (m + 1) : ℚ) = unitsOf m + spacing m := by
    rw [unitsOf_succ, Nat.cast_add]
  have hmono : (spacing (m - 1) : ℚ) ≤ spacing m := Nat.cast_le.mpr (spacing_mono (Nat.sub_le m 1))
  have hlow := neg_abs_le (q - unitsOf m)
  have hhigh := le_abs_self (q - unitsOf m)
  exact isNearest_iff.mpr ⟨fun _ => .of_lt (by linarith), .of_lt (by linarith)⟩

/-! ### The grids -/

theorem pow_decimalLength_le {n : Nat} (hn : 0 < n) : 10 ^ (decimalLength n - 1) ≤ n := by
  rcases Nat.eq_zero_or_pos (decimalLength n - 1) with h | h
  · rw [h, pow_zero]
    exact hn
  · by_contra hlt
    have := (Nat.length_toDigits_le_iff (by decide) h).mpr (not_le.mp hlt)
    simp only [decimalLength] at this h
    omega

/-- Counting digits gives the leading exponent, once the value is scaled to be at least one. -/
theorem ten_zpow_decimalLength_le {m k : Nat} {e : ℤ} (hm : 0 < m)
    (hk : unitsPerOne ≤ Nat.pow 10 k) (he : e = k + 1) :
    (10 : ℚ) ^ ((decimalLength (unitsOf m * Nat.pow 10 k / unitsPerOne) : ℤ) - e) *
      unitsPerOne ≤ unitsOf m := by
  have hunits : 0 < unitsOf m := unitsOf_strictMono.lt_iff_lt.mpr hm
  obtain ⟨n, hn⟩ : ∃ n, n = unitsOf m * Nat.pow 10 k / unitsPerOne := ⟨_, rfl⟩
  have hpos : 0 < n := by
    rw [hn]
    exact Nat.div_pos (hk.trans (Nat.le_mul_of_pos_left _ hunits)) unitsPerOne_pos
  have hlength : (decimalLength n : ℤ) - e = (decimalLength n - 1 : ℕ) - k := by
    have : 0 < decimalLength n := Nat.length_toDigits_pos
    omega
  rw [← hn, hlength, zpow_sub₀ (by norm_num), zpow_natCast, zpow_natCast, div_mul_eq_mul_div,
    div_le_iff₀ (by positivity)]
  have hle := (Nat.mul_le_mul_right unitsPerOne (pow_decimalLength_le hpos)).trans
    (hn ▸ Nat.div_mul_le_self _ _)
  rw [Nat.pow_eq] at hle
  exact_mod_cast hle

/-- Three doublings are less than a factor of ten. -/
theorem unitsPerOne_le_ten_pow {k : Nat} (h : 1074 ≤ 3 * k) : unitsPerOne ≤ Nat.pow 10 k := by
  obtain ⟨e, he, hunits⟩ := exists_unitsPerOne_eq
  calc unitsPerOne = 2 ^ e := hunits
    _ ≤ 2 ^ (3 * k) := Nat.pow_le_pow_right (by decide) (he ▸ h)
    _ = (2 ^ 3) ^ k := Nat.pow_mul ..
    _ ≤ 10 ^ k := Nat.pow_le_pow_left (by decide) k

/-- **The leading digit is worth no more than the magnitude.** -/
theorem ten_zpow_leadingExponent_le {m : Nat} (hm : 0 < m) :
    (10 : ℚ) ^ leadingExponent m * unitsPerOne ≤ unitsOf m := by
  rw [leadingExponent]
  -- the power is too large to be evaluated
  generalize hk : 400 = k
  exact ten_zpow_decimalLength_le hm (unitsPerOne_le_ten_pow (by omega)) (by omega)

/-- The grid point below a magnitude, and the one above it. -/
theorem gridFloor_spec (m : Nat) (e : ℤ) :
    (gridFloor m e : ℚ) * (10 ^ e * unitsPerOne) ≤ unitsOf m ∧
      unitsOf m < (gridFloor m e + 1 : ℚ) * (10 ^ e * unitsPerOne) := by
  have hcell : 0 < 10 ^ e.toNat * unitsPerOne :=
    Nat.mul_pos (Nat.pow_pos (by decide)) unitsPerOne_pos
  have hden : (0 : ℚ) < (10 ^ (-e).toNat : ℕ) := Nat.cast_pos.mpr (Nat.pow_pos (by decide))
  have hfloor : gridFloor m e = unitsOf m * 10 ^ (-e).toNat / (10 ^ e.toNat * unitsPerOne) := rfl
  have hlow := Nat.div_mul_le_self (unitsOf m * 10 ^ (-e).toNat) (10 ^ e.toNat * unitsPerOne)
  have hhigh := Nat.lt_mul_div_succ (unitsOf m * 10 ^ (-e).toNat) hcell
  rw [Nat.mul_comm (10 ^ e.toNat * unitsPerOne)] at hhigh
  rw [← hfloor] at hlow hhigh
  rw [ten_zpow_eq, div_mul_eq_mul_div, mul_div_assoc', mul_div_assoc', div_le_iff₀ hden,
    lt_div_iff₀ hden]
  exact_mod_cast And.intro hlow hhigh

/-- The point above, whichever way it is written. -/
theorem value_upper (floor digits : Nat) (e : ℤ) :
    (if floor + 1 = Nat.pow 10 digits then (⟨1, e + digits⟩ : Decimal) else ⟨floor + 1, e⟩).value
      = (floor + 1) * 10 ^ e := by
  split_ifs with h
  · have hcast : ((floor + 1 : ℕ) : ℚ) = (10 ^ digits : ℕ) := congrArg Nat.cast h
    push_cast at hcast
    rw [Decimal.value, hcast, zpow_add₀ (by norm_num), zpow_natCast, Nat.cast_one]
    ring
  · rw [Decimal.value, Nat.cast_succ]

/-- The two points of a grid beside a magnitude, and which of them is taken. -/
theorem shortestOn?_eq (m digits : Nat) : ∃ lower upper : Decimal, ∃ up : Bool,
    let e := leadingExponent m + 1 - (digits : ℤ)
    lower.value = gridFloor m e * 10 ^ e ∧ upper.value = (gridFloor m e + 1) * 10 ^ e ∧
      shortestOn? m digits = match lower.roundsTo m, upper.roundsTo m with
        | true, true => some (if up then upper else lower)
        | true, false => some lower
        | false, true => some upper
        | false, false => none :=
  ⟨_, _, _, rfl, value_upper _ _ _, rfl⟩

theorem roundsTo_of_shortestOn? {m digits : Nat} {d : Decimal}
    (h : shortestOn? m digits = some d) : d.roundsTo m = true := by
  obtain ⟨lower, upper, up, -, -, heq⟩ := shortestOn?_eq m digits
  rw [heq] at h
  split at h
  case h_1 hlower hupper =>
    cases h
    split_ifs
    · exact hupper
    · exact hlower
  case h_2 hlower hupper =>
    cases h
    exact hlower
  case h_3 hlower hupper =>
    cases h
    exact hupper
  case h_4 => cases h

/-- **On the grid of seventeen digits one of the two points reads back.** -/
theorem exists_shortestOn?_seventeen {m : Nat} (hm : 0 < m) : ∃ d, shortestOn? m 17 = some d := by
  obtain ⟨e, he⟩ : ∃ e, e = leadingExponent m + 1 - (17 : ℕ) := ⟨_, rfl⟩
  obtain ⟨step, hstep⟩ : ∃ step : ℚ, step = 10 ^ e * unitsPerOne := ⟨_, rfl⟩
  -- seventeen digits of a magnitude of sixteen digits or less
  have hfine : step < spacing (m - 1) := by
    have hlead := ten_zpow_leadingExponent_le hm
    have hsplit : (10 : ℚ) ^ leadingExponent m = 10 ^ e * 10 ^ 16 := by
      rw [← zpow_natCast, ← zpow_add₀ (by norm_num), he]
      congr 1
      push_cast
      ring
    have hle : (unitsOf m : ℚ) ≤ 2 ^ 53 * spacing (m - 1) := by
      have := unitsOf_succ_le (m - 1)
      rw [Nat.sub_add_cancel hm] at this
      exact_mod_cast this
    have hpos : (0 : ℚ) < spacing (m - 1) := Nat.cast_pos.mpr (spacing_pos _)
    rw [hsplit, mul_right_comm, ← hstep] at hlead
    linarith
  obtain ⟨hfloor, hceil⟩ := gridFloor_spec m e
  obtain ⟨lower, upper, up, hlower, hupper, heq⟩ := shortestOn?_eq m 17
  rw [← he] at hlower hupper
  -- the nearer of the two points is at most half a cell away
  have hone : lower.roundsTo m = true ∨ upper.roundsTo m = true := by
    rw [Decimal.roundsTo_iff hm, Decimal.roundsTo_iff hm, hlower, hupper, mul_assoc, mul_assoc,
      ← hstep]
    rw [← hstep] at hfloor hceil
    rcases le_total (2 * (unitsOf m - gridFloor m e * step)) step with h | h
    · refine Or.inl (isNearest_of_near hm ?_)
      rw [abs_sub_comm, abs_of_nonneg (by linarith)]
      linarith
    · refine Or.inr (isNearest_of_near hm ?_)
      rw [abs_of_nonneg (by linarith)]
      linarith
  rw [heq]
  rcases hone with h | h
  · rw [h]
    cases upper.roundsTo m <;> exact ⟨_, rfl⟩
  · rw [h]
    cases lower.roundsTo m <;> exact ⟨_, rfl⟩

/-- **The shortest decimal of a magnitude reads back**: the magnitude is the nearest one to it. -/
theorem isNearest_shortest {m : Nat} (hm : 0 < m) :
    IsNearest ((shortest m).value * unitsPerOne) m := by
  rw [← Decimal.roundsTo_iff hm, shortest]
  cases hfind : (List.range 17).findSome? fun i => shortestOn? m (i + 1) with
  | some d =>
    obtain ⟨i, -, hi⟩ := List.exists_of_findSome?_eq_some hfind
    exact roundsTo_of_shortestOn? hi
  | none =>
    obtain ⟨d, hd⟩ := exists_shortestOn?_seventeen hm
    have := List.findSome?_eq_none_iff.mp hfind 16 (by decide)
    exact absurd (hd.symm.trans this) (Option.some_ne_none d)

end GpuMetrics.Binary64
