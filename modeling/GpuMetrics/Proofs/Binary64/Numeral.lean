import GpuMetrics.Binary64.Decimal
import GpuMetrics.Proofs.Binary64.Shortest
import Mathlib.Data.List.TakeWhile

/-!
# Reading a numeral rounds it

Two things have to be known about reading a numeral: which decimal its characters stand for, and
which number that decimal becomes.

* **The number** is the nearest one, whatever the digits and the exponent are
  (`GpuMetrics.Binary64.ofDecimal_of_isNearest`); the answers that are given without computing a
  power of ten are right as well.
* **The decimal**, for digits with a point among them, has the digits of both sides and as many
  places as there are behind the point (`GpuMetrics.Binary64.isNumeral_point`). Positional notation
  is of this form, so that reading it gives a decimal of the same value as the one written
  (`GpuMetrics.Binary64.isNumeral_positional`), if not the same coefficient and exponent.

A sign may stand in front, and a numeral is never taken for one of the words that stand for
infinities and for what is no number (`GpuMetrics.Binary64.ofText?_of_isNumeral`).
-/

namespace GpuMetrics.Binary64

/-! ### Decimals of any size -/

section OfDecimal

variable {digits : Nat} {e : ℤ} {m k : Nat}

theorem ten_pow_le_of_large (hdigits : digits ≠ 0) (he : k < e) :
    (10 : ℚ) ^ k ≤ digits * 10 ^ e := by
  calc (10 : ℚ) ^ k = 1 * 10 ^ (k : ℤ) := by rw [one_mul, zpow_natCast]
    _ ≤ digits * 10 ^ e := by
      gcongr
      · exact_mod_cast Nat.one_le_iff_ne_zero.mpr hdigits
      · norm_num

/-- A decimal with a large exponent is beyond all finite magnitudes. -/
theorem infiniteMagnitude_le_of_large (hk : unitsOf infiniteMagnitude < Nat.pow 10 k * unitsPerOne)
    (hdigits : digits ≠ 0) (he : k < e) (h : IsNearest (digits * 10 ^ e * unitsPerOne) m) :
    infiniteMagnitude ≤ m := by
  by_contra hlt
  have hm : (unitsOf m : ℚ) ≤ unitsOf infiniteMagnitude :=
    Nat.cast_le.mpr (unitsOf_strictMono.monotone (not_le.mp hlt).le)
  have hm' : (unitsOf (m + 1) : ℚ) ≤ unitsOf infiniteMagnitude :=
    Nat.cast_le.mpr (unitsOf_strictMono.monotone (Nat.succ_le_of_lt (not_le.mp hlt)))
  have hlow : (unitsOf infiniteMagnitude : ℚ) < 10 ^ k * unitsPerOne := by
    rw [Nat.pow_eq] at hk
    exact_mod_cast hk
  have hhigh : (10 : ℚ) ^ k * unitsPerOne ≤ digits * 10 ^ e * unitsPerOne :=
    mul_le_mul_of_nonneg_right (ten_pow_le_of_large hdigits he) (Nat.cast_nonneg _)
  linarith [(isNearest_iff.mp h).2.le]

theorem le_inv_ten_pow_of_small (he : e + digits.log2 ≤ -k) :
    (digits * 10 ^ e : ℚ) ≤ 2 * (10 ^ k)⁻¹ := by
  have hdigits : (digits : ℚ) ≤ 2 * 10 ^ (digits.log2 : ℤ) := by
    calc (digits : ℚ) ≤ (2 ^ (digits.log2 + 1) : ℕ) := Nat.cast_le.mpr Nat.lt_log2_self.le
      _ = 2 * 2 ^ digits.log2 := by push_cast; ring
      _ ≤ 2 * 10 ^ (digits.log2 : ℤ) := by
        rw [zpow_natCast]
        gcongr
        norm_num
  calc (digits * 10 ^ e : ℚ) ≤ 2 * 10 ^ (digits.log2 : ℤ) * 10 ^ e := by gcongr
    _ = 2 * 10 ^ (e + digits.log2) := by rw [zpow_add₀ (by norm_num)]; ring
    _ ≤ 2 * 10 ^ (-k : ℤ) := by
      gcongr
      norm_num
    _ = 2 * (10 ^ k)⁻¹ := by rw [zpow_neg, zpow_natCast]

/-- A decimal with many zeros behind the point is nearest to zero. -/
theorem isNearest_zero_of_small (hk : 4 * unitsPerOne ≤ Nat.pow 10 k)
    (he : e + digits.log2 ≤ -k) : IsNearest (digits * 10 ^ e * unitsPerOne) 0 := by
  have hscale : (4 * unitsPerOne : ℚ) ≤ 10 ^ k := by
    rw [Nat.pow_eq] at hk
    exact_mod_cast hk
  have hhalf : 2 * (digits * 10 ^ e * unitsPerOne : ℚ) ≤ 1 := by
    have hvalue := mul_le_mul_of_nonneg_right (le_inv_ten_pow_of_small he)
      (Nat.cast_nonneg (α := ℚ) unitsPerOne)
    calc 2 * (digits * 10 ^ e * unitsPerOne : ℚ) ≤ 2 * (2 * (10 ^ k)⁻¹ * unitsPerOne) :=
          mul_le_mul_of_nonneg_left hvalue zero_le_two
      _ = 4 * unitsPerOne / 10 ^ k := by ring
      _ ≤ 1 := (div_le_one (by positivity)).mpr hscale
  refine isNearest_iff.mpr ⟨fun hpos => absurd hpos (lt_irrefl 0), ?_, fun _ => Even.zero⟩
  have hfirst : (unitsOf 0 + unitsOf (0 + 1) : ℚ) = 1 := by
    norm_num [unitsOf_succ, unitsOf_zero, spacing, spacingExponent]
  rw [hfirst]
  exact hhalf

/-- **Reading a decimal rounds it to the nearest number**, however large or small it is. -/
theorem ofDecimal_of_isNearest (negative : Bool) (h : IsNearest (digits * 10 ^ e * unitsPerOne) m) :
    ofDecimal negative digits e = ofMagnitude negative (min m infiniteMagnitude) := by
  rw [ofDecimal]
  split_ifs with hzero hlarge hsmall
  · rw [hzero, Nat.cast_zero, zero_mul, zero_mul] at h
    rw [h.unique isNearest_zero, Nat.zero_min]
  · have hinf : infiniteMagnitude ≤ m :=
      infiniteMagnitude_le_of_large (k := 400) (by decide +kernel) hzero hlarge h
    rw [Nat.min_eq_right hinf]
    rfl
  · rw [h.unique (isNearest_zero_of_small (k := 400) (by decide +kernel) hsmall.le), Nat.zero_min]
  · have hden : 0 < Nat.pow 10 (-e).toNat := Nat.pow_pos (by decide)
    rw [nearestMagnitude_of_isNearest hden]
    convert h using 1
    rw [ten_zpow_eq, Nat.pow_eq, Nat.pow_eq]
    push_cast
    ring

end OfDecimal

/-! ### Digits with a point -/

theorem natOfDigits_toDigits (n : Nat) : Text.natOfDigits (Nat.toDigits 10 n) = n :=
  Nat.ofDigitChars_ten_toDigits

theorem natOfDigits_zeros_append (k : Nat) (ds : List Char) :
    Text.natOfDigits (List.replicate k '0' ++ ds) = Text.natOfDigits ds := by
  induction k with
  | zero => rfl
  | succ k ih => exact ih

theorem natOfDigits_append_zeros (ds : List Char) (k : Nat) :
    Text.natOfDigits (ds ++ List.replicate k '0') = Text.natOfDigits ds * 10 ^ k := by
  induction k with
  | zero => simp
  | succ k ih =>
    rw [List.replicate_succ', ← List.append_assoc, Text.natOfDigits_concat, ih, pow_succ]
    simp
    ring

/-- A text that begins with a digit and is read as this decimal. -/
structure IsNumeral (text : List Char) (digits : Nat) (e : ℤ) : Prop where
  head : ∃ c rest, text = c :: rest ∧ c.isDigit = true
  read : readDecimal? text = some (digits, e)

section IsNumeral

variable {whole fraction : List Char} (hne : whole ≠ []) (hwhole : ∀ c ∈ whole, c.isDigit = true)
include hne hwhole

theorem head_append_of_isDigit (rest : List Char) :
    ∃ c rest', whole ++ rest = c :: rest' ∧ c.isDigit = true := by
  obtain ⟨c, cs, rfl⟩ := List.exists_cons_of_ne_nil hne
  exact ⟨c, cs ++ rest, rfl, hwhole c (List.mem_cons_self ..)⟩

/-- Digits alone are a whole number. -/
theorem isNumeral_whole : IsNumeral whole (Text.natOfDigits whole) 0 where
  head := List.append_nil whole ▸ head_append_of_isDigit hne hwhole []
  read := by
    have htake : whole.takeWhile Char.isDigit = whole := List.takeWhile_eq_self_iff.mpr hwhole
    have hdrop : whole.dropWhile Char.isDigit = [] := List.dropWhile_eq_nil_iff.mpr hwhole
    simp [readDecimal?, htake, hdrop, hne, readExponent?]

/-- Digits with a point in them are a fraction of as many places as there are behind the point. -/
theorem isNumeral_point (hfraction : ∀ c ∈ fraction, c.isDigit = true) :
    IsNumeral (whole ++ '.' :: fraction) (Text.natOfDigits (whole ++ fraction))
      (-(fraction.length : ℤ)) where
  head := head_append_of_isDigit hne hwhole _
  read := by
    have htake : (whole ++ '.' :: fraction).takeWhile Char.isDigit = whole := by
      rw [List.takeWhile_append_of_pos hwhole]
      simp
    have hdrop : (whole ++ '.' :: fraction).dropWhile Char.isDigit = '.' :: fraction := by
      rw [List.dropWhile_append_of_pos hwhole]
      simp
    have htake' : fraction.takeWhile Char.isDigit = fraction :=
      List.takeWhile_eq_self_iff.mpr hfraction
    have hdrop' : fraction.dropWhile Char.isDigit = [] := List.dropWhile_eq_nil_iff.mpr hfraction
    simp [readDecimal?, htake, hdrop, htake', hdrop', hne, readExponent?]

end IsNumeral

theorem isDigit_of_mem_toDigits {n : Nat} {c : Char} (h : c ∈ Nat.toDigits 10 n) :
    c.isDigit = true :=
  Nat.isDigit_of_mem_toDigits (by decide) (by decide) h

/-- A natural number is read as itself. -/
theorem isNumeral_toDigits (n : Nat) : IsNumeral (Nat.toDigits 10 n) n 0 := by
  have h := isNumeral_whole Nat.toDigits_ne_nil fun c => @isDigit_of_mem_toDigits n c
  rwa [natOfDigits_toDigits] at h

/-- **Positional notation is read as the decimal that it was written from.** -/
theorem isNumeral_positional (d : Decimal) :
    ∃ digits e, IsNumeral d.positional digits e ∧ (digits * 10 ^ e : ℚ) = d.value := by
  have hdigit : ∀ c ∈ Nat.toDigits 10 d.coefficient, c.isDigit = true :=
    fun c => isDigit_of_mem_toDigits
  have hzero (k : Nat) : ∀ c ∈ List.replicate k '0', c.isDigit = true := by
    intro c hc
    rw [List.eq_of_mem_replicate hc]
    rfl
  rw [Decimal.positional]
  split_ifs with hexponent
  · refine ⟨_, 0, isNumeral_whole (by simp [Nat.toDigits_ne_nil])
      (List.forall_mem_append.mpr ⟨hdigit, hzero _⟩), ?_⟩
    rw [natOfDigits_append_zeros, natOfDigits_toDigits, zpow_zero, mul_one, Decimal.value,
      Nat.cast_mul, Nat.cast_pow, Nat.cast_ofNat, ← zpow_natCast, Int.toNat_of_nonneg hexponent]
  · obtain ⟨places, hplaces⟩ := Int.eq_ofNat_of_zero_le (by omega : 0 ≤ -d.exponent)
    obtain ⟨padded, hpadded⟩ : ∃ padded, padded = List.replicate
      (places + 1 - (Nat.toDigits 10 d.coefficient).length) '0' ++ Nat.toDigits 10 d.coefficient :=
      ⟨_, rfl⟩
    simp only [hplaces, Int.toNat_natCast]
    rw [← hpadded]
    have hdigits : ∀ c ∈ padded, c.isDigit = true :=
      hpadded ▸ List.forall_mem_append.mpr ⟨hzero _, hdigit⟩
    -- padding leaves a digit in front of the point
    have hlength : places < padded.length := by
      rw [hpadded, List.length_append, List.length_replicate]
      omega
    refine ⟨_, _, isNumeral_point ?_ (fun c hc => hdigits c (List.mem_of_mem_take hc))
      (fun c hc => hdigits c (List.mem_of_mem_drop hc)), ?_⟩
    · rw [Ne, ← List.length_eq_zero_iff, List.length_take]
      omega
    · rw [List.take_append_drop, hpadded, natOfDigits_zeros_append, natOfDigits_toDigits,
        Decimal.value, ← hpadded, List.length_drop]
      congr 2
      omega

/-! ### Signs -/

theorem toLower_of_isDigit {c : Char} (h : c.isDigit = true) : c.toLower = c := by
  simp only [Char.isDigit, Bool.and_eq_true, decide_eq_true_eq] at h
  have hnine : c.toNat ≤ 57 := h.2
  refine dif_neg fun hupper => ?_
  have hletter : 65 ≤ c.toNat := hupper.1
  omega

/-- The minus sign of a negative number. -/
def signText (negative : Bool) : List Char := if negative then ['-'] else []

/-- **A numeral behind an optional minus sign is read as a number of that sign**, and as none of the
words for what is not finite. -/
theorem ofText?_of_isNumeral (negative : Bool) {text : List Char} {digits : Nat} {e : ℤ}
    (h : IsNumeral text digits e) :
    ofText? (signText negative ++ text) = some (ofDecimal negative digits e) := by
  obtain ⟨c, rest, rfl, hc⟩ := h.head
  have hsplit : splitSign (signText negative ++ c :: rest) = (negative, c :: rest) := by
    cases negative with
    | true => rfl
    | false =>
      rw [signText, if_neg (by decide), List.nil_append, splitSign]
      · rintro r hr
        cases hr
        exact absurd hc (by decide)
      · rintro r hr
        cases hr
        exact absurd hc (by decide)
  -- a digit is the first letter of no word, in whatever case
  have hword (w : Char) (ws : List Char) (hw : w.isDigit = false) :
      (c :: rest).map Char.toLower ≠ w :: ws := by
    intro heq
    rw [List.map_cons, toLower_of_isDigit hc] at heq
    rw [(List.cons.inj heq).1, hw] at hc
    cases hc
  simp only [ofText?, hsplit]
  rw [if_neg (not_or.mpr ⟨hword _ _ rfl, hword _ _ rfl⟩), if_neg (hword _ _ rfl), h.read,
    Option.map_some]

end GpuMetrics.Binary64
