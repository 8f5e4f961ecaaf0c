import GpuMetrics.Proofs.Binary64.Product
import GpuMetrics.Proofs.Collector.WholeReadings

/-!
# Watts in hundredths, and the milliwatts that are exported

Power is printed in watts with two digits behind the point, which no binary fraction holds unless
the two are 00, 25, 50 or 75. It is rounded when it is read and once more when it is converted
(`GpuMetrics.Binary64.IsThousandfold`), and what is exported is what comes out of that: mostly the
whole number of milliwatts that the cell says, but near it where the watts lie just above a power of
two, by no more than 24 thousandths of it. There the conversion can end one step away, as it does
for 2.01 watts (`GpuMetrics.Collector.Gpu.milliwatts_missed`).

The main statement is `GpuMetrics.Collector.Gpu.power_written`.
-/

namespace GpuMetrics

namespace Binary64

/-! ### A number that is nearest to a rational -/

/-- The absolute value of a finite number. -/
def value (x : Binary64) : ℚ := x.units / unitsPerOne

/-- A finite number without a minus sign, and the nearest one to a rational. -/
structure IsNearestTo (x : Binary64) (v : ℚ) : Prop where
  finite : x.isFinite = true
  nonneg : x.isNegative = false
  nearest : IsNearest (v * unitsPerOne) x.magnitude

theorem value_mul_unitsPerOne (x : Binary64) : x.value * unitsPerOne = x.units :=
  div_mul_cancel₀ _ (Nat.cast_pos.mpr unitsPerOne_pos).ne'

theorem isNearestTo_ofMagnitude {m : Nat} (hm : m < infiniteMagnitude) {v : ℚ}
    (h : IsNearest (v * unitsPerOne) m) : (ofMagnitude false m).IsNearestTo v := by
  have hlt : m < signBit := hm.trans infiniteMagnitude_lt_signBit
  exact ⟨isFinite_ofMagnitude hm false, isNegative_ofMagnitude hlt false,
    (magnitude_ofMagnitude hlt false).symm ▸ h⟩

/-- A rational is rounded to a finite number if it is not above a natural number that is held. -/
theorem lt_infiniteMagnitude_of_le {q : ℚ} {m n : Nat} (h : IsNearest q m) (hheld : IsHeld n)
    (hle : q ≤ n * unitsPerOne) : m < infiniteMagnitude := by
  obtain ⟨top, htop, hunits⟩ := hheld
  refine (h.le_of_le_unitsOf ?_).trans_lt htop
  rw [hunits, Nat.cast_mul]
  exact hle

/-! ### A number times a thousand -/

/-- What comes of a number `x` that is nearest to a rational `v`, when it is multiplied by a
thousand and rounded to `y`, beside the natural number `n` that is a thousand times `v`. -/
structure IsThousandfold (x y : Binary64) (v : ℚ) (n : Nat) : Prop where
  /-- The number is the one nearest to a thousand times the rounded one. -/
  rounded : y.IsNearestTo (1000 * x.value)
  /-- It is within one step of the natural number. -/
  beside : (ofNat n).magnitude ≤ y.magnitude + 1 ∧ y.magnitude ≤ (ofNat n).magnitude + 1
  /-- It is the natural number, except where the rational lies just above a power of two. -/
  exact : ¬IsJustAbovePower v → y = ofNat n

/-- Behind a natural number below `2 ^ 53` there is another finite magnitude. -/
theorem succ_lt_infiniteMagnitude {n m : Nat} (hn : n < 2 ^ 53) (hm : unitsOf m = n * unitsPerOne) :
    m + 1 < infiniteMagnitude := by
  obtain ⟨top, htop, hunits⟩ := isHeld_of_le (Nat.succ_le_of_lt hn)
  have hlt : m < top := unitsOf_strictMono.lt_iff_lt.mp (by
    rw [hm, hunits]
    exact Nat.mul_lt_mul_of_pos_right (Nat.lt_succ_self n) unitsPerOne_pos)
  omega

/-- Where the product of a rounded rational lies, if the rational is zero or not too small. -/
theorem IsNearestTo.near_product {x : Binary64} {v : ℚ} (h : x.IsNearestTo v) {n product m : Nat}
    (hv : (n : ℚ) = 1000 * v) (hsize : n = 0 ∨ 1 / 128 ≤ v)
    (hunits : unitsOf product = n * unitsPerOne)
    (hm : IsNearest (1000 * unitsOf x.magnitude) m) :
    (product ≤ m + 1 ∧ m ≤ product + 1) ∧ (¬IsJustAbovePower v → m = product) := by
  rcases hsize with rfl | hsize
  · -- nothing is rounded to nothing, and stays nothing
    have hzero : v = 0 := by
      rw [Nat.cast_zero] at hv
      linarith
    have hx := h.nearest
    rw [hzero, zero_mul] at hx
    rw [← isNearest_zero.unique hx, unitsOf_zero, Nat.cast_zero, mul_zero] at hm
    rw [Nat.zero_mul, ← unitsOf_zero] at hunits
    have hm0 : m = 0 := hm.unique isNearest_zero
    have hproduct0 : product = 0 := unitsOf_strictMono.injective hunits
    omega
  · have hproduct : (unitsOf product : ℚ) = 1000 * (v * unitsPerOne) := by
      rw [hunits, Nat.cast_mul, hv, mul_assoc]
    exact isNearest_thousandfold hsize h.nearest hproduct hm

/-- **Scaling by a thousand**, for a rational that is zero or not too small. -/
theorem IsNearestTo.isThousandfold {x : Binary64} {v : ℚ} (h : x.IsNearestTo v) {n : Nat}
    (hn : n < 2 ^ 53) (hv : (n : ℚ) = 1000 * v) (hsize : n = 0 ∨ 1 / 128 ≤ v) :
    IsThousandfold x (x.scale 1000) v n := by
  obtain ⟨product, hfinite, hunits⟩ := isHeld_of_le hn.le
  obtain ⟨m, hm⟩ : ∃ m, m = roundedMagnitude (x.units * 1000) 1 := ⟨_, rfl⟩
  have hnearest : IsNearest (1000 * unitsOf x.magnitude) m := by
    have hround := isNearest_roundedMagnitude (x.units * 1000) one_pos
    rwa [← hm, Nat.cast_one, div_one, Nat.cast_mul, mul_comm, Nat.cast_ofNat] at hround
  obtain ⟨hbeside, hexact⟩ := h.near_product hv hsize hunits hnearest
  have hmlt : m < infiniteMagnitude :=
    hbeside.2.trans_lt (succ_lt_infiniteMagnitude hn hunits)
  have hscale : x.scale 1000 = ofMagnitude false m := by
    rw [scale, if_pos h.finite, h.nonneg, nearestMagnitude_eq, ← hm, Nat.min_eq_left hmlt.le]
  have hofNat : ofNat n = ofMagnitude false product :=
    (isNat_ofMagnitude hfinite hunits).eq_ofNat.symm
  rw [hscale]
  refine ⟨isNearestTo_ofMagnitude hmlt ?_, ?_, fun hnot => ?_⟩
  · rwa [mul_assoc, value_mul_unitsPerOne]
  · rwa [hofNat, magnitude_ofMagnitude (hmlt.trans infiniteMagnitude_lt_signBit),
      magnitude_ofMagnitude (hfinite.trans infiniteMagnitude_lt_signBit)]
  · rw [hofNat, hexact hnot]

/-! ### Digits with two places -/

theorem digit_le {c : Char} (h : c.isDigit = true) : c.toNat - '0'.toNat ≤ 9 := by
  simp only [Char.isDigit, Bool.and_eq_true, decide_eq_true_eq] at h
  have hnine : c.toNat ≤ 57 := h.2
  have hzero : '0'.toNat = 48 := rfl
  omega

section Hundredths

variable {whole : List Char} {d₁ d₂ : Char}

theorem natOfDigits_append_two (whole : List Char) (d₁ d₂ : Char) :
    Text.natOfDigits (whole ++ [d₁, d₂])
      = 100 * Text.natOfDigits whole + Text.natOfDigits [d₁, d₂] := by
  have hsplit : whole ++ [d₁, d₂] = whole ++ [d₁] ++ [d₂] := by simp
  have hpair : Text.natOfDigits [d₁, d₂]
      = 10 * (d₁.toNat - '0'.toNat) + (d₂.toNat - '0'.toNat) := by simp [Text.natOfDigits]
  rw [hsplit, Text.natOfDigits_concat, Text.natOfDigits_concat, hpair]
  ring

variable (hne : whole ≠ []) (hwhole : ∀ c ∈ whole, c.isDigit = true) (h₁ : d₁.isDigit = true)
  (h₂ : d₂.isDigit = true)
include h₁ h₂

theorem natOfDigits_two_lt : Text.natOfDigits [d₁, d₂] < 100 := by
  have hten := digit_le h₁
  have hone := digit_le h₂
  simp only [Text.natOfDigits, List.foldl_cons, List.foldl_nil]
  omega

include hne hwhole

/-- **Digits with two places are read as the nearest number** to the hundredths that they say. -/
theorem ofText?_hundredths (hle : Text.natOfDigits (whole ++ [d₁, d₂]) ≤ 2 ^ 53) :
    ∃ x, ofText? (whole ++ ['.', d₁, d₂]) = some x ∧
      x.IsNearestTo (Text.natOfDigits (whole ++ [d₁, d₂]) / 100) := by
  obtain ⟨c, hc⟩ : ∃ c, c = Text.natOfDigits (whole ++ [d₁, d₂]) := ⟨_, rfl⟩
  obtain ⟨m, hm⟩ : ∃ m, m = roundedMagnitude (c * unitsPerOne) 100 := ⟨_, rfl⟩
  have hnearest : IsNearest (c / 100 * unitsPerOne) m := by
    have hround := isNearest_roundedMagnitude (c * unitsPerOne) (d := 100) (by omega)
    rwa [← hm, Nat.cast_mul, Nat.cast_ofNat, mul_div_right_comm] at hround
  have hfinite : m < infiniteMagnitude := by
    refine lt_infiniteMagnitude_of_le hnearest (isHeld_of_le (hc ▸ hle)) ?_
    refine mul_le_mul_of_nonneg_right ?_ (Nat.cast_nonneg _)
    exact div_le_self (Nat.cast_nonneg _) (by norm_num)
  have hfraction : ∀ d ∈ [d₁, d₂], d.isDigit = true := by simp [h₁, h₂]
  have hread := ofText?_of_isNumeral false (isNumeral_point hne hwhole hfraction)
  have hdecimal : IsNearest (c * 10 ^ (-([d₁, d₂].length : ℤ)) * unitsPerOne) m := by
    have hplaces : (10 : ℚ) ^ (-([d₁, d₂].length : ℤ)) = 100⁻¹ := by norm_num
    rwa [hplaces, ← div_eq_mul_inv]
  rw [signText, if_neg Bool.false_ne_true, List.nil_append, ← hc,
    ofDecimal_of_isNearest false hdecimal, Nat.min_eq_left hfinite.le] at hread
  exact ⟨_, hread, hc ▸ isNearestTo_ofMagnitude hfinite hnearest⟩

end Hundredths

end Binary64

namespace Collector

open Backend Binary64 Csv Device Smi GpuMetrics.Metric.Exposition

namespace Gpu

/-- **What is exported of watts in hundredths.** Where the power cell of a row holds whole watts
below `10 ^ 9` with two digits behind the point, it is read as the nearest number `watts`, and the
reading is the nearest number to a thousand times that. It is the whole number of milliwatts that
the cell says, except where the watts lie from a power of two on by no more than 24 thousandths of
it; and there it is this number or one beside it. If the row has an identity, and is counted, the
text has one series of the device for it, with the reading written as a value; for a whole number of
milliwatts these are its decimal digits. -/
theorem power_written {ns command : String} {g : Gpu}
    (hg : (ofBackend? ns (backend command)).value = .ok g) {host : Host}
    {stdout stderr : List UInt8} {t : Table}
    (hhost : host.launch command = .ended (.exited 0) stdout stderr)
    (ht : Table.ofOutput? stdout = .ok t) (releases : Nat) {device : Nat}
    {whole : List Char} {d₁ d₂ : Char} (hne : whole ≠ [])
    (hwhole : ∀ c ∈ whole, c.isDigit = true) (h₁ : d₁.isDigit = true) (h₂ : d₂.isDigit = true)
    (hlt : Text.natOfDigits whole < 10 ^ 9)
    (hcell : t.cell device .powerDraw = .ok (String.ofList (whole ++ ['.', d₁, d₂]))) :
    let v : ℚ := Text.natOfDigits whole + Text.natOfDigits [d₁, d₂] / 100
    let n : Nat := 1000 * Text.natOfDigits whole + 10 * Text.natOfDigits [d₁, d₂]
    ∃ watts power : Binary64, t.number device .powerDraw = .ok watts ∧ watts.IsNearestTo v ∧
      t.reading .power device = .ok power ∧ IsThousandfold watts power v n ∧
      (ofNat n).IsNat n ∧ valueText (ofNat n) = Nat.toDigits 10 n ∧
      ∀ identity, t.identity device = .ok identity →
        (t.rows.length < UInt32.size → device < t.count.toNat) ∧
          (device < t.count.toNat →
            g.IsWritten ns host releases device identity (.reading .power) (valueText power)) := by
  intro v n
  have htwo := natOfDigits_two_lt h₁ h₂
  have hcents := natOfDigits_append_two whole d₁ d₂
  have hv : ((Text.natOfDigits (whole ++ [d₁, d₂]) : ℕ) : ℚ) / 100 = v := by
    rw [hcents]
    simp only [v]
    push_cast
    ring
  have hn : (n : ℚ) = 1000 * v := by
    simp only [n, v]
    push_cast
    ring
  have hsize : n = 0 ∨ 1 / 128 ≤ v := by
    rcases Nat.eq_zero_or_pos (Text.natOfDigits (whole ++ [d₁, d₂])) with hzero | hpos
    · exact Or.inl (by omega)
    · have hone : (1 : ℚ) ≤ (Text.natOfDigits (whole ++ [d₁, d₂]) : ℕ) := Nat.one_le_cast.mpr hpos
      exact Or.inr (by linarith)
  obtain ⟨watts, hread, hwatts⟩ := ofText?_hundredths hne hwhole h₁ h₂ (by omega)
  rw [hv] at hwatts
  have hnumber : t.number device .powerDraw = .ok watts :=
    Table.number_of_cell hcell (Table.isPlaceholder_of_digits hne hwhole _)
      (by rw [String.toList_ofList, hread])
  have hnat : (ofNat n).IsNat n := isNat_ofNat (isHeld_of_le (by omega))
  have hreading : t.reading .power device = .ok (watts.scale Table.milliwattsPerWatt) := by
    simp only [Table.reading, Table.readingColumn, hnumber, Except.map]
  refine ⟨watts, watts.scale Table.milliwattsPerWatt, hnumber, hwatts, hreading,
    hwatts.isThousandfold (by omega) hn hsize, hnat, valueText_of_isNat hnat,
    fun identity hidentity => ⟨Table.lt_count_of_identity hidentity, fun hdevice => ?_⟩⟩
  exact isWritten_of_number hg hhost ht releases hdevice hidentity (q := .reading .power) hnumber

/-- The table of a device under a header in another order, with the given power cell. -/
theorem isDeviceTable_powerRow (power : Cell) :
    IsDeviceTable reversedHeader [powerRow power] :=
  ⟨spells_reversedHeader, fun l hl => by rw [List.mem_singleton.mp hl]; rfl⟩

/-- 70.27 watts lie far enough above 64, so they are exported as 70270 milliwatts. -/
theorem power_written_exact :
    ∃ g power, (ofBackend? "node" (backend "nvidia-smi")).value = .ok g ∧
      power = ofNat 70270 ∧
      g.IsWritten "node" (powerHost (Text.encode "70.27".toList)) 0 0 ⟨"7", "7", "7"⟩
        (.reading .power) (valueText power) ∧
      valueText power = "70270".toList := by
  obtain ⟨g, hg⟩ := exists_ofBackend?_node (backend "nvidia-smi")
  have htable := isDeviceTable_powerRow (Text.encode "70.27".toList)
  have hhost : (powerHost (Text.encode "70.27".toList)).launch "nvidia-smi" = .ended (.exited 0)
      (write [reversedHeader, powerRow (Text.encode "70.27".toList)]) [] := rfl
  have hcell : (Table.ofLines reversedHeader [powerRow (Text.encode "70.27".toList)]).cell 0
      .powerDraw = .ok (String.ofList (['7', '0'] ++ ['.', '2', '7'])) := by decide +kernel
  obtain ⟨watts, power, -, -, -, hpower, -, htext, hwritten⟩ := power_written hg hhost
    (ofOutput?_write htable.named htable.width) 0 (by decide) (List.all_eq_true.mp (by decide))
    (by decide) (by decide) (by decide) hcell
  have hseventy : Text.natOfDigits ['7', '0'] = 70 := by decide
  have hplaces : Text.natOfDigits ['2', '7'] = 27 := by decide
  rw [hseventy, hplaces] at hpower htext
  have hexact : power = ofNat 70270 :=
    hpower.exact (not_isJustAbovePower 6 (by norm_num) (by norm_num))
  obtain ⟨hcounted, hwritten⟩ := hwritten ⟨"7", "7", "7"⟩ (by decide +kernel)
  refine ⟨g, power, hg, hexact, hwritten (hcounted (by decide)), ?_⟩
  rw [hexact, htext]
  decide +kernel

/-- **2.01 watts are not exported as 2010 milliwatts.** They lie just above two watts, where the
conversion goes one step astray: the reading is the number before 2010, and the text has its
digits. -/
theorem milliwatts_missed :
    ∃ g t, (ofBackend? "node" (backend "nvidia-smi")).value = .ok g ∧
      Table.ofOutput? (write [reversedHeader, powerRow (Text.encode "2.01".toList)]) = .ok t ∧
      t.cell 0 .powerDraw = .ok "2.01" ∧ t.identity 0 = .ok ⟨"7", "7", "7"⟩ ∧
      t.reading .power 0 = .ok ⟨0x409f67ffffffffff⟩ ∧ ⟨0x409f67ffffffffff⟩ ≠ ofNat 2010 ∧
      g.IsWritten "node" (powerHost (Text.encode "2.01".toList)) 0 0 ⟨"7", "7", "7"⟩
        (.reading .power) "2009.9999999999998".toList := by
  obtain ⟨g, hg⟩ := exists_ofBackend?_node (backend "nvidia-smi")
  have htable := isDeviceTable_powerRow (Text.encode "2.01".toList)
  have ht := ofOutput?_write htable.named htable.width
  have hidentity : (Table.ofLines reversedHeader
      [powerRow (Text.encode "2.01".toList)]).identity 0 = .ok ⟨"7", "7", "7"⟩ := by decide +kernel
  have hnumber : (Table.ofLines reversedHeader
      [powerRow (Text.encode "2.01".toList)]).number 0 (Quantity.reading .power).column
        = .ok ⟨0x4000147ae147ae14⟩ := by decide +kernel
  have hhost : (powerHost (Text.encode "2.01".toList)).launch "nvidia-smi" = .ended (.exited 0)
      (write [reversedHeader, powerRow (Text.encode "2.01".toList)]) [] := rfl
  have hwritten := isWritten_of_number hg hhost ht 0 (by decide) hidentity hnumber
  have hvalue : valueText ((Quantity.reading .power).ofNumber ⟨0x4000147ae147ae14⟩)
      = "2009.9999999999998".toList := by decide +kernel
  refine ⟨g, _, hg, ht, by decide +kernel, hidentity, by decide +kernel, by decide +kernel, ?_⟩
  rwa [hvalue] at hwritten

end Gpu

end Collector

end GpuMetrics
