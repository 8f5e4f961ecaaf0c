import GpuMetrics.Proofs.Collector.Containment
import GpuMetrics.Proofs.Collector.Written
import GpuMetrics.Proofs.Exposition.Whole
import GpuMetrics.Proofs.Smi.Lookup

/-!
# Whole readings are exported digit by digit

A whole number up to `2 ^ 53` is held by a number of the device table, and so is that number of
mebibytes in bytes, because a mebibyte is a power of two (`GpuMetrics.Collector.isNat_bytes`).
Between the cell and the text there is therefore nothing that could be lost: the digits are read as
the number that they denote, the conversion gives the number that holds the product, and the text
has its digits. The main statement is `GpuMetrics.Collector.Gpu.digits_written`.
-/

namespace GpuMetrics

open Binary64

namespace Smi.Table

/-- **A device with an identity has a row**, and is counted wherever the rows can be. -/
theorem lt_count_of_identity {t : Table} {index : Nat} {identity : Device.Identity}
    (h : t.identity index = .ok identity) (hrows : t.rows.length < UInt32.size) :
    index < t.count.toNat := by
  have hlength : t.count.toNat = t.rows.length := Table.length_snapshot hrows
  refine Nat.lt_of_not_le fun hle => ?_
  have hnone : t.identity index = .error (.noSuchDevice index) :=
    (noSuchDevice_of_le (hlength ▸ hle)).1
  exact nomatch h.symm.trans hnone

section Digits

variable {digits : List Char} (hne : digits ≠ []) (hdigits : ∀ c ∈ digits, c.isDigit = true)
include hne hdigits

/-- What starts with a digit is a value. -/
theorem isPlaceholder_of_digits (rest : List Char) :
    isPlaceholder (String.ofList (digits ++ rest)) = false := by
  obtain ⟨first, digits, rfl⟩ := List.exists_cons_of_ne_nil hne
  refine isPlaceholder_cons ?_ (digits ++ rest)
  rintro rfl
  exact absurd (hdigits '[' (List.mem_cons_self ..)) (by decide)

/-- **A cell of digits holds the number that they denote**, up to `2 ^ 53`. -/
theorem number_of_digits (hle : Text.natOfDigits digits ≤ 2 ^ 53) {t : Table} {index : Nat}
    {c : Column} (hcell : t.cell index c = .ok (String.ofList digits)) :
    t.number index c = .ok (ofNat (Text.natOfDigits digits)) := by
  have hvalue := isPlaceholder_of_digits hne hdigits []
  rw [List.append_nil] at hvalue
  refine number_of_cell hcell hvalue ?_
  rw [String.toList_ofList]
  exact ofText?_digits hne hdigits (isHeld_of_le hle)

end Digits

end Smi.Table

namespace Collector

open Backend Csv Device Smi GpuMetrics.Metric.Exposition

/-- Whole mebibytes are held in bytes, since the mebibyte is a power of two. -/
theorem isNat_bytes {n : Nat} (h : n ≤ 2 ^ 53) :
    ((ofNat n).scale 1048576).IsNat (n * 1048576) := by
  rw [(isNat_ofNat (isHeld_of_le h)).scale_eq]
  exact isNat_ofNat (isHeld_mul_two_pow h (k := 20) (by omega))

namespace Gpu

/-- **Whole readings are exported digit by digit.** Take any output that is read as a table, and any
of its rows with an identity. Where a cell of the row holds decimal digits of a number up to
`2 ^ 53`, the text has one series about the device under the name of the cell's quantity. Its value
is written in the decimal digits of the number, or for either side of the memory in those of the
number times 1048576. If there are more rows than a device count can tell, that is so for the rows
that are counted. -/
theorem digits_written {ns command : String} {g : Gpu}
    (hg : (ofBackend? ns (backend command)).value = .ok g) {host : Host}
    {stdout stderr : List UInt8} {t : Table}
    (hhost : host.launch command = .ended (.exited 0) stdout stderr)
    (ht : Table.ofOutput? stdout = .ok t) (releases : Nat) {device : Nat} {identity : Identity}
    (hidentity : t.identity device = .ok identity) {digits : List Char} (hne : digits ≠ [])
    (hdigits : ∀ c ∈ digits, c.isDigit = true) (hle : Text.natOfDigits digits ≤ 2 ^ 53) :
    (t.rows.length < UInt32.size → device < t.count.toNat) ∧
      (device < t.count.toNat →
        (∀ (side : MemorySide) (c : Column), c.label = (Quantity.memory side).columnName →
          t.cell device c = .ok (String.ofList digits) →
            g.IsWritten ns host releases device identity (.memory side)
              (Nat.toDigits 10 (Text.natOfDigits digits * 1048576))) ∧
        ∀ (r : Reading) (c : Column), r ≠ .power → c.label = (Quantity.reading r).columnName →
          t.cell device c = .ok (String.ofList digits) →
            g.IsWritten ns host releases device identity (.reading r)
              (Nat.toDigits 10 (Text.natOfDigits digits))) := by
  refine ⟨Table.lt_count_of_identity hidentity, fun hdevice => ⟨fun side c hc hcell => ?_,
    fun r c hr hc hcell => ?_⟩⟩
  · obtain rfl := Quantity.label_eq_columnName_iff.mp hc
    have hnumber := Table.number_of_digits hne hdigits hle hcell
    have hwritten := isWritten_of_number hg hhost ht releases hdevice hidentity
      (q := .memory side) hnumber
    rwa [Quantity.ofNumber, valueText_of_isNat (isNat_bytes hle)] at hwritten
  · obtain rfl := Quantity.label_eq_columnName_iff.mp hc
    have hnumber := Table.number_of_digits hne hdigits hle hcell
    have hnat : (ofNat (Text.natOfDigits digits)).IsNat (Text.natOfDigits digits) :=
      isNat_ofNat (isHeld_of_le hle)
    have hwritten := isWritten_of_number hg hhost ht releases hdevice hidentity
      (q := .reading r) hnumber
    -- power is the one reading that is converted
    have hsame : (Quantity.reading r).ofNumber (ofNat (Text.natOfDigits digits))
        = ofNat (Text.natOfDigits digits) := by
      cases r <;> first | exact absurd rfl hr | rfl
    rwa [hsame, valueText_of_isNat hnat] at hwritten

/-- A row with the given cell in every column. -/
def evenRow (cell : Cell) : Line where
  cells := [] :: Column.all.reverse.map fun _ => cell
  ending := .lf

/-- A machine on which the command prints `2 ^ 53` in every column of its only row. -/
def largeHost : Host where
  launch _ := .ended (.exited 0)
    (write [reversedHeader, evenRow (Text.encode "9007199254740992".toList)]) []

/-- So many mebibytes have 22 digits, and all of them are written. -/
theorem digits_written_large :
    ∃ g, (ofBackend? "node" (backend "nvidia-smi")).value = .ok g ∧
      g.IsWritten "node" largeHost 0 0
        ⟨"9007199254740992", "9007199254740992", "9007199254740992"⟩ (.memory .total)
        "9444732965739290427392".toList ∧
      g.IsWritten "node" largeHost 0 0
        ⟨"9007199254740992", "9007199254740992", "9007199254740992"⟩ (.reading .fanSpeed)
        "9007199254740992".toList := by
  obtain ⟨g, hg⟩ := exists_ofBackend?_node (backend "nvidia-smi")
  have htable : IsDeviceTable reversedHeader
      [evenRow (Text.encode "9007199254740992".toList)] :=
    ⟨spells_reversedHeader, fun l hl => by rw [List.mem_singleton.mp hl]; rfl⟩
  have hidentity : (Table.ofLines reversedHeader
      [evenRow (Text.encode "9007199254740992".toList)]).identity 0
        = .ok ⟨"9007199254740992", "9007199254740992", "9007199254740992"⟩ := by decide +kernel
  have hhost : largeHost.launch "nvidia-smi" = .ended (.exited 0)
      (write [reversedHeader, evenRow (Text.encode "9007199254740992".toList)]) [] := rfl
  have hdigits : ∀ c ∈ "9007199254740992".toList, c.isDigit = true :=
    List.all_eq_true.mp (by decide)
  obtain ⟨hcounted, hwritten⟩ := digits_written hg hhost
    (ofOutput?_write htable.named htable.width) 0 hidentity (by decide) hdigits
    (by decide +kernel)
  obtain ⟨hmemory, hreading⟩ := hwritten (hcounted (by decide))
  have hbytes : Nat.toDigits 10 (Text.natOfDigits "9007199254740992".toList * 1048576)
      = "9444732965739290427392".toList := by decide +kernel
  have hpercent : Nat.toDigits 10 (Text.natOfDigits "9007199254740992".toList)
      = "9007199254740992".toList := by decide +kernel
  rw [hbytes] at hmemory
  rw [hpercent] at hreading
  exact ⟨g, hg, hmemory .total .memoryTotal rfl (by decide +kernel),
    hreading .fanSpeed .fanSpeed (by decide) rfl (by decide +kernel)⟩

end Gpu

end Collector

end GpuMetrics
