/-!
# Digits

The natural numbers that runs of decimal and hexadecimal digits denote.
-/

namespace GpuMetrics.Text

/-- The natural number that a run of decimal digits denotes. -/
def natOfDigits (digits : List Char) : Nat :=
  digits.foldl (fun n c => 10 * n + (c.toNat - '0'.toNat)) 0

/-- A hexadecimal digit. -/
def isHexDigit (c : Char) : Bool :=
  c.isDigit || ('a' ≤ c && c ≤ 'f') || ('A' ≤ c && c ≤ 'F')

/-- The value of a hexadecimal digit. -/
def hexValue (c : Char) : Nat :=
  if c.isDigit then c.toNat - '0'.toNat
  else if 'a' ≤ c && c ≤ 'f' then c.toNat - 'a'.toNat + 10
  else c.toNat - 'A'.toNat + 10

/-- The natural number that a run of hexadecimal digits denotes. -/
def natOfHexDigits (digits : List Char) : Nat :=
  digits.foldl (fun n c => 16 * n + hexValue c) 0

/-- The lower-case hexadecimal digits of a natural number. -/
def hexDigits (n : Nat) : List Char := Nat.toDigits 16 n

/-- One digit more multiplies by ten and adds the digit. -/
theorem natOfDigits_concat (digits : List Char) (c : Char) :
    natOfDigits (digits ++ [c]) = 10 * natOfDigits digits + (c.toNat - '0'.toNat) := by
  simp [natOfDigits]

end GpuMetrics.Text
