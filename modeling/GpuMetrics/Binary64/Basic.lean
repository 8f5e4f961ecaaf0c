/-!
# Double-precision numbers by their bits

A binary64 number is its 64 bits: a sign and a **magnitude**. The magnitudes count the
non-negative numbers upwards from zero, so the order of magnitudes is the order of values, the
next larger number has the next magnitude, and the infinite value is the magnitude after the
largest finite one. Every finite value is a whole number of **units** of `2 ^ -1074`, the
smallest positive value; `unitsOf` says how many.

Rounding is done on units: `nearestMagnitude n d` is the magnitude nearest to `n / d` units, of
two that are equally near the even one. All arithmetic of the library (reading a decimal, scaling
a reading) is exact arithmetic on natural numbers followed by this one rounding.
-/

namespace GpuMetrics

/-- A binary64 number, as its bits. -/
structure Binary64 where
  bits : UInt64
  deriving DecidableEq, Repr

namespace Binary64

/-- The value of the sign bit, `2 ^ 63`. -/
def signBit : Nat := 0x8000000000000000

/-- How many magnitudes share one spacing of their values: `2 ^ 52`. -/
def blockSize : Nat := 0x10000000000000

/-- Whether the sign bit is set. -/
def isNegative (x : Binary64) : Bool := signBit ≤ x.bits.toNat

/-- The bits below the sign. -/
def magnitude (x : Binary64) : Nat := x.bits.toNat % signBit

/-- The magnitude of the infinities. Larger magnitudes are not numbers. -/
def infiniteMagnitude : Nat := 2047 * blockSize

/-- Whether `x` is not a number. -/
def isNaN (x : Binary64) : Bool := infiniteMagnitude < x.magnitude

/-- Whether `x` is one of the two infinities. -/
def isInfinite (x : Binary64) : Bool := x.magnitude == infiniteMagnitude

/-- Whether `x` is a number and not infinite. -/
def isFinite (x : Binary64) : Bool := x.magnitude < infiniteMagnitude

/-- The number with the given sign and magnitude. -/
def ofMagnitude (negative : Bool) (magnitude : Nat) : Binary64 :=
  ⟨UInt64.ofNat ((if negative then signBit else 0) + magnitude)⟩

/-- How many units make one. -/
def unitsPerOne : Nat := Nat.pow 2 1074

/-- The value of a magnitude in units. The magnitudes of the first block are the subnormal values,
a unit apart; the next block has the same spacing, and after it each block has twice the spacing of
the one before. -/
def unitsOf (magnitude : Nat) : Nat :=
  if magnitude < blockSize then magnitude
  else (blockSize + magnitude % blockSize) * Nat.pow 2 (magnitude / blockSize - 1)

/-- The absolute value of a finite number in units. -/
def units (x : Binary64) : Nat := unitsOf x.magnitude

/-- The whole number nearest to `n / d`; a half goes to the even neighbour. -/
def roundHalfEven (n d : Nat) : Nat :=
  let quotient := n / d
  let remainder := n % d
  if 2 * remainder < d then quotient
  else if d < 2 * remainder then quotient + 1
  else quotient + quotient % 2

/-- The magnitude nearest to `n / d` units. A value with more than 53 significant bits is counted
in multiples of `2 ^ shift` units; a count that rounds up to `2 ^ 53` runs over into the next
block, which is where it belongs. -/
def nearestMagnitude (n d : Nat) : Nat :=
  let shift := (n / d).log2 - 52
  min (shift * blockSize + roundHalfEven n (d * Nat.pow 2 shift)) infiniteMagnitude

/-- The number nearest to a natural number. -/
def ofNat (n : Nat) : Binary64 := ofMagnitude false (nearestMagnitude (n * unitsPerOne) 1)

/-- The number nearest to `x` times a positive natural number. -/
def scale (x : Binary64) (factor : Nat) : Binary64 :=
  if x.isFinite then ofMagnitude x.isNegative (nearestMagnitude (x.units * factor) 1) else x

/-- Zero. -/
def zero : Binary64 := ⟨0⟩

/-- One. -/
def one : Binary64 := ⟨0x3ff0000000000000⟩

/-- The infinity of the given sign. -/
def infinity (negative : Bool) : Binary64 := ofMagnitude negative infiniteMagnitude

/-- A value that is not a number. -/
def nan : Binary64 := ⟨0x7ff8000000000000⟩

/-- Whether a finite number is whole. -/
def isWhole (x : Binary64) : Bool := x.units % unitsPerOne == 0

/-- The whole part of the absolute value of a finite number. -/
def wholePart (x : Binary64) : Nat := x.units / unitsPerOne

end Binary64

end GpuMetrics
