import GpuMetrics.Binary64.Basic

/-!
# The fewest digits that read back

Among the decimals that are nearest to one number and to no other, the **shortest** have the
fewest significant digits; of those, the nearest is chosen. They are found on decimal grids: for
one digit, two digits, and so on, the two points of the grid beside the value are tested against
the interval of reals that round to it, the ends of the interval included when the magnitude is
even. The first grid with a point inside wins; seventeen digits always suffice. All of it is
comparison of natural numbers.
-/

namespace GpuMetrics.Binary64

/-- A decimal `coefficient * 10 ^ exponent`. -/
structure Decimal where
  coefficient : Nat
  exponent : Int
  deriving DecidableEq, Repr

/-- How many decimal digits a natural number has. -/
def decimalLength (n : Nat) : Nat := (Nat.toDigits 10 n).length

/-- Twice the value of a decimal, as a fraction of units. -/
def Decimal.doubledUnits (d : Decimal) : Nat × Nat :=
  (2 * d.coefficient * Nat.pow 10 d.exponent.toNat * unitsPerOne, Nat.pow 10 (-d.exponent).toNat)

/-- Whether the decimal lies in the interval of reals that round to the magnitude. The ends are
halfway to the neighbouring magnitudes. -/
def Decimal.roundsTo (d : Decimal) (magnitude : Nat) : Bool :=
  let (n, den) := d.doubledUnits
  let low := (unitsOf (magnitude - 1) + unitsOf magnitude) * den
  let high := (unitsOf magnitude + unitsOf (magnitude + 1)) * den
  if magnitude % 2 = 0 then low ≤ n && n ≤ high else low < n && n < high

/-- The exponent of the leading decimal digit of a positive magnitude. Multiplying by `10 ^ 400`
brings every magnitude above one, where counting digits gives it. -/
def leadingExponent (magnitude : Nat) : Int :=
  (decimalLength (unitsOf magnitude * Nat.pow 10 400 / unitsPerOne) : Int) - 401

/-- The point of the grid `10 ^ exponent` at or below the magnitude, by its coefficient. -/
def gridFloor (magnitude : Nat) (exponent : Int) : Nat :=
  unitsOf magnitude * Nat.pow 10 (-exponent).toNat / (Nat.pow 10 exponent.toNat * unitsPerOne)

/-- Whether the magnitude is at least as near to the upper end of its grid cell as to the lower
end `floor`. A tie goes up. -/
def nearerToUpper (magnitude : Nat) (exponent : Int) (floor : Nat) : Bool :=
  (2 * floor + 1) * (Nat.pow 10 exponent.toNat * unitsPerOne)
    ≤ 2 * (unitsOf magnitude * Nat.pow 10 (-exponent).toNat)

/-- The better of the two grid points beside the magnitude among those that round to it, on the
grid that gives the value `digits` significant digits. An upper point that is a power of ten is
written with the single digit one. -/
def shortestOn? (magnitude : Nat) (digits : Nat) : Option Decimal :=
  let exponent := leadingExponent magnitude + 1 - (digits : Int)
  let floor := gridFloor magnitude exponent
  let lower : Decimal := ⟨floor, exponent⟩
  let upper : Decimal :=
    if floor + 1 = Nat.pow 10 digits then ⟨1, exponent + digits⟩ else ⟨floor + 1, exponent⟩
  match lower.roundsTo magnitude, upper.roundsTo magnitude with
  | true, true => some (if nearerToUpper magnitude exponent floor then upper else lower)
  | true, false => some lower
  | false, true => some upper
  | false, false => none

/-- The shortest decimal that rounds to a positive finite magnitude. -/
def shortest (magnitude : Nat) : Decimal :=
  (((List.range 17).findSome? fun i => shortestOn? magnitude (i + 1))).getD ⟨0, 0⟩

/-- A decimal in positional notation, without an exponent. -/
def Decimal.positional (d : Decimal) : List Char :=
  let digits := Nat.toDigits 10 d.coefficient
  if 0 ≤ d.exponent then digits ++ List.replicate d.exponent.toNat '0'
  else
    let places := (-d.exponent).toNat
    let padded := List.replicate (places + 1 - digits.length) '0' ++ digits
    padded.take (padded.length - places) ++ '.' :: padded.drop (padded.length - places)

/-- The text of a number in the fewest digits that read back, never with an exponent. -/
def display (x : Binary64) : String :=
  if x.isNaN then "NaN"
  else
    let sign := if x.isNegative then ['-'] else []
    if x.isInfinite then String.ofList (sign ++ ['i', 'n', 'f'])
    else if x.magnitude = 0 then String.ofList (sign ++ ['0'])
    else String.ofList (sign ++ (shortest x.magnitude).positional)

end GpuMetrics.Binary64
