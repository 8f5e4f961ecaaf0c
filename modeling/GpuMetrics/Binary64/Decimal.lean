import GpuMetrics.Binary64.Basic
import GpuMetrics.Text.Digits

/-!
# Reading numbers

The accepted numerals are an optional sign followed by `inf`, `infinity` or `nan` in any case, or
by decimal digits with an optional point (a digit on one side of it at least) and an optional
exponent. The value read is the number nearest to the written one; what is too large becomes
infinite.
-/

namespace GpuMetrics.Binary64

/-- The number nearest to `digits * 10 ^ exponent`. An exponent so large or so small that the
answer cannot depend on the digits is answered without computing the power. -/
def ofDecimal (negative : Bool) (digits : Nat) (exponent : Int) : Binary64 :=
  if digits = 0 then ofMagnitude negative 0
  else if 400 < exponent then infinity negative
  else if exponent + digits.log2 < -400 then ofMagnitude negative 0
  else
    ofMagnitude negative
      (nearestMagnitude (digits * Nat.pow 10 exponent.toNat * unitsPerOne)
        (Nat.pow 10 (-exponent).toNat))

/-- Splits a text after its optional sign; `true` is the minus sign. -/
def splitSign : List Char → Bool × List Char
  | '-' :: rest => (true, rest)
  | '+' :: rest => (false, rest)
  | rest => (false, rest)

/-- The exponent part of a numeral: nothing, or `e` and a signed run of digits. -/
def readExponent? : List Char → Option Int
  | [] => some 0
  | c :: rest =>
    if c = 'e' ∨ c = 'E' then
      let (negative, digits) := splitSign rest
      if digits.isEmpty || !digits.all Char.isDigit then none
      else some (if negative then -(Text.natOfDigits digits : Int) else Text.natOfDigits digits)
    else none

/-- The digits and the exponent of an unsigned decimal numeral. -/
def readDecimal? (text : List Char) : Option (Nat × Int) :=
  let whole := text.takeWhile Char.isDigit
  let afterWhole := text.dropWhile Char.isDigit
  let fraction := match afterWhole with
    | '.' :: rest => rest.takeWhile Char.isDigit
    | _ => []
  let afterFraction := match afterWhole with
    | '.' :: rest => rest.dropWhile Char.isDigit
    | rest => rest
  if whole.isEmpty && fraction.isEmpty then none
  else (readExponent? afterFraction).map fun e =>
    (Text.natOfDigits (whole ++ fraction), e - (fraction.length : Int))

/-- The number that a text denotes, if it is a numeral. -/
def ofText? (text : List Char) : Option Binary64 :=
  let (negative, unsigned) := splitSign text
  let word := unsigned.map Char.toLower
  if word = ['i', 'n', 'f'] ∨ word = ['i', 'n', 'f', 'i', 'n', 'i', 't', 'y'] then
    some (infinity negative)
  else if word = ['n', 'a', 'n'] then some nan
  else (readDecimal? unsigned).map fun (digits, exponent) => ofDecimal negative digits exponent

end GpuMetrics.Binary64
