/-!
# White space

Two notions of blank are in use. Text that people type (a command, an error line) is trimmed of
every character of the standard's white space; cells of a table are bytes and are trimmed of the
five ASCII blanks only.
-/

namespace GpuMetrics.Text

/-- White space in the sense of the character standard. -/
def isBlank (c : Char) : Bool :=
  let n := c.toNat
  (0x9 ≤ n && n ≤ 0xd) || n == 0x20 || n == 0x85 || n == 0xa0 || n == 0x1680 ||
    (0x2000 ≤ n && n ≤ 0x200a) || n == 0x2028 || n == 0x2029 || n == 0x202f || n == 0x205f ||
    n == 0x3000

/-- Space separators: the blanks that are neither controls nor line or paragraph separators. -/
def isSpaceSeparator (c : Char) : Bool :=
  let n := c.toNat
  n == 0x20 || n == 0xa0 || n == 0x1680 || (0x2000 ≤ n && n ≤ 0x200a) || n == 0x202f ||
    n == 0x205f || n == 0x3000

/-- The blanks of ASCII that trimming a table cell removes. The vertical tab is not one of them. -/
def isByteBlank (b : UInt8) : Bool :=
  b == 0x20 || b == 0x9 || b == 0xa || b == 0xc || b == 0xd

/-- A list without the elements satisfying `p` at its two ends. -/
def trimBy {α : Type} (p : α → Bool) (l : List α) : List α :=
  ((l.dropWhile p).reverse.dropWhile p).reverse

/-- Text without white space at its two ends. -/
def trim (s : String) : String := String.ofList (trimBy isBlank s.toList)

end GpuMetrics.Text
