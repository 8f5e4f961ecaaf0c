/-!
# Byte positions in a text

A position in a text is the number of bytes in front of it. Pieces of a text are cut out between
two positions; a character that a position falls into is left out. Positions that fall between
characters cut out exactly what lies between them (`GpuMetrics.Text.cut_append`).
-/

namespace GpuMetrics.Text

/-- The number of bytes that a text takes. -/
def byteCount : List Char → Nat
  | [] => 0
  | c :: rest => c.utf8Size + byteCount rest

/-- What follows the first `n` bytes of a text. -/
def dropBytes : Nat → List Char → List Char
  | 0, text => text
  | _ + 1, [] => []
  | n + 1, c :: rest => dropBytes (n + 1 - c.utf8Size) rest

/-- The characters among the first `n` bytes of a text. -/
def takeBytes : Nat → List Char → List Char
  | _, [] => []
  | n, c :: rest => if c.utf8Size ≤ n then c :: takeBytes (n - c.utf8Size) rest else []

/-- The characters of a text from one position up to another. -/
def cut (text : List Char) (start stop : Nat) : List Char :=
  takeBytes (stop - start) (dropBytes start text)

theorem dropBytes_append (a b : List Char) : dropBytes (byteCount a) (a ++ b) = b := by
  induction a with
  | nil => simp [byteCount, dropBytes]
  | cons c a ih =>
    have hc := c.utf8Size_pos
    obtain ⟨n, hn⟩ : ∃ n, byteCount (c :: a) = n + 1 :=
      ⟨byteCount (c :: a) - 1, by rw [byteCount]; omega⟩
    have hrest : n + 1 - c.utf8Size = byteCount a := by
      rw [← hn, byteCount]
      omega
    rw [hn, List.cons_append, dropBytes, hrest, ih]

theorem takeBytes_append (a b : List Char) : takeBytes (byteCount a) (a ++ b) = a := by
  induction a with
  | nil =>
    cases b with
    | nil => rfl
    | cons c b =>
      have hc := c.utf8Size_pos
      simp [byteCount, takeBytes]
      omega
  | cons c a ih => simp [byteCount, takeBytes, ih]

/-- **Positions between characters cut out what lies between them.** -/
theorem cut_append (a b c : List Char) :
    cut (a ++ (b ++ c)) (byteCount a) (byteCount a + byteCount b) = b := by
  rw [cut, dropBytes_append, Nat.add_sub_cancel_left, takeBytes_append]

end GpuMetrics.Text
