import GpuMetrics.Text.Blank
import GpuMetrics.Text.Utf8
import Mathlib.Data.List.TakeWhile

/-!
# Trimming text and trimming its bytes

A table cell is trimmed of ASCII blanks while it is still bytes, before it is known whether these
are text. No harm comes of that: a byte of an encoded character is blank only if it is the whole
character, so trimming the bytes of a text gives the bytes of the trimmed text
(`GpuMetrics.Text.trimBy_encode`), and bytes are text just when the trimmed bytes are
(`GpuMetrics.Text.decodeUtf8?_trimBy`).
-/

namespace GpuMetrics.Text

/-! ### Trimming a list -/

section TrimBy

variable {α β : Type} {p : α → Bool} {q : β → Bool}

/-- Trimming does not see what it removes. -/
theorem trimBy_append {lead trail : List α} (hlead : ∀ a ∈ lead, p a) (htrail : ∀ a ∈ trail, p a)
    (l : List α) : trimBy p (lead ++ (l ++ trail)) = trimBy p l := by
  have htrail' : ∀ a ∈ trail.reverse, p a := fun a ha => htrail a (List.mem_reverse.mp ha)
  rw [trimBy, trimBy, List.dropWhile_append_of_pos hlead, List.dropWhile_append]
  by_cases hl : l.dropWhile p = []
  · -- nothing is left of the middle, so what follows it goes from the front as well
    rw [hl, List.isEmpty_nil, if_pos rfl, List.dropWhile_eq_nil_iff.mpr htrail]
  · rw [if_neg (by simpa using hl), List.reverse_append, List.dropWhile_append_of_pos htrail']

/-- A list is what trimming leaves of it, between two stretches of what trimming removes. -/
theorem exists_eq_append_trimBy (p : α → Bool) (l : List α) :
    ∃ lead trail : List α, (∀ a ∈ lead, p a) ∧ (∀ a ∈ trail, p a) ∧
      l = lead ++ (trimBy p l ++ trail) := by
  have hrest : l.dropWhile p
      = trimBy p l ++ ((l.dropWhile p).reverse.takeWhile p).reverse := by
    rw [trimBy, ← List.reverse_append, List.takeWhile_append_dropWhile, List.reverse_reverse]
  refine ⟨l.takeWhile p, ((l.dropWhile p).reverse.takeWhile p).reverse,
    fun a ha => List.mem_takeWhile_imp ha,
    fun a ha => List.mem_takeWhile_imp (List.mem_reverse.mp ha), ?_⟩
  rw [← hrest, List.takeWhile_append_dropWhile]

/-- A list with nothing to remove at its ends stays as it is. -/
theorem trimBy_eq_self {l : List α} (hhead : ∀ a ∈ l.head?, ¬p a) (hlast : ∀ a ∈ l.getLast?, ¬p a) :
    trimBy p l = l := by
  cases l with
  | nil => rfl
  | cons a l =>
    rw [trimBy, List.dropWhile_cons_of_neg (hhead a rfl)]
    cases hrev : (a :: l).reverse with
    | nil => simp at hrev
    | cons z r =>
      have hz : z ∈ (a :: l).getLast? := by
        rw [List.getLast?_eq_head?_reverse, hrev]
        rfl
      rw [List.dropWhile_cons_of_neg (hlast z hz), ← hrev, List.reverse_reverse]

/-- Where each element is written as a block of which all or nothing is to be removed, trimming what
was written is writing what was trimmed. -/
theorem dropWhile_flatMap {f : β → List α} (hne : ∀ b, f b ≠ [])
    (hf : ∀ b, ∀ a ∈ f b, p a = q b) (l : List β) :
    (l.flatMap f).dropWhile p = (l.dropWhile q).flatMap f := by
  induction l with
  | nil => rfl
  | cons b l ih =>
    rw [List.flatMap_cons]
    by_cases hb : q b
    · rw [List.dropWhile_append_of_pos fun a ha => (hf b a ha).trans hb,
        List.dropWhile_cons_of_pos hb, ih]
    · -- the first element of the block stays, and with it all that follows
      obtain ⟨a, as, has⟩ := List.exists_cons_of_ne_nil (hne b)
      have ha : ¬p a := by
        rw [hf b a (has ▸ List.mem_cons_self ..)]
        exact hb
      rw [List.dropWhile_cons_of_neg hb, List.flatMap_cons, has, List.cons_append,
        List.dropWhile_cons_of_neg ha]

theorem trimBy_flatMap {f : β → List α} (hne : ∀ b, f b ≠ [])
    (hf : ∀ b, ∀ a ∈ f b, p a = q b) (l : List β) :
    trimBy p (l.flatMap f) = (trimBy q l).flatMap f := by
  rw [trimBy, trimBy, dropWhile_flatMap hne hf, List.reverse_flatMap,
    dropWhile_flatMap (fun b => by simpa using hne b) fun b a ha => hf b a (by simpa using ha),
    List.reverse_flatMap]
  simp [Function.comp_def]

end TrimBy

/-! ### The bytes of a text -/

/-- The bytes of some characters. -/
def encode (cs : List Char) : List UInt8 := cs.flatMap String.utf8EncodeChar

theorem encode_append (cs cs' : List Char) : encode (cs ++ cs') = encode cs ++ encode cs' :=
  List.flatMap_append

theorem toByteArray_encode (s : String) : s.toByteArray = ⟨(encode s.toList).toArray⟩ := by
  refine ByteArray.ext ?_
  have hchars : s.toByteArray = s.toList.utf8Encode := by
    rw [← String.toByteArray_ofList, String.ofList_toList]
  rw [hchars]
  exact List.data_toByteArray

/-- Bytes are decoded just when they are those of some characters. -/
theorem decodeUtf8?_eq_some_iff {bytes : List UInt8} {s : String} :
    decodeUtf8? bytes = some s ↔ bytes = encode s.toList := by
  rw [decodeUtf8?, String.fromUTF8?]
  constructor
  · intro h
    split at h
    · obtain rfl := Option.some.inj h
      have hbytes := toByteArray_encode (String.fromUTF8 ⟨bytes.toArray⟩ ‹_›)
      simpa [String.fromUTF8] using hbytes
    · cases h
  · rintro rfl
    rw [dif_pos (toByteArray_encode s ▸ s.isValidUTF8)]
    refine congrArg some (String.toByteArray_inj.mp ?_)
    exact (toByteArray_encode s).symm

theorem decodeUtf8?_encode (cs : List Char) : decodeUtf8? (encode cs) = some (String.ofList cs) :=
  decodeUtf8?_eq_some_iff.mpr (by rw [String.toList_ofList])

/-! ### Blanks among the bytes of a text -/

/-- The characters that are blank as bytes. -/
def isAsciiBlank (c : Char) : Bool :=
  c == ' ' || c == '\t' || c == '\n' || c == '\x0c' || c == '\r'

theorem isByteBlank_ofNat :
    ∀ n < 0x80, isByteBlank (UInt8.ofNat n) = isAsciiBlank (Char.ofNat n) := by decide

theorem isByteBlank_eq_false {b : UInt8} (hb : 0x80 ≤ b.toNat) : isByteBlank b = false := by
  have hne (n : UInt8) (hn : n.toNat < 0x80) : (b == n) = false :=
    beq_false_of_ne fun h => by subst h; omega
  simp [isByteBlank, hne]

theorem isAsciiBlank_eq_false {c : Char} (hc : 0x80 ≤ c.toNat) : isAsciiBlank c = false := by
  have hne (d : Char) (hd : d.toNat < 0x80) : (c == d) = false :=
    beq_false_of_ne fun h => by subst h; omega
  simp [isAsciiBlank, hne]

/-- The bytes of a character beyond ASCII are beyond ASCII themselves. -/
theorem le_of_mem_utf8EncodeChar {c : Char} (hc : 0x80 ≤ c.toNat) :
    ∀ b ∈ String.utf8EncodeChar c, 0x80 ≤ b.toNat := by
  have hval : ¬c.val.toNat ≤ 0x7f := Nat.not_le.mpr hc
  fun_cases String.utf8EncodeChar c <;> simp [UInt8.toNat_add] <;> omega

/-- A byte of an encoded character is blank only if it is the whole character. -/
theorem isByteBlank_of_mem_utf8EncodeChar (c : Char) :
    ∀ b ∈ String.utf8EncodeChar c, isByteBlank b = isAsciiBlank c := by
  intro b hb
  by_cases hc : c.toNat < 0x80
  · have hval : c.val.toNat ≤ 0x7f := Nat.le_of_lt_succ hc
    have hencode : String.utf8EncodeChar c = [UInt8.ofNat c.toNat] := if_pos hval
    obtain rfl := List.mem_singleton.mp (hencode ▸ hb)
    rw [isByteBlank_ofNat c.toNat hc, Char.ofNat_toNat]
  · have hle : 0x80 ≤ c.toNat := Nat.not_lt.mp hc
    rw [isByteBlank_eq_false (le_of_mem_utf8EncodeChar hle b hb), isAsciiBlank_eq_false hle]

/-- **Trimming the bytes of a text gives the bytes of the trimmed text.** -/
theorem trimBy_encode (cs : List Char) :
    trimBy isByteBlank (encode cs) = encode (trimBy isAsciiBlank cs) :=
  trimBy_flatMap (fun _ => String.utf8EncodeChar_ne_nil) isByteBlank_of_mem_utf8EncodeChar cs

/-- Blank bytes are the bytes of blank characters. -/
theorem exists_encode_of_isByteBlank {bytes : List UInt8} (h : ∀ b ∈ bytes, isByteBlank b) :
    ∃ cs, encode cs = bytes := by
  induction bytes with
  | nil => exact ⟨[], rfl⟩
  | cons b bytes ih =>
    obtain ⟨cs, rfl⟩ := ih fun b' hb' => h b' (List.mem_cons_of_mem b hb')
    have hb : isByteBlank b := h b (List.mem_cons_self ..)
    simp only [isByteBlank, Bool.or_eq_true, beq_iff_eq] at hb
    rcases hb with (((rfl | rfl) | rfl) | rfl) | rfl
    · exact ⟨' ' :: cs, rfl⟩
    · exact ⟨'\t' :: cs, rfl⟩
    · exact ⟨'\n' :: cs, rfl⟩
    · exact ⟨'\x0c' :: cs, rfl⟩
    · exact ⟨'\r' :: cs, rfl⟩

/-- **Bytes are text just when they are once they are trimmed**, and then the text is trimmed. -/
theorem decodeUtf8?_trimBy (bytes : List UInt8) :
    decodeUtf8? (trimBy isByteBlank bytes)
      = (decodeUtf8? bytes).map fun s => String.ofList (trimBy isAsciiBlank s.toList) := by
  cases hbytes : decodeUtf8? bytes with
  | some s =>
    rw [decodeUtf8?_eq_some_iff.mp hbytes, trimBy_encode, decodeUtf8?_encode, Option.map_some]
  | none =>
    -- were the trimmed bytes text, so would the bytes be, with their blanks put back
    refine Option.eq_none_iff_forall_ne_some.mpr fun s hs => ?_
    obtain ⟨lead, trail, hlead, htrail, heq⟩ := exists_eq_append_trimBy isByteBlank bytes
    obtain ⟨lead, rfl⟩ := exists_encode_of_isByteBlank hlead
    obtain ⟨trail, rfl⟩ := exists_encode_of_isByteBlank htrail
    rw [decodeUtf8?_eq_some_iff.mp hs, ← encode_append, ← encode_append] at heq
    rw [heq, decodeUtf8?_encode] at hbytes
    cases hbytes

end GpuMetrics.Text
