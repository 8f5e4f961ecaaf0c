/-!
# Text as bytes

Strict decoding accepts exactly the well-formed sequences. Lossy decoding never fails: each
**maximal ill-formed part** (a byte that can start nothing, or the beginning of a character cut
short) becomes one replacement mark, and decoding goes on at the byte that broke it.
-/

namespace GpuMetrics.Text

/-- The text whose encoding the bytes are, if they are well formed. -/
def decodeUtf8? (bytes : List UInt8) : Option String := String.fromUTF8? ⟨bytes.toArray⟩

/-- The bytes of a text. -/
def encodeUtf8 (s : String) : List UInt8 := s.toByteArray.toList

/-- A character under way: its bits so far, how many more bytes it needs, and the range that the
next byte must lie in. -/
structure PartialChar where
  bits : Nat
  missing : Nat
  low : UInt8
  high : UInt8

/-- What the first byte of a character leads to. -/
inductive LeadByte where
  /-- The byte is a character of its own. -/
  | complete (c : Char)
  /-- More bytes have to follow. -/
  | starts (p : PartialChar)
  /-- No character starts with this byte. -/
  | invalid

/-- The role of `b` between two characters. The narrowed ranges after `e0`, `ed`, `f0` and `f4`
exclude overlong forms, surrogates and code points beyond the last one. -/
def LeadByte.of (b : UInt8) : LeadByte :=
  if b < 0x80 then .complete (Char.ofNat b.toNat)
  else if b < 0xc2 then .invalid
  else if b < 0xe0 then .starts ⟨b.toNat - 0xc0, 1, 0x80, 0xbf⟩
  else if b < 0xf0 then
    .starts ⟨b.toNat - 0xe0, 2, if b == 0xe0 then 0xa0 else 0x80, if b == 0xed then 0x9f else 0xbf⟩
  else if b < 0xf5 then
    .starts ⟨b.toNat - 0xf0, 3, if b == 0xf0 then 0x90 else 0x80, if b == 0xf4 then 0x8f else 0xbf⟩
  else .invalid

/-- The mark that stands for bytes that are no character. -/
def replacementMark : Char := '\ufffd'

/-- Decodes the rest of a text, `pending` being the character that is under way. -/
def decodeLossyFrom (pending : Option PartialChar) : List UInt8 → List Char
  | [] => if pending.isSome then [replacementMark] else []
  | b :: rest =>
    match pending with
    | some p =>
      if p.low ≤ b && b ≤ p.high then
        let bits := p.bits * 64 + (b.toNat - 0x80)
        if p.missing ≤ 1 then Char.ofNat bits :: decodeLossyFrom none rest
        else decodeLossyFrom (some ⟨bits, p.missing - 1, 0x80, 0xbf⟩) rest
      else
        replacementMark ::
          match LeadByte.of b with
          | .complete c => c :: decodeLossyFrom none rest
          | .starts q => decodeLossyFrom (some q) rest
          | .invalid => replacementMark :: decodeLossyFrom none rest
    | none =>
      match LeadByte.of b with
      | .complete c => c :: decodeLossyFrom none rest
      | .starts q => decodeLossyFrom (some q) rest
      | .invalid => replacementMark :: decodeLossyFrom none rest

/-- The text of the bytes, with a replacement mark for every maximal ill-formed part. -/
def decodeLossy (bytes : List UInt8) : String := String.ofList (decodeLossyFrom none bytes)

end GpuMetrics.Text
