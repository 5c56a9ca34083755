/-!
# Bytes and the text they spell

Payloads travel as bytes; names, authors and messages are text. This file fixes how one reads as
the other:

* `bytesOf` -- the UTF-8 bytes of a text;
* `textOf?` -- the text of a byte string, if the bytes are UTF-8 (`textOf?_bytesOf`: nothing is
  lost on the way);
* `lossyText` -- the text of any byte string, where every maximal broken piece reads as the
  replacement character.
-/

namespace Catalogue

/-- A byte string, first byte first. -/
abbrev Bytes := List UInt8

/-- The UTF-8 bytes of a text. -/
def bytesOf (s : String) : Bytes := s.toUTF8.data.toList

/-- The text these bytes spell, if they are UTF-8. -/
def textOf? (b : Bytes) : Option String := String.fromUTF8? ⟨b.toArray⟩

/-- **Every text is read back from its own bytes.** -/
theorem textOf?_bytesOf (s : String) : textOf? (bytesOf s) = some s := by
  have h : (⟨(bytesOf s).toArray⟩ : ByteArray) = s.toByteArray := rfl
  unfold textOf? String.fromUTF8?
  rw [dif_pos (h ▸ s.isValidUTF8)]
  rfl

/-! ## 1. Reading broken text -/

/-- How many continuation bytes follow a first byte, and the least and greatest byte that may
    stand right after it; none for a byte that starts no character. -/
def leadBounds (b : UInt8) : Option (Nat × UInt8 × UInt8) :=
  if b < 0x80 then some (0, 0x80, 0xBF)
  else if b < 0xC2 then none
  else if b < 0xE0 then some (1, 0x80, 0xBF)
  else if b = 0xE0 then some (2, 0xA0, 0xBF)
  else if b = 0xED then some (2, 0x80, 0x9F)
  else if b < 0xF0 then some (2, 0x80, 0xBF)
  else if b = 0xF0 then some (3, 0x90, 0xBF)
  else if b < 0xF4 then some (3, 0x80, 0xBF)
  else if b = 0xF4 then some (3, 0x80, 0x8F)
  else none

/-- The continuation bytes at the front of `t`, at most `n` of them, the first within `lo..hi`. -/
def continuation : Nat → UInt8 → UInt8 → Bytes → Bytes
  | 0, _, _, _ => []
  | _ + 1, _, _, [] => []
  | n + 1, lo, hi, b :: t =>
    if lo ≤ b ∧ b ≤ hi then b :: continuation n 0x80 0xBF t else []

/-- The bytes of the replacement character. -/
def replacement : Bytes := [0xEF, 0xBF, 0xBD]

/-- Well-formed bytes that read like `t`: each broken piece becomes the replacement character.
    `skip` counts bytes already dealt with. -/
def repairFrom : Nat → Bytes → Bytes
  | _, [] => []
  | skip + 1, _ :: t => repairFrom skip t
  | 0, b :: t =>
    match leadBounds b with
    | none => replacement ++ repairFrom 0 t
    | some (n, lo, hi) =>
      let tail := continuation n lo hi t
      if tail.length = n then b :: (tail ++ repairFrom n t)
      else replacement ++ repairFrom tail.length t

/-- The text of any bytes, broken pieces replaced. -/
def lossyText (t : Bytes) : String := (textOf? (repairFrom 0 t)).getD ""

end Catalogue
