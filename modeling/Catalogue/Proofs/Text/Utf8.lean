import Catalogue.Text.Utf8

/-!
# Text that is not broken

Bytes that spell a text read as that text, also where broken pieces would be replaced: none is.

* `IsText` -- bytes that spell a text; ASCII does (`isText_ascii`), and so do texts in a row
  (`IsText.append`);
* `repairFrom_encodeChar` -- the bytes of a character are no broken piece;
* `lossyText_bytesOf` -- a text is read back from its own bytes.
-/

namespace Catalogue

/-! ## 1. Bytes that spell a text -/

/-- The bytes of a text are those of its characters, one after another. -/
theorem bytesOf_eq (s : String) : bytesOf s = s.toList.flatMap String.utf8EncodeChar := by
  have hbytes : s.toByteArray = s.toList.utf8Encode := String.utf8Encode_toList.symm
  have hdata : bytesOf s = s.toByteArray.data.toList := rfl
  rw [hdata, hbytes, List.utf8Encode, List.data_toByteArray]

/-- Bytes that spell a text. -/
def IsText (t : Bytes) : Prop := ∃ s, bytesOf s = t

theorem isText_flatMap (cs : List Char) : IsText (cs.flatMap String.utf8EncodeChar) :=
  ⟨String.ofList cs, by rw [bytesOf_eq, String.toList_ofList]⟩

theorem IsText.append {t u : Bytes} (ht : IsText t) (hu : IsText u) : IsText (t ++ u) := by
  obtain ⟨s, rfl⟩ := ht
  obtain ⟨r, rfl⟩ := hu
  rw [bytesOf_eq, bytesOf_eq, ← List.flatMap_append]
  exact isText_flatMap _

theorem isText_nil : IsText [] := isText_flatMap []

theorem encodeChar_ascii (n : Fin 128) :
    String.utf8EncodeChar (Char.ofNat n.val) = [UInt8.ofNat n.val] := by
  revert n
  decide

theorem isText_byte (n : Fin 128) : IsText [UInt8.ofNat n.val] := by
  have htext := isText_flatMap [Char.ofNat n.val]
  rw [List.flatMap_singleton, encodeChar_ascii] at htext
  exact htext

/-- **ASCII spells a text.** -/
theorem isText_ascii {t : Bytes} (h : ∀ b ∈ t, b < 0x80) : IsText t := by
  induction t with
  | nil => exact isText_nil
  | cons b t ih =>
    have hb : b.toNat < 128 := UInt8.lt_iff_toNat_lt.mp (h b List.mem_cons_self)
    have hbyte := isText_byte ⟨b.toNat, hb⟩
    rw [UInt8.ofNat_toNat] at hbyte
    exact hbyte.append (ih fun c hc => h c (List.mem_cons_of_mem b hc))

/-- The bytes of any other character are above it. -/
theorem high_of_mem_encodeChar {c : Char} (h : 127 < c.val.toNat) :
    ∀ b ∈ String.utf8EncodeChar c, 0x80 ≤ b := by
  have hvalid : c.val.toNat < 0x110000 := by
    have hc : c.val.toNat < 0xD800 ∨ 0xDFFF < c.val.toNat ∧ c.val.toNat < 0x110000 := c.valid
    omega
  have hhigh (n : Nat) (hlo : 128 ≤ n) (hhi : n < 256) : 0x80 ≤ UInt8.ofNat n := by
    rw [UInt8.le_iff_toNat_le, UInt8.toNat_ofNat_of_lt' hhi]
    exact hlo
  rw [String.utf8EncodeChar.eq_1, if_neg (Nat.not_le.mpr h)]
  generalize c.val.toNat = v at hvalid
  intro b hb
  split at hb
  · simp only [List.mem_cons, List.not_mem_nil, or_false] at hb
    rcases hb with rfl | rfl <;> exact hhigh _ (by omega) (by omega)
  split at hb
  · simp only [List.mem_cons, List.not_mem_nil, or_false] at hb
    rcases hb with rfl | rfl | rfl <;> exact hhigh _ (by omega) (by omega)
  · simp only [List.mem_cons, List.not_mem_nil, or_false] at hb
    rcases hb with rfl | rfl | rfl | rfl <;> exact hhigh _ (by omega) (by omega)

/-! ## 2. Reading it -/

/-- The first byte of a character of two, three or four bytes, and of one. -/
theorem leadBounds_one (n : Fin 128) : leadBounds (UInt8.ofNat n.val) = some (0, 0x80, 0xBF) := by
  revert n
  decide

theorem leadBounds_two (n : Fin 30) :
    leadBounds (UInt8.ofNat (n.val + 194)) = some (1, 0x80, 0xBF) := by
  revert n
  decide

theorem leadBounds_three (n : Fin 16) : leadBounds (UInt8.ofNat (n.val + 224)) =
    some (2, UInt8.ofNat (if n.val = 0 then 160 else 128),
      UInt8.ofNat (if n.val = 13 then 159 else 191)) := by
  revert n
  decide

theorem leadBounds_four (n : Fin 5) : leadBounds (UInt8.ofNat (n.val + 240)) =
    some (3, UInt8.ofNat (if n.val = 0 then 144 else 128),
      UInt8.ofNat (if n.val = 4 then 143 else 191)) := by
  revert n
  decide

/-- A byte within its bounds, and then what follows it. -/
theorem continuation_cons {n lo hi m : Nat} {tail t : Bytes} (hlo : lo ≤ m) (hhi : m ≤ hi)
    (hbyte : hi < 256) (htail : continuation n 0x80 0xBF (tail ++ t) = tail) :
    continuation (n + 1) (UInt8.ofNat lo) (UInt8.ofNat hi) (UInt8.ofNat m :: tail ++ t) =
      UInt8.ofNat m :: tail := by
  have hle {i j : Nat} (hij : i ≤ j) (hj : j < 256) : UInt8.ofNat i ≤ UInt8.ofNat j := by
    rw [UInt8.le_iff_toNat_le, UInt8.toNat_ofNat_of_lt' (Nat.lt_of_le_of_lt hij hj),
      UInt8.toNat_ofNat_of_lt' hj]
    exact hij
  rw [List.cons_append, continuation, if_pos ⟨hle hlo (by omega), hle hhi hbyte⟩, htail]

theorem repairFrom_append (tail t : Bytes) :
    repairFrom tail.length (tail ++ t) = repairFrom 0 t := by
  induction tail with
  | nil => rfl
  | cons b tail ih => exact ih

/-- A first byte with as many bytes behind it as it needs. -/
theorem repairFrom_cons {b lo hi : UInt8} {n : Nat} {tail t : Bytes}
    (hlead : leadBounds b = some (n, lo, hi)) (htail : continuation n lo hi (tail ++ t) = tail)
    (hlength : tail.length = n) :
    repairFrom 0 (b :: tail ++ t) = b :: tail ++ repairFrom 0 t := by
  rw [List.cons_append, repairFrom]
  simp only [hlead, htail, hlength, if_true]
  rw [← hlength, repairFrom_append]
  rfl

/-- **The bytes of a character are no broken piece.** The bounds of the second byte matter where
    the first is the least or the greatest of its kind, and for the numbers of surrogates. -/
theorem repairFrom_encodeChar (c : Char) (t : Bytes) :
    repairFrom 0 (String.utf8EncodeChar c ++ t) = String.utf8EncodeChar c ++ repairFrom 0 t := by
  have hvalid : c.val.toNat < 0xD800 ∨ 0xDFFF < c.val.toNat ∧ c.val.toNat < 0x110000 := c.valid
  have hnil : continuation 0 0x80 0xBF ([] ++ t) = [] := rfl
  -- a byte that is not the second one
  have hnext (n m : Nat) (tail : Bytes) (htail : continuation n 0x80 0xBF (tail ++ t) = tail) :
      continuation (n + 1) 0x80 0xBF (UInt8.ofNat (m % 64 + 128) :: tail ++ t) =
        UInt8.ofNat (m % 64 + 128) :: tail := by
    have hlo : 128 ≤ m % 64 + 128 := Nat.le_add_left _ _
    have hhi : m % 64 + 128 ≤ 191 := by omega
    exact continuation_cons hlo hhi (by decide) htail
  rw [String.utf8EncodeChar.eq_1]
  generalize c.val.toNat = v at hvalid
  split
  · exact repairFrom_cons (leadBounds_one ⟨v, by omega⟩) hnil rfl
  split
  · have hlead := leadBounds_two ⟨v / 64 % 32 - 2, by omega⟩
    have hv : v / 64 % 32 - 2 + 194 = v / 64 % 32 + 192 := by omega
    simp only [hv] at hlead
    exact repairFrom_cons hlead (hnext 0 v [] hnil) rfl
  split
  · have hlead := leadBounds_three ⟨v / 4096 % 16, by omega⟩
    simp only at hlead
    refine repairFrom_cons hlead ?_ rfl
    refine continuation_cons ?_ ?_ ?_ (hnext 0 v [] hnil)
    · split <;> omega
    · split <;> omega
    · split <;> decide
  · have hlead := leadBounds_four ⟨v / 262144 % 8, by omega⟩
    simp only at hlead
    refine repairFrom_cons hlead ?_ rfl
    refine continuation_cons ?_ ?_ ?_ (hnext 1 (v / 64) _ (hnext 0 v [] hnil))
    · split <;> omega
    · split <;> omega
    · split <;> decide

theorem repairFrom_bytesOf (s : String) : repairFrom 0 (bytesOf s) = bytesOf s := by
  rw [bytesOf_eq]
  induction s.toList with
  | nil => rfl
  | cons c cs ih => rw [List.flatMap_cons, repairFrom_encodeChar, ih]

/-- **A text is read back from its own bytes**, also where broken pieces would be replaced. -/
theorem lossyText_bytesOf (s : String) : lossyText (bytesOf s) = s := by
  rw [lossyText, repairFrom_bytesOf, textOf?_bytesOf, Option.getD_some]

theorem IsText.bytesOf_lossyText {t : Bytes} (h : IsText t) : bytesOf (lossyText t) = t := by
  obtain ⟨s, rfl⟩ := h
  rw [lossyText_bytesOf]

end Catalogue
