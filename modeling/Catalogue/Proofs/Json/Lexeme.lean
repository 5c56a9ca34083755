import Catalogue.Json.Value

/-!
# Written lexemes are read back

Strings and integers, as the writer spells them, in front of anything that does not go on with
them.

* `escapedByte_cases` -- how a byte is spelled; `readText_write` -- a string, whatever follows its
  closing quote;
* `Delimited` -- a text that does not go on with a number;
* `scanNumber_digitBytes` -- canonical digits, with a sign or without;
* `readInteger_write` -- an integer of 64 bits, within the bounds of its type.
-/

namespace Catalogue.Json

/-! ## 1. Strings -/

theorem hexDigit?_hexByte (n : Fin 16) : hexDigit? (hexByte n.val) = some n.val := by
  revert n
  decide

/-- The four digits of a control character are its number. -/
theorem hexReversed?_control (b : UInt8) :
    hexReversed? [hexByte (b.toNat % 16), hexByte (b.toNat / 16), 0x30, 0x30] = some b.toNat := by
  have hb := b.toNat_lt
  have high := hexDigit?_hexByte ⟨b.toNat / 16, by omega⟩
  have low := hexDigit?_hexByte ⟨b.toNat % 16, by omega⟩
  have zero : hexDigit? 0x30 = some 0 := rfl
  simp only [hexReversed?, high, low, zero, Option.bind_eq_bind, Option.bind_some,
    Nat.mul_zero, Nat.zero_add, Nat.div_add_mod]

/-- The characters below 32 are single bytes. -/
theorem afterNumber_control (n : Fin 32) :
    afterNumber none n.val = some (.plain, [n.val.toUInt8]) := by
  revert n
  decide

/-- **How a byte is spelled**: as itself, by a letter behind a backslash, or by its number. -/
theorem escapedByte_cases (b : UInt8) :
    (b ≠ 0x22 ∧ b ≠ 0x5C ∧ 0x20 ≤ b ∧ escapedByte b = [b]) ∨
    (∃ c, c < 0x80 ∧ c ≠ 0x75 ∧ escapedByte? c = some b ∧ escapedByte b = [0x5C, c]) ∨
    (b < 0x20 ∧ escapedByte b =
      [0x5C, 0x75, 0x30, 0x30, hexByte (b.toNat / 16), hexByte (b.toNat % 16)]) := by
  by_cases hmark : b = 0x22 ∨ b = 0x5C
  · rcases hmark with rfl | rfl
    · exact .inr (.inl ⟨0x22, by decide, by decide, rfl, rfl⟩)
    · exact .inr (.inl ⟨0x5C, by decide, by decide, rfl, rfl⟩)
  by_cases hplain : 0x20 ≤ b
  · have hquote : b ≠ 0x22 := fun e => hmark (.inl e)
    have hslash : b ≠ 0x5C := fun e => hmark (.inr e)
    refine .inl ⟨hquote, hslash, hplain, ?_⟩
    rw [escapedByte, if_neg hmark, if_pos hplain]
  have hcontrol : b < 0x20 := UInt8.not_le.mp hplain
  by_cases hb : b = 0x08
  · subst hb
    exact .inr (.inl ⟨0x62, by decide, by decide, rfl, rfl⟩)
  by_cases ht : b = 0x09
  · subst ht
    exact .inr (.inl ⟨0x74, by decide, by decide, rfl, rfl⟩)
  by_cases hn : b = 0x0A
  · subst hn
    exact .inr (.inl ⟨0x6E, by decide, by decide, rfl, rfl⟩)
  by_cases hf : b = 0x0C
  · subst hf
    exact .inr (.inl ⟨0x66, by decide, by decide, rfl, rfl⟩)
  by_cases hr : b = 0x0D
  · subst hr
    exact .inr (.inl ⟨0x72, by decide, by decide, rfl, rfl⟩)
  · refine .inr (.inr ⟨hcontrol, ?_⟩)
    rw [escapedByte, if_neg hmark, if_neg hplain, if_neg hb, if_neg ht, if_neg hn, if_neg hf,
      if_neg hr]

/-- **A byte is read back from its spelling.** -/
theorem scanString_escapedByte (b : UInt8) (acc t : Bytes) :
    scanString .plain acc (escapedByte b ++ t) = scanString .plain (b :: acc) t := by
  rcases escapedByte_cases b with ⟨hquote, hslash, hplain, hb⟩ | ⟨c, -, hc, hletter, hb⟩ |
    ⟨hcontrol, hb⟩
  · have hnot : ¬ b < 0x20 := UInt8.not_lt.mpr hplain
    rw [hb, List.singleton_append, scanString, if_neg hquote, if_neg hslash, if_neg hnot]
  · rw [hb]
    simp [scanString, hc, hletter]
  · have hnumber := afterNumber_control ⟨b.toNat, UInt8.lt_iff_toNat_lt.mp hcontrol⟩
    simp only at hnumber
    rw [hb]
    simp [scanString, hexReversed?_control, hnumber]

theorem scanString_flatMap (bs acc rest : Bytes) :
    scanString .plain acc (bs.flatMap escapedByte ++ 0x22 :: rest) =
      .ok (acc.reverse ++ bs, rest) := by
  induction bs generalizing acc with
  | nil => simp [scanString]
  | cons b bs ih =>
    rw [List.flatMap_cons, List.append_assoc, scanString_escapedByte, ih]
    simp

/-- **A string is read back**, once its opening quote has been taken. -/
theorem readText_write (s : String) (rest : Bytes) :
    readText ((bytesOf s).flatMap escapedByte ++ 0x22 :: rest) = .ok (s, rest) := by
  simp [readText, scanString_flatMap, textOf?_bytesOf]

theorem skipBlank_cons {b : UInt8} (h : isJsonBlank b = false) (t : Bytes) :
    skipBlank (b :: t) = b :: t := by
  simp [skipBlank, h]

theorem readString_write (expected s : String) (rest : Bytes) :
    readString expected (writeText s ++ rest) = .ok (s, rest) := by
  simp only [readString, writeText, List.cons_append, List.append_assoc, List.nil_append]
  rw [skipBlank_cons (by decide)]
  exact readText_write s rest

/-! ## 2. Digits -/

/-- A text that does not go on with a number. -/
def Delimited : Bytes → Prop
  | [] => True
  | b :: _ => isDigit b = false ∧ b ≠ 0x2E ∧ b ≠ 0x65 ∧ b ≠ 0x45

theorem delimited_comma (t : Bytes) : Delimited (0x2C :: t) := by simp [Delimited, isDigit]

theorem delimited_brace (t : Bytes) : Delimited (0x7D :: t) := by simp [Delimited, isDigit]

theorem delimited_nil : Delimited [] := trivial

theorem digitByte_fin (d : Fin 10) :
    isDigit (48 + d.val).toUInt8 = true ∧ digitOf (48 + d.val).toUInt8 = d.val := by
  revert d
  decide

theorem isDigit_digitByte {d : Nat} (h : d < 10) : isDigit (48 + d).toUInt8 = true :=
  (digitByte_fin ⟨d, h⟩).1

theorem digitOf_digitByte {d : Nat} (h : d < 10) : digitOf (48 + d).toUInt8 = d :=
  (digitByte_fin ⟨d, h⟩).2

theorem isDigit_of_mem_digitBytes {n : Nat} {b : UInt8} (h : b ∈ digitBytes n) :
    isDigit b = true := by
  obtain ⟨d, hd, rfl⟩ := List.mem_map.mp h
  exact isDigit_digitByte (lt_of_mem_decimalDigits hd)

theorem takeWhile_isDigit {rest : Bytes} (h : Delimited rest) : rest.takeWhile isDigit = [] := by
  cases rest with
  | nil => rfl
  | cons b t => rw [List.takeWhile_cons, if_neg (by simp [h.1])]

theorem dropWhile_isDigit {rest : Bytes} (h : Delimited rest) : rest.dropWhile isDigit = rest := by
  cases rest with
  | nil => rfl
  | cons b t => rw [List.dropWhile_cons, if_neg (by simp [h.1])]

theorem leadingDigits_digitBytes (n : Nat) {rest : Bytes} (h : Delimited rest) :
    leadingDigits (digitBytes n ++ rest) = decimalDigits n := by
  rw [leadingDigits, List.takeWhile_append_of_pos fun b hb => isDigit_of_mem_digitBytes hb,
    takeWhile_isDigit h, List.append_nil, digitBytes, List.map_map]
  refine (List.map_congr_left fun d hd => ?_).trans (List.map_id _)
  exact digitOf_digitByte (lt_of_mem_decimalDigits hd)

theorem afterDigits_digitBytes (n : Nat) {rest : Bytes} (h : Delimited rest) :
    afterDigits (digitBytes n ++ rest) = rest := by
  rw [afterDigits, List.dropWhile_append_of_pos fun b hb => isDigit_of_mem_digitBytes hb,
    dropWhile_isDigit h]

/-- Canonical digits start with a zero only for zero itself. -/
theorem head_decimalDigits {n : Nat} (h : 0 < n) : ∃ d ds, decimalDigits n = d :: ds ∧ d ≠ 0 := by
  induction n using Nat.strongRecOn with
  | _ n ih =>
    rw [decimalDigits]
    split
    · exact ⟨n, [], rfl, by omega⟩
    · obtain ⟨d, ds, hd, hne⟩ := ih (n / 10) (by omega) (by omega)
      exact ⟨d, ds ++ [n % 10], by rw [hd]; rfl, hne⟩

theorem digitByte_ne_zero (d : Fin 10) (h : d.val ≠ 0) : (48 + d.val).toUInt8 ≠ 0x30 := by
  revert d
  decide

theorem scanWhole_digitBytes (n : Nat) {rest : Bytes} (h : Delimited rest) :
    scanWhole (digitBytes n ++ rest) = .ok (decimalDigits n, rest) := by
  have hlead := leadingDigits_digitBytes n h
  have hafter := afterDigits_digitBytes n h
  rcases Nat.eq_zero_or_pos n with rfl | hpos
  · have hzero : digitBytes 0 = [0x30] := by simp [digitBytes, decimalDigits]
    have hdigits : decimalDigits 0 = [0] := by simp [decimalDigits]
    rw [hzero, hdigits]
    cases rest with
    | nil => rfl
    | cons b t => simp [scanWhole, h.1]
  · obtain ⟨d, ds, hd, hne⟩ := head_decimalDigits hpos
    have hlt : d < 10 := lt_of_mem_decimalDigits (n := n) (by simp [hd])
    have hbytes : digitBytes n = (48 + d).toUInt8 :: ds.map fun d => (48 + d).toUInt8 := by
      rw [digitBytes, hd, List.map_cons]
    rw [hbytes, List.cons_append] at hlead hafter ⊢
    rw [scanWhole.eq_def]
    simp only [if_neg (digitByte_ne_zero ⟨d, hlt⟩ hne), if_pos (isDigit_digitByte hlt), hlead, hafter]

/-! ## 3. Integers -/

theorem le_foldl_digits (ds : List Nat) (n : Nat) :
    n ≤ ds.foldl (fun n d => 10 * n + d) n := by
  induction ds generalizing n with
  | nil => exact Nat.le_refl n
  | cons d ds ih =>
    have := ih (10 * n + d)
    rw [List.foldl_cons]
    omega

/-- Digits that denote a number of 64 bits all fit. -/
theorem fittingDigits_eq (ds : List Nat) (n : Nat)
    (h : ds.foldl (fun n d => 10 * n + d) n < 18446744073709551616) :
    fittingDigits ds n = (ds.foldl (fun n d => 10 * n + d) n, 0) := by
  induction ds generalizing n with
  | nil => rfl
  | cons d ds ih =>
    rw [List.foldl_cons] at h
    have hle := le_foldl_digits ds (10 * n + d)
    rw [fittingDigits, if_pos (by omega), ih _ h, List.foldl_cons]

theorem scanFraction_delimited {rest : Bytes} (h : Delimited rest) :
    scanFraction rest = .ok (none, rest) := by
  cases rest with
  | nil => rfl
  | cons b t => rw [scanFraction, if_neg h.2.1]

theorem scanExponent_delimited {rest : Bytes} (h : Delimited rest) :
    scanExponent rest = .ok (none, rest) := by
  cases rest with
  | nil => rfl
  | cons b t =>
    rw [scanExponent, if_neg]
    rintro (rfl | rfl)
    · exact h.2.2.1 rfl
    · exact h.2.2.2 rfl

theorem literal_scan_digitBytes (negative : Bool) (n : Nat) {rest : Bytes} (h : Delimited rest) :
    Literal.scan negative (digitBytes n ++ rest) =
      .ok (⟨negative, decimalDigits n, none, none⟩, rest) := by
  simp only [Literal.scan, scanWhole_digitBytes n h, scanFraction_delimited h,
    scanExponent_delimited h, bind, Except.bind]

/-- **Canonical digits denote their number**, behind a minus sign its negative. -/
theorem scanNumber_digitBytes (negative : Bool) {n : Nat} {rest : Bytes} (h : Delimited rest)
    (hn : if negative then 0 < n ∧ n ≤ 9223372036854775808 else n < 18446744073709551616) :
    scanNumber negative (digitBytes n ++ rest) =
      .ok (.integer (if negative then -(n : Int) else n), rest) := by
  have hlt : n < 18446744073709551616 := by
    cases negative
    · exact hn
    · have := hn.2
      omega
  have hvalue := digitsValue_decimalDigits n
  unfold digitsValue at hvalue
  have hfit := fittingDigits_eq (decimalDigits n) 0 (by rwa [hvalue])
  rw [hvalue] at hfit
  simp only [scanNumber, literal_scan_digitBytes negative n h, Literal.value, hfit]
  cases negative
  · simp
  · obtain ⟨hpos, hle⟩ := hn
    have hmid : ¬(n = 0 ∨ 9223372036854775808 < n) := by omega
    simp [hmid]

theorem digitBytes_cons (n : Nat) : ∃ b t, digitBytes n = b :: t ∧ isDigit b = true := by
  cases h : digitBytes n with
  | nil =>
    rw [digitBytes, List.map_eq_nil_iff] at h
    exact absurd h (decimalDigits_ne_nil n)
  | cons b t => exact ⟨b, t, rfl, isDigit_of_mem_digitBytes (n := n) (by rw [h]; simp)⟩

theorem digit_not_special {b : UInt8} (h : isDigit b = true) :
    isJsonBlank b = false ∧ b ≠ 0x2D ∧ b ≠ 0x6E := by
  have hle : 0x30 ≤ b := by
    simp only [isDigit, Bool.and_eq_true, decide_eq_true_eq] at h
    exact h.1
  have hge : b ≤ 0x39 := by
    simp only [isDigit, Bool.and_eq_true, decide_eq_true_eq] at h
    exact h.2
  refine ⟨?_, ?_, ?_⟩
  · simp only [isJsonBlank, Bool.or_eq_false_iff, beq_eq_false_iff_ne]
    refine ⟨⟨⟨?_, ?_⟩, ?_⟩, ?_⟩ <;> (rintro rfl; revert hle; decide)
  · rintro rfl
    revert hle
    decide
  · rintro rfl
    revert hge
    decide

/-- **An integer is read back** where the type's bounds are within 64 bits. -/
theorem readInteger_write (expected : String) {lo hi i : Int} (hi_le : hi ≤ 9223372036854775807)
    (le_lo : -9223372036854775808 ≤ lo) (h : lo ≤ i ∧ i ≤ hi) {rest : Bytes}
    (hrest : Delimited rest) : readInteger expected lo hi (writeInteger i ++ rest) = .ok (i, rest) := by
  unfold readInteger writeInteger
  by_cases hneg : i < 0
  · have habs : (i.natAbs : Int) = -i := by omega
    have hscan := scanNumber_digitBytes true (n := i.natAbs) hrest (by simp; omega)
    rw [if_pos hneg, List.cons_append, skipBlank_cons (by decide)]
    simp [hscan, habs, h]
  · have habs : (i.natAbs : Int) = i := by omega
    have hscan := scanNumber_digitBytes false (n := i.natAbs) hrest (by simp; omega)
    obtain ⟨b, t, hb, hd⟩ := digitBytes_cons i.natAbs
    obtain ⟨hblank, hminus, -⟩ := digit_not_special hd
    rw [if_neg hneg]
    rw [hb, List.cons_append] at hscan ⊢
    rw [skipBlank_cons hblank]
    simp [hscan, habs, h, hminus, hd]

end Catalogue.Json
