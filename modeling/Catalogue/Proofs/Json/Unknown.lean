import Catalogue.Proofs.Json.Record
import Catalogue.Proofs.Text.Utf8

/-!
# Written objects, read by others

Whoever reads an object need not know all of its members, nor what they hold: a member that is not
declared is passed over, and a declared one may take any value.

* `skipValue_writeText` -- a written string is passed over;
* `Fields.put_unknown`, `Fields.takes_unknown` -- a member that is not declared leaves everything
  as it was;
* `Value.read_writeInteger` -- an integer as a free-form value;
* `isText_writeObject` -- what is written is text, if its values are.
-/

namespace Catalogue.Json

/-! ## 1. Strings that are passed over -/

/-- **A byte is passed over in its spelling.** -/
theorem skipString_escapedByte (b : UInt8) (t : Bytes) :
    skipString .plain (escapedByte b ++ t) = skipString .plain t := by
  rcases escapedByte_cases b with ⟨hquote, hslash, hplain, hb⟩ | ⟨c, -, hc, hletter, hb⟩ |
    ⟨-, hb⟩
  · have hnot : ¬ b < 0x20 := UInt8.not_lt.mpr hplain
    rw [hb, List.singleton_append, skipString, if_neg hquote, if_neg hslash, if_neg hnot]
  · rw [hb]
    simp [skipString, hc, hletter]
  · rw [hb]
    simp [skipString, hexReversed?_control]

theorem skipString_flatMap (bs rest : Bytes) :
    skipString .plain (bs.flatMap escapedByte ++ 0x22 :: rest) = .ok rest := by
  induction bs with
  | nil => rfl
  | cons b bs ih => rw [List.flatMap_cons, List.append_assoc, skipString_escapedByte, ih]

/-- **A written string is passed over**, whatever follows it. -/
theorem skipValue_writeText (s : String) (rest : Bytes) :
    skipValue (writeText s ++ rest) = .ok rest := by
  have hstep : skipStep .value [] (writeText s ++ rest) = .ok (.next, [], rest) := by
    have hquote : isDigit 0x22 = false := rfl
    rw [writeText_append, skipStep, skipBlank_cons (by decide)]
    simp [hquote, skipString_flatMap, Except.map]
  have hdone (fuel : Bytes) : skipSteps fuel .next [] rest = .ok rest := by
    cases fuel <;> rfl
  rw [skipValue]
  rw [writeText_append] at hstep ⊢
  rw [skipSteps, hstep]
  · exact hdone _
  · exact nofun

/-! ## 2. Members that are not declared -/

namespace Fields

/-- **A member that is not declared is passed over.** -/
theorem put_unknown {δ ρ : Type} (fields : Fields δ ρ) {name : String}
    (hname : name ∉ fields.names) (budget : Nat) (d : δ) {t rest : Bytes}
    (hskip : skipValue t = .ok rest) : fields.put budget name d (0x3A :: t) = .ok (d, rest) := by
  induction fields with
  | nil =>
    have hcolon : expectColon (0x3A :: t) = .ok t := rfl
    simp only [put, hcolon, hskip, bind, Except.bind, Except.map]
  | required other codec fields ih =>
    obtain ⟨slot, d⟩ := d
    have hother : name ≠ other := List.ne_of_not_mem_cons hname
    have hrest := ih (List.not_mem_of_not_mem_cons hname) d
    simp only [put, if_neg hother, hrest, Except.map]
  | optional other absence codec fields ih =>
    obtain ⟨slot, d⟩ := d
    have hother : name ≠ other := List.ne_of_not_mem_cons hname
    have hrest := ih (List.not_mem_of_not_mem_cons hname) d
    simp only [put, if_neg hother, hrest, Except.map]

/-- **The members around it lead where they led without it.** -/
theorem takes_unknown {δ ρ : Type} (fields : Fields δ ρ) {name : String}
    (hname : name ∉ fields.names) {budget : Nat} {value : Bytes}
    (hskip : ∀ rest, Delimited rest → skipValue (value ++ rest) = .ok rest)
    {ms : List (String × Bytes)} {d d' : δ} (h : Takes (fields.put budget) ms d d') :
    Takes (fields.put budget) ((name, value) :: ms) d d' :=
  .cons (fun rest hrest => fields.put_unknown hname budget d (hskip rest hrest)) h

end Fields

/-! ## 3. Integers of any kind -/

/-- A number as a free-form value. -/
theorem Value.read_minus (budget : Nat) (t : Bytes) : Value.read budget (0x2D :: t) =
    (scanNumber true t).map fun (n, rest) => (.number n, rest) := by
  cases budget <;> rfl

theorem Value.read_digit (budget : Nat) {b : UInt8} (hb : isDigit b = true) (t : Bytes) :
    Value.read budget (b :: t) =
      (scanNumber false (b :: t)).map fun (n, rest) => (.number n, rest) := by
  obtain ⟨hblank, hminus, hnull⟩ := digit_not_special hb
  have htrue : b ≠ 0x74 := by
    rintro rfl
    revert hb
    decide
  have hfalse : b ≠ 0x66 := by
    rintro rfl
    revert hb
    decide
  rw [Value.read.eq_def]
  simp only [skipBlank_cons hblank, if_neg hnull, if_neg htrue, if_neg hfalse, if_neg hminus,
    if_pos hb]

/-- **An integer of 64 bits is read back as a free-form value.** -/
theorem Value.read_writeInteger (budget : Nat) {i : Int} (hlo : -9223372036854775808 ≤ i)
    (hhi : i < 18446744073709551616) {rest : Bytes} (hrest : Delimited rest) :
    Value.read budget (writeInteger i ++ rest) = .ok (.number (.integer i), rest) := by
  unfold writeInteger
  by_cases hneg : i < 0
  · have habs : -(i.natAbs : Int) = i := by omega
    have hscan := scanNumber_digitBytes true (n := i.natAbs) hrest (by simp; omega)
    rw [if_pos rfl, habs] at hscan
    rw [if_pos hneg, List.cons_append, read_minus, hscan]
    rfl
  · have habs : (i.natAbs : Int) = i := by omega
    have hscan := scanNumber_digitBytes false (n := i.natAbs) hrest (by simp; omega)
    rw [if_neg Bool.false_ne_true, habs] at hscan
    obtain ⟨b, t, hb, hd⟩ := digitBytes_cons i.natAbs
    rw [if_neg hneg]
    rw [hb, List.cons_append] at hscan ⊢
    rw [read_digit budget hd, hscan]
    rfl

/-! ## 4. What is written is text -/

theorem isText_byte_ascii {b : UInt8} (h : b < 0x80) : IsText [b] :=
  isText_ascii fun c hc => by
    rw [List.mem_singleton.mp hc]
    exact h

theorem hexByte_ascii (n : Fin 16) : hexByte n.val < 0x80 := by
  revert n
  decide

/-- **The spelling of an ASCII byte is ASCII.** -/
theorem escapedByte_ascii {b : UInt8} (h : b < 0x80) : ∀ c ∈ escapedByte b, c < 0x80 := by
  rcases escapedByte_cases b with ⟨-, -, -, hb⟩ | ⟨c, hc, -, -, hb⟩ | ⟨hcontrol, hb⟩
  · rw [hb]
    simp [h]
  · rw [hb]
    simp [hc]
  · have hlt : b.toNat < 32 := UInt8.lt_iff_toNat_lt.mp hcontrol
    have hhigh : hexByte (b.toNat / 16) < 0x80 := hexByte_ascii ⟨b.toNat / 16, by omega⟩
    have hlow : hexByte (b.toNat % 16) < 0x80 := hexByte_ascii ⟨b.toNat % 16, by omega⟩
    rw [hb]
    simp [hhigh, hlow]

/-- Other bytes stand for themselves. -/
theorem escapedByte_high {b : UInt8} (h : 0x80 ≤ b) : escapedByte b = [b] := by
  have hle : 128 ≤ b.toNat := UInt8.le_iff_toNat_le.mp h
  have hmarks : ¬(b = 0x22 ∨ b = 0x5C) := by
    rintro (rfl | rfl)
    · exact absurd hle (by decide)
    · exact absurd hle (by decide)
  have hplain : 0x20 ≤ b := UInt8.le_iff_toNat_le.mpr (Nat.le_trans (by decide) hle)
  rw [escapedByte, if_neg hmarks, if_pos hplain]

/-- The spelling of a character is text. -/
theorem isText_flatMap_encodeChar (c : Char) :
    IsText ((String.utf8EncodeChar c).flatMap escapedByte) := by
  by_cases hascii : c.val.toNat ≤ 127
  · have hbytes : String.utf8EncodeChar c = [UInt8.ofNat c.val.toNat] := by
      rw [String.utf8EncodeChar.eq_1, if_pos hascii]
    have hlow : UInt8.ofNat c.val.toNat < 0x80 := by
      rw [UInt8.lt_iff_toNat_lt, UInt8.toNat_ofNat_of_lt' (Nat.lt_of_le_of_lt hascii (by decide))]
      exact Nat.lt_succ_of_le hascii
    rw [hbytes, List.flatMap_singleton]
    exact isText_ascii (escapedByte_ascii hlow)
  · have hself : (String.utf8EncodeChar c).flatMap escapedByte = String.utf8EncodeChar c := by
      have hhigh := high_of_mem_encodeChar (Nat.lt_of_not_le hascii)
      generalize String.utf8EncodeChar c = bs at hhigh
      induction bs with
      | nil => rfl
      | cons b bs ih =>
        rw [List.flatMap_cons, escapedByte_high (hhigh b List.mem_cons_self),
          ih fun x hx => hhigh x (List.mem_cons_of_mem b hx)]
        rfl
    rw [hself]
    have htext := isText_flatMap [c]
    rwa [List.flatMap_singleton] at htext

theorem isText_writeText (s : String) : IsText (writeText s) := by
  have hquote : IsText [0x22] := isText_byte_ascii (by decide)
  have hspelled : IsText ((bytesOf s).flatMap escapedByte) := by
    rw [bytesOf_eq]
    induction s.toList with
    | nil => exact isText_nil
    | cons c cs ih =>
      rw [List.flatMap_cons, List.flatMap_append]
      exact (isText_flatMap_encodeChar c).append ih
  exact hquote.append (hspelled.append hquote)

theorem isText_digitBytes (n : Nat) : IsText (digitBytes n) := by
  refine isText_ascii fun b hb => ?_
  have hdigit := isDigit_of_mem_digitBytes hb
  simp only [isDigit, Bool.and_eq_true, decide_eq_true_eq] at hdigit
  exact UInt8.lt_of_le_of_lt hdigit.2 (by decide)

theorem isText_writeInteger (i : Int) : IsText (writeInteger i) := by
  have hminus : IsText [0x2D] := isText_byte_ascii (by decide)
  unfold writeInteger
  split
  · exact hminus.append (isText_digitBytes _)
  · exact isText_digitBytes _

theorem isText_joinParts {parts : List Bytes} (h : ∀ part ∈ parts, IsText part) :
    IsText (joinParts parts) := by
  have hcomma : IsText [0x2C] := isText_byte_ascii (by decide)
  cases parts with
  | nil => exact isText_nil
  | cons part parts =>
    rw [joinParts_cons]
    refine (h part List.mem_cons_self).append ?_
    induction parts with
    | nil => exact isText_nil
    | cons next parts ih =>
      have hnext : IsText next := h next (List.mem_cons_of_mem _ List.mem_cons_self)
      rw [List.flatMap_cons]
      refine (hcomma.append hnext).append (ih fun p hp => h p ?_)
      rcases List.mem_cons.mp hp with rfl | hp
      · exact List.mem_cons_self
      · exact List.mem_cons_of_mem _ (List.mem_cons_of_mem _ hp)

/-- **A written object is text**, if its values are. -/
theorem isText_writeObject {ms : List (String × Bytes)} (h : ∀ m ∈ ms, IsText m.2) :
    IsText (writeObject ms) := by
  have hopen : IsText [0x7B] := isText_byte_ascii (by decide)
  have hcolon : IsText [0x3A] := isText_byte_ascii (by decide)
  have hclose : IsText [0x7D] := isText_byte_ascii (by decide)
  refine hopen.append (IsText.append (isText_joinParts fun part hpart => ?_) hclose)
  obtain ⟨m, hm, rfl⟩ := List.mem_map.mp hpart
  exact (isText_writeText m.1).append (hcolon.append (h m hm))

end Catalogue.Json
