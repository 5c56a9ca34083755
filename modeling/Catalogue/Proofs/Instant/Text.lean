import Catalogue.Instant
import Catalogue.Proofs.Text.Numeral

/-!
# Written instants are read back

The reader of instants takes many forms, the writer makes one of them. Part by part, what is written
is read back, and no part runs into the next one because a mark stands between them.

* `Spells` -- a run of digits and its number, `digits_of_spells` -- how it is read;
* `spells_paddedDigits`, `spells_paddedText` -- the two ways in which numbers are written;
* `yearField_yearText`, `fraction_fractionText`, `timeOf?_leap`, `shift_zero` -- the parts;
* `parse_chars` -- a whole instant.
-/

namespace Catalogue

/-! ## 1. Runs of digits -/

/-- A text that does not go on with a digit. -/
def NoDigit (cs : List Char) : Prop := cs.takeWhile Instant.isDigitChar = []

/-- A run of digits, and the number that it denotes. -/
structure Spells (cs : List Char) (n : Nat) : Prop where
  digits : ∀ c ∈ cs, Instant.isDigitChar c = true
  value : digitsValue (cs.filterMap digitValue?) = n
  ne_nil : cs ≠ []

namespace Spells

variable {cs : List Char} {n : Nat}

theorem filterMap_digitChar {ds : List Nat} (h : ∀ d ∈ ds, d < 10) :
    (ds.map digitChar).filterMap digitValue? = ds := by
  induction ds with
  | nil => rfl
  | cons d ds ih =>
    rw [List.map_cons, List.filterMap_cons, digitValue?_digitChar (h d List.mem_cons_self),
      ih fun e he => h e (List.mem_cons_of_mem d he)]

theorem of_digits {ds : List Nat} (hds : ∀ d ∈ ds, d < 10) (hne : ds ≠ [])
    (hvalue : digitsValue ds = n) : Spells (ds.map digitChar) n where
  digits c hc := by
    obtain ⟨d, hd, rfl⟩ := List.mem_map.mp hc
    simp [Instant.isDigitChar, digitValue?_digitChar (hds d hd)]
  value := by rw [filterMap_digitChar hds, hvalue]
  ne_nil := by simpa using hne

/-- A further digit at the end. -/
theorem snoc (h : Spells cs n) {d : Nat} (hd : d < 10) :
    Spells (cs ++ [digitChar d]) (10 * n + d) where
  digits c hc := by
    rcases List.mem_append.mp hc with hc | hc
    · exact h.digits c hc
    · rw [List.mem_singleton.mp hc]
      simp [Instant.isDigitChar, digitValue?_digitChar hd]
  value := by
    have hvalue := h.value
    unfold digitsValue at hvalue ⊢
    rw [List.filterMap_append, List.filterMap_cons, digitValue?_digitChar hd]
    simp only [List.filterMap_nil]
    rw [foldl_digits_append, hvalue]
  ne_nil := by simp

/-- Zeros in front change nothing. -/
theorem zeros (h : Spells cs n) (k : Nat) : Spells (List.replicate k '0' ++ cs) n := by
  induction k with
  | zero => exact h
  | succ k ih =>
    rw [List.replicate_succ, List.cons_append]
    refine ⟨fun c hc => ?_, ih.value, by simp⟩
    rcases List.mem_cons.mp hc with rfl | hc
    · rfl
    · exact ih.digits c hc

/-- A run of digits starts with something that is neither blank nor a sign. -/
theorem head (h : Spells cs n) :
    ∃ c t, cs = c :: t ∧ isBlank c = false ∧ c ≠ '-' ∧ c ≠ '+' := by
  obtain ⟨c, t, rfl⟩ := List.exists_cons_of_ne_nil h.ne_nil
  have hc := h.digits c List.mem_cons_self
  have hrange : 48 ≤ c.toNat ∧ c.toNat ≤ 57 := by
    rw [Instant.isDigitChar, digitValue?] at hc
    split at hc
    · assumption
    · exact absurd hc (by simp)
  refine ⟨c, t, rfl, ?_, ?_, ?_⟩
  · simp only [isBlank, Bool.or_eq_false_iff, Bool.and_eq_false_iff, decide_eq_false_iff_not,
      beq_eq_false_iff_ne]
    omega
  · rintro rfl
    exact absurd hrange (by decide)
  · rintro rfl
    exact absurd hrange (by decide)

theorem trimStart_append (h : Spells cs n) (rest : List Char) :
    trimStart (cs ++ rest) = cs ++ rest := by
  obtain ⟨c, t, rfl, hblank, -, -⟩ := h.head
  simp [trimStart, hblank]

end Spells

theorem spells_paddedDigits (width : Nat) {n : Nat} (h : n < Nat.pow 10 (width + 1)) :
    Spells (paddedDigits (width + 1) n) n := by
  induction width generalizing n with
  | zero =>
    have hn : n < 10 := by simpa using h
    have hone : paddedDigits 1 n = [n].map digitChar := by
      simp [paddedDigits, Nat.mod_eq_of_lt hn]
    rw [hone]
    exact Spells.of_digits (by simpa using hn) (by simp) (by simp [digitsValue])
  | succ width ih =>
    have hdiv : n / 10 < Nat.pow 10 (width + 1) := Nat.div_lt_of_lt_mul (Nat.mul_comm _ _ ▸ h)
    have hsnoc := (ih hdiv).snoc (Nat.mod_lt n (by decide : 10 > 0))
    rw [Nat.div_add_mod] at hsnoc
    exact hsnoc

theorem length_paddedDigits (width n : Nat) : (paddedDigits width n).length = width := by
  induction width generalizing n with
  | zero => rfl
  | succ width ih => simp [paddedDigits, ih]

theorem spells_paddedText (width n : Nat) : Spells (paddedText width n) n :=
  (Spells.of_digits (fun _ => lt_of_mem_decimalDigits) (decimalDigits_ne_nil n)
    (digitsValue_decimalDigits n)).zeros _

namespace Instant

/-! ## 2. The parts -/

/-- **A run of digits is read as its number**, if it is not too long and ends. -/
theorem digits_of_spells {cs : List Char} {n : Nat} (h : Spells cs n) (most : Option Nat)
    (hmost : ∀ k, most = some k → cs.length ≤ k) {rest : List Char} (hrest : NoDigit rest) :
    digits most (cs ++ rest) = .ok ((n, cs.length), rest) := by
  have hrun : (cs ++ rest).takeWhile isDigitChar = cs := by
    rw [List.takeWhile_append_of_pos h.digits, hrest, List.append_nil]
  have hvalue := h.value
  obtain ⟨c, t, rfl⟩ := List.exists_cons_of_ne_nil h.ne_nil
  rw [List.cons_append] at hrun
  cases most with
  | none => simp [digits, hrun, hvalue]
  | some k => simp [digits, hrun, List.take_of_length_le (hmost k rfl), hvalue]

theorem field_of_spells {cs : List Char} {n lo hi : Nat} (h : Spells cs n) (hlen : cs.length ≤ 2)
    (hn : lo ≤ n ∧ n ≤ hi) {rest : List Char} (hrest : NoDigit rest) :
    field lo hi (cs ++ rest) = .ok (n, rest) := by
  have hmost : ∀ k, some 2 = some k → cs.length ≤ k := by
    rintro k ⟨⟩
    exact hlen
  simp [field, h.trimStart_append, digits_of_spells h (some 2) hmost hrest, bind, Except.bind, hn]

/-- Two digits are read as a field. -/
theorem field_paddedDigits {n lo hi : Nat} (hn : lo ≤ n ∧ n ≤ hi) (h : n < 100) {rest : List Char}
    (hrest : NoDigit rest) : field lo hi (paddedDigits 2 n ++ rest) = .ok (n, rest) :=
  field_of_spells (spells_paddedDigits 1 h) (Nat.le_of_eq (length_paddedDigits 2 n)) hn hrest

theorem yearField_yearText {year : Int} (h : -2147483648 < year ∧ year < 2147483648)
    {rest : List Char} (hrest : NoDigit rest) :
    yearField (yearText year ++ rest) = .ok (year, rest) := by
  unfold yearText
  split
  · rename_i hy
    have hspell := spells_paddedDigits 3 (by omega : year.natAbs < 10000)
    have hread := digits_of_spells hspell (some 4)
      (by rintro k ⟨⟩; exact Nat.le_of_eq (length_paddedDigits 4 _)) hrest
    obtain ⟨c, t, hc, -, hminus, hplus⟩ := hspell.head
    have habs : (year.natAbs : Int) = year := by omega
    have hle : -2147483648 ≤ year := by omega
    rw [yearField, hspell.trimStart_append]
    rw [hc, List.cons_append] at hread ⊢
    simp only
    split
    · rename_i heq
      exact absurd (List.cons.inj heq).1 hminus
    · rename_i heq
      exact absurd (List.cons.inj heq).1 hplus
    · simp only [hread, bind, Except.bind, Bool.false_eq_true, if_false, habs]
      rw [if_pos ⟨hle, h.2⟩]
  · rename_i hy
    have hspell := spells_paddedText 4 year.natAbs
    have hread := digits_of_spells hspell none (by rintro k ⟨⟩) hrest
    have hle : -2147483648 ≤ year := by omega
    by_cases hneg : year < 0
    · have habs : -(year.natAbs : Int) = year := by omega
      have htrim (t : List Char) : trimStart ('-' :: t) = '-' :: t := rfl
      rw [if_pos hneg, List.cons_append, yearField, htrim]
      simp only [hread, bind, Except.bind, if_true, habs]
      rw [if_pos ⟨hle, h.2⟩]
    · have habs : (year.natAbs : Int) = year := by omega
      have htrim (t : List Char) : trimStart ('+' :: t) = '+' :: t := rfl
      rw [if_neg hneg, List.cons_append, yearField, htrim]
      simp only [hread, bind, Except.bind, Bool.false_eq_true, if_false, habs]
      rw [if_pos ⟨hle, h.2⟩]

/-- A fraction of at most nine digits is read back in nanoseconds. -/
theorem fraction_paddedDigits {width n : Nat} (hwidth : width < 9) (h : n < Nat.pow 10 (width + 1))
    {rest : List Char} (hrest : NoDigit rest) :
    fraction ('.' :: (paddedDigits (width + 1) n ++ rest)) =
      .ok (n * Nat.pow 10 (9 - (width + 1)), rest) := by
  have hlen := length_paddedDigits (width + 1) n
  have hread := digits_of_spells (spells_paddedDigits width h) (some 9)
    (by rintro k ⟨⟩; omega) hrest
  have hdrop : rest.dropWhile isDigitChar = rest := by
    have hsplit := List.takeWhile_append_dropWhile (p := isDigitChar) (l := rest)
    rwa [hrest, List.nil_append] at hsplit
  simp [fraction, hread, hlen, hdrop, bind, Except.bind]

theorem fraction_fractionText {nano : Nat} (h : nano < 1000000000) :
    fraction (fractionText nano ++ ['Z']) = .ok (nano, ['Z']) := by
  have hz : NoDigit ['Z'] := rfl
  unfold fractionText
  split
  · rename_i h0
    rw [h0]
    rfl
  split
  · rename_i h6
    have hlt : nano / 1000000 < 1000 := by omega
    rw [List.cons_append, fraction_paddedDigits (by decide) hlt hz]
    congr 2
    exact Nat.div_mul_cancel (Nat.dvd_of_mod_eq_zero h6)
  split
  · rename_i h3
    have hlt : nano / 1000 < 1000000 := by omega
    rw [List.cons_append, fraction_paddedDigits (by decide) hlt hz]
    congr 2
    exact Nat.div_mul_cancel (Nat.dvd_of_mod_eq_zero h3)
  · rw [List.cons_append, fraction_paddedDigits (by decide) h hz]
    congr 2
    exact Nat.mul_one nano

theorem date_of? (d : Date) : Date.of? d.year d.month d.day = some d := by
  rw [Date.of?, dif_pos d.valid]

/-- The numbers of a date are within the bounds of their fields. -/
theorem date_bounds (d : Date) :
    (-2147483648 < d.year ∧ d.year < 2147483648) ∧ (1 ≤ d.month ∧ d.month ≤ 12) ∧
      (1 ≤ d.day ∧ d.day ≤ 31) := by
  obtain ⟨year, month, day, valid⟩ := d
  simp only [isDate, yearBounds, Bool.and_eq_true, decide_eq_true_eq] at valid
  obtain ⟨⟨⟨hlo, hhi⟩, hday⟩, hlast⟩ := valid
  have hmonth : (1 ≤ month ∧ month ≤ 12) ∧ daysInMonth year month ≤ 31 := by
    unfold daysInMonth at hlast ⊢
    split
    · exact ⟨by omega, by split <;> omega⟩
    split
    · exact ⟨by omega, by omega⟩
    split
    · exact ⟨by omega, by omega⟩
    · rename_i h2 h4 h12
      rw [if_neg h2, if_neg h4, if_neg h12] at hlast
      omega
  have hlo' : -262143 ≤ year := of_decide_eq_true hlo
  have hhi' : year ≤ 262142 := of_decide_eq_true hhi
  exact ⟨⟨by simp only; omega, by simp only; omega⟩, hmonth.1, hday, Nat.le_trans hlast hmonth.2⟩

/-- **A time of day is made from its numbers**, a leap second from second 60. -/
theorem timeOf?_leap (t : TimeOfDay) :
    timeOf? t.hour t.minute (if 1000000000 ≤ t.nano then t.second + 1 else t.second)
      (if 1000000000 ≤ t.nano then t.nano - 1000000000 else t.nano) = some t := by
  obtain ⟨hour, minute, second, nano, hour_lt, minute_lt, second_lt, nano_lt, leap⟩ := t
  simp only
  by_cases hl : 1000000000 ≤ nano
  · obtain rfl := leap hl
    have hn : nano - 1000000000 + 1000000000 = nano := by omega
    simp [timeOf?, hl, hn, hour_lt, minute_lt, nano_lt]
  · have hne : second ≠ 60 := by omega
    simp [timeOf?, hl, hne, hour_lt, minute_lt, second_lt, nano_lt]

/-- A local time that is UTC denotes itself. -/
theorem shift_zero (date : Date) (time : TimeOfDay) : shift date time 0 = some ⟨date, time⟩ := by
  obtain ⟨hour, minute, second, nano, hour_lt, minute_lt, second_lt, nano_lt, leap⟩ := time
  have hlo : ¬ (60 * (hour : Int) + minute < 0) := by omega
  have hhi : ¬ (1440 ≤ 60 * (hour : Int) + minute) := by omega
  have hday : ((60 * (hour : Int) + minute) % 1440).toNat = 60 * hour + minute := by omega
  have hhour : (60 * hour + minute) / 60 = hour := by omega
  have hminute : (60 * hour + minute) % 60 = minute := by omega
  simp [shift, hlo, hhi, hday, hhour, hminute]

/-! ## 3. Whole instants -/

theorem noDigit_cons {c : Char} (h : isDigitChar c = false) (t : List Char) : NoDigit (c :: t) := by
  simp [NoDigit, h]

theorem mark_trimStart {c : Char} (h : isBlank c = false) (t : List Char) :
    mark c (trimStart (c :: t)) = .ok t := by
  simp [trimStart, h, mark]

theorem noDigit_fractionText (nano : Nat) : NoDigit (fractionText nano ++ ['Z']) := by
  unfold fractionText
  split
  · rfl
  split
  · exact noDigit_cons rfl _
  split
  · exact noDigit_cons rfl _
  · exact noDigit_cons rfl _

/-- **A written instant is read back.** -/
theorem parse_chars (i : Instant) : parse i.chars = .ok i := by
  obtain ⟨date, time⟩ := i
  obtain ⟨hyear, hmonth, hday⟩ := date_bounds date
  have hhour := time.hour_lt
  have hminute := time.minute_lt
  have hsecond : (if 1000000000 ≤ time.nano then time.second + 1 else time.second) ≤ 60 := by
    have := time.second_lt
    split <;> omega
  have hnano : (if 1000000000 ≤ time.nano then time.nano - 1000000000 else time.nano) <
      1000000000 := by
    have := time.nano_lt
    split <;> omega
  have htime := timeOf?_leap time
  simp only [chars, List.append_assoc, List.cons_append]
  generalize (if 1000000000 ≤ time.nano then time.second + 1 else time.second) = second at *
  generalize (if 1000000000 ≤ time.nano then time.nano - 1000000000 else time.nano) = nano at *
  -- behind every number stands a mark that is no digit
  have dash (t : List Char) : NoDigit ('-' :: t) := noDigit_cons rfl t
  have tee (t : List Char) : NoDigit ('T' :: t) := noDigit_cons rfl t
  have colon (t : List Char) : NoDigit (':' :: t) := noDigit_cons rfl t
  have skipDash (t : List Char) : mark '-' (trimStart ('-' :: t)) = .ok t := mark_trimStart rfl t
  have skipColon (t : List Char) : mark ':' (trimStart (':' :: t)) = .ok t := mark_trimStart rfl t
  have hend : offset ['Z'] = .ok (0, []) := rfl
  simp only [parse, bind, Except.bind, yearField_yearText hyear (dash _), skipDash,
    field_paddedDigits hmonth (by omega) (dash _), field_paddedDigits hday (by omega) (tee _),
    field_paddedDigits ⟨Nat.zero_le _, Nat.le_of_lt_succ hhour⟩ (by omega) (colon _), skipColon,
    field_paddedDigits ⟨Nat.zero_le _, Nat.le_of_lt_succ hminute⟩ (by omega) (colon _),
    field_paddedDigits ⟨Nat.zero_le _, hsecond⟩ (by omega) (noDigit_fractionText nano),
    fraction_fractionText hnano, hend, date_of?, htime, shift_zero]
  rfl

end Instant

end Catalogue
