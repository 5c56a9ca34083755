import Catalogue.Text.Numeral

/-!
# What counts as a numeral

A numeral is read digit by digit, behind a sign or without one, and it must be used up. This file
says which texts that accepts, and as what.

* `Digits` -- a run of digits and the number that it denotes (`natural?_eq_some_iff`);
* `Numeral` -- an integer of 64 bits as a text (`signed?_eq_some_iff`: these texts are read, as these
  integers, and no others), `PlusDigits` -- a positive one (`numeral_natCast_iff`), or an
  unsigned one below a bound (`unsigned?_eq_some_iff`);
* `decimalText_eq_repr`, `integerText_eq_repr` -- the canonical texts (`integerText_injective`: no
  two integers share one).
-/

namespace Catalogue

/-! ## 1. Digits -/

/-- The number that digits denote, as characters. -/
def Digits (cs : List Char) (n : Nat) : Prop :=
  ∃ ds : List Nat, ds ≠ [] ∧ (∀ d ∈ ds, d < 10) ∧ cs = ds.map digitChar ∧ n = digitsValue ds

theorem digitValue?_digitChar {d : Nat} (h : d < 10) : digitValue? (digitChar d) = some d := by
  have all : ∀ d : Fin 10, digitValue? (digitChar d.val) = some d.val := by decide
  exact all ⟨d, h⟩

/-- The digits are the ten characters that are written. -/
theorem digitValue?_eq_some_iff (c : Char) (d : Nat) :
    digitValue? c = some d ↔ d < 10 ∧ c = digitChar d := by
  constructor
  · intro h
    unfold digitValue? at h
    split at h
    next hrange =>
      cases h
      refine ⟨by omega, ?_⟩
      rw [digitChar, Nat.add_sub_cancel' hrange.1]
      exact c.ofNat_toNat.symm
    · cases h
  · rintro ⟨hd, rfl⟩
    exact digitValue?_digitChar hd

theorem mapM_digitValue?_eq_some_iff (cs : List Char) (ds : List Nat) :
    cs.mapM digitValue? = some ds ↔ (∀ d ∈ ds, d < 10) ∧ cs = ds.map digitChar := by
  induction cs generalizing ds with
  | nil =>
    rw [List.mapM_nil]
    constructor
    · rintro ⟨⟩
      exact ⟨nofun, rfl⟩
    · rintro ⟨-, h⟩
      rw [List.map_eq_nil_iff.mp h.symm]
      rfl
  | cons c cs ih =>
    rw [List.mapM_cons]
    constructor
    · intro h
      obtain ⟨d, hd, h⟩ := Option.bind_eq_some_iff.mp h
      obtain ⟨es, hes, h⟩ := Option.bind_eq_some_iff.mp h
      cases h
      obtain ⟨hlt, rfl⟩ := (digitValue?_eq_some_iff c d).mp hd
      obtain ⟨hall, rfl⟩ := (ih es).mp hes
      exact ⟨List.forall_mem_cons.mpr ⟨hlt, hall⟩, rfl⟩
    · rintro ⟨hall, h⟩
      obtain ⟨d, es, rfl, rfl, hes⟩ := List.map_eq_cons_iff.mp h.symm
      obtain ⟨hd, hall⟩ := List.forall_mem_cons.mp hall
      rw [digitValue?_digitChar hd, (ih es).mpr ⟨hall, hes.symm⟩]
      rfl

/-- **A run of digits is what is read as a number.** -/
theorem natural?_eq_some_iff (cs : List Char) (n : Nat) : natural? cs = some n ↔ Digits cs n := by
  unfold natural? Digits
  cases cs with
  | nil =>
    refine ⟨nofun, ?_⟩
    rintro ⟨ds, hne, -, h, -⟩
    exact absurd (List.map_eq_nil_iff.mp h.symm) hne
  | cons c cs =>
    rw [List.isEmpty_cons, if_neg Bool.false_ne_true, Option.map_eq_some_iff]
    constructor
    · rintro ⟨ds, hds, rfl⟩
      obtain ⟨hall, hcs⟩ := (mapM_digitValue?_eq_some_iff _ ds).mp hds
      refine ⟨ds, ?_, hall, hcs, rfl⟩
      rintro rfl
      cases hcs
    · rintro ⟨ds, -, hall, hcs, rfl⟩
      exact ⟨ds, (mapM_digitValue?_eq_some_iff _ ds).mpr ⟨hall, hcs⟩, rfl⟩

/-- Digits denote one number. -/
theorem Digits.unique {cs : List Char} {m n : Nat} (hm : Digits cs m) (hn : Digits cs n) :
    m = n := by
  have hread := (natural?_eq_some_iff cs m).mpr hm
  rw [(natural?_eq_some_iff cs n).mpr hn] at hread
  exact (Option.some.inj hread).symm

/-- A run of digits begins with no sign. -/
theorem Digits.head_ne {c : Char} {t : List Char} {n : Nat} (h : Digits (c :: t) n) :
    c ≠ '+' ∧ c ≠ '-' := by
  obtain ⟨ds, -, hall, hcs, -⟩ := h
  obtain ⟨d, es, rfl, rfl, -⟩ := List.map_eq_cons_iff.mp hcs.symm
  have hd := hall d List.mem_cons_self
  have all : ∀ d : Fin 10, digitChar d.val ≠ '+' ∧ digitChar d.val ≠ '-' := by decide
  exact all ⟨d, hd⟩

/-! ## 2. Signs -/

/-- **An integer of 64 bits, as a text**: digits, and perhaps a sign in front of them. -/
structure Numeral (cs : List Char) (n : Int) : Prop where
  spelled : (∃ m : Nat, Digits cs m ∧ n = m) ∨
    (∃ t, ∃ m : Nat, cs = '+' :: t ∧ Digits t m ∧ n = m) ∨
    ∃ t, ∃ m : Nat, cs = '-' :: t ∧ Digits t m ∧ n = -m
  low : -9223372036854775808 ≤ n
  high : n ≤ 9223372036854775807

theorem natural?_map_eq_some_iff (cs : List Char) (f : Nat → Int) (n : Int) :
    (natural? cs).map f = some n ↔ ∃ m, Digits cs m ∧ n = f m := by
  rw [Option.map_eq_some_iff]
  constructor
  · rintro ⟨m, hm, rfl⟩
    exact ⟨m, (natural?_eq_some_iff cs m).mp hm, rfl⟩
  · rintro ⟨m, hm, rfl⟩
    exact ⟨m, (natural?_eq_some_iff cs m).mpr hm, rfl⟩

/-- **A numeral is what is read as an integer of 64 bits.** -/
theorem signed?_eq_some_iff (cs : List Char) (n : Int) :
    signed? (-9223372036854775808) 9223372036854775807 cs = some n ↔ Numeral cs n := by
  have hnumeral : Numeral cs n ↔ _ ∧ _ ∧ _ :=
    ⟨fun h => ⟨h.spelled, h.low, h.high⟩, fun h => ⟨h.1, h.2.1, h.2.2⟩⟩
  unfold signed?
  rw [Option.filter_eq_some_iff, hnumeral, decide_eq_true_eq]
  refine and_congr_left fun _ => ?_
  split
  next t =>
    rw [natural?_map_eq_some_iff]
    constructor
    · rintro ⟨m, hm, rfl⟩
      exact .inr (.inl ⟨t, m, rfl, hm, rfl⟩)
    · rintro (⟨m, hm, -⟩ | ⟨_, m, ⟨⟩, hm, rfl⟩ | ⟨_, m, h, -⟩)
      · exact absurd rfl hm.head_ne.1
      · exact ⟨m, hm, rfl⟩
      · cases h
  next t =>
    have hread : (Option.map (fun n => -n) do let a ← natural? t; pure (a : Int)) =
        (natural? t).map fun m : Nat => -(m : Int) := by
      cases natural? t with
      | none => rfl
      | some m => rfl
    rw [hread, natural?_map_eq_some_iff]
    constructor
    · rintro ⟨m, hm, rfl⟩
      exact .inr (.inr ⟨t, m, rfl, hm, rfl⟩)
    · rintro (⟨m, hm, -⟩ | ⟨_, m, h, -⟩ | ⟨_, m, ⟨⟩, hm, rfl⟩)
      · exact absurd rfl hm.head_ne.2
      · cases h
      · exact ⟨m, hm, rfl⟩
  next hplus hminus =>
    rw [natural?_map_eq_some_iff]
    constructor
    · exact .inl
    · rintro (h | ⟨t, m, rfl, -⟩ | ⟨t, m, rfl, -⟩)
      · exact h
      · exact absurd rfl (hplus t)
      · exact absurd rfl (hminus t)

/-- A text is read as one integer at most. -/
theorem Numeral.unique {cs : List Char} {m n : Int} (hm : Numeral cs m) (hn : Numeral cs n) :
    m = n := by
  have hread := (signed?_eq_some_iff cs m).mpr hm
  rw [(signed?_eq_some_iff cs n).mpr hn] at hread
  exact (Option.some.inj hread).symm

/-- Digits that denote a number, perhaps behind a plus. -/
def PlusDigits (cs : List Char) (n : Nat) : Prop :=
  Digits cs n ∨ ∃ t, cs = '+' :: t ∧ Digits t n

/-- **A positive integer is spelled without a minus**, but perhaps with a plus. -/
theorem numeral_natCast_iff {cs : List Char} {n : Nat} (hpos : 1 ≤ n) :
    Numeral cs n ↔ PlusDigits cs n ∧ n < 9223372036854775808 := by
  constructor
  · rintro ⟨hspelled, -, hhigh⟩
    refine ⟨?_, by omega⟩
    rcases hspelled with ⟨m, hm, hn⟩ | ⟨t, m, ht, hm, hn⟩ | ⟨t, m, -, -, hn⟩
    · obtain rfl := Int.ofNat.inj hn
      exact .inl hm
    · obtain rfl := Int.ofNat.inj hn
      exact .inr ⟨t, ht, hm⟩
    · omega
  · rintro ⟨hm | ⟨t, ht, hm⟩, hlt⟩
    · exact ⟨.inl ⟨n, hm, rfl⟩, by omega, by omega⟩
    · exact ⟨.inr (.inl ⟨t, n, ht, hm, rfl⟩), by omega, by omega⟩

/-- **An unsigned number** is read from digits, perhaps behind a plus. -/
theorem unsigned?_eq_some_iff (bound : Nat) (cs : List Char) (n : Nat) :
    unsigned? bound cs = some n ↔ PlusDigits cs n ∧ n < bound := by
  unfold unsigned? PlusDigits
  rw [Option.filter_eq_some_iff, decide_eq_true_eq, natural?_eq_some_iff]
  refine and_congr_left fun _ => ?_
  split
  next t =>
    constructor
    · exact fun h => .inr ⟨t, rfl, h⟩
    · rintro (h | ⟨_, ⟨⟩, h⟩)
      · exact absurd rfl h.head_ne.1
      · exact h
  next hplus =>
    constructor
    · exact .inl
    · rintro (h | ⟨t, rfl, -⟩)
      · exact h
      · exact absurd rfl (hplus t)

/-! ## 3. Canonical texts -/

theorem digitChar_eq {d : Nat} (h : d < 10) : digitChar d = d.digitChar := by
  have all : ∀ d : Fin 10, digitChar d.val = d.val.digitChar := by decide
  exact all ⟨d, h⟩

theorem map_digitChar_decimalDigits (n : Nat) :
    (decimalDigits n).map digitChar = Nat.toDigits 10 n := by
  induction n using Nat.strongRecOn with
  | _ n ih =>
    rw [decimalDigits, Nat.toDigits_eq_if (by decide)]
    split
    next h => rw [List.map_singleton, digitChar_eq h]
    next h =>
      rw [List.map_append, ih (n / 10) (by omega), List.map_singleton,
        digitChar_eq (Nat.mod_lt n (by decide))]

/-- **The canonical text of a number** is the one that Lean writes. -/
theorem decimalText_eq_repr (n : Nat) : decimalText n = n.repr := by
  rw [decimalText, map_digitChar_decimalDigits, Nat.repr_eq_ofList_toDigits]

theorem integerText_eq_repr (i : Int) : integerText i = i.repr := by
  have hminus (n : Nat) : String.ofList ('-' :: Nat.toDigits 10 n) = "-" ++ n.repr := by
    rw [Nat.repr_eq_ofList_toDigits, ← List.singleton_append, String.ofList_append]
  rw [Int.repr_eq_if, integerText, map_digitChar_decimalDigits, decimalText_eq_repr, hminus]
  by_cases h : i < 0
  · rw [if_pos h, if_neg (by omega), show i.natAbs = (-i).toNat by omega]
  · rw [if_neg h, if_pos (by omega), show i.natAbs = i.toNat by omega]

/-- The canonical text of a number denotes it. -/
theorem digits_decimalText (n : Nat) : Digits (decimalText n).toList n :=
  ⟨decimalDigits n, decimalDigits_ne_nil n, fun _ => lt_of_mem_decimalDigits,
    by rw [decimalText, String.toList_ofList], (digitsValue_decimalDigits n).symm⟩

/-- The canonical text of an integer is digits, behind a minus if the integer is negative. -/
theorem integerText_cases (i : Int) :
    (∃ n : Nat, i = n ∧ Digits (integerText i).toList n) ∨
    ∃ (n : Nat) (t : List Char), i = -n ∧ (integerText i).toList = '-' :: t ∧ Digits t n := by
  by_cases h : i < 0
  · refine .inr ⟨i.natAbs, _, by omega, by rw [integerText, if_pos h, String.toList_ofList], ?_⟩
    have hdigits := digits_decimalText i.natAbs
    rwa [decimalText, String.toList_ofList] at hdigits
  · refine .inl ⟨i.natAbs, by omega, ?_⟩
    rw [integerText, if_neg h]
    exact digits_decimalText i.natAbs

/-- **Integers have texts of their own.** -/
theorem integerText_injective {i j : Int} (h : integerText i = integerText j) : i = j := by
  rcases integerText_cases i with ⟨m, rfl, hm⟩ | ⟨m, t, rfl, ht, hm⟩
  · rcases integerText_cases j with ⟨n, rfl, hn⟩ | ⟨n, u, rfl, hu, hn⟩
    · rw [h] at hm
      rw [hm.unique hn]
    · rw [h, hu] at hm
      exact absurd rfl hm.head_ne.2
  · rcases integerText_cases j with ⟨n, rfl, hn⟩ | ⟨n, u, rfl, hu, hn⟩
    · rw [← h, ht] at hn
      exact absurd rfl hn.head_ne.2
    · obtain rfl : t = u := (List.cons.inj (ht.symm.trans (by rw [h, hu]))).2
      rw [hm.unique hn]

end Catalogue
