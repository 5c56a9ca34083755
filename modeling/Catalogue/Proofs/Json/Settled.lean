import Catalogue.Instant
import Catalogue.Item
import Catalogue.Proofs.Json.Grammar

/-!
# What a reader makes of a value

A reader meets a value in the middle of a text. What it makes of the value there is what it makes
of it alone: neither the blanks in front, nor what follows, nor the number of brackets that may
still be opened play a part, if there are enough of these.

* `Codec.Settled` -- codecs of which that is true, with the brackets they need;
* `Codec.Settled.read_eq`, `Codec.Settled.read_padded` -- a value in its place is the value as a
  text of its own;
* `settled_integer`, `settled_string`, `settled_unit`, `Codec.Settled.checked` -- the plain codecs;
* `Codec.nullable`, `Codec.Settled.nullable` -- a value that may be `null` (`nullable_decode_iff`:
  what such a text holds).
-/

namespace Catalogue.Json

/-! ## 1. Settled codecs -/

/-- **What is read of a value is settled by the value**, where at least `depth` brackets may be
    opened. Blanks in front of it do not count. -/
structure Codec.Settled {α : Type} (c : Codec α) (depth : Nat) : Prop where
  shallow : depth ≤ Codec.nesting
  blank : ∀ (budget : Nat) (t : Bytes), c.read budget (skipBlank t) = c.read budget t
  value : ∀ {v : Bytes}, Grammatical v → ∃ o : Option α, ∀ {budget : Nat} {rest : Bytes},
    depth ≤ budget → Delimited rest →
      (c.read budget (v ++ rest)).toOption = o.map fun a => (a, rest)

section

variable {α β : Type} {c : Codec α} {depth budget : Nat}

/-- A whole text, up to blanks at its end. -/
theorem decode_toOption {t trail : Bytes} {o : Option α} (htrail : Blank trail)
    (h : (c.read Codec.nesting t).toOption = o.map fun a => (a, trail)) :
    (c.decode t).toOption = o := by
  have hend : skipBlank trail = [] := by
    have hskip := skipBlank_append htrail []
    rwa [List.append_nil] at hskip
  unfold Codec.decode
  rcases cases_of_toOption h with ⟨f, hread, ho⟩ | ⟨a, hread, ho⟩
  · simp only [hread, ho]
    rfl
  · simp only [hread, ho, hend]
    rfl

/-- **A value in its place is the value as a text of its own.** -/
theorem Codec.Settled.read_eq (h : c.Settled depth) {v : Bytes} (hv : Grammatical v)
    (hle : depth ≤ budget) {rest : Bytes} (hrest : Delimited rest) :
    (c.read budget (v ++ rest)).toOption = (c.decode v).toOption.map fun a => (a, rest) := by
  obtain ⟨o, ho⟩ := h.value hv
  have halone := ho h.shallow delimited_nil
  rw [List.append_nil] at halone
  rw [ho hle hrest, decode_toOption blank_nil halone]

/-- The same with blanks around it. -/
theorem Codec.Settled.read_padded (h : c.Settled depth) {e : Padded} (he : Grammatical e.value)
    (hle : depth ≤ budget) {rest : Bytes} (hrest : Delimited rest) :
    (c.read budget (e.text ++ rest)).toOption =
      (c.decode e.value).toOption.map fun a => (a, e.after ++ rest) := by
  have hread := h.read_eq he hle (e.after_blank.delimited hrest)
  rw [← h.blank] at hread
  rw [← h.blank, Padded.text, List.append_assoc, List.append_assoc,
    skipBlank_append e.before_blank, hread]

/-- A codec that needs fewer brackets may do with more. -/
theorem Codec.Settled.mono (h : c.Settled depth) {more : Nat} (hle : depth ≤ more)
    (hmore : more ≤ Codec.nesting) : c.Settled more where
  shallow := hmore
  blank := h.blank
  value hv := by
    obtain ⟨o, ho⟩ := h.value hv
    exact ⟨o, fun hbudget hrest => ho (Nat.le_trans hle hbudget) hrest⟩

/-- A rule is checked on the value that was read. -/
theorem Codec.Settled.checked (h : c.Settled depth) (check : α → Except String β) (raw : β → α) :
    (c.checked check raw).Settled depth where
  shallow := h.shallow
  blank budget t := by
    simp only [Codec.checked, h.blank]
  value {v} hv := by
    obtain ⟨o, ho⟩ := h.value hv
    refine ⟨o.bind fun a => (check a).toOption, fun {budget rest} hle hrest => ?_⟩
    unfold Codec.checked
    rcases cases_of_toOption (ho hle hrest) with ⟨f, hread, ho⟩ | ⟨a, hread, ho⟩
    · simp only [hread, ho]
      rfl
    · simp only [hread, ho, Option.bind_some]
      cases check a <;> rfl

theorem decode_ok_iff {t : Bytes} {a : α} : c.decode t = .ok a ↔
    ∃ rest, c.read Codec.nesting t = .ok (a, rest) ∧ (skipBlank rest).isEmpty = true := by
  unfold Codec.decode
  cases c.read Codec.nesting t with
  | error f => exact ⟨nofun, fun ⟨_, h, _⟩ => nomatch h⟩
  | ok r =>
    by_cases hend : (skipBlank r.2).isEmpty = true
    · simp only [if_pos hend]
      constructor
      · rintro ⟨⟩
        exact ⟨r.2, rfl, hend⟩
      · rintro ⟨rest, ⟨⟩, -⟩
        rfl
    · simp only [if_neg hend]
      refine ⟨nofun, ?_⟩
      rintro ⟨rest, ⟨⟩, h⟩
      exact absurd h hend

theorem checked_read_ok_iff {check : α → Except String β} {raw : β → α} {t rest : Bytes} {b : β} :
    (c.checked check raw).read budget t = .ok (b, rest) ↔
      ∃ a, c.read budget t = .ok (a, rest) ∧ check a = .ok b := by
  simp only [Codec.checked]
  cases c.read budget t with
  | error f =>
    constructor
    · rintro ⟨⟩
    · rintro ⟨a, ⟨⟩, -⟩
  | ok r =>
    cases hcheck : check r.1 with
    | error reason =>
      simp only [hcheck]
      constructor
      · rintro ⟨⟩
      · rintro ⟨a, ⟨⟩, h⟩
        rw [hcheck] at h
        cases h
    | ok b' =>
      simp only [hcheck]
      constructor
      · rintro ⟨⟩
        exact ⟨r.1, rfl, hcheck⟩
      · rintro ⟨a, ⟨⟩, h⟩
        rw [hcheck] at h
        cases h
        rfl

/-- **A text holds a checked value exactly if it holds a value that satisfies the rule.** -/
theorem checked_decode_iff {check : α → Except String β} {raw : β → α} {t : Bytes} {b : β} :
    (c.checked check raw).decode t = .ok b ↔ ∃ a, c.decode t = .ok a ∧ check a = .ok b := by
  simp only [decode_ok_iff, checked_read_ok_iff]
  constructor
  · rintro ⟨rest, ⟨a, ha, hb⟩, hend⟩
    exact ⟨a, ⟨rest, ha, hend⟩, hb⟩
  · rintro ⟨a, ⟨rest, ha, hend⟩, hb⟩
    exact ⟨rest, ⟨a, ha, hb⟩, hend⟩

/-- A value that breaks the rule is refused with the reason. -/
theorem checked_decode_error {check : α → Except String β} (raw : β → α) {t : Bytes} {a : α}
    {reason : String} (ha : c.decode t = .ok a) (hcheck : check a = .error reason) :
    (c.checked check raw).decode t = .error (.here (.rejected reason)) := by
  obtain ⟨rest, hread, -⟩ := decode_ok_iff.mp ha
  simp only [Codec.decode, Codec.checked, hread, hcheck]

end

/-! ## 2. Plain codecs -/

theorem skipBlank_skipBlank (t : Bytes) : skipBlank (skipBlank t) = skipBlank t := by
  induction t with
  | nil => rfl
  | cons b t ih =>
    by_cases hb : isJsonBlank b = true
    · rw [skipBlank, if_pos hb, ih]
    · have hskip := skipBlank_cons (Bool.eq_false_iff.mpr hb) t
      rw [hskip, hskip]

/-- The integer that a number denotes, if it denotes one within the bounds. -/
def Literal.integerIn (lo hi : Int) (l : Literal) : Option Int :=
  match l.value with
  | some (.integer i) => if lo ≤ i ∧ i ≤ hi then some i else none
  | _ => none

theorem Literal.integerIn_eq_some_iff {lo hi : Int} {l : Literal} {i : Int} :
    l.integerIn lo hi = some i ↔ l.value = some (.integer i) ∧ lo ≤ i ∧ i ≤ hi := by
  unfold Literal.integerIn
  constructor
  · intro h
    split at h
    next j hj =>
      split at h
      next hin =>
        cases h
        exact ⟨hj, hin⟩
      · cases h
    · cases h
  · rintro ⟨hvalue, hin⟩
    simp only [hvalue, if_pos hin]

section

variable {lo hi : Int} {expected : String}

/-- A number that was read, checked against the bounds. -/
def boundedInteger (expected : String) (lo hi : Int) (r : Except Fault (Number × Bytes)) :
    Except Fault (Int × Bytes) :=
  match r with
  | .error f => .error f
  | .ok (.float bits, _) => .error (.here (.wrongType (.number (.float bits)) expected))
  | .ok (.integer i, rest) =>
    if lo ≤ i ∧ i ≤ hi then .ok (i, rest) else .error (.here (.outOfRange i expected))

theorem bounded_scanNumber (expected : String) {negative : Bool} {t rest : Bytes} {l : Literal}
    (hscan : Literal.scan negative t = .ok (l, rest)) :
    (boundedInteger expected lo hi (scanNumber negative t)).toOption =
      (l.integerIn lo hi).map fun i => (i, rest) := by
  simp only [scanNumber, hscan, Literal.integerIn]
  cases l.value with
  | none => rfl
  | some n =>
    cases n with
    | float bits => rfl
    | integer i =>
      by_cases hin : lo ≤ i ∧ i ≤ hi
      · simp only [boundedInteger, if_pos hin]
        rfl
      · simp only [boundedInteger, if_neg hin]
        rfl

theorem readInteger_figure {b : UInt8} {t rest : Bytes} {l : Literal} (hb : isDigit b = true)
    (hscan : Literal.scan false (b :: t) = .ok (l, rest)) :
    (readInteger expected lo hi (b :: t)).toOption =
      (l.integerIn lo hi).map fun i => (i, rest) := by
  obtain ⟨hblank, hminus, -⟩ := digit_not_special hb
  rw [← bounded_scanNumber expected hscan]
  simp only [readInteger, skipBlank_cons hblank, if_neg hminus, if_pos hb]
  rfl

theorem readInteger_minus {t rest : Bytes} {l : Literal}
    (hscan : Literal.scan true t = .ok (l, rest)) :
    (readInteger expected lo hi (0x2D :: t)).toOption =
      (l.integerIn lo hi).map fun i => (i, rest) := by
  have hblank : skipBlank (0x2D :: t) = 0x2D :: t := skipBlank_cons (by decide) t
  rw [← bounded_scanNumber expected hscan]
  simp only [readInteger, hblank, if_true]
  rfl

/-- What starts otherwise than a number is no integer. -/
theorem readInteger_other {b : UInt8} (hblank : isJsonBlank b = false) (hminus : b ≠ 0x2D)
    (hdigit : isDigit b = false) (t : Bytes) :
    (readInteger expected lo hi (b :: t)).toOption = none := by
  have hnot : ¬ isDigit b = true := by simp [hdigit]
  simp only [readInteger, skipBlank_cons hblank, if_neg hminus, if_neg hnot]
  rfl

end

/-- **A value is a number, and is read as the integer of its literal, or it is no integer.** A
    number without sign, fraction and exponent is digits alone. -/
theorem Grammatical.integer_or {v : Bytes} (hv : Grammatical v) :
    (∃ l : Literal, (l.negative = false → l.fraction = none → l.exponent = none →
        Whole v ∧ l.whole = v.map digitOf) ∧
      ∀ expected lo hi {rest : Bytes}, Delimited rest →
        (readInteger expected lo hi (v ++ rest)).toOption =
          (l.integerIn lo hi).map fun i => (i, rest)) ∨
    ∀ expected lo hi t, (readInteger expected lo hi (v ++ t)).toOption = none := by
  cases hv with
  | positive h =>
    obtain ⟨b, t, rfl, hb⟩ := h.head
    obtain ⟨whole, fraction, exponent, hw, hwhole, hscan⟩ := h.scan
    refine .inl ⟨⟨false, whole.map digitOf, fraction, exponent⟩, fun _ hf hx => ?_,
      fun _ _ _ {rest} hrest => readInteger_figure hb (hscan false rest hrest)⟩
    rw [hwhole hf hx]
    exact ⟨hw, rfl⟩
  | negative h =>
    obtain ⟨whole, fraction, exponent, -, -, hscan⟩ := h.scan
    exact .inl ⟨⟨true, whole.map digitOf, fraction, exponent⟩, nofun,
      fun _ _ _ {rest} hrest => readInteger_minus (hscan true rest hrest)⟩
  | null => exact .inr fun _ _ _ _ => readInteger_other rfl (by decide) rfl _
  | yes => exact .inr fun _ _ _ _ => readInteger_other rfl (by decide) rfl _
  | no => exact .inr fun _ _ _ _ => readInteger_other rfl (by decide) rfl _
  | text h => exact .inr fun _ _ _ _ => readInteger_other rfl (by decide) rfl _
  | list hpad es h => exact .inr fun _ _ _ _ => readInteger_other rfl (by decide) rfl _
  | object hpad ms h => exact .inr fun _ _ _ _ => readInteger_other rfl (by decide) rfl _

/-- **Which integer is read depends on the value alone.** -/
theorem settled_integer {α : Type} (expected : String) (lo hi : Int) (make : Int → α)
    (write : α → Bytes) : Codec.Settled
      { read := fun _ t => (readInteger expected lo hi t).map fun (i, rest) => (make i, rest)
        write := write } 0 where
  shallow := Nat.zero_le _
  blank _ t := by
    simp only [readInteger, skipBlank_skipBlank]
  value {v} hv := by
    rcases hv.integer_or with ⟨l, -, hread⟩ | hnone
    · refine ⟨(l.integerIn lo hi).map make, fun {budget rest} _ hrest => ?_⟩
      rw [toOption_map, hread expected lo hi hrest]
      cases l.integerIn lo hi <;> rfl
    · refine ⟨none, fun {budget rest} _ _ => ?_⟩
      rw [toOption_map, hnone]
      rfl

theorem settled_int32 : Codec.int32.Settled 0 := settled_integer _ _ _ _ _

theorem settled_int64 : Codec.int64.Settled 0 := settled_integer _ _ _ _ _

theorem readString_quote (expected : String) {t : Bytes} (h : Spelled t) (rest : Bytes) :
    (readString expected (0x22 :: (t ++ 0x22 :: rest))).toOption =
      (spelledText t).map fun s => (s, rest) := by
  rw [readString, skipBlank_cons (by decide)]
  exact readText_spelled h rest

/-- What starts otherwise than with a quote is no string. -/
theorem readString_other (expected : String) {b : UInt8} (hblank : isJsonBlank b = false)
    (hquote : b ≠ 0x22) (t : Bytes) : (readString expected (b :: t)).toOption = none := by
  simp only [readString, skipBlank_cons hblank, if_neg hquote]
  rfl

/-- A value that is no string starts otherwise. -/
theorem Grammatical.text_or {v : Bytes} (h : Grammatical v) :
    (∃ t, Spelled t ∧ v = 0x22 :: (t ++ [0x22])) ∨
      ∃ b t, v = b :: t ∧ isJsonBlank b = false ∧ b ≠ 0x22 := by
  cases h with
  | text h => exact .inl ⟨_, h, rfl⟩
  | null => exact .inr ⟨0x6E, _, rfl, rfl, by decide⟩
  | yes => exact .inr ⟨0x74, _, rfl, rfl, by decide⟩
  | no => exact .inr ⟨0x66, _, rfl, rfl, by decide⟩
  | positive h =>
    obtain ⟨b, t, rfl, hb⟩ := h.head
    exact .inr ⟨b, t, rfl, (digit_not_special hb).1, ne_of_isDigit hb rfl⟩
  | negative h => exact .inr ⟨0x2D, _, rfl, rfl, by decide⟩
  | list hpad es h => exact .inr ⟨0x5B, _, rfl, rfl, by decide⟩
  | object hpad ms h => exact .inr ⟨0x7B, _, rfl, rfl, by decide⟩

/-- **Which string is read depends on the value alone.** -/
theorem settled_string (expected : String) (write : String → Bytes) :
    Codec.Settled { read := fun _ => readString expected, write := write } 0 where
  shallow := Nat.zero_le _
  blank _ t := by
    simp only [readString, skipBlank_skipBlank]
  value {v} hv := by
    rcases hv.text_or with ⟨t, ht, rfl⟩ | ⟨b, t, rfl, hblank, hquote⟩
    · refine ⟨spelledText t, fun {budget rest} _ _ => ?_⟩
      have hread := readString_quote expected ht rest
      simpa only [List.cons_append, List.append_assoc, List.nil_append] using hread
    · exact ⟨none, fun _ _ => readString_other expected hblank hquote _⟩

/-- **A string is what stands between quotes and spells it.** -/
theorem string_decode_iff (expected : String) (write : String → Bytes) {v : Bytes}
    (hv : Grammatical v) (s : String) :
    Codec.decode { read := fun _ => readString expected, write := write } v = .ok s ↔
      ∃ t, Spelled t ∧ v = 0x22 :: (t ++ [0x22]) ∧ spelledText t = some s := by
  have hspelled {t : Bytes} (ht : Spelled t) :
      (Codec.decode { read := fun _ => readString expected, write := write }
        (0x22 :: (t ++ [0x22]))).toOption = spelledText t :=
    decode_toOption blank_nil (readString_quote expected ht [])
  rw [← toOption_eq_some_iff]
  constructor
  · intro h
    rcases hv.text_or with ⟨t, ht, rfl⟩ | ⟨b, t, rfl, hblank, hquote⟩
    · rw [hspelled ht] at h
      exact ⟨t, ht, rfl, h⟩
    · have hnone : (Codec.decode { read := fun _ => readString expected, write := write }
          (b :: t)).toOption = none :=
        decode_toOption blank_nil (readString_other expected hblank hquote t)
      rw [hnone] at h
      cases h
  · rintro ⟨t, ht, rfl, hs⟩
    rw [hspelled ht, hs]

theorem settled_text : Codec.text.Settled 0 := settled_string "a string" writeText

/-- A value that is not `null` starts otherwise. -/
theorem Grammatical.null_or {v : Bytes} (h : Grammatical v) :
    v = writeNull ∨ ∃ b t, v = b :: t ∧ isJsonBlank b = false ∧ b ≠ 0x6E := by
  cases h with
  | null => exact .inl rfl
  | text h => exact .inr ⟨0x22, _, rfl, rfl, by decide⟩
  | yes => exact .inr ⟨0x74, _, rfl, rfl, by decide⟩
  | no => exact .inr ⟨0x66, _, rfl, rfl, by decide⟩
  | positive h =>
    obtain ⟨b, t, rfl, hb⟩ := h.head
    exact .inr ⟨b, t, rfl, (digit_not_special hb).1, (digit_not_special hb).2.2⟩
  | negative h => exact .inr ⟨0x2D, _, rfl, rfl, by decide⟩
  | list hpad es h => exact .inr ⟨0x5B, _, rfl, rfl, by decide⟩
  | object hpad ms h => exact .inr ⟨0x7B, _, rfl, rfl, by decide⟩

theorem settled_unit : Codec.unit.Settled 0 where
  shallow := Nat.zero_le _
  blank _ t := by
    simp only [Codec.unit, skipBlank_skipBlank]
  value {v} hv := by
    rcases hv.null_or with rfl | ⟨b, t, rfl, hblank, hnull⟩
    · exact ⟨some (), fun _ _ => rfl⟩
    · refine ⟨none, fun {budget rest} _ _ => ?_⟩
      simp only [Codec.unit, List.cons_append, skipBlank_cons hblank, if_neg hnull]
      rfl

theorem settled_itemId : Codec.itemId.Settled 0 := settled_int64.checked _ _

theorem settled_instant : Codec.instant.Settled 0 := (settled_string _ _).checked _ _

/-! ## 3. Values that may be `null` -/

section

variable {α : Type} {c : Codec α}

/-- The codec of a value that may be `null`. -/
def Codec.nullable (c : Codec α) : Codec (Option α) where
  read := readOptional c
  write
    | some a => c.write a
    | none => writeNull

theorem readOptional_other {b : UInt8} (hblank : isJsonBlank b = false) (hnull : b ≠ 0x6E)
    (budget : Nat) (t : Bytes) : readOptional c budget (b :: t) =
      (c.read budget (b :: t)).map fun (a, rest) => (some a, rest) := by
  simp only [readOptional, skipBlank_cons hblank, if_neg hnull]

theorem Codec.Settled.nullable {depth : Nat} (h : c.Settled depth) : c.nullable.Settled depth where
  shallow := h.shallow
  blank budget t := by
    show readOptional c budget (skipBlank t) = readOptional c budget t
    simp only [readOptional, skipBlank_skipBlank]
  value {v} hv := by
    show ∃ o : Option (Option α), ∀ {budget : Nat} {rest : Bytes}, depth ≤ budget →
      Delimited rest → (readOptional c budget (v ++ rest)).toOption = o.map fun a => (a, rest)
    rcases hv.null_or with rfl | ⟨b, t, rfl, hblank, hnull⟩
    · exact ⟨some none, fun _ _ => rfl⟩
    · obtain ⟨o, ho⟩ := h.value hv
      refine ⟨o.map some, fun {budget rest} hle hrest => ?_⟩
      have hread := ho hle hrest
      rw [List.cons_append] at hread ⊢
      rw [readOptional_other hblank hnull, toOption_map, hread]
      cases o <;> rfl

/-- **What a text holds that may be `null`**: nothing if it is, and otherwise a value. -/
theorem nullable_decode_iff {v : Bytes} (hv : Grammatical v) (a : Option α) :
    c.nullable.decode v = .ok a ↔
      (v = writeNull ∧ a = none) ∨ v ≠ writeNull ∧ ∃ b, c.decode v = .ok b ∧ a = some b := by
  rcases hv.null_or with rfl | ⟨b, t, rfl, hblank, hnull⟩
  · have hdecode : c.nullable.decode writeNull = .ok none := rfl
    rw [hdecode]
    constructor
    · rintro ⟨⟩
      exact .inl ⟨rfl, rfl⟩
    · rintro (⟨-, rfl⟩ | ⟨hne, -⟩)
      · rfl
      · exact absurd rfl hne
  · have hne : b :: t ≠ writeNull := fun h => hnull (List.cons.inj h).1
    have hdecode : c.nullable.decode (b :: t) = (c.decode (b :: t)).map some := by
      have hread : c.nullable.read Codec.nesting (b :: t) =
          (c.read Codec.nesting (b :: t)).map fun (a, rest) => (some a, rest) :=
        readOptional_other hblank hnull _ t
      rw [Codec.decode, Codec.decode, hread]
      cases c.read Codec.nesting (b :: t) with
      | error f => rfl
      | ok r =>
        by_cases hend : (skipBlank r.2).isEmpty = true
        · simp only [Except.map, if_pos hend]
        · simp only [Except.map, if_neg hend]
    rw [hdecode]
    constructor
    · intro h
      cases hb : c.decode (b :: t) with
      | error f =>
        rw [hb] at h
        cases h
      | ok b' =>
        rw [hb] at h
        cases h
        exact .inr ⟨hne, b', rfl, rfl⟩
    · rintro (⟨heq, -⟩ | ⟨-, b', hb, rfl⟩)
      · exact absurd heq hne
      · rw [hb]
        rfl

end

end Catalogue.Json
