import Catalogue.Proofs.Json.Written
import Catalogue.Proofs.Store.Domains

/-!
# What the members of an event say

The values that an event has under its names, as the grammar has them: which texts are a type, an
item id or a time, and that the entities are read alike wherever they stand.

* `TypeText`, `eventType_decode_iff` -- a type: its word, or an object with the word for a name;
* `itemId_decode_iff` -- an item id: an integer literal in its range;
* `TimeText`, `instant_decode_iff` -- a time: a string that spells a timestamp;
* `Domain.settled_codec`, `Domain.writes_codec` -- the entities of every domain.
-/

namespace Catalogue.Json

/-! ## 1. The type of an event -/

theorem eventTypeOf_ok_iff (word : String) (e : EventType) :
    eventTypeOf word = .ok e ↔ word = e.word := by
  unfold eventTypeOf
  by_cases hcreate : word = EventType.create.word
  · rw [if_pos hcreate, hcreate]
    cases e with
    | create => exact ⟨fun _ => rfl, fun _ => rfl⟩
    | delete => exact ⟨nofun, fun h => absurd h (by decide)⟩
  · rw [if_neg hcreate]
    by_cases hdelete : word = EventType.delete.word
    · rw [if_pos hdelete, hdelete]
      cases e with
      | create => exact ⟨nofun, fun h => absurd h (by decide)⟩
      | delete => exact ⟨fun _ => rfl, fun _ => rfl⟩
    · rw [if_neg hdelete]
      refine ⟨nofun, ?_⟩
      rintro rfl
      cases e with
      | create => exact absurd rfl hcreate
      | delete => exact absurd rfl hdelete

/-- What a value says about the type of an event: a string that spells its word, or an object whose
    only member has that name and is `null`. -/
inductive TypeText (e : EventType) : Bytes → Prop where
  | word {t : Bytes} (h : Spelled t) (hword : spelledText t = some e.word) :
      TypeText e (0x22 :: (t ++ [0x22]))
  | tagged {pad : Bytes} (hpad : Blank pad) {m : Entry} (hword : spelledText m.name = some e.word)
      (hnull : m.content.value = writeNull) : TypeText e (objectText pad [m])

theorem unit_decode_iff {v : Bytes} (hv : Grammatical v) :
    Codec.unit.decode v = .ok () ↔ v = writeNull := by
  rcases hv.null_or with rfl | ⟨b, t, rfl, hblank, hnull⟩
  · exact ⟨fun _ => rfl, fun _ => rfl⟩
  · have herror : Codec.unit.decode (b :: t) = .error (mistyped "unit" (b :: t)) := by
      simp only [Codec.decode, Codec.unit, skipBlank_cons hblank, if_neg hnull]
    rw [herror]
    constructor
    · intro h
      cases h
    · intro h
      exact absurd (List.cons.inj h).1 hnull

/-- The type of an event that an object holds, by its only member. -/
def taggedType : List Entry → Option EventType
  | [] => none
  | m :: ms => (spelledText m.name).bind fun word => (eventTypeOf word).toOption.bind fun e =>
      (Codec.unit.decode m.content.value).toOption.bind fun _ =>
        if ms.isEmpty then some e else none

theorem eventType_read_quote (budget : Nat) (t : Bytes) :
    Codec.eventType.read budget (0x22 :: t) =
      match readText t with
      | .error f => .error f
      | .ok (word, rest) =>
        match eventTypeOf word with
        | .error cause => .error (.here cause)
        | .ok e => .ok (e, rest) := by
  have hquote : skipBlank (0x22 :: t) = 0x22 :: t := skipBlank_cons (by decide) t
  simp only [Codec.eventType, hquote, if_true, bind, Except.bind]
  cases readText t with
  | error f => rfl
  | ok r =>
    simp only
    cases eventTypeOf r.1 <;> rfl

theorem eventType_read_brace (budget : Nat) (t : Bytes) :
    Codec.eventType.read (budget + 1) (0x7B :: t) =
      match readString "variant identifier" t with
      | .error f => .error f
      | .ok (word, t) =>
        match eventTypeOf word with
        | .error cause => .error (.here cause)
        | .ok e =>
          match expectColon t with
          | .error f => .error f
          | .ok t =>
            match Codec.unit.read budget t with
            | .error f => .error f
            | .ok (_, t) => (closeObject t).map fun rest => (e, rest) := by
  have hbrace : skipBlank (0x7B :: t) = 0x7B :: t := skipBlank_cons (by decide) t
  have hquote : (0x7B : UInt8) ≠ 0x22 := by decide
  simp only [Codec.eventType, hbrace, if_neg hquote, if_true, bind, Except.bind]
  cases readString "variant identifier" t with
  | error f => rfl
  | ok r =>
    simp only
    cases eventTypeOf r.1 with
    | error cause => rfl
    | ok e =>
      simp only
      cases expectColon r.2 with
      | error f => rfl
      | ok t =>
        simp only
        cases Codec.unit.read budget t with
        | error f => rfl
        | ok u =>
          simp only
          cases closeObject u.2 <;> rfl

/-- **An object is read as the type that its only member names.** -/
theorem eventType_read_object (budget : Nat) {pad : Bytes} (hpad : Blank pad) {ms : List Entry}
    (hms : ∀ m ∈ ms, Grammatical m.content.value) (rest : Bytes) :
    (Codec.eventType.read (budget + 1) (objectText pad ms ++ rest)).toOption =
      (taggedType ms).map fun e => (e, rest) := by
  cases ms with
  | nil =>
    have hend : skipBlank (pad ++ 0x7D :: rest) = 0x7D :: rest := skipBlank_pad hpad rfl rest
    have hquote : (0x7D : UInt8) ≠ 0x22 := by decide
    have htext : objectText pad [] ++ rest = 0x7B :: (pad ++ 0x7D :: rest) :=
      bracketText_nil .object pad rest
    rw [htext, eventType_read_brace]
    simp only [readString, hend, if_neg hquote]
    rfl
  | cons m ms =>
    have hm := hms m List.mem_cons_self
    have htext : objectText pad (m :: ms) ++ rest =
        0x7B :: (pad ++ (m.text ++ partsTail .object (ms.map Entry.text) rest)) :=
      bracketText_cons .object pad m.text (ms.map Entry.text) rest
    rw [htext, eventType_read_brace]
    generalize htail : partsTail .object (ms.map Entry.text) rest = tail
    have hdelimited : Delimited tail := htail ▸ delimited_partsTail _ _ _
    have hstring : readString "variant identifier" (pad ++ (m.text ++ tail)) =
        readText (m.name ++ 0x22 :: (m.afterName ++ tail)) := by
      simp only [readString, skipBlank_entry hpad, if_true]
    -- the name, the type that it names, and `null`, in the order in which they stand
    rw [hstring, taggedType]
    rcases cases_of_toOption (readText_spelled m.name_spelled (m.afterName ++ tail)) with
      ⟨f, hread, hname⟩ | ⟨word, hread, hname⟩
    · simp only [hread, hname]
      rfl
    simp only [hread, hname, Option.bind_some]
    cases hword : eventTypeOf word with
    | error cause => rfl
    | ok e =>
      have hnull := settled_unit.read_padded hm (Nat.zero_le budget) hdelimited
      simp only [expectColon_afterName]
      rcases cases_of_toOption hnull with ⟨f, hvalue, hunit⟩ | ⟨u, hvalue, hunit⟩
      · simp only [hvalue, hunit]
        rfl
      simp only [hvalue, hunit]
      subst htail
      cases ms with
      | nil =>
        have hclose : closeObject (m.content.after ++ 0x7D :: rest) = .ok rest := by
          simp only [closeObject, skipBlank_append m.content.after_blank]
          rfl
        show ((closeObject (m.content.after ++ 0x7D :: rest)).map
          fun rest => (e, rest)).toOption = _
        rw [hclose]
        rfl
      | cons m' ms =>
        have hcomma (t : Bytes) : skipBlank (m.content.after ++ 0x2C :: t) = 0x2C :: t :=
          skipBlank_pad m.content.after_blank rfl t
        simp only [List.map_cons, partsTail_cons, closeObject, hcomma]
        rfl

theorem eventType_read_text (budget : Nat) {t : Bytes} (h : Spelled t) (rest : Bytes) :
    (Codec.eventType.read budget (0x22 :: (t ++ 0x22 :: rest))).toOption =
      ((spelledText t).bind fun word => (eventTypeOf word).toOption).map fun e => (e, rest) := by
  rw [eventType_read_quote]
  rcases cases_of_toOption (readText_spelled h rest) with ⟨f, hread, hword⟩ | ⟨word, hread, hword⟩
  · simp only [hread, hword]
    rfl
  · simp only [hread, hword, Option.bind_some]
    cases eventTypeOf word <;> rfl

/-- What starts otherwise is no type of event. -/
theorem eventType_read_other {b : UInt8} (hblank : isJsonBlank b = false) (hquote : b ≠ 0x22)
    (hbrace : b ≠ 0x7B) (budget : Nat) (t : Bytes) :
    (Codec.eventType.read budget (b :: t)).toOption = none := by
  simp only [Codec.eventType, skipBlank_cons hblank, if_neg hquote, if_neg hbrace]
  rfl

/-- A value that is neither a string nor an object starts otherwise. -/
theorem Grammatical.text_or_object {v : Bytes} (h : Grammatical v) :
    (∃ t, Spelled t ∧ v = 0x22 :: (t ++ [0x22])) ∨
      (∃ pad ms, Blank pad ∧ (∀ m ∈ ms, Grammatical m.content.value) ∧ v = objectText pad ms) ∨
        ∃ b t, v = b :: t ∧ isJsonBlank b = false ∧ b ≠ 0x22 ∧ b ≠ 0x7B := by
  cases h with
  | text h => exact .inl ⟨_, h, rfl⟩
  | object hpad ms h => exact .inr (.inl ⟨_, ms, hpad, h, rfl⟩)
  | null => exact .inr (.inr ⟨0x6E, _, rfl, rfl, by decide, by decide⟩)
  | yes => exact .inr (.inr ⟨0x74, _, rfl, rfl, by decide, by decide⟩)
  | no => exact .inr (.inr ⟨0x66, _, rfl, rfl, by decide, by decide⟩)
  | negative h => exact .inr (.inr ⟨0x2D, _, rfl, rfl, by decide, by decide⟩)
  | list hpad es h => exact .inr (.inr ⟨0x5B, _, rfl, rfl, by decide, by decide⟩)
  | positive h =>
    obtain ⟨b, t, rfl, hb⟩ := h.head
    exact .inr (.inr ⟨b, t, rfl, (digit_not_special hb).1, ne_of_isDigit hb rfl,
      ne_of_isDigit hb rfl⟩)

/-- What is read of a type depends on the value alone. -/
theorem settled_eventType : Codec.eventType.Settled 1 where
  shallow := by decide
  blank budget t := by
    simp only [Codec.eventType, skipBlank_skipBlank]
  value {v} hv := by
    rcases hv.text_or_object with ⟨t, ht, rfl⟩ | ⟨pad, ms, hpad, hms, rfl⟩ |
      ⟨b, t, rfl, hblank, hquote, hbrace⟩
    · refine ⟨(spelledText t).bind fun word => (eventTypeOf word).toOption,
        fun {budget rest} _ _ => ?_⟩
      simp only [List.cons_append, List.append_assoc, List.nil_append]
      exact eventType_read_text budget ht rest
    · refine ⟨taggedType ms, fun {budget rest} hle _ => ?_⟩
      obtain ⟨n, rfl⟩ : ∃ n, budget = n + 1 := ⟨budget - 1, by omega⟩
      exact eventType_read_object n hpad hms rest
    · exact ⟨none, fun _ _ => eventType_read_other hblank hquote hbrace _ _⟩

theorem taggedType_eq_some_iff {ms : List Entry} (hms : ∀ m ∈ ms, Grammatical m.content.value)
    (e : EventType) : taggedType ms = some e ↔ ∃ m, ms = [m] ∧
      spelledText m.name = some e.word ∧ m.content.value = writeNull := by
  cases ms with
  | nil =>
    refine ⟨nofun, ?_⟩
    rintro ⟨m, ⟨⟩, -⟩
  | cons m ms =>
    have hnull := unit_decode_iff (hms m List.mem_cons_self)
    simp only [taggedType, Option.bind_eq_some_iff, toOption_eq_some_iff, eventTypeOf_ok_iff]
    constructor
    · rintro ⟨word, hword, e', rfl, u, hu, hlast⟩
      cases ms with
      | nil =>
        cases hlast
        exact ⟨m, rfl, hword, hnull.mp hu⟩
      | cons m' ms => cases hlast
    · rintro ⟨m', ⟨⟩, hword, hvalue⟩
      exact ⟨e.word, hword, e, rfl, (), hnull.mpr hvalue, rfl⟩

/-- **What a value says about the type of an event**, if it says anything. -/
theorem eventType_decode_iff {v : Bytes} (hv : Grammatical v) (e : EventType) :
    Codec.eventType.decode v = .ok e ↔ TypeText e v := by
  have hspelled {t : Bytes} (ht : Spelled t) :
      (Codec.eventType.decode (0x22 :: (t ++ [0x22]))).toOption =
        (spelledText t).bind fun word => (eventTypeOf word).toOption :=
    decode_toOption blank_nil (eventType_read_text _ ht [])
  have htagged {pad : Bytes} (hpad : Blank pad) {ms : List Entry}
      (hms : ∀ m ∈ ms, Grammatical m.content.value) :
      (Codec.eventType.decode (objectText pad ms)).toOption = taggedType ms := by
    have hread := eventType_read_object 126 hpad hms []
    rw [List.append_nil] at hread
    exact decode_toOption blank_nil hread
  rw [← toOption_eq_some_iff]
  constructor
  · intro h
    rcases hv.text_or_object with ⟨t, ht, rfl⟩ | ⟨pad, ms, hpad, hms, rfl⟩ |
      ⟨b, t, rfl, hblank, hquote, hbrace⟩
    · rw [hspelled ht] at h
      obtain ⟨word, hword, he⟩ := Option.bind_eq_some_iff.mp h
      obtain rfl := (eventTypeOf_ok_iff word e).mp (toOption_eq_some_iff.mp he)
      exact .word ht hword
    · rw [htagged hpad hms] at h
      obtain ⟨m, rfl, hword, hnull⟩ := (taggedType_eq_some_iff hms e).mp h
      exact .tagged hpad hword hnull
    · have hnone : (Codec.eventType.decode (b :: t)).toOption = none :=
        decode_toOption blank_nil (eventType_read_other hblank hquote hbrace _ t)
      rw [hnone] at h
      cases h
  · intro h
    cases h with
    | word ht hword =>
      rw [hspelled ht, hword, Option.bind_some, toOption_eq_some_iff]
      exact (eventTypeOf_ok_iff _ e).mpr rfl
    | @tagged pad hpad m hword hnull =>
      have hms : ∀ m' ∈ [m], Grammatical m'.content.value := by
        intro m' hm'
        obtain rfl := List.mem_singleton.mp hm'
        rw [hnull]
        exact .null
      rw [htagged hpad hms]
      exact (taggedType_eq_some_iff hms e).mpr ⟨m, rfl, hword, hnull⟩

/-! ## 2. Item ids -/

theorem snd_fittingDigits {ds : List Nat} {n m : Nat} (h : fittingDigits ds n = (m, 0)) :
    m = ds.foldl (fun n d => 10 * n + d) n := by
  induction ds generalizing n with
  | nil =>
    cases h
    rfl
  | cons d ds ih =>
    rw [fittingDigits] at h
    split at h
    · exact ih h
    · cases h

/-- A number that denotes a positive integer is digits alone. -/
theorem Literal.value_of_pos {l : Literal} {i : Int} (h : l.value = some (.integer i))
    (hpos : 0 < i) : l.negative = false ∧ l.fraction = none ∧ l.exponent = none ∧
      i = digitsValue l.whole := by
  obtain ⟨negative, whole, fraction, exponent⟩ := l
  obtain ⟨n, dropped, hfit⟩ : ∃ n dropped, fittingDigits whole 0 = (n, dropped) := ⟨_, _, rfl⟩
  unfold Literal.value at h
  simp only [hfit] at h
  split at h
  next =>
    split at h
    next hdropped =>
      obtain ⟨f, -, hf⟩ := Option.map_eq_some_iff.mp h
      cases hf
    next hdropped =>
      obtain rfl : dropped = 0 := Decidable.not_not.mp hdropped
      have hvalue := snd_fittingDigits hfit
      split at h
      next hsign =>
        cases h
        exact ⟨by simpa using hsign, rfl, rfl, by rw [hvalue]; rfl⟩
      next hsign =>
        split at h
        · cases h
        · cases h
          omega
  next =>
    obtain ⟨f, -, hf⟩ := Option.map_eq_some_iff.mp h
    cases hf

theorem decimalDigits_foldl {ds : List Nat} (hds : ∀ d ∈ ds, d < 10) {n : Nat} (hn : 0 < n) :
    decimalDigits (ds.foldl (fun n d => 10 * n + d) n) = decimalDigits n ++ ds := by
  induction ds generalizing n with
  | nil => rw [List.foldl_nil, List.append_nil]
  | cons d ds ih =>
    obtain ⟨hd, hds⟩ := List.forall_mem_cons.mp hds
    have hlast : decimalDigits (10 * n + d) = decimalDigits n ++ [d] := by
      have hdiv : (10 * n + d) / 10 = n := by omega
      have hmod : (10 * n + d) % 10 = d := by omega
      rw [decimalDigits, if_neg (by omega), hdiv, hmod]
    rw [List.foldl_cons, ih hds (by omega), hlast, List.append_assoc]
    rfl

theorem digitOf_bounds {b : UInt8} (h : isDigit b = true) :
    digitOf b < 10 ∧ (48 + digitOf b).toUInt8 = b := by
  simp only [isDigit, Bool.and_eq_true, decide_eq_true_eq, UInt8.le_iff_toNat_le] at h
  obtain ⟨hlo, hhi⟩ := h
  have hlo : 48 ≤ b.toNat := hlo
  have hhi : b.toNat ≤ 57 := hhi
  unfold digitOf
  refine ⟨by omega, ?_⟩
  rw [Nat.add_sub_cancel' hlo]
  exact UInt8.ofNat_toNat

/-- Digits without a superfluous zero are the canonical ones. -/
theorem Whole.digitBytes_eq {w : Bytes} (h : Whole w) :
    digitBytes (digitsValue (w.map digitOf)) = w := by
  cases h with
  | zero => simp [digitBytes, digitsValue, digitOf, decimalDigits]
  | @digits b ds hb hne hds =>
    obtain ⟨hlt, hbyte⟩ := digitOf_bounds hb
    have hpos : 0 < digitOf b := by
      rcases Nat.eq_zero_or_pos (digitOf b) with hzero | hpos
      · rw [hzero] at hbyte
        exact absurd hbyte.symm hne
      · exact hpos
    have hall : ∀ d ∈ ds.map digitOf, d < 10 := by
      intro d hd
      obtain ⟨c, hc, rfl⟩ := List.mem_map.mp hd
      exact (digitOf_bounds (hds c hc)).1
    have hvalue : digitsValue ((b :: ds).map digitOf) =
        (ds.map digitOf).foldl (fun n d => 10 * n + d) (digitOf b) := by
      simp [digitsValue]
    have hsingle : decimalDigits (digitOf b) = [digitOf b] := by
      rw [decimalDigits, if_pos hlt]
    rw [hvalue, digitBytes, decimalDigits_foldl hall hpos, hsingle]
    simp only [List.singleton_append, List.map_cons, List.map_map, hbyte]
    refine congrArg _ ((List.map_congr_left fun c hc => ?_).trans (List.map_id ds))
    exact (digitOf_bounds (hds c hc)).2

/-- A positive integer of 64 bits is spelled in canonical digits. -/
theorem int64_decode_pos {v : Bytes} (hv : Grammatical v) {i : Int64}
    (h : Codec.int64.decode v = .ok i) (hpos : 0 < i.toInt) : v = digitBytes i.toInt.toNat := by
  obtain ⟨rest, hread, -⟩ := decode_ok_iff.mp h
  have hread : (readInteger "i64" (-9223372036854775808) 9223372036854775807 v).map
      (fun r => (Int64.ofInt r.1, r.2)) = .ok (i, rest) := hread
  rcases hv.integer_or with ⟨l, hspelled, hliteral⟩ | hnone
  · have hint := hliteral "i64" (-9223372036854775808) 9223372036854775807 delimited_nil
    rw [List.append_nil] at hint
    rcases cases_of_toOption hint with ⟨f, herror, -⟩ | ⟨j, hok, hj⟩
    · rw [herror] at hread
      cases hread
    rw [hok] at hread
    cases hread
    obtain ⟨hvalue, hlo, hhi⟩ := Literal.integerIn_eq_some_iff.mp hj
    rw [Int64.toInt_ofInt_of_le (by omega) (by omega)] at hpos ⊢
    obtain ⟨hsign, hfraction, hexponent, hdigits⟩ := Literal.value_of_pos hvalue hpos
    obtain ⟨hw, hwhole⟩ := hspelled hsign hfraction hexponent
    rw [hdigits, Int.toNat_natCast, hwhole]
    exact hw.digitBytes_eq.symm
  · have hint := hnone "i64" (-9223372036854775808) 9223372036854775807 []
    rw [List.append_nil] at hint
    have hboth := congrArg Except.toOption hread
    rw [toOption_map, hint] at hboth
    cases hboth

/-- **An item id is an integer literal in its range**, spelled in canonical digits. -/
theorem itemId_decode_iff {v : Bytes} (hv : Grammatical v) (k : ItemId) :
    Codec.itemId.decode v = .ok k ↔ v = digitBytes k.val := by
  constructor
  · intro h
    obtain ⟨i, hi, hcheck⟩ := checked_decode_iff.mp h
    have hk : ItemId.ofInt i.toInt = .ok k := by
      cases hof : ItemId.ofInt i.toInt with
      | error n =>
        rw [hof] at hcheck
        cases hcheck
      | ok k' =>
        rw [hof] at hcheck
        cases hcheck
        rfl
    have hval : i.toInt = k.val := (ItemId.ofInt_ok_iff _ k).mp hk
    have hpos := k.pos
    have hdigits := int64_decode_pos hv hi (by omega)
    rwa [hval, Int.toNat_natCast] at hdigits
  · rintro rfl
    have hk := k.lt
    have hval : (Int64.ofNat k.val).toInt = k.val := Int64.toInt_ofNat_of_lt (by omega)
    have hwrite : Codec.itemId.encode k = digitBytes k.val := by
      show writeInteger (Int64.ofNat k.val).toInt = digitBytes k.val
      rw [hval, writeInteger, if_neg (by omega), Int.natAbs_natCast]
    rw [← hwrite]
    exact (faithful_itemId 0).decode_encode (Nat.zero_le _) k

/-! ## 3. Times -/

/-- What a value says about a time: a string that spells a timestamp. -/
def TimeText (i : Instant) (v : Bytes) : Prop :=
  ∃ t s, Spelled t ∧ v = 0x22 :: (t ++ [0x22]) ∧ spelledText t = some s ∧
    Instant.parse s.toList = .ok i

theorem instant_decode_iff {v : Bytes} (hv : Grammatical v) (i : Instant) :
    Codec.instant.decode v = .ok i ↔ TimeText i v := by
  refine checked_decode_iff.trans ⟨?_, ?_⟩
  · rintro ⟨s, hs, hi⟩
    obtain ⟨t, ht, rfl, hspells⟩ := (string_decode_iff _ _ hv s).mp hs
    cases hparse : Instant.parse s.toList with
    | error f =>
      rw [hparse] at hi
      cases hi
    | ok j =>
      rw [hparse] at hi
      cases hi
      exact ⟨t, s, ht, rfl, hspells, hparse⟩
  · rintro ⟨t, s, ht, rfl, hspells, hi⟩
    refine ⟨s, (string_decode_iff _ _ hv s).mpr ⟨t, ht, rfl, hspells⟩, ?_⟩
    rw [hi]

/-! ## 4. Entities -/

theorem settled_productFields : productFields.Settled 0 :=
  ⟨settled_itemId, settled_text, settled_int32, settled_text, trivial⟩

theorem settled_recommendationFields : recommendationFields.Settled 0 :=
  ⟨settled_itemId, settled_int64, settled_text, settled_int32, settled_text, settled_text, trivial⟩

theorem settled_reviewFields : reviewFields.Settled 0 :=
  ⟨settled_itemId, settled_int64, settled_text, settled_text, settled_text, settled_text, trivial⟩

theorem settled_product : Codec.product.Settled 1 :=
  Codec.Settled.record "Product" settled_productFields (by decide) _ _

theorem settled_recommendation : Codec.recommendation.Settled 1 :=
  Codec.Settled.record "Recommendation" settled_recommendationFields (by decide) _ _

theorem settled_review : Codec.review.Settled 1 :=
  Codec.Settled.record "Review" settled_reviewFields (by decide) _ _

theorem writes_itemId : Codec.itemId.Writes := writes_int64.checked _ _

theorem writes_productFields : productFields.Writes :=
  ⟨writes_itemId, writes_text, writes_int32, writes_text, trivial⟩

theorem writes_recommendationFields : recommendationFields.Writes :=
  ⟨writes_itemId, writes_int64, writes_text, writes_int32, writes_text, writes_text, trivial⟩

theorem writes_reviewFields : reviewFields.Writes :=
  ⟨writes_itemId, writes_int64, writes_text, writes_text, writes_text, writes_text, trivial⟩

theorem writes_product : Codec.product.Writes :=
  Codec.Writes.record "Product" writes_productFields _ _

theorem writes_recommendation : Codec.recommendation.Writes :=
  Codec.Writes.record "Recommendation" writes_recommendationFields _ _

theorem writes_review : Codec.review.Writes :=
  Codec.Writes.record "Review" writes_reviewFields _ _

end Catalogue.Json

namespace Catalogue

open Json

theorem Domain.settled_codec (d : Domain) : d.codec.Settled 1 := by
  cases d with
  | product => exact settled_product
  | recommendation => exact settled_recommendation
  | review => exact settled_review

theorem Domain.writes_codec (d : Domain) : d.codec.Writes := by
  cases d with
  | product => exact writes_product
  | recommendation => exact writes_recommendation
  | review => exact writes_review

/-- No entity is written `null`. -/
theorem Domain.codec_decode_null (d : Domain) (a : d.Carried) :
    d.codec.decode writeNull ≠ .ok a := by
  cases d with
  | product => exact nofun
  | recommendation => exact nofun
  | review => exact nofun

end Catalogue
