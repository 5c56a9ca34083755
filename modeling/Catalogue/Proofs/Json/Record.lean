import Catalogue.Json.Record
import Catalogue.Proofs.Json.Lexeme

/-!
# Written records are read back

A codec is faithful if it reads back what it writes, wherever that stands in a text. A record of
faithful members is faithful.

* `Codec.Faithful` -- for texts that do not go on with a number, and while enough brackets may be
  opened; what is written never looks like `null`;
* `faithful_int32`, `faithful_int64`, `faithful_text`, `Codec.Faithful.checked` -- the plain codecs;
* `Takes` -- what the members of an object lead to, one after another, and `foldMembers_joinParts`
  -- the same said of their text;
* `Fields.takes_write` -- the members that a record writes lead to the record, also if the codec of
  an absent member is not faithful;
* `Codec.record_read_members` -- an object by whomever it was written; `Codec.record_read_write`,
  `Codec.Faithful.record` -- a whole record, one bracket deeper than its members.
-/

namespace Catalogue.Json

/-! ## 1. Plain codecs -/

/-- **What is written is read back**, wherever it stands, if `depth` more brackets may be opened. -/
structure Codec.Faithful {α : Type} (c : Codec α) (depth : Nat) : Prop where
  read_write : ∀ (a : α) {budget : Nat} {rest : Bytes}, depth ≤ budget → Delimited rest →
    c.read budget (c.write a ++ rest) = .ok (a, rest)
  /-- What is written starts neither with a blank nor like `null`. -/
  head : ∀ a, ∃ b t, c.write a = b :: t ∧ isJsonBlank b = false ∧ b ≠ 0x6E

theorem writeInteger_head (i : Int) :
    ∃ b t, writeInteger i = b :: t ∧ isJsonBlank b = false ∧ b ≠ 0x6E := by
  unfold writeInteger
  split
  · exact ⟨0x2D, _, rfl, rfl, by decide⟩
  · obtain ⟨b, t, hb, hd⟩ := digitBytes_cons i.natAbs
    obtain ⟨hblank, -, hnull⟩ := digit_not_special hd
    exact ⟨b, t, hb, hblank, hnull⟩

theorem faithful_int32 (depth : Nat) : Codec.int32.Faithful depth where
  read_write i budget rest _ hrest := by
    have hlo := i.le_toInt
    have hhi := i.toInt_lt
    simp only [Codec.int32]
    rw [readInteger_write _ (by decide) (by decide) ⟨by omega, by omega⟩ hrest]
    simp only [Except.map, Int32.ofInt_toInt]
  head i := writeInteger_head i.toInt

theorem faithful_int64 (depth : Nat) : Codec.int64.Faithful depth where
  read_write i budget rest _ hrest := by
    have hlo := i.le_toInt
    have hhi := i.toInt_lt
    simp only [Codec.int64]
    rw [readInteger_write _ (by decide) (by decide) ⟨by omega, by omega⟩ hrest]
    simp only [Except.map, Int64.ofInt_toInt]
  head i := writeInteger_head i.toInt

/-- A codec that reads a string, whatever it calls a mismatch. -/
theorem faithful_string (expected : String) (depth : Nat) :
    Codec.Faithful { read := fun _ => readString expected, write := writeText } depth where
  read_write s _ rest _ _ := readString_write expected s rest
  head s := ⟨0x22, _, rfl, rfl, by decide⟩

theorem faithful_text (depth : Nat) : Codec.text.Faithful depth := faithful_string "a string" depth

/-- A rule that every value satisfies does no harm. -/
theorem Codec.Faithful.checked {α β : Type} {c : Codec α} {depth : Nat} (h : c.Faithful depth)
    {check : α → Except String β} {raw : β → α} (hcheck : ∀ b, check (raw b) = .ok b) :
    (c.checked check raw).Faithful depth where
  read_write b budget rest hle hrest := by
    simp only [Codec.checked, h.read_write (raw b) hle hrest, hcheck]
  head b := h.head (raw b)

/-! ## 2. The members of an object -/

section

variable {σ : Type} {member : String → σ → Reader σ}

/-- One member as it is written. -/
def memberText (m : String × Bytes) : Bytes := writeText m.1 ++ 0x3A :: m.2

/-- The states that written members lead through, one after another. -/
inductive Takes (member : String → σ → Reader σ) : List (String × Bytes) → σ → σ → Prop where
  | nil (s : σ) : Takes member [] s s
  | cons {name : String} {value : Bytes} {ms : List (String × Bytes)} {s s' s'' : σ}
      (h : ∀ rest, Delimited rest → member name s (0x3A :: (value ++ rest)) = .ok (s', rest))
      (ht : Takes member ms s' s'') : Takes member ((name, value) :: ms) s s''

theorem joinParts_cons (p : Bytes) (ps : List Bytes) :
    joinParts (p :: ps) = p ++ ps.flatMap fun q => 0x2C :: q := by
  induction ps generalizing p with
  | nil => simp [joinParts]
  | cons q ps ih =>
    have hstep : joinParts (p :: q :: ps) = p ++ 0x2C :: joinParts (q :: ps) := rfl
    rw [hstep, ih q, List.flatMap_cons, List.cons_append]

theorem writeText_append (s : String) (rest : Bytes) :
    writeText s ++ rest = 0x22 :: ((bytesOf s).flatMap escapedByte ++ 0x22 :: rest) := by
  simp [writeText]

/-- What stands behind a member ends a number. -/
theorem delimited_members (parts : List Bytes) (rest : Bytes) :
    Delimited (parts.flatMap (fun q => 0x2C :: q) ++ 0x7D :: rest) := by
  cases parts with
  | nil => exact delimited_brace rest
  | cons q parts => exact delimited_comma _

theorem foldMembers_flatMap {ms : List (String × Bytes)} {s s' : σ} (h : Takes member ms s s')
    (fuel rest : Bytes) (hfuel : ms.length < fuel.length) :
    foldMembers member fuel false s
        ((ms.map memberText).flatMap (fun q => 0x2C :: q) ++ 0x7D :: rest) =
      .ok (s', 0x7D :: rest) := by
  induction h generalizing fuel with
  | nil s =>
    obtain ⟨b, fuel, rfl⟩ := List.exists_cons_of_length_pos hfuel
    rfl
  | @cons name value ms s s' s'' hm ht ih =>
    obtain ⟨b, fuel, rfl⟩ := List.exists_cons_of_length_pos (Nat.zero_lt_of_lt hfuel)
    have hnext (t : Bytes) : nextMember false (0x2C :: 0x22 :: t) = .ok (some t) := rfl
    rw [List.map_cons, List.flatMap_cons, memberText]
    simp only [List.cons_append, List.append_assoc, writeText_append, foldMembers, hnext,
      readText_write]
    rw [hm _ (delimited_members _ rest)]
    exact ih fuel (Nat.lt_of_succ_lt_succ hfuel)

/-- **The text of members leads where the members lead**, if there is fuel for each of them. -/
theorem foldMembers_joinParts {ms : List (String × Bytes)} {s s' : σ} (h : Takes member ms s s')
    (fuel rest : Bytes) (hfuel : ms.length < fuel.length) :
    foldMembers member fuel true s (joinParts (ms.map memberText) ++ 0x7D :: rest) =
      .ok (s', 0x7D :: rest) := by
  obtain ⟨b, fuel, rfl⟩ := List.exists_cons_of_length_pos (Nat.zero_lt_of_lt hfuel)
  cases h with
  | nil => rfl
  | @cons name value ms s s' s'' hm ht =>
    have hnext (t : Bytes) : nextMember true (0x22 :: t) = .ok (some t) := rfl
    rw [List.map_cons, joinParts_cons, memberText]
    simp only [List.cons_append, List.append_assoc, writeText_append, foldMembers, hnext,
      readText_write]
    rw [hm _ (delimited_members _ rest)]
    exact foldMembers_flatMap ht fuel rest (Nat.lt_of_succ_lt_succ hfuel)

/-- A text of members is longer than their number. -/
theorem length_joinParts (ms : List (String × Bytes)) :
    ms.length ≤ (joinParts (ms.map memberText)).length := by
  induction ms with
  | nil => exact Nat.zero_le _
  | cons m ms ih =>
    have hpos : 0 < (memberText m).length := by simp [memberText, writeText]
    cases ms with
    | nil => exact hpos
    | cons m' ms =>
      have hstep : joinParts ((m :: m' :: ms).map memberText) =
          memberText m ++ 0x2C :: joinParts ((m' :: ms).map memberText) := rfl
      rw [hstep, List.length_append]
      simp only [List.length_cons] at ih ⊢
      omega

end

/-! ## 3. Records -/

namespace Fields

/-- The names of the declared members. -/
def names : {δ ρ : Type} → Fields δ ρ → List String
  | _, _, nil => []
  | _, _, required name _ rest => name :: rest.names
  | _, _, optional name _ _ rest => name :: rest.names

/-- Declared members with different names and faithful codecs. -/
def Faithful : {δ ρ : Type} → Fields δ ρ → (depth : Nat) → Prop
  | _, _, nil, _ => True
  | _, _, required name codec rest, depth =>
    codec.Faithful depth ∧ name ∉ rest.names ∧ rest.Faithful depth
  | _, _, optional name _ codec rest, depth =>
    codec.Faithful depth ∧ name ∉ rest.names ∧ rest.Faithful depth

/-- Declared members with different names, whose codecs are faithful as far as a record needs them: an
    optional member that is absent may have any codec. -/
def FaithfulAt : {δ ρ : Type} → Fields δ ρ → ρ → (depth : Nat) → Prop
  | _, _, nil, _, _ => True
  | _, _, required name codec rest, (_, r), depth =>
    codec.Faithful depth ∧ name ∉ rest.names ∧ rest.FaithfulAt r depth
  | _, _, optional name _ codec rest, (a, r), depth =>
    (a.isSome = true → codec.Faithful depth) ∧ name ∉ rest.names ∧ rest.FaithfulAt r depth

theorem Faithful.faithfulAt {δ ρ : Type} {fields : Fields δ ρ} {depth : Nat}
    (h : fields.Faithful depth) (r : ρ) : fields.FaithfulAt r depth := by
  induction fields with
  | nil => trivial
  | required name codec rest ih => exact ⟨h.1, h.2.1, ih h.2.2 r.2⟩
  | optional name absence codec rest ih => exact ⟨fun _ => h.1, h.2.1, ih h.2.2 r.2⟩

theorem name_mem_of_mem_write {δ ρ : Type} (fields : Fields δ ρ) (r : ρ) {m : String × Bytes}
    (h : m ∈ fields.write r) : m.1 ∈ fields.names := by
  induction fields with
  | nil => exact absurd h List.not_mem_nil
  | required name codec rest ih =>
    rcases List.mem_cons.mp h with rfl | h
    · exact List.mem_cons_self
    · exact List.mem_cons_of_mem _ (ih _ h)
  | optional name absence codec rest ih =>
    obtain ⟨a, r⟩ := r
    unfold write at h
    split at h
    · rcases List.mem_cons.mp h with rfl | h
      · exact List.mem_cons_self
      · exact List.mem_cons_of_mem _ (ih _ h)
    · rcases List.mem_cons.mp h with rfl | h
      · exact List.mem_cons_self
      · exact List.mem_cons_of_mem _ (ih _ h)
    · exact List.mem_cons_of_mem _ (ih _ h)

/-- Members of other names pass by a mandatory member. -/
theorem takes_past_required {δ ρ α : Type} {name : String} (codec : Codec α)
    {rest : Fields δ ρ} {budget : Nat} {ms : List (String × Bytes)} {d d' : δ}
    (h : Takes (rest.put budget) ms d d') (hms : ∀ m ∈ ms, m.1 ≠ name) (slot : Option α) :
    Takes ((required name codec rest).put budget) ms (slot, d) (slot, d') := by
  induction h with
  | nil d => exact .nil _
  | @cons key value ms d d' d'' hm ht ih =>
    refine .cons (fun t htail => ?_) (ih fun m hm => hms m (.tail _ hm))
    rw [put.eq_def]
    simp only [if_neg (hms _ List.mem_cons_self), hm t htail, Except.map]

/-- Members of other names pass by an optional member. -/
theorem takes_past_optional {δ ρ α : Type} {name : String} (absence : Absence) (codec : Codec α)
    {rest : Fields δ ρ} {budget : Nat} {ms : List (String × Bytes)} {d d' : δ}
    (h : Takes (rest.put budget) ms d d') (hms : ∀ m ∈ ms, m.1 ≠ name)
    (slot : Option (Option α)) :
    Takes ((optional name absence codec rest).put budget) ms (slot, d) (slot, d') := by
  induction h with
  | nil d => exact .nil _
  | @cons key value ms d d' d'' hm ht ih =>
    refine .cons (fun t htail => ?_) (ih fun m hm => hms m (.tail _ hm))
    rw [put.eq_def]
    simp only [if_neg (hms _ List.mem_cons_self), hm t htail, Except.map]

theorem readMember_colon {α : Type} (name : String) {read : Reader α} {t rest : Bytes} {a : α}
    (h : read t = .ok (a, rest)) : readMember name read (0x3A :: t) = .ok (a, rest) := by
  have hcolon : expectColon (0x3A :: t) = .ok t := rfl
  simp only [readMember, hcolon, h, bind, Except.bind]

theorem readOptional_null {α : Type} (codec : Codec α) (budget : Nat) (rest : Bytes) :
    readOptional codec budget (writeNull ++ rest) = .ok (none, rest) := rfl

theorem readOptional_write {α : Type} {codec : Codec α} {depth budget : Nat}
    (h : codec.Faithful depth) (hle : depth ≤ budget) (a : α) {rest : Bytes}
    (hrest : Delimited rest) :
    readOptional codec budget (codec.write a ++ rest) = .ok (some a, rest) := by
  obtain ⟨b, t, hb, hblank, hnull⟩ := h.head a
  have hread := h.read_write a hle hrest
  rw [hb, List.cons_append] at hread ⊢
  simp only [readOptional, skipBlank_cons hblank, if_neg hnull, hread, Except.map]

/-- An optional member that is written, as a value or as `null`, is taken. -/
theorem takes_optional {δ ρ α : Type} {name : String} {absence : Absence} {codec : Codec α}
    {rest : Fields δ ρ} {budget : Nat} {value : Bytes} {a : Option α}
    (hread : ∀ t, Delimited t → readOptional codec budget (value ++ t) = .ok (a, t))
    {ms : List (String × Bytes)} {d : δ} (h : Takes (rest.put budget) ms rest.blank d)
    (hms : ∀ m ∈ ms, m.1 ≠ name) :
    Takes ((optional name absence codec rest).put budget) ((name, value) :: ms)
      (optional name absence codec rest).blank (some a, d) := by
  refine .cons (fun t ht => ?_) (takes_past_optional absence codec h hms _)
  rw [blank, put, if_pos rfl]
  simp only [readMember_colon name (hread t ht), Except.map]

/-- **The members that a record writes lead to the record.** -/
theorem takes_write {δ ρ : Type} (fields : Fields δ ρ) {depth budget : Nat} {r : ρ}
    (h : fields.FaithfulAt r depth) (hle : depth ≤ budget) :
    ∃ d, Takes (fields.put budget) (fields.write r) fields.blank d ∧ fields.complete d = .ok r := by
  induction fields with
  | nil => exact ⟨(), .nil _, rfl⟩
  | required name codec rest ih =>
    obtain ⟨a, r⟩ := r
    obtain ⟨hcodec, hname, hrest⟩ := h
    obtain ⟨d, htakes, hdone⟩ := ih hrest
    have hother : ∀ m ∈ rest.write r, m.1 ≠ name := fun m hm e =>
      hname (e ▸ rest.name_mem_of_mem_write r hm)
    refine ⟨(some a, d), .cons (fun t ht => ?_) (takes_past_required codec htakes hother _), ?_⟩
    · rw [blank, put, if_pos rfl]
      simp only [readMember_colon name (hcodec.read_write a hle ht), Except.map]
    · simp only [complete, hdone, Except.map]
  | optional name absence codec rest ih =>
    obtain ⟨a, r⟩ := r
    obtain ⟨hcodec, hname, hrest⟩ := h
    obtain ⟨d, htakes, hdone⟩ := ih hrest
    have hother : ∀ m ∈ rest.write r, m.1 ≠ name := fun m hm e =>
      hname (e ▸ rest.name_mem_of_mem_write r hm)
    have hcomplete (slot : Option (Option _)) : (optional name absence codec rest).complete
        (slot, d) = .ok (slot.join, r) := by simp only [complete, hdone, Except.map]
    cases a with
    | some a =>
      exact ⟨_, takes_optional (fun t => readOptional_write (hcodec rfl) hle a) htakes hother,
        hcomplete (some (some a))⟩
    | none =>
      cases absence with
      | null =>
        exact ⟨_, takes_optional (fun t _ => readOptional_null codec budget t) htakes hother,
          hcomplete (some none)⟩
      | omitted =>
        exact ⟨_, takes_past_optional .omitted codec htakes hother none, hcomplete none⟩

end Fields

/-- **An object is read as the record that its members lead to**, whoever wrote it. -/
theorem Codec.record_read_members {δ ρ α : Type} (name : String) {fields : Fields δ ρ}
    {budget : Nat} {make : ρ → α} {parts : α → ρ} {ms : List (String × Bytes)} {d : δ} {r : ρ}
    (htakes : Takes (fields.put budget) ms fields.blank d) (hdone : fields.complete d = .ok r)
    (rest : Bytes) :
    (Codec.record name fields make parts).read (budget + 1) (writeObject ms ++ rest) =
      .ok (make r, rest) := by
  have htext : writeObject ms ++ rest =
      0x7B :: (joinParts (ms.map memberText) ++ 0x7D :: rest) := by
    simp only [writeObject, List.cons_append, List.append_assoc, List.nil_append]
    rfl
  have hfuel := length_joinParts ms
  have hfold := foldMembers_joinParts htakes (joinParts (ms.map memberText) ++ 0x7D :: rest) rest
    (by rw [List.length_append, List.length_cons]; omega)
  have hclose : closeObject (0x7D :: rest) = .ok rest := rfl
  rw [htext]
  simp only [Codec.record]
  rw [skipBlank_cons (by decide)]
  simp only [if_true, hfold, hdone, hclose, Except.map]

/-- **A record is read back**, one bracket deeper than its members, if these are faithful as far as
    it needs them. -/
theorem Codec.record_read_write {δ ρ α : Type} (name : String) {fields : Fields δ ρ}
    {depth budget : Nat} {make : ρ → α} {parts : α → ρ} {a : α}
    (h : fields.FaithfulAt (parts a) depth) (hmake : make (parts a) = a)
    (hle : depth + 1 ≤ budget) (rest : Bytes) :
    (Codec.record name fields make parts).read budget
      ((Codec.record name fields make parts).write a ++ rest) = .ok (a, rest) := by
  -- the record's own bracket takes one from the budget
  obtain ⟨budget, rfl⟩ : ∃ n, budget = n + 1 := ⟨budget - 1, by omega⟩
  obtain ⟨d, htakes, hdone⟩ := fields.takes_write h (Nat.le_of_succ_le_succ hle)
  have hread : (Codec.record name fields make parts).read (budget + 1)
      ((Codec.record name fields make parts).write a ++ rest) = .ok (make (parts a), rest) :=
    Codec.record_read_members name htakes hdone rest
  rw [hmake] at hread
  exact hread

/-- **A record of faithful members is faithful**, one bracket deeper. -/
theorem Codec.Faithful.record {δ ρ α : Type} (name : String) {fields : Fields δ ρ} {depth : Nat}
    (h : fields.Faithful depth) {make : ρ → α} {parts : α → ρ} (hmake : ∀ a, make (parts a) = a) :
    (Codec.record name fields make parts).Faithful (depth + 1) where
  read_write a _ rest hle _ := Codec.record_read_write name (h.faithfulAt _) (hmake a) hle rest
  head a := ⟨0x7B, _, rfl, rfl, by decide⟩

end Catalogue.Json
