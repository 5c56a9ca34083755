import Catalogue.Proofs.Json.Members

/-!
# What is written is grammatical

The writers stay within the grammar that the readers accept: compact, without blanks, names and
strings in their shortest spelling.

* `spelled_write`, `spelledText_write` -- a string between its quotes spells itself;
* `whole_digitBytes` -- canonical digits are a number;
* `Codec.Writes` -- codecs that write grammatical values, `Codec.Writes.list`, `Codec.Writes.record`
  -- lists and records of them;
* `ObjectText.written`, `text_written`, `pairs_written` -- a written object as a text whose members
  are known.
-/

namespace Catalogue.Json

/-! ## 1. Strings and numbers -/

theorem Spelled.escapedByte (b : UInt8) {t : Bytes} (h : Spelled t) :
    Spelled (escapedByte b ++ t) := by
  rcases escapedByte_cases b with ⟨hquote, hslash, hplain, hb⟩ | ⟨c, -, -, hletter, hb⟩ | ⟨-, hb⟩
  · rw [hb]
    exact .plain hquote hslash hplain h
  · rw [hb]
    exact .letter hletter h
  · rw [hb]
    exact .number (hexReversed?_control b) h

/-- **A written string is spelled.** -/
theorem spelled_write (s : String) : Spelled ((bytesOf s).flatMap escapedByte) := by
  induction bytesOf s with
  | nil => exact .done
  | cons b bs ih =>
    rw [List.flatMap_cons]
    exact ih.escapedByte b

theorem spelledText_write (s : String) :
    spelledText ((bytesOf s).flatMap escapedByte) = some s := by
  rw [spelledText, readText_write]
  rfl

theorem grammatical_writeText (s : String) : Grammatical (writeText s) := .text (spelled_write s)

theorem whole_digitBytes (n : Nat) : Whole (digitBytes n) := by
  have hdigits : ∀ b ∈ digitBytes n, isDigit b = true := fun b hb => isDigit_of_mem_digitBytes hb
  rcases Nat.eq_zero_or_pos n with rfl | hpos
  · have hzero : digitBytes 0 = [0x30] := by simp [digitBytes, decimalDigits]
    rw [hzero]
    exact .zero
  · obtain ⟨d, ds, hd, hne⟩ := head_decimalDigits hpos
    have hlt : d < 10 := lt_of_mem_decimalDigits (n := n) (by simp [hd])
    rw [digitBytes, hd, List.map_cons] at hdigits ⊢
    obtain ⟨hb, hds⟩ := List.forall_mem_cons.mp hdigits
    exact .digits hb (digitByte_ne_zero ⟨d, hlt⟩ hne) hds

theorem grammatical_writeInteger (i : Int) : Grammatical (writeInteger i) := by
  have hfigure (n : Nat) : Figure (digitBytes n) := by
    have h := Figure.of (whole_digitBytes n) .absent .absent
    rwa [List.append_nil, List.append_nil] at h
  unfold writeInteger
  split
  · exact .negative (hfigure _)
  · exact .positive (hfigure _)

/-! ## 2. Objects -/

/-- A member in its shortest spelling. -/
def Member.written (name : String) (v : Bytes) (hv : Grammatical v) : Member where
  entry := ⟨[], (bytesOf name).flatMap escapedByte, [], ⟨[], v, [], blank_nil, blank_nil⟩,
    blank_nil, spelled_write name, blank_nil⟩
  name := name
  spells := spelledText_write name
  grammatical := hv

/-- A written object. -/
def ObjectText.written (ps : List (String × Bytes)) (h : ∀ p ∈ ps, Grammatical p.2) :
    ObjectText where
  lead := []
  pad := []
  members := ps.attach.map fun p => Member.written p.1.1 p.1.2 (h p.1 p.2)
  trail := []
  lead_blank := blank_nil
  pad_blank := blank_nil
  trail_blank := blank_nil

/-- **A written object is a text whose members are known.** -/
theorem text_written {ps : List (String × Bytes)} (h : ∀ p ∈ ps, Grammatical p.2) :
    (ObjectText.written ps h).text = writeObject ps := by
  have hpart (p : String × Bytes) (hp : Grammatical p.2) :
      (Member.written p.1 p.2 hp).entry.text = writeText p.1 ++ 0x3A :: p.2 := by
    simp [Member.written, Entry.text, Entry.afterName, Padded.text, writeText]
  have hparts : ((ObjectText.written ps h).members.map Member.entry).map Entry.text =
      ps.map fun m => writeText m.1 ++ 0x3A :: m.2 := by
    unfold ObjectText.written
    rw [List.map_map, List.map_map]
    exact (List.map_congr_left fun p _ => hpart p.1 (h p.1 p.2)).trans
      List.attach_map_val
  show [] ++ (objectText [] ((ObjectText.written ps h).members.map Member.entry) ++ []) = _
  rw [List.nil_append, List.append_nil, objectText, hparts]
  rfl

theorem pairs_written {ps : List (String × Bytes)} (h : ∀ p ∈ ps, Grammatical p.2) :
    (ObjectText.written ps h).pairs = ps := by
  unfold ObjectText.pairs ObjectText.written
  rw [List.map_map]
  exact List.attach_map_subtype_val ps

theorem grammatical_writeObject {ps : List (String × Bytes)} (h : ∀ p ∈ ps, Grammatical p.2) :
    Grammatical (writeObject ps) := by
  have htext : [] ++ (objectText [] ((ObjectText.written ps h).members.map Member.entry) ++ []) =
      writeObject ps := text_written h
  rw [List.nil_append, List.append_nil] at htext
  rw [← htext]
  refine .object blank_nil _ fun m hm => ?_
  obtain ⟨m', -, rfl⟩ := List.mem_map.mp hm
  exact m'.grammatical

/-! ## 3. Codecs -/

/-- What is written is grammatical. -/
def Codec.Writes {α : Type} (c : Codec α) : Prop := ∀ a, Grammatical (c.write a)

theorem writes_int32 : Codec.int32.Writes := fun i => grammatical_writeInteger i.toInt

theorem writes_int64 : Codec.int64.Writes := fun i => grammatical_writeInteger i.toInt

theorem writes_text : Codec.text.Writes := grammatical_writeText

theorem Codec.Writes.checked {α β : Type} {c : Codec α} (h : c.Writes)
    (check : α → Except String β) (raw : β → α) : (c.checked check raw).Writes := fun b => h (raw b)

/-- A list of grammatical elements is grammatical. -/
theorem Codec.Writes.list {α : Type} {c : Codec α} (h : c.Writes) : c.list.Writes := fun as => by
  have hparts : ((as.map fun a => (⟨[], c.write a, [], blank_nil, blank_nil⟩ : Padded)).map
      Padded.text) = as.map c.write := by
    rw [List.map_map]
    refine List.map_congr_left fun a _ => ?_
    show [] ++ (c.write a ++ []) = c.write a
    rw [List.nil_append, List.append_nil]
  have htext : listText [] (as.map fun a => ⟨[], c.write a, [], blank_nil, blank_nil⟩) =
      c.list.write as := by
    rw [listText, hparts]
    rfl
  rw [← htext]
  refine .list blank_nil _ fun e he => ?_
  obtain ⟨a, -, rfl⟩ := List.mem_map.mp he
  exact h a

/-- Declared members whose codecs write grammatical values. -/
def Fields.Writes : {δ ρ : Type} → Fields δ ρ → Prop
  | _, _, .nil => True
  | _, _, .required _ codec rest => codec.Writes ∧ rest.Writes
  | _, _, .optional _ _ codec rest => codec.Writes ∧ rest.Writes

theorem Fields.Writes.write {δ ρ : Type} {fields : Fields δ ρ} (h : fields.Writes) (r : ρ) :
    ∀ p ∈ fields.write r, Grammatical p.2 := by
  induction fields with
  | nil => exact nofun
  | required name codec rest ih =>
    exact List.forall_mem_cons.mpr ⟨h.1 r.1, ih h.2 r.2⟩
  | optional name absence codec rest ih =>
    obtain ⟨a, r⟩ := r
    unfold Fields.write
    split
    · exact List.forall_mem_cons.mpr ⟨h.1 _, ih h.2 r⟩
    · exact List.forall_mem_cons.mpr ⟨.null, ih h.2 r⟩
    · exact ih h.2 r

/-- **A record of grammatical members is grammatical.** -/
theorem Codec.Writes.record {δ ρ α : Type} (name : String) {fields : Fields δ ρ}
    (h : fields.Writes) (make : ρ → α) (parts : α → ρ) :
    (Codec.record name fields make parts).Writes := fun a =>
  grammatical_writeObject (h.write (parts a))

end Catalogue.Json
