import Catalogue.Proofs.Json.Settled

/-!
# The objects that hold a record

A record is read from an object exactly if every mandatory member stands there once, no optional one
stands there twice, and the values are those of the members. Where the members stand, what stands
among them and how they are spelled is all the same.

* `Fields.take` -- one member, with its value as a text of its own (`put_entry`: that is how it is
  read), `foldMembers_partsTail` -- all of them;
* `Codec.record_read_object`, `Codec.record_read_list` -- a whole object and a whole list;
  `Codec.Settled.record`, `Codec.Settled.list` -- what is read of a record, or of a list of values,
  is settled by the value, too;
* `valuesOf` -- the values under a name;
* `Fields.Reads` -- **what the members of an object have to be**, and `takeAll_iff` -- nothing else
  leads to a record;
* `ObjectText`, `record_decode_iff` -- the same for a whole text.
-/

namespace Catalogue.Json

/-! ## 1. One member -/

section

variable {α δ : Type}

/-- A value for a slot, which has to be free. -/
def fill (c : Codec α) (slot : Option α) (v : Bytes) : Option (Option α) :=
  match slot with
  | some _ => none
  | none => (c.decode v).toOption.map some

/-- A member for the slot of its name, or for another one. -/
def takeSlot (name : String) (c : Codec α) (other : δ → Option δ) (key : String) (v : Bytes)
    (s : Option α × δ) : Option (Option α × δ) :=
  if key = name then (fill c s.1 v).map fun slot => (slot, s.2)
  else (other s.2).map fun d => (s.1, d)

end

namespace Fields

/-- Declared members whose codecs are settled. -/
def Settled : {δ ρ : Type} → Fields δ ρ → (depth : Nat) → Prop
  | _, _, nil, _ => True
  | _, _, required _ codec rest, depth => codec.Settled depth ∧ rest.Settled depth
  | _, _, optional _ _ codec rest, depth => codec.Settled depth ∧ rest.Settled depth

/-- Takes one member whose value is a text of its own. -/
def take : {δ ρ : Type} → Fields δ ρ → (key : String) → (v : Bytes) → δ → Option δ
  | _, _, nil, _, _, d => some d
  | _, _, required name codec rest, key, v, s => takeSlot name codec (rest.take key v) key v s
  | _, _, optional name _ codec rest, key, v, s =>
    takeSlot name codec.nullable (rest.take key v) key v s

end Fields

theorem expectColon_afterName (m : Entry) (rest : Bytes) :
    expectColon (m.afterName ++ rest) = .ok (m.content.text ++ rest) := by
  simp only [expectColon, skipBlank_afterName, if_true]

section

variable {α δ ρ : Type} {depth budget : Nat}

/-- What is read of a member is what its value is as a text of its own. -/
theorem readMember_entry {c : Codec α} (h : c.Settled depth) (name : String) {m : Entry}
    (hm : Grammatical m.content.value) (hle : depth ≤ budget) {rest : Bytes}
    (hrest : Delimited rest) : (readMember name (c.read budget) (m.afterName ++ rest)).toOption =
      (c.decode m.content.value).toOption.map fun a => (a, m.content.after ++ rest) := by
  rw [← h.read_padded hm hle hrest]
  simp only [readMember, expectColon_afterName, bind, Except.bind]
  cases c.read budget (m.content.text ++ rest) <;> rfl

/-- A free slot is filled with what is read. -/
theorem fill_entry {c : Codec α} (h : c.Settled depth) (name : String) (d : δ) {m : Entry}
    (hm : Grammatical m.content.value) (hle : depth ≤ budget) {rest : Bytes}
    (hrest : Delimited rest) :
    ((readMember name (c.read budget) (m.afterName ++ rest)).map
        fun (r : α × Bytes) => ((some r.1, d), r.2)).toOption =
      ((fill c none m.content.value).map fun slot => (slot, d)).map
        fun s => (s, m.content.after ++ rest) := by
  simp only [toOption_map, readMember_entry h name hm hle hrest, fill]
  cases (c.decode m.content.value).toOption <;> rfl

namespace Fields

/-- **One member is taken as its value is as a text of its own**, wherever it stands. -/
theorem put_entry (fields : Fields δ ρ) (h : fields.Settled depth) (hle : depth ≤ budget)
    (name : String) (d : δ) {m : Entry} (hm : Grammatical m.content.value) {rest : Bytes}
    (hrest : Delimited rest) : (fields.put budget name d (m.afterName ++ rest)).toOption =
      (fields.take name m.content.value d).map fun d => (d, m.content.after ++ rest) := by
  induction fields with
  | nil =>
    have hskip : skipValue (m.content.text ++ rest) = .ok (m.content.after ++ rest) := by
      rw [Padded.text, List.append_assoc, List.append_assoc]
      exact skipValue_grammatical hm m.content.before_blank
        (m.content.after_blank.delimited hrest)
    simp only [put, expectColon_afterName, hskip, bind, Except.bind, Except.map]
    rfl
  | required other codec fields ih =>
    obtain ⟨slot, d⟩ := d
    unfold put take takeSlot
    by_cases hname : name = other
    · rw [if_pos hname, if_pos hname]
      cases slot with
      | some a => rfl
      | none => exact fill_entry h.1 other d hm hle hrest
    · rw [if_neg hname, if_neg hname, toOption_map, ih h.2 d]
      cases fields.take name m.content.value d <;> rfl
  | optional other absence codec fields ih =>
    obtain ⟨slot, d⟩ := d
    unfold put take takeSlot
    by_cases hname : name = other
    · rw [if_pos hname, if_pos hname]
      cases slot with
      | some a => rfl
      | none => exact fill_entry h.1.nullable other d hm hle hrest
    · rw [if_neg hname, if_neg hname, toOption_map, ih h.2 d]
      cases fields.take name m.content.value d <;> rfl

/-! ## 2. All members -/

/-- Takes one member as it is written; its name has to be text. -/
def takeEntry (fields : Fields δ ρ) (d : δ) (m : Entry) : Option δ :=
  (spelledText m.name).bind fun name => fields.take name m.content.value d

/-- A member and then the others, from behind the quote in front of its name. -/
theorem foldMembers_entry (fields : Fields δ ρ) (h : fields.Settled depth) (hle : depth ≤ budget)
    {m : Entry} (hm : Grammatical m.content.value) {first : Bool} {d : δ} {t rest : Bytes}
    (hnext : nextMember first t = .ok (some (m.name ++ 0x22 :: (m.afterName ++ rest))))
    (hrest : Delimited rest) (b : UInt8) (fuel : Bytes) :
    (foldMembers (fields.put budget) (b :: fuel) first d t).toOption =
      (fields.takeEntry d m).bind fun d =>
        (foldMembers (fields.put budget) fuel false d (m.content.after ++ rest)).toOption := by
  have hname := readText_spelled m.name_spelled (m.afterName ++ rest)
  unfold takeEntry
  simp only [foldMembers, hnext]
  rcases cases_of_toOption hname with ⟨f, hread, htext⟩ | ⟨name, hread, htext⟩
  · simp only [hread, htext]
    rfl
  simp only [hread, htext, Option.bind_some]
  rcases cases_of_toOption (fields.put_entry h hle name d hm hrest) with ⟨f, hput, htake⟩ |
    ⟨d', hput, htake⟩
  · simp only [hput, htake]
    rfl
  · simp only [hput, htake]
    rfl

/-- **The members behind the first one are taken one after another**, and then the bracket is
    due. -/
theorem foldMembers_partsTail (fields : Fields δ ρ) (h : fields.Settled depth)
    (hle : depth ≤ budget) {ms : List Entry} (hms : ∀ m ∈ ms, Grammatical m.content.value)
    {pad : Bytes} (hpad : Blank pad) (d : δ) (fuel rest : Bytes)
    (hfuel : ms.length < fuel.length) : ∃ blanks, Blank blanks ∧
      (foldMembers (fields.put budget) fuel false d
        (pad ++ partsTail .object (ms.map Entry.text) rest)).toOption =
          (ms.foldlM fields.takeEntry d).map fun d => (d, blanks ++ 0x7D :: rest) := by
  induction ms generalizing pad d fuel with
  | nil =>
    obtain ⟨b, fuel, rfl⟩ := List.exists_cons_of_length_pos hfuel
    have hend : skipBlank (pad ++ 0x7D :: rest) = 0x7D :: rest := skipBlank_pad hpad rfl rest
    have hnext : nextMember false (pad ++ partsTail .object [] rest) = .ok none := by
      show nextMember false (pad ++ 0x7D :: rest) = .ok none
      simp only [nextMember, hend]
      rfl
    refine ⟨pad, hpad, ?_⟩
    simp only [List.map_nil, foldMembers, hnext]
    rfl
  | cons m ms ih =>
    obtain ⟨b, fuel, rfl⟩ := List.exists_cons_of_length_pos (Nat.zero_lt_of_lt hfuel)
    obtain ⟨hm, hms⟩ := List.forall_mem_cons.mp hms
    have hdelimited := delimited_partsTail .object (ms.map Entry.text) rest
    have hcomma (t : Bytes) : skipBlank (pad ++ 0x2C :: t) = 0x2C :: t := skipBlank_pad hpad rfl t
    have hquote := skipBlank_entry blank_nil m (partsTail .object (ms.map Entry.text) rest)
    rw [List.nil_append] at hquote
    have hnext : nextMember false (pad ++ partsTail .object ((m :: ms).map Entry.text) rest) =
        .ok (some (m.name ++ 0x22 :: (m.afterName ++
          partsTail .object (ms.map Entry.text) rest))) := by
      simp only [List.map_cons, partsTail_cons, nextMember, hcomma, hquote]
      rfl
    have hfold := fields.foldMembers_entry h hle hm (d := d) hnext hdelimited b fuel
    rw [hfold, List.foldlM_cons]
    cases fields.takeEntry d m with
    | none => exact ⟨[], blank_nil, rfl⟩
    | some d' => exact ih hms m.content.after_blank d' fuel (Nat.lt_of_succ_lt_succ hfuel)

end Fields

theorem length_partsTail (bracket : Bracket) (parts : List Bytes) (rest : Bytes) :
    parts.length < (partsTail bracket parts rest).length := by
  induction parts with
  | nil => exact Nat.zero_lt_succ _
  | cons part parts ih =>
    rw [partsTail_cons]
    simp only [List.length_append, List.length_cons]
    omega

/-- **An object is read as the record that its members lead to.** -/
theorem Codec.record_read_object (name : String) {fields : Fields δ ρ} (h : fields.Settled depth)
    (hle : depth ≤ budget) (make : ρ → α) (parts : α → ρ) {pad : Bytes} (hpad : Blank pad)
    {ms : List Entry} (hms : ∀ m ∈ ms, Grammatical m.content.value) (rest : Bytes) :
    ((Codec.record name fields make parts).read (budget + 1)
      (objectText pad ms ++ rest)).toOption =
        ((ms.foldlM fields.takeEntry fields.blank).bind fun d => (fields.complete d).toOption).map
          fun r => (make r, rest) := by
  -- what stands between the brackets, and what is left of it in the end
  obtain ⟨t, ht, blanks, hblanks, hfold⟩ : ∃ t, objectText pad ms ++ rest = 0x7B :: t ∧
      ∃ blanks, Blank blanks ∧
        (foldMembers (fields.put budget) t true fields.blank t).toOption =
          (ms.foldlM fields.takeEntry fields.blank).map fun d => (d, blanks ++ 0x7D :: rest) := by
    cases ms with
    | nil =>
      refine ⟨_, bracketText_nil .object pad rest, pad, hpad, ?_⟩
      have hend : skipBlank (pad ++ 0x7D :: rest) = 0x7D :: rest := skipBlank_pad hpad rfl rest
      have hnext : nextMember true (pad ++ 0x7D :: rest) = .ok none := by
        simp only [nextMember, hend]
        rfl
      show (foldMembers _ (pad ++ 0x7D :: rest) true fields.blank
        (pad ++ 0x7D :: rest)).toOption = _
      obtain ⟨b, fuel, hfuel⟩ : ∃ b fuel, pad ++ 0x7D :: rest = b :: fuel :=
        List.exists_cons_of_ne_nil (by simp)
      rw [hfuel] at hnext ⊢
      simp only [foldMembers, hnext]
      rfl
    | cons m ms =>
      obtain ⟨hm, hms⟩ := List.forall_mem_cons.mp hms
      refine ⟨_, bracketText_cons .object pad m.text (ms.map Entry.text) rest, ?_⟩
      have hdelimited := delimited_partsTail .object (ms.map Entry.text) rest
      have hnext : nextMember true
          (pad ++ (m.text ++ partsTail .object (ms.map Entry.text) rest)) =
            .ok (some (m.name ++ 0x22 :: (m.afterName ++
              partsTail .object (ms.map Entry.text) rest))) := by
        simp only [nextMember, skipBlank_entry hpad]
        rfl
      have hlength := length_partsTail .object (ms.map Entry.text) rest
      obtain ⟨b, fuel, hfuel⟩ : ∃ b fuel,
          pad ++ (m.text ++ partsTail .object (ms.map Entry.text) rest) = b :: fuel :=
        List.exists_cons_of_ne_nil (by simp [Entry.text])
      have hcount : ms.length < fuel.length := by
        have hboth := congrArg List.length hfuel
        simp only [Entry.text, List.length_append, List.length_cons, List.length_map]
          at hboth hlength
        omega
      have hfirst := fields.foldMembers_entry h hle hm (d := fields.blank) hnext hdelimited b fuel
      rw [← hfuel] at hfirst
      rw [hfirst, List.foldlM_cons]
      cases fields.takeEntry fields.blank m with
      | none => exact ⟨[], blank_nil, rfl⟩
      | some d =>
        exact fields.foldMembers_partsTail h hle hms m.content.after_blank d fuel rest hcount
  have hclose : closeObject (blanks ++ 0x7D :: rest) = .ok rest := by
    simp only [closeObject, skipBlank_append hblanks]
    rfl
  rw [ht]
  unfold Codec.record
  simp only
  rw [skipBlank_cons (by decide)]
  simp only [if_true]
  rcases cases_of_toOption hfold with ⟨f, hread, htake⟩ | ⟨d, hread, htake⟩
  · simp only [hread, htake]
    rfl
  · simp only [hread, htake, Option.bind_some, hclose]
    cases fields.complete d <;> rfl

/-! ## 3. Lists -/

/-- The elements of a list from the next one on, and the bracket. -/
def elementsText (first : Bool) (es : List Padded) (rest : Bytes) : Bytes :=
  match first, es with
  | true, e :: es => e.text ++ partsTail .list (es.map Padded.text) rest
  | _, es => partsTail .list (es.map Padded.text) rest

theorem elementsText_nil (first : Bool) (rest : Bytes) :
    elementsText first [] rest = 0x5D :: rest := by
  cases first <;> rfl

theorem elementsText_later (es : List Padded) (rest : Bytes) :
    elementsText false es rest = partsTail .list (es.map Padded.text) rest := rfl

theorem listText_append (pad : Bytes) (es : List Padded) (rest : Bytes) :
    listText pad es ++ rest = 0x5B :: (pad ++ elementsText true es rest) := by
  cases es with
  | nil => exact bracketText_nil .list pad rest
  | cons e es => exact bracketText_cons .list pad e.text (es.map Padded.text) rest

theorem nextElement_nil (first : Bool) {pad : Bytes} (hpad : Blank pad) (rest : Bytes) :
    nextElement first (pad ++ elementsText first [] rest) = .ok none := by
  rw [elementsText_nil, nextElement, skipBlank_pad hpad rfl]
  rfl

/-- The first byte of an element, which is what stands behind the blanks. -/
theorem Padded.head (e : Padded) (he : Grammatical e.value) : ∃ b v, b ≠ 0x5D ∧
    (∀ t, e.value ++ t = b :: (v ++ t)) ∧
      ∀ t, skipBlank (e.before ++ b :: (v ++ t)) = b :: (v ++ t) := by
  obtain ⟨b, v, hv, hblank, hclose⟩ := he.head
  refine ⟨b, v, hclose, fun t => ?_, fun t => ?_⟩
  · rw [hv, List.cons_append]
  · exact skipBlank_pad e.before_blank hblank _

theorem nextElement_cons (first : Bool) {pad : Bytes} (hpad : Blank pad) {e : Padded}
    (he : Grammatical e.value) (es : List Padded) (rest : Bytes) :
    nextElement first (pad ++ elementsText first (e :: es) rest) =
      .ok (some (e.value ++ (e.after ++ partsTail .list (es.map Padded.text) rest))) := by
  obtain ⟨b, v, hclose, hvalue, hskip⟩ := e.head he
  cases first with
  | true =>
    simp only [elementsText, nextElement, skipBlank_append hpad, Padded.text, List.append_assoc,
      List.cons_append, hvalue, hskip, if_neg hclose, if_true]
  | false =>
    have hcomma (t : Bytes) : skipBlank (pad ++ 0x2C :: t) = 0x2C :: t := skipBlank_pad hpad rfl t
    simp only [elementsText_later, List.map_cons, partsTail_cons, Padded.text, List.append_assoc,
      List.cons_append, nextElement, hcomma, hvalue, hskip, if_neg hclose]
    rfl

/-- Where elements are left, the bracket is not due. -/
theorem closeList_cons (first : Bool) {pad : Bytes} (hpad : Blank pad) {e : Padded}
    (he : Grammatical e.value) (es : List Padded) (rest : Bytes) :
    (closeList (pad ++ elementsText first (e :: es) rest)).toOption = none := by
  obtain ⟨b, v, hclose, hvalue, hskip⟩ := e.head he
  cases first with
  | true =>
    simp only [elementsText, closeList, skipBlank_append hpad, Padded.text, List.append_assoc,
      List.cons_append, hvalue, hskip, if_neg hclose]
    rfl
  | false =>
    have hcomma (t : Bytes) : skipBlank (pad ++ 0x2C :: t) = 0x2C :: t := skipBlank_pad hpad rfl t
    simp only [elementsText_later, List.map_cons, partsTail_cons, closeList, hcomma]
    rfl

/-- Closes the list that a record was read from. -/
def closed (r : Except Fault (ρ × Bytes)) : Except Fault (ρ × Bytes) :=
  match r with
  | .error f => .error f
  | .ok (a, t) => (closeList t).map fun rest => (a, rest)

theorem closed_map {σ : Type} (f : ρ → σ) (r : Except Fault (ρ × Bytes)) :
    closed (r.map fun (a, t) => (f a, t)) = (closed r).map fun (a, t) => (f a, t) := by
  cases r with
  | error e => rfl
  | ok r =>
    simp only [closed, Except.map]
    cases closeList r.2 <;> rfl

namespace Fields

/-- The record that the values of a list make. -/
def elements : {δ ρ : Type} → Fields δ ρ → List Bytes → Option ρ
  | _, _, nil, [] => some ()
  | _, _, nil, _ :: _ => none
  | _, _, required _ _ _, [] => none
  | _, _, required _ codec rest, v :: vs =>
    (codec.decode v).toOption.bind fun a => (rest.elements vs).map fun r => (a, r)
  | _, _, optional _ _ _ rest, [] => (rest.elements []).map fun r => (none, r)
  | _, _, optional _ _ codec rest, v :: vs =>
    (codec.nullable.decode v).toOption.bind fun a => (rest.elements vs).map fun r => (a, r)

/-- **The elements of a list are read as texts of their own**, and all of them have to be
    members. -/
theorem readElements_closed (fields : Fields δ ρ) (h : fields.Settled depth) (hle : depth ≤ budget)
    (record : String) (total index : Nat) {pad : Bytes} (hpad : Blank pad) {es : List Padded}
    (hes : ∀ e ∈ es, Grammatical e.value) (rest : Bytes) :
    (closed (fields.readElements record total budget index
      (pad ++ elementsText (index == 0) es rest))).toOption =
        (fields.elements (es.map Padded.value)).map fun r => (r, rest) := by
  induction fields generalizing index pad es with
  | nil =>
    cases es with
    | nil =>
      rw [elementsText_nil]
      simp only [readElements, closed, closeList, skipBlank_append hpad]
      rfl
    | cons e es =>
      have hleft := closeList_cons (index == 0) hpad (hes e List.mem_cons_self) es rest
      simp only [readElements, closed, toOption_map, hleft]
      rfl
  | required name codec fields ih =>
    cases es with
    | nil =>
      simp only [readElements, nextElement_nil _ hpad]
      rfl
    | cons e es =>
      obtain ⟨he, hes⟩ := List.forall_mem_cons.mp hes
      have htail := delimited_partsTail .list (es.map Padded.text) rest
      have hread := h.1.read_eq he hle (e.after_blank.delimited htail)
      simp only [readElements, nextElement_cons _ hpad he, List.map_cons, elements]
      rcases cases_of_toOption hread with ⟨f, hvalue, ha⟩ | ⟨a, hvalue, ha⟩
      · simp only [hvalue, ha]
        rfl
      · have hnext := ih h.2 (index + 1) e.after_blank hes
        simp only [hvalue, ha, Option.bind_some, closed_map, toOption_map]
        refine (congrArg _ hnext).trans ?_
        cases fields.elements (es.map Padded.value) <;> rfl
  | optional name absence codec fields ih =>
    cases es with
    | nil =>
      have hnone := nextElement_nil (index == 0) hpad rest
      have hnext := ih h.2 (index + 1) hpad hes
      rw [elementsText_nil] at hnone hnext ⊢
      simp only [readElements, hnone, closed_map, toOption_map]
      refine (congrArg _ hnext).trans ?_
      simp only [List.map_nil, elements]
      cases fields.elements [] <;> rfl
    | cons e es =>
      obtain ⟨he, hes⟩ := List.forall_mem_cons.mp hes
      have htail := delimited_partsTail .list (es.map Padded.text) rest
      have hread := h.1.nullable.read_eq he hle (e.after_blank.delimited htail)
      simp only [readElements, nextElement_cons _ hpad he, List.map_cons, elements]
      rcases cases_of_toOption hread with ⟨f, hvalue, ha⟩ | ⟨a, hvalue, ha⟩
      · simp only [show readOptional codec budget _ = _ from hvalue, ha]
        rfl
      · have hnext := ih h.2 (index + 1) e.after_blank hes
        simp only [show readOptional codec budget _ = _ from hvalue, ha, Option.bind_some,
          closed_map, toOption_map]
        refine (congrArg _ hnext).trans ?_
        cases fields.elements (es.map Padded.value) <;> rfl

end Fields

/-- **A list is read as the record that its elements make.** -/
theorem Codec.record_read_list (name : String) {fields : Fields δ ρ} (h : fields.Settled depth)
    (hle : depth ≤ budget) (make : ρ → α) (parts : α → ρ) {pad : Bytes} (hpad : Blank pad)
    {es : List Padded} (hes : ∀ e ∈ es, Grammatical e.value) (rest : Bytes) :
    ((Codec.record name fields make parts).read (budget + 1) (listText pad es ++ rest)).toOption =
      (fields.elements (es.map Padded.value)).map fun r => (make r, rest) := by
  have hopen (t : Bytes) : (Codec.record name fields make parts).read (budget + 1) (0x5B :: t) =
      (closed (fields.readElements name fields.size budget 0 t)).map
        fun (r, rest) => (make r, rest) := by
    have hblank : skipBlank (0x5B :: t) = 0x5B :: t := skipBlank_cons (by decide) t
    have hobject : (0x5B : UInt8) ≠ 0x7B := by decide
    simp only [Codec.record, hblank, if_neg hobject, if_true, closed]
    cases fields.readElements name fields.size budget 0 t with
    | error f => rfl
    | ok r =>
      show (closeList r.2).map (fun rest => (make r.1, rest)) =
        ((closeList r.2).map fun rest => (r.1, rest)).map fun x => (make x.1, x.2)
      cases closeList r.2 <;> rfl
  have hread := fields.readElements_closed h hle name fields.size 0 hpad hes rest
  rw [listText_append, hopen, toOption_map]
  refine (congrArg _ hread).trans ?_
  cases fields.elements (es.map Padded.value) <;> rfl

/-- There are fewer elements in a list than bytes. -/
theorem length_elementsText (first : Bool) {es : List Padded}
    (hes : ∀ e ∈ es, Grammatical e.value) (rest : Bytes) :
    es.length < (elementsText first es rest).length := by
  cases es with
  | nil =>
    rw [elementsText_nil]
    exact Nat.zero_lt_succ _
  | cons e es =>
    have htail := length_partsTail .list (es.map Padded.text) rest
    have hall := length_partsTail .list ((e :: es).map Padded.text) rest
    obtain ⟨b, v, hv, -⟩ := (hes e List.mem_cons_self).head
    simp only [List.length_map, List.length_cons] at htail hall
    cases first with
    | true =>
      simp only [elementsText, Padded.text, hv, List.length_append, List.length_cons]
      omega
    | false => exact hall

/-- **The elements of a list are read as texts of their own**, one after another. -/
theorem readElements_padded {c : Codec α} (h : c.Settled depth) (hle : depth ≤ budget)
    {es : List Padded} (hes : ∀ e ∈ es, Grammatical e.value) {pad : Bytes} (hpad : Blank pad)
    (acc : List α) (fuel rest : Bytes) (hfuel : es.length < fuel.length) :
    (readElements (c.read budget) fuel acc (pad ++ elementsText acc.isEmpty es rest)).toOption =
      ((es.map Padded.value).mapM fun v => (c.decode v).toOption).map fun as =>
        (acc.reverse ++ as, rest) := by
  induction es generalizing pad acc fuel with
  | nil =>
    obtain ⟨b, fuel, rfl⟩ := List.exists_cons_of_length_pos hfuel
    have hclose : closeList (pad ++ elementsText acc.isEmpty [] rest) = .ok rest := by
      rw [elementsText_nil, closeList, skipBlank_pad hpad rfl]
      rfl
    simp only [readElements, nextElement_nil _ hpad, hclose, List.map_nil, List.mapM_nil]
    exact congrArg (fun as => some (as, rest)) (List.append_nil _).symm
  | cons e es ih =>
    obtain ⟨b, fuel, rfl⟩ := List.exists_cons_of_length_pos (Nat.zero_lt_of_lt hfuel)
    obtain ⟨he, hes⟩ := List.forall_mem_cons.mp hes
    have htail := delimited_partsTail .list (es.map Padded.text) rest
    have hread := h.read_eq he hle (e.after_blank.delimited htail)
    simp only [readElements, nextElement_cons _ hpad he, List.map_cons, List.mapM_cons]
    rcases cases_of_toOption hread with ⟨f, hvalue, ha⟩ | ⟨a, hvalue, ha⟩
    · simp only [hvalue, ha]
      rfl
    · have hnext := ih hes e.after_blank (a :: acc) fuel (Nat.lt_of_succ_lt_succ hfuel)
      simp only [hvalue, ha]
      refine hnext.trans ?_
      simp only [List.reverse_cons, List.append_assoc, List.singleton_append]
      cases (es.map Padded.value).mapM fun v => (c.decode v).toOption <;> rfl

/-- What starts with no bracket is no list. -/
theorem Codec.list_read_other (c : Codec α) {b : UInt8} (hblank : isJsonBlank b = false)
    (hlist : b ≠ 0x5B) (budget : Nat) (t : Bytes) :
    (c.list.read budget (b :: t)).toOption = none := by
  simp only [Codec.list, skipBlank_cons hblank, if_neg hlist]
  rfl

/-- **What is read of a list is settled by the value**, if what is read of its elements is. -/
theorem Codec.Settled.list {c : Codec α} (h : c.Settled depth)
    (hdepth : depth + 1 ≤ Codec.nesting) : c.list.Settled (depth + 1) where
  shallow := hdepth
  blank budget t := by
    simp only [Codec.list, skipBlank_skipBlank]
  value {v} hv := by
    cases hv with
    | @list pad hpad es hes =>
      refine ⟨(es.map Padded.value).mapM fun v => (c.decode v).toOption,
        fun {budget rest} hle _ => ?_⟩
      -- the bracket of the list takes one from the budget
      obtain ⟨budget, rfl⟩ : ∃ n, budget = n + 1 := ⟨budget - 1, by omega⟩
      have hlength := length_elementsText true hes rest
      have hread := readElements_padded h (Nat.le_of_succ_le_succ hle) hes hpad []
        (pad ++ elementsText true es rest) rest (by rw [List.length_append]; omega)
      rw [listText_append]
      simp only [Codec.list, skipBlank_cons (by decide : isJsonBlank 0x5B = false), if_true]
      exact hread
    | null => exact ⟨none, fun _ _ => c.list_read_other rfl (by decide) _ _⟩
    | yes => exact ⟨none, fun _ _ => c.list_read_other rfl (by decide) _ _⟩
    | no => exact ⟨none, fun _ _ => c.list_read_other rfl (by decide) _ _⟩
    | text h => exact ⟨none, fun _ _ => c.list_read_other rfl (by decide) _ _⟩
    | negative h => exact ⟨none, fun _ _ => c.list_read_other rfl (by decide) _ _⟩
    | object hpad ms h => exact ⟨none, fun _ _ => c.list_read_other rfl (by decide) _ _⟩
    | positive h =>
      obtain ⟨b, t, rfl, hb⟩ := h.head
      exact ⟨none, fun _ _ =>
        c.list_read_other (digit_not_special hb).1 (ne_of_isDigit hb rfl) _ _⟩

/-- What starts with no bracket is no record. -/
theorem Codec.record_read_other (name : String) (fields : Fields δ ρ) (make : ρ → α)
    (parts : α → ρ) {b : UInt8} (hblank : isJsonBlank b = false) (hobject : b ≠ 0x7B)
    (hlist : b ≠ 0x5B) (budget : Nat) (t : Bytes) :
    ((Codec.record name fields make parts).read budget (b :: t)).toOption = none := by
  unfold Codec.record
  simp only [skipBlank_cons hblank, if_neg hobject, if_neg hlist]
  rfl

/-- **What is read of a record is settled by the value**, if what is read of its members is. -/
theorem Codec.Settled.record (name : String) {fields : Fields δ ρ} (h : fields.Settled depth)
    (hdepth : depth + 1 ≤ Codec.nesting) (make : ρ → α) (parts : α → ρ) :
    (Codec.record name fields make parts).Settled (depth + 1) where
  shallow := hdepth
  blank budget t := by
    unfold Codec.record
    simp only [skipBlank_skipBlank]
  value {v} hv := by
    -- the bracket of the record takes one from the budget
    have hbudget {budget : Nat} (hle : depth + 1 ≤ budget) : ∃ n, budget = n + 1 ∧ depth ≤ n :=
      ⟨budget - 1, by omega, by omega⟩
    cases hv with
    | object hpad ms hms =>
      refine ⟨((ms.foldlM fields.takeEntry fields.blank).bind fun d =>
        (fields.complete d).toOption).map make, fun {budget rest} hle _ => ?_⟩
      obtain ⟨n, rfl, hn⟩ := hbudget hle
      rw [Codec.record_read_object name h hn make parts hpad hms rest, Option.map_map]
      rfl
    | list hpad es hes =>
      refine ⟨(fields.elements (es.map Padded.value)).map make, fun {budget rest} hle _ => ?_⟩
      obtain ⟨n, rfl, hn⟩ := hbudget hle
      rw [Codec.record_read_list name h hn make parts hpad hes rest, Option.map_map]
      rfl
    | null =>
      exact ⟨none, fun _ _ => Codec.record_read_other _ _ _ _ rfl (by decide) (by decide) _ _⟩
    | yes =>
      exact ⟨none, fun _ _ => Codec.record_read_other _ _ _ _ rfl (by decide) (by decide) _ _⟩
    | no =>
      exact ⟨none, fun _ _ => Codec.record_read_other _ _ _ _ rfl (by decide) (by decide) _ _⟩
    | text h =>
      exact ⟨none, fun _ _ => Codec.record_read_other _ _ _ _ rfl (by decide) (by decide) _ _⟩
    | negative h =>
      exact ⟨none, fun _ _ => Codec.record_read_other _ _ _ _ rfl (by decide) (by decide) _ _⟩
    | positive h =>
      obtain ⟨b, t, rfl, hb⟩ := h.head
      exact ⟨none, fun _ _ => Codec.record_read_other _ _ _ _ (digit_not_special hb).1
        (ne_of_isDigit hb rfl) (ne_of_isDigit hb rfl) _ _⟩

end

/-! ## 4. The values under a name -/

/-- The values under a name, in their order. -/
def valuesOf (name : String) (ps : List (String × Bytes)) : List Bytes :=
  (ps.filter fun p => p.1 = name).map Prod.snd

theorem valuesOf_cons_self (name : String) (v : Bytes) (ps : List (String × Bytes)) :
    valuesOf name ((name, v) :: ps) = v :: valuesOf name ps := by
  simp [valuesOf]

theorem valuesOf_cons_ne {name key : String} (h : key ≠ name) (v : Bytes)
    (ps : List (String × Bytes)) : valuesOf name ((key, v) :: ps) = valuesOf name ps := by
  simp [valuesOf, h]

section

variable {α δ : Type} {c : Codec α}

/-- A full slot stays what it is if nothing else is put into it. -/
theorem foldlM_fill_some (a : α) (slot : Option α) (vs : List Bytes) :
    vs.foldlM (fill c) (some a) = some slot ↔ vs = [] ∧ slot = some a := by
  cases vs with
  | nil =>
    rw [List.foldlM_nil]
    constructor
    · rintro ⟨⟩
      exact ⟨rfl, rfl⟩
    · rintro ⟨-, rfl⟩
      rfl
  | cons v vs =>
    rw [List.foldlM_cons]
    exact ⟨nofun, fun h => nomatch h.1⟩

/-- **A slot is filled by one value**, and stays free without any. -/
theorem foldlM_fill_none (slot : Option α) (vs : List Bytes) :
    vs.foldlM (fill c) none = some slot ↔
      (vs = [] ∧ slot = none) ∨ ∃ v a, vs = [v] ∧ c.decode v = .ok a ∧ slot = some a := by
  cases vs with
  | nil =>
    rw [List.foldlM_nil]
    constructor
    · rintro ⟨⟩
      exact .inl ⟨rfl, rfl⟩
    · rintro (⟨-, rfl⟩ | ⟨v, a, h, -⟩)
      · rfl
      · cases h
  | cons v vs =>
    rw [List.foldlM_cons, fill]
    cases hv : c.decode v with
    | error f =>
      refine ⟨nofun, ?_⟩
      rintro (⟨h, -⟩ | ⟨w, a, h, hw, -⟩)
      · cases h
      · cases h
        rw [hv] at hw
        cases hw
    | ok a =>
      refine (foldlM_fill_some a slot vs).trans ⟨?_, ?_⟩
      · rintro ⟨rfl, rfl⟩
        exact .inr ⟨v, a, rfl, hv, rfl⟩
      · rintro (⟨h, -⟩ | ⟨w, b, h, hw, rfl⟩)
        · cases h
        · cases h
          rw [hv] at hw
          cases hw
          exact ⟨rfl, rfl⟩

/-- **The members of one name fill its slot, and all others go where they go without it.** -/
theorem foldlM_takeSlot (name : String) (c : Codec α) {other : String → Bytes → δ → Option δ}
    (hother : ∀ v d, other name v d = some d) (ps : List (String × Bytes)) (slot : Option α)
    (d : δ) : ps.foldlM (fun s p => takeSlot name c (other p.1 p.2) p.1 p.2 s) (slot, d) =
      ((valuesOf name ps).foldlM (fill c) slot).bind fun slot =>
        (ps.foldlM (fun d p => other p.1 p.2 d) d).map fun d => (slot, d) := by
  induction ps generalizing slot d with
  | nil => rfl
  | cons p ps ih =>
    obtain ⟨key, v⟩ := p
    by_cases hkey : key = name
    · subst hkey
      rw [valuesOf_cons_self, List.foldlM_cons, List.foldlM_cons, List.foldlM_cons]
      simp only [takeSlot, if_true, hother]
      cases fill c slot v with
      | none => rfl
      | some slot' => exact ih slot' d
    · rw [valuesOf_cons_ne hkey, List.foldlM_cons, List.foldlM_cons]
      simp only [takeSlot, if_neg hkey]
      cases other key v d with
      | none => cases (valuesOf name ps).foldlM (fill c) slot <;> rfl
      | some d' => exact ih slot d'

end

/-! ## 5. The members of a record -/

namespace Fields

section

variable {δ ρ : Type}

/-- All members, one after another. -/
def takeAll (fields : Fields δ ρ) (ps : List (String × Bytes)) (d : δ) : Option δ :=
  ps.foldlM (fun d p => fields.take p.1 p.2 d) d

theorem take_unknown (fields : Fields δ ρ) {key : String} (h : key ∉ fields.names) (v : Bytes)
    (d : δ) : fields.take key v d = some d := by
  induction fields with
  | nil => rfl
  | required name codec rest ih =>
    have hname : key ≠ name := List.ne_of_not_mem_cons h
    simp only [take, takeSlot, if_neg hname, ih (List.not_mem_of_not_mem_cons h)]
    rfl
  | optional name absence codec rest ih =>
    have hname : key ≠ name := List.ne_of_not_mem_cons h
    simp only [take, takeSlot, if_neg hname, ih (List.not_mem_of_not_mem_cons h)]
    rfl

/-- **What the members of an object have to be**: every mandatory member stands there once, every
    optional one at most once, and they hold the values of the record. -/
def Reads : {δ ρ : Type} → Fields δ ρ → List (String × Bytes) → ρ → Prop
  | _, _, nil, _, _ => True
  | _, _, required name codec rest, ps, (a, r) =>
    (∃ v, valuesOf name ps = [v] ∧ codec.decode v = .ok a) ∧ rest.Reads ps r
  | _, _, optional name _ codec rest, ps, (a, r) =>
    (valuesOf name ps = [] ∧ a = none ∨
      ∃ v, valuesOf name ps = [v] ∧ codec.nullable.decode v = .ok a) ∧ rest.Reads ps r

theorem complete_required_iff {α : Type} (name : String) (codec : Codec α) (rest : Fields δ ρ)
    (slot : Option α) (d : δ) (a : α) (r : ρ) :
    ((required name codec rest).complete (slot, d)).toOption = some (a, r) ↔
      slot = some a ∧ (rest.complete d).toOption = some r := by
  cases slot with
  | none => exact ⟨nofun, nofun⟩
  | some b =>
    simp only [complete, toOption_map]
    cases (rest.complete d).toOption <;> simp

theorem complete_optional_iff {α : Type} (name : String) (absence : Absence) (codec : Codec α)
    (rest : Fields δ ρ) (slot : Option (Option α)) (d : δ) (a : Option α) (r : ρ) :
    ((optional name absence codec rest).complete (slot, d)).toOption = some (a, r) ↔
      slot.join = a ∧ (rest.complete d).toOption = some r := by
  simp only [complete, toOption_map]
  cases (rest.complete d).toOption <;> simp

/-- The slot of the first declared member, and the draft of the others. -/
theorem bind_pair_eq_some_iff {σ τ χ : Type} {s : Option σ} {d : Option τ} {g : σ × τ → Option χ}
    {x : χ} : ((s.bind fun slot => d.map fun d => (slot, d)).bind g) = some x ↔
      ∃ slot d', s = some slot ∧ d = some d' ∧ g (slot, d') = some x := by
  cases s <;> cases d <;> simp

/-- **Such members lead to the record, and no others do.** -/
theorem takeAll_iff (fields : Fields δ ρ) (hnames : fields.names.Nodup)
    (ps : List (String × Bytes)) (r : ρ) :
    ((fields.takeAll ps fields.blank).bind fun d => (fields.complete d).toOption) = some r ↔
      fields.Reads ps r := by
  induction fields with
  | nil =>
    have hall : nil.takeAll ps () = some () := by
      induction ps with
      | nil => rfl
      | cons p ps ih => exact ih
    refine ⟨fun _ => trivial, fun _ => ?_⟩
    show ((nil.takeAll ps ()).bind fun d => (nil.complete d).toOption) = some r
    rw [hall]
    rfl
  | required name codec rest ih =>
    obtain ⟨a, r⟩ := r
    obtain ⟨hname, hrest⟩ := List.nodup_cons.mp hnames
    have hsplit : (required name codec rest).takeAll ps (none, rest.blank) = _ :=
      foldlM_takeSlot name codec (fun v d => rest.take_unknown hname v d) ps none rest.blank
    have hothers := (ih hrest r).symm.trans Option.bind_eq_some_iff
    show ((required name codec rest).takeAll ps (none, rest.blank)).bind _ = _ ↔ _
    rw [hsplit]
    refine bind_pair_eq_some_iff.trans ⟨?_, ?_⟩
    · rintro ⟨slot, d, hslot, hd, hcomplete⟩
      obtain ⟨rfl, hr⟩ := (complete_required_iff name codec rest slot d a r).mp hcomplete
      rcases (foldlM_fill_none _ _).mp hslot with ⟨-, h⟩ | ⟨v, b, hv, hb, h⟩
      · cases h
      · cases h
        exact ⟨⟨v, hv, hb⟩, hothers.mpr ⟨d, hd, hr⟩⟩
    · rintro ⟨⟨v, hv, ha⟩, hreads⟩
      obtain ⟨d, hd, hr⟩ := hothers.mp hreads
      exact ⟨some a, d, (foldlM_fill_none _ _).mpr (.inr ⟨v, a, hv, ha, rfl⟩), hd,
        (complete_required_iff name codec rest _ d a r).mpr ⟨rfl, hr⟩⟩
  | optional name absence codec rest ih =>
    obtain ⟨a, r⟩ := r
    obtain ⟨hname, hrest⟩ := List.nodup_cons.mp hnames
    have hsplit : (optional name absence codec rest).takeAll ps (none, rest.blank) = _ :=
      foldlM_takeSlot name codec.nullable (fun v d => rest.take_unknown hname v d) ps none
        rest.blank
    have hothers := (ih hrest r).symm.trans Option.bind_eq_some_iff
    show ((optional name absence codec rest).takeAll ps (none, rest.blank)).bind _ = _ ↔ _
    rw [hsplit]
    refine bind_pair_eq_some_iff.trans ⟨?_, ?_⟩
    · rintro ⟨slot, d, hslot, hd, hcomplete⟩
      obtain ⟨rfl, hr⟩ := (complete_optional_iff name absence codec rest slot d a r).mp hcomplete
      rcases (foldlM_fill_none _ _).mp hslot with ⟨hv, rfl⟩ | ⟨v, b, hv, hb, rfl⟩
      · exact ⟨.inl ⟨hv, rfl⟩, hothers.mpr ⟨d, hd, hr⟩⟩
      · exact ⟨.inr ⟨v, hv, hb⟩, hothers.mpr ⟨d, hd, hr⟩⟩
    · rintro ⟨hvalue, hreads⟩
      obtain ⟨d, hd, hr⟩ := hothers.mp hreads
      rcases hvalue with ⟨hv, rfl⟩ | ⟨v, hv, ha⟩
      · exact ⟨none, d, (foldlM_fill_none _ _).mpr (.inl ⟨hv, rfl⟩), hd,
          (complete_optional_iff name absence codec rest _ d none r).mpr ⟨rfl, hr⟩⟩
      · exact ⟨some a, d, (foldlM_fill_none _ _).mpr (.inr ⟨v, a, hv, ha, rfl⟩), hd,
          (complete_optional_iff name absence codec rest _ d a r).mpr ⟨rfl, hr⟩⟩

end

end Fields

/-! ## 6. Whole texts -/

/-- A member: its name is the text that its spelling stands for, its value any that is grammatical.
    Half of a surrogate pair spells no text, and so no name. -/
structure Member where
  entry : Entry
  name : String
  spells : spelledText entry.name = some name
  grammatical : Grammatical entry.content.value

namespace Member

/-- The name and the value. -/
def pair (m : Member) : String × Bytes := (m.name, m.entry.content.value)

end Member

/-- An object that is a text of its own, with blanks around it. -/
structure ObjectText where
  lead : Bytes
  pad : Bytes
  members : List Member
  trail : Bytes
  lead_blank : Blank lead
  pad_blank : Blank pad
  trail_blank : Blank trail

namespace ObjectText

/-- The text. -/
def text (o : ObjectText) : Bytes :=
  o.lead ++ (objectText o.pad (o.members.map Member.entry) ++ o.trail)

/-- The members' names and values, in their order. -/
def pairs (o : ObjectText) : List (String × Bytes) := o.members.map Member.pair

theorem grammatical_values (o : ObjectText) :
    ∀ p ∈ o.pairs, Grammatical p.2 := by
  intro p hp
  obtain ⟨m, -, rfl⟩ := List.mem_map.mp hp
  exact m.grammatical

end ObjectText

theorem mem_of_mem_valuesOf {name : String} {ps : List (String × Bytes)} {v : Bytes}
    (h : v ∈ valuesOf name ps) : (name, v) ∈ ps := by
  obtain ⟨p, hp, rfl⟩ := List.mem_map.mp h
  obtain ⟨hmem, hname⟩ := List.mem_filter.mp hp
  obtain rfl : p.1 = name := of_decide_eq_true hname
  exact hmem

section

variable {α δ ρ : Type} {depth : Nat}

theorem foldlM_takeEntry (fields : Fields δ ρ) (ms : List Member) (d : δ) :
    (ms.map Member.entry).foldlM fields.takeEntry d = fields.takeAll (ms.map Member.pair) d := by
  induction ms generalizing d with
  | nil => rfl
  | cons m ms ih =>
    show (fields.takeEntry d m.entry).bind _ = (fields.take m.name m.entry.content.value d).bind _
    rw [Fields.takeEntry, m.spells, Option.bind_some]
    cases fields.take m.name m.entry.content.value d with
    | none => rfl
    | some d' => exact ih d'

/-- **A text holds a record exactly if its members are those of the record.** -/
theorem record_decode_iff (name : String) {fields : Fields δ ρ} (h : fields.Settled depth)
    (hdepth : depth + 1 ≤ Codec.nesting) (hnames : fields.names.Nodup) (make : ρ → α)
    (parts : α → ρ) (o : ObjectText) (a : α) :
    (Codec.record name fields make parts).decode o.text = .ok a ↔
      ∃ r, fields.Reads o.pairs r ∧ make r = a := by
  have hgram : ∀ m ∈ o.members.map Member.entry, Grammatical m.content.value := by
    intro m hm
    obtain ⟨m', -, rfl⟩ := List.mem_map.mp hm
    exact m'.grammatical
  obtain ⟨n, hn⟩ : ∃ n, Codec.nesting = n + 1 := ⟨126, rfl⟩
  have hle : depth ≤ n := by omega
  have hsettled := Codec.Settled.record name h hdepth make parts
  have hread := Codec.record_read_object name h hle make parts o.pad_blank hgram o.trail
  rw [foldlM_takeEntry, ← hn, ← hsettled.blank, ← skipBlank_append o.lead_blank,
    hsettled.blank] at hread
  have hdecode := decode_toOption (o := (((fields.takeAll o.pairs fields.blank).bind fun d =>
    (fields.complete d).toOption).map make)) o.trail_blank
      (hread.trans (by rw [Option.map_map]; rfl))
  rw [← toOption_eq_some_iff]
  refine (congrArg (· = some a) hdecode).to_iff.trans ?_
  rw [Option.map_eq_some_iff]
  constructor
  · rintro ⟨r, hr, rfl⟩
    exact ⟨r, (fields.takeAll_iff hnames o.pairs r).mp hr, rfl⟩
  · rintro ⟨r, hr, rfl⟩
    exact ⟨r, (fields.takeAll_iff hnames o.pairs r).mpr hr, rfl⟩

end

end Catalogue.Json
