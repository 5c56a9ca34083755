import Catalogue.Proofs.Json.Written

/-!
# Optional members

An optional member of a record is absent, or it is there and has a value. Absent is not the same as
empty, and there are two ways to write it: not at all, or as `null`. A reader takes both alike.

* `Fields.Declares` -- which optional members are declared, and where their values are found;
* `Fields.valuesOf_write` -- what a record writes under the name of such a member;
* `Fields.Reads.optional`, `Fields.reads_null_iff` -- what is read of it, and that `null` is as good
  as nothing;
* `Codec.HasOptional` -- the same for whole texts, `Codec.hasOptional_record` -- it is true of the
  declared members of every record.
-/

namespace Catalogue.Json

/-! ## 1. Declared members -/

/-- What stands under the name of an optional member: its value, or what absence is written as. -/
def optionalValues {α : Type} (absence : Absence) (codec : Codec α) : Option α → List Bytes
  | some a => [codec.encode a]
  | none =>
    match absence with
    | .null => [writeNull]
    | .omitted => []

namespace Fields

/-- **The optional members of a record**: the name, how absence is written, the codec of the values,
    and which part of the record they are. -/
inductive Declares {β : Type} (name : String) (absence : Absence) (item : Codec β) :
    {δ ρ : Type} → Fields δ ρ → (ρ → Option β) → Prop where
  | here {δ ρ : Type} (rest : Fields δ ρ) :
      Declares name absence item (optional name absence item rest) Prod.fst
  | pastRequired {δ ρ α : Type} (other : String) (codec : Codec α) {rest : Fields δ ρ}
      {get : ρ → Option β} (h : Declares name absence item rest get) :
      Declares name absence item (required other codec rest) fun r => get r.2
  | pastOptional {δ ρ α : Type} (other : String) (absence' : Absence) (codec : Codec α)
      {rest : Fields δ ρ} {get : ρ → Option β} (h : Declares name absence item rest get) :
      Declares name absence item (optional other absence' codec rest) fun r => get r.2

section

variable {β δ ρ : Type} {name : String} {absence : Absence} {item : Codec β}
  {fields : Fields δ ρ} {get : ρ → Option β}

theorem Declares.mem_names (h : fields.Declares name absence item get) : name ∈ fields.names := by
  induction h with
  | here rest => exact List.mem_cons_self
  | pastRequired other codec h ih => exact List.mem_cons_of_mem _ ih
  | pastOptional other absence' codec h ih => exact List.mem_cons_of_mem _ ih

/-! ## 2. Writing -/

/-- A record writes nothing under the names of others. -/
theorem valuesOf_write_eq_nil (fields : Fields δ ρ) (r : ρ) (h : name ∉ fields.names) :
    valuesOf name (fields.write r) = [] := by
  refine List.map_eq_nil_iff.mpr (List.filter_eq_nil_iff.mpr fun p hp hname => ?_)
  obtain rfl : p.1 = name := of_decide_eq_true hname
  exact h (fields.name_mem_of_mem_write r hp)

/-- **What a record writes under the name of an optional member.** -/
theorem valuesOf_write (h : fields.Declares name absence item get) (hnames : fields.names.Nodup)
    (r : ρ) : valuesOf name (fields.write r) = optionalValues absence item (get r) := by
  induction h with
  | here rest =>
    obtain ⟨a, r⟩ := r
    have hrest := rest.valuesOf_write_eq_nil r (List.nodup_cons.mp hnames).1
    cases a with
    | some a =>
      rw [write, valuesOf_cons_self, hrest]
      rfl
    | none =>
      cases absence with
      | null =>
        rw [write, valuesOf_cons_self, hrest]
        rfl
      | omitted => exact hrest
  | pastRequired other codec h ih =>
    obtain ⟨hother, hnames⟩ := List.nodup_cons.mp hnames
    have hne : other ≠ name := fun e => hother (e ▸ h.mem_names)
    rw [write, valuesOf_cons_ne hne, ih hnames]
  | pastOptional other absence' codec h ih =>
    obtain ⟨a, r⟩ := r
    obtain ⟨hother, hnames⟩ := List.nodup_cons.mp hnames
    have hne : other ≠ name := fun e => hother (e ▸ h.mem_names)
    have hrest := ih hnames r
    unfold write
    split
    · rw [valuesOf_cons_ne hne, hrest]
    · rw [valuesOf_cons_ne hne, hrest]
    · exact hrest

/-! ## 3. Reading -/

/-- Only what stands under the declared names plays a part. -/
theorem reads_congr (fields : Fields δ ρ) {ps qs : List (String × Bytes)}
    (h : ∀ name ∈ fields.names, valuesOf name ps = valuesOf name qs) (r : ρ) :
    fields.Reads ps r ↔ fields.Reads qs r := by
  induction fields with
  | nil => exact Iff.rfl
  | required other codec rest ih =>
    obtain ⟨a, r⟩ := r
    obtain ⟨hother, hrest⟩ := List.forall_mem_cons.mp h
    rw [Reads, Reads, hother, ih hrest]
  | optional other absence codec rest ih =>
    obtain ⟨a, r⟩ := r
    obtain ⟨hother, hrest⟩ := List.forall_mem_cons.mp h
    rw [Reads, Reads, hother, ih hrest]

/-- An optional member is absent, or it is read from its value. -/
theorem Reads.optional (h : fields.Declares name absence item get) {ps : List (String × Bytes)}
    {r : ρ} (hreads : fields.Reads ps r) : valuesOf name ps = [] ∧ get r = none ∨
      ∃ v, valuesOf name ps = [v] ∧ item.nullable.decode v = .ok (get r) := by
  induction h with
  | here rest => exact hreads.1
  | pastRequired other codec h ih => exact ih hreads.2
  | pastOptional other absence' codec h ih => exact ih hreads.2

/-- **A member that is `null` is as good as one that is not there.** -/
theorem reads_null_iff (h : fields.Declares name absence item get) (hnames : fields.names.Nodup)
    {ps qs : List (String × Bytes)} (hnull : valuesOf name ps = [writeNull])
    (hnone : valuesOf name qs = [])
    (hothers : ∀ other, other ≠ name → valuesOf other ps = valuesOf other qs) (r : ρ) :
    fields.Reads ps r ↔ fields.Reads qs r := by
  induction h with
  | here rest =>
    obtain ⟨a, r⟩ := r
    have hname := (List.nodup_cons.mp hnames).1
    have hrest := rest.reads_congr (fun other h => hothers other fun e => hname (e ▸ h)) r
    have habsent : item.nullable.decode writeNull = .ok a ↔ a = none := by
      rw [nullable_decode_iff .null]
      simp
    rw [Reads, Reads, hnull, hnone, hrest]
    simp [habsent]
  | pastRequired other codec h ih =>
    obtain ⟨a, r⟩ := r
    obtain ⟨hother, hnames⟩ := List.nodup_cons.mp hnames
    have hne : other ≠ name := fun e => hother (e ▸ h.mem_names)
    rw [Reads, Reads, hothers other hne, ih hnames]
  | pastOptional other absence' codec h ih =>
    obtain ⟨a, r⟩ := r
    obtain ⟨hother, hnames⟩ := List.nodup_cons.mp hnames
    have hne : other ≠ name := fun e => hother (e ▸ h.mem_names)
    rw [Reads, Reads, hothers other hne, ih hnames]

end

end Fields

/-! ## 4. Whole texts -/

/-- **An optional member of a type, in its JSON form**: `get` is its value, which `item` writes. -/
structure Codec.HasOptional {α β : Type} (c : Codec α) (name : String) (absence : Absence)
    (item : Codec β) (get : α → Option β) : Prop where
  /-- A value stands under the name, and absence is written in its own way. -/
  written : ∀ a, ∃ o : ObjectText, o.text = c.encode a ∧
    valuesOf name o.pairs = optionalValues absence item (get a)
  /-- In any text, the member is absent if nothing stands under the name, or `null`; otherwise what
      stands there is its value. -/
  told : ∀ (o : ObjectText) (a : α), c.decode o.text = .ok a →
    (valuesOf name o.pairs = [] ∨ valuesOf name o.pairs = [writeNull]) ∧ get a = none ∨
      ∃ v b, valuesOf name o.pairs = [v] ∧ v ≠ writeNull ∧ item.decode v = .ok b ∧
        get a = some b
  /-- A text in which the member is `null` holds what it holds without the member, if anything. -/
  null : ∀ o o' : ObjectText, valuesOf name o.pairs = [writeNull] → valuesOf name o'.pairs = [] →
    (∀ other, other ≠ name → valuesOf other o.pairs = valuesOf other o'.pairs) →
      (c.decode o.text).toOption = (c.decode o'.text).toOption

/-- **The declared optional members of a record are optional members of its type.** -/
theorem Codec.hasOptional_record {α β δ ρ : Type} (record : String) {name : String}
    {absence : Absence} {item : Codec β} {fields : Fields δ ρ} {get : ρ → Option β} {depth : Nat}
    (h : fields.Declares name absence item get) (hsettled : fields.Settled depth)
    (hdepth : depth + 1 ≤ Codec.nesting) (hwrites : fields.Writes) (hnames : fields.names.Nodup)
    {make : ρ → α} {parts : α → ρ} (hparts : ∀ r, parts (make r) = r) :
    (Codec.record record fields make parts).HasOptional name absence item
      fun a => get (parts a) where
  written a := by
    have hvalues := hwrites.write (parts a)
    refine ⟨.written _ hvalues, text_written hvalues, ?_⟩
    rw [pairs_written]
    exact Fields.valuesOf_write h hnames (parts a)
  told o a ha := by
    obtain ⟨r, hreads, rfl⟩ := (record_decode_iff record hsettled hdepth hnames _ _ o a).mp ha
    rw [hparts]
    rcases hreads.optional h with ⟨hnone, hget⟩ | ⟨v, hv, hdecode⟩
    · exact .inl ⟨.inl hnone, hget⟩
    · have hgram : Grammatical v :=
        o.grammatical_values _ (mem_of_mem_valuesOf (hv ▸ List.mem_singleton_self v))
      rcases (nullable_decode_iff hgram _).mp hdecode with ⟨rfl, hget⟩ | ⟨hne, b, hb, hget⟩
      · exact .inl ⟨.inr hv, hget⟩
      · exact .inr ⟨v, b, hv, hne, hb, hget⟩
  null o o' hnull hnone hothers := by
    refine Option.ext fun a => ?_
    rw [toOption_eq_some_iff, toOption_eq_some_iff,
      record_decode_iff record hsettled hdepth hnames, record_decode_iff record hsettled hdepth hnames]
    simp only [Fields.reads_null_iff h hnames hnull hnone hothers]

end Catalogue.Json
