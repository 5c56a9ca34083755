import Catalogue.Proofs.Store.History

/-!
# Records that fail

A record fails for one of three reasons, and they are looked for in a fixed order: its payload is no
event, its event creates an entity of another item, or the store refuses the change. Only for the
third has the store been asked at all. Its refusal is passed on as it is; if it is a plain one, the
answer alone tells the reasons apart.

* `StoreAccess.ask` -- a change put to a store, `StoreAccess.recorded` -- a store that keeps a list of
  the changes it was asked for, `StoreAccess.Plain` -- a store that refuses in its own name;
* `AsksFor` -- the change that a payload asks for, if there is one (`AsksFor.unique`);
* `processPayload_cases` -- all that can become of a payload, for every store at once;
* `Explained` -- the reasons, and what the store was asked for;
* `Told` -- what the answer tells of them (`Explained.told`: for a plain store, everything);
* `applied` -- the records of a run that did not fail, `replay_applied` -- the others might as well not
  have come;
* `Unharmed`, `failing_records` -- every record, every store and every run.
-/

namespace Catalogue

/-! ## 1. What a store is asked for -/

namespace StoreAccess

variable {σ α : Type}

/-- A change put to a store: whether it is refused, and the store after it. -/
def ask (access : StoreAccess σ α) : Change α → σ → Except ProcessingError Unit × σ
  | .upsert a, s => access.upsert s a
  | .deleteAll item, s => ((access.deleteAll s item).1.map fun _ => (), (access.deleteAll s item).2)

/-- The same store, which keeps a list of the changes it was asked for. -/
def recorded (access : StoreAccess σ α) : StoreAccess (List (Change α) × σ) α where
  upsert := fun (asked, s) a =>
    let (result, s) := access.upsert s a
    (result, asked ++ [.upsert a], s)
  deleteAll := fun (asked, s) item =>
    let (result, s) := access.deleteAll s item
    (result, asked ++ [.deleteAll item], s)

/-- A store that refuses in its own name only. -/
def Plain (access : StoreAccess σ α) : Prop :=
  ∀ c s e, (access.ask c s).1 = .error e → ∃ reason, e = .store reason

/-- A store of this library is one, as it refuses nothing. -/
theorem plain_local [Entity α] : (local_ : StoreAccess (Store α) α).Plain := by
  intro c s e he
  cases c with
  | upsert a => exact nomatch he
  | deleteAll item => exact nomatch he

theorem ask_recorded (access : StoreAccess σ α) (c : Change α) (asked : List (Change α)) (s : σ) :
    access.recorded.ask c (asked, s) =
      ((access.ask c s).1, asked ++ [c], (access.ask c s).2) := by
  cases c with
  | upsert a => rfl
  | deleteAll item => rfl

end StoreAccess

section

variable {α : Type} [Entity α]

/-- The event that asks for a change. -/
def Change.event (at_ : Instant) : Change α → ChangeEvent α
  | .upsert a => ⟨Entity.itemId a, .create a, at_⟩
  | .deleteAll item => ⟨item, .delete, at_⟩

theorem Change.event_inj {at_ at' : Instant} {c c' : Change α}
    (h : c.event at_ = c'.event at') : c = c' := by
  cases c with
  | upsert a =>
    cases c' with
    | upsert b =>
      simp only [event, ChangeEvent.mk.injEq, Action.create.injEq] at h
      rw [h.2.1]
    | deleteAll item =>
      simp only [event, ChangeEvent.mk.injEq] at h
      exact nomatch h.2.1
  | deleteAll item =>
    cases c' with
    | upsert b =>
      simp only [event, ChangeEvent.mk.injEq] at h
      exact nomatch h.2.1
    | deleteAll item' =>
      simp only [event, ChangeEvent.mk.injEq] at h
      rw [h.1]

/-- An event that asks for a change creates only under the key of the item. -/
theorem Change.itemId_of_event {at_ at' : Instant} {c : Change α} {key : ItemId} {a : α}
    (h : c.event at_ = ⟨key, .create a, at'⟩) : Entity.itemId a = key := by
  cases c with
  | upsert b =>
    simp only [event, ChangeEvent.mk.injEq, Action.create.injEq] at h
    rw [← h.1, h.2.1]
  | deleteAll item =>
    simp only [event, ChangeEvent.mk.injEq] at h
    exact nomatch h.2.1

/-- An event that asks for no change creates an entity of another item. -/
theorem ChangeEvent.asks_or (e : ChangeEvent α) : (∃ c : Change α, e = c.event e.createdAt) ∨
    ∃ a, e = ⟨e.key, .create a, e.createdAt⟩ ∧ Entity.itemId a ≠ e.key := by
  obtain ⟨key, action, at_⟩ := e
  cases action with
  | create a =>
    by_cases ha : Entity.itemId a = key
    · subst ha
      exact .inl ⟨.upsert a, rfl⟩
    · exact .inr ⟨a, rfl, ha⟩
  | delete => exact .inl ⟨.deleteAll key, rfl⟩

/-- **A change that is asked for is put to the store**, and a refusal is passed on. -/
theorem applyEvent_event {σ : Type} (access : StoreAccess σ α) (c : Change α) (at_ : Instant)
    (s : σ) : applyEvent access (c.event at_) s = access.ask c s := by
  cases c with
  | upsert a => simp only [applyEvent, Change.event, if_pos, StoreAccess.ask]
  | deleteAll item =>
    simp only [applyEvent, Change.event, StoreAccess.ask]
    rcases access.deleteAll s item with ⟨_ | _, s'⟩
    · rfl
    · rfl

/-- **The change that a payload asks for**: its event creates an entity under the key of its item, or
    is a delete. -/
def AsksFor (entity : Json.Codec α) (payload : Bytes) (c : Change α) : Prop :=
  ∃ at_, (Json.Codec.changeEvent entity).decode payload = .ok (c.event at_)

theorem AsksFor.unique {entity : Json.Codec α} {payload : Bytes} {c c' : Change α}
    (h : AsksFor entity payload c) (h' : AsksFor entity payload c') : c = c' := by
  obtain ⟨at_, hc⟩ := h
  obtain ⟨at', hc'⟩ := h'
  exact Change.event_inj (Except.ok.inj (hc.symm.trans hc'))

/-- **All that can become of a payload.** It is no event, or creates an entity of another item, and
    then no store has a part in it; or it asks for a change, and the store decides. -/
theorem processPayload_cases (entity : Json.Codec α) (payload : Bytes) :
    (∃ fault, (Json.Codec.changeEvent entity).decode payload = .error fault ∧
      ∀ {σ : Type} (access : StoreAccess σ α) (s : σ),
        processPayload entity access payload s = (.error (.malformed fault), s)) ∨
    (∃ key a at_, (Json.Codec.changeEvent entity).decode payload = .ok ⟨key, .create a, at_⟩ ∧
      Entity.itemId a ≠ key ∧ ∀ {σ : Type} (access : StoreAccess σ α) (s : σ),
        processPayload entity access payload s =
          (.error (.keyMismatch key.val (Entity.itemId a).val), s)) ∨
    ∃ c, AsksFor entity payload c ∧ ∀ {σ : Type} (access : StoreAccess σ α) (s : σ),
      processPayload entity access payload s = access.ask c s := by
  cases hdecode : (Json.Codec.changeEvent entity).decode payload with
  | error fault =>
    refine .inl ⟨fault, rfl, fun access s => ?_⟩
    simp only [processPayload, hdecode]
  | ok e =>
    rcases e.asks_or with ⟨c, he⟩ | ⟨a, he, ha⟩
    · refine .inr (.inr ⟨c, ⟨e.createdAt, by rw [hdecode, ← he]⟩, fun access s => ?_⟩)
      rw [← applyEvent_event access c e.createdAt, ← he]
      simp only [processPayload, hdecode]
    · refine .inr (.inl ⟨e.key, a, e.createdAt, by rw [← he], ha, fun access s => ?_⟩)
      rw [he] at hdecode
      simp only [processPayload, hdecode, applyEvent, if_neg ha]

/-! ## 2. One record -/

/-- The changes that a store is asked for while a payload is processed. -/
def asked {σ : Type} (entity : Json.Codec α) (access : StoreAccess σ α) (payload : Bytes) (s : σ) :
    List (Change α) :=
  (processPayload entity access.recorded payload ([], s)).2.1

/-- A payload whose event creates an entity under the key of another item. -/
def Mismatched (entity : Json.Codec α) (payload : Bytes) (key parent : Int) : Prop :=
  ∃ (k : ItemId) (a : α) (at_ : Instant),
    (Json.Codec.changeEvent entity).decode payload = .ok ⟨k, .create a, at_⟩ ∧
      key = k.val ∧ parent = (Entity.itemId a).val ∧ key ≠ parent

/-- A payload that asks for a change does not create under the key of another item. -/
theorem AsksFor.not_mismatched {entity : Json.Codec α} {payload : Bytes} {c : Change α}
    (h : AsksFor entity payload c) (key parent : Int) : ¬ Mismatched entity payload key parent := by
  intro ⟨k, a, at_, hdecode, hkey, hparent, hne⟩
  obtain ⟨at', hc⟩ := h
  have hown : Entity.itemId a = k :=
    Change.itemId_of_event (Except.ok.inj (hc.symm.trans hdecode))
  rw [hkey, hparent, hown] at hne
  exact hne rfl

/-- **Why a payload fails, and what its store was asked for.** -/
structure Explained {σ : Type} (entity : Json.Codec α) (access : StoreAccess σ α) (payload : Bytes)
    (s : σ) : Prop where
  /-- If it does not decode, it is malformed, for the reason of the decoder. -/
  malformed : ∀ fault, (asked entity access payload s = [] ∧
    (processPayload entity access payload s).1 = .error (.malformed fault)) ↔
      (Json.Codec.changeEvent entity).decode payload = .error fault
  /-- If it creates an entity that belongs to another item, its key does not match. -/
  mismatch : ∀ key parent, (asked entity access payload s = [] ∧
    (processPayload entity access payload s).1 = .error (.keyMismatch key parent)) ↔
      Mismatched entity payload key parent
  /-- Otherwise, and only then, the store is asked, for the change that the payload asks for. -/
  asks : ∀ c, asked entity access payload s = [c] ↔ AsksFor entity payload c
  asksNot : asked entity access payload s = [] ↔
    (∃ fault, (Json.Codec.changeEvent entity).decode payload = .error fault) ∨
      ∃ key parent, Mismatched entity payload key parent
  once : (asked entity access payload s).length ≤ 1
  /-- A refusal is passed on as it is, and without one the record is applied. The store is left as it
      leaves itself. -/
  answered : ∀ c, asked entity access payload s = [c] →
    processPayload entity access payload s = access.ask c s
  /-- Keeping a list of what the store is asked for changes nothing else. -/
  kept : (processPayload entity access.recorded payload ([], s)).1 =
      (processPayload entity access payload s).1 ∧
    (processPayload entity access.recorded payload ([], s)).2.2 =
      (processPayload entity access payload s).2
  /-- A store that is not asked is left alone. -/
  untouched : asked entity access payload s = [] → (processPayload entity access payload s).2 = s

/-- **What the answer alone tells** of a payload. -/
structure Told {σ : Type} (entity : Json.Codec α) (access : StoreAccess σ α) (payload : Bytes)
    (s : σ) : Prop where
  malformed : ∀ fault, (processPayload entity access payload s).1 = .error (.malformed fault) ↔
    (Json.Codec.changeEvent entity).decode payload = .error fault
  mismatch : ∀ key parent,
    (processPayload entity access payload s).1 = .error (.keyMismatch key parent) ↔
      Mismatched entity payload key parent
  asksNot : asked entity access payload s = [] ↔
    (∃ fault, (processPayload entity access payload s).1 = .error (.malformed fault)) ∨
      ∃ key parent, (processPayload entity access payload s).1 = .error (.keyMismatch key parent)

namespace Explained

variable {σ : Type} {entity : Json.Codec α} {payload : Bytes}

/-- A payload that is no event. -/
theorem of_malformed {fault : Json.Fault}
    (hdecode : (Json.Codec.changeEvent entity).decode payload = .error fault)
    (hrun : ∀ {σ : Type} (access : StoreAccess σ α) (s : σ),
      processPayload entity access payload s = (.error (.malformed fault), s))
    (access : StoreAccess σ α) (s : σ) : Explained entity access payload s := by
  have hasked : asked entity access payload s = [] := by rw [asked, hrun]
  have hno : ∀ c, ¬ AsksFor entity payload c := by
    intro c ⟨at_, hc⟩
    exact nomatch hdecode.symm.trans hc
  have hfits : ∀ key parent, ¬ Mismatched entity payload key parent := by
    intro key parent ⟨k, a, at_, hk, _⟩
    exact nomatch hdecode.symm.trans hk
  constructor
  case malformed => simp [hasked, hrun, hdecode]
  case mismatch => simp [hrun, hfits]
  case asks => simp [hasked, hno]
  case asksNot => simp [hasked, hdecode]
  case once => simp [hasked]
  case answered => simp [hasked]
  case kept => simp [hrun]
  case untouched => simp [hrun]

/-- An entity under the key of another item. -/
theorem of_mismatch {key : ItemId} {a : α} {at_ : Instant}
    (hdecode : (Json.Codec.changeEvent entity).decode payload = .ok ⟨key, .create a, at_⟩)
    (ha : Entity.itemId a ≠ key)
    (hrun : ∀ {σ : Type} (access : StoreAccess σ α) (s : σ),
      processPayload entity access payload s =
        (.error (.keyMismatch key.val (Entity.itemId a).val), s))
    (access : StoreAccess σ α) (s : σ) : Explained entity access payload s := by
  have hasked : asked entity access payload s = [] := by rw [asked, hrun]
  have hno : ∀ c, ¬ AsksFor entity payload c := by
    intro c ⟨at', hc⟩
    exact ha (Change.itemId_of_event (Except.ok.inj (hc.symm.trans hdecode)))
  have hne : (key.val : Int) ≠ (Entity.itemId a).val := by
    intro h
    exact ha (ItemId.ext (Int.ofNat.inj h).symm)
  have hmismatched : Mismatched entity payload key.val (Entity.itemId a).val :=
    ⟨key, a, at_, hdecode, rfl, rfl, hne⟩
  constructor
  case malformed => simp [hrun, hdecode]
  case mismatch =>
    intro k parent
    rw [hrun]
    constructor
    · intro ⟨_, he⟩
      cases he
      exact hmismatched
    · intro ⟨k', b, at', hb, hk, hparent, _⟩
      cases hdecode.symm.trans hb
      exact ⟨hasked, by rw [hk, hparent]⟩
  case asks => simp [hasked, hno]
  case asksNot => exact ⟨fun _ => .inr ⟨_, _, hmismatched⟩, fun _ => hasked⟩
  case once => simp [hasked]
  case answered => simp [hasked]
  case kept => simp [hrun]
  case untouched => simp [hrun]

/-- A payload that asks for a change. -/
theorem of_asksFor {c : Change α} (hc : AsksFor entity payload c)
    (hrun : ∀ {σ : Type} (access : StoreAccess σ α) (s : σ),
      processPayload entity access payload s = access.ask c s)
    (access : StoreAccess σ α) (s : σ) : Explained entity access payload s := by
  have hasked : asked entity access payload s = [c] := by
    rw [asked, hrun, access.ask_recorded]
    rfl
  have hdecodes : ∀ fault, (Json.Codec.changeEvent entity).decode payload ≠ .error fault := by
    intro fault hfault
    obtain ⟨at_, hdecode⟩ := hc
    exact nomatch hdecode.symm.trans hfault
  constructor
  case malformed => simp [hasked, hdecodes]
  case mismatch => simp [hasked, hc.not_mismatched]
  case asks =>
    intro c'
    rw [hasked, List.singleton_inj]
    refine ⟨?_, hc.unique⟩
    intro h
    subst h
    exact hc
  case asksNot => simp [hasked, hdecodes, hc.not_mismatched]
  case once => simp [hasked]
  case answered =>
    intro c' hc'
    rw [hasked, List.singleton_inj] at hc'
    subst hc'
    exact hrun access s
  case kept => simp [hrun, access.ask_recorded]
  case untouched => simp [hasked]

variable {access : StoreAccess σ α} {s : σ}

/-- An answer that a plain store does not give was given without it. -/
theorem asked_eq_nil (h : Explained entity access payload s) (hplain : access.Plain)
    {e : ProcessingError} (he : (processPayload entity access payload s).1 = .error e)
    (hforeign : ∀ reason, e ≠ .store reason) : asked entity access payload s = [] := by
  cases hasked : asked entity access payload s with
  | nil => rfl
  | cons c more =>
    have hlength := h.once
    rw [hasked] at hlength
    have hmore : more.length = 0 := Nat.le_zero.mp (Nat.le_of_succ_le_succ hlength)
    obtain rfl : more = [] := List.length_eq_zero_iff.mp hmore
    rw [h.answered c hasked] at he
    obtain ⟨reason, hreason⟩ := hplain c s e he
    exact absurd hreason (hforeign reason)

/-- **If the store is a plain one, the answer tells everything.** -/
theorem told (h : Explained entity access payload s) (hplain : access.Plain) :
    Told entity access payload s := by
  have hmalformed : ∀ fault,
      (processPayload entity access payload s).1 = .error (.malformed fault) ↔
        (Json.Codec.changeEvent entity).decode payload = .error fault := by
    intro fault
    rw [← h.malformed fault]
    exact ⟨fun he => ⟨h.asked_eq_nil hplain he nofun, he⟩, And.right⟩
  have hmismatch : ∀ key parent,
      (processPayload entity access payload s).1 = .error (.keyMismatch key parent) ↔
        Mismatched entity payload key parent := by
    intro key parent
    rw [← h.mismatch key parent]
    exact ⟨fun he => ⟨h.asked_eq_nil hplain he nofun, he⟩, And.right⟩
  refine ⟨hmalformed, hmismatch, ?_⟩
  rw [h.asksNot]
  simp only [hmalformed, hmismatch]

end Explained

/-! ## 3. Runs of records -/

/-- The records of a run that do not fail. -/
def applied {σ : Type} (process : Processing σ) : List Record → σ → List Record
  | [], _ => []
  | r :: rs, s =>
    match (process r.payload s).1 with
    | .ok () => r :: applied process rs (process r.payload s).2
    | .error _ => applied process rs (process r.payload s).2

/-- **What failing records do to a run**: nothing that a store shows. -/
structure Unharmed (process : Processing (Store α)) (rs : List Record) (s : Store α) : Prop where
  /-- Wherever a record fails, all is as it was before it. -/
  each : ∀ before r after, rs = before ++ r :: after →
    (process r.payload (replay process before s)).1 ≠ .ok () →
      (∀ item, (replay process (before ++ [r]) s).find item = (replay process before s).find item) ∧
        (replay process (before ++ [r]) s).len = (replay process before s).len
  /-- In the end all is as if only the others had come, -/
  without : (∀ item, (replay process rs s).find item =
      (replay process (applied process rs s) s).find item) ∧
    (replay process rs s).len = (replay process (applied process rs s) s).len
  /-- and these would have been applied, all of them. -/
  good : ∀ o ∈ outcomes process (applied process rs s) s, o = .ok ()

section

variable {σ : Type} {process : Processing σ}

/-- Where failing changes nothing, the records that fail might as well not have come. -/
theorem replay_applied (h : ∀ payload s, (process payload s).1 ≠ .ok () → (process payload s).2 = s)
    (rs : List Record) (s : σ) : replay process (applied process rs s) s = replay process rs s := by
  induction rs generalizing s with
  | nil => rfl
  | cons r rs ih =>
    rw [applied]
    cases hr : (process r.payload s).1 with
    | ok u => exact ih (process r.payload s).2
    | error e =>
      show replay process (applied process rs (process r.payload s).2) s =
        replay process rs (process r.payload s).2
      rw [h r.payload s (by simp [hr])]
      exact ih s

theorem outcomes_applied (h : ∀ payload s, (process payload s).1 ≠ .ok () → (process payload s).2 = s)
    (rs : List Record) (s : σ) : ∀ o ∈ outcomes process (applied process rs s) s, o = .ok () := by
  induction rs generalizing s with
  | nil => exact nofun
  | cons r rs ih =>
    rw [applied]
    cases hr : (process r.payload s).1 with
    | ok u =>
      intro o ho
      rcases List.mem_cons.mp ho with rfl | ho
      · exact hr
      · exact ih (process r.payload s).2 o ho
    | error e =>
      rw [h r.payload s (by simp [hr])]
      exact ih s

end

/-- **A store that refuses nothing is unchanged by what fails.** -/
theorem snd_processPayload_of_failed (entity : Json.Codec α) (payload : Bytes) (s : Store α)
    (h : (processPayload entity .local_ payload s).1 ≠ .ok ()) :
    (processPayload entity .local_ payload s).2 = s := by
  rcases processPayload_cases entity payload with
    ⟨fault, -, hrun⟩ | ⟨key, a, at_, -, -, hrun⟩ | ⟨c, -, hrun⟩
  · rw [hrun]
  · rw [hrun]
  · rw [hrun] at h
    cases c with
    | upsert a => exact absurd rfl h
    | deleteAll item => exact absurd rfl h

/-- **All that a payload does is explained**, whatever its store does. -/
theorem explained (entity : Json.Codec α) {σ : Type} (access : StoreAccess σ α) (payload : Bytes)
    (s : σ) : Explained entity access payload s := by
  rcases processPayload_cases entity payload with
    ⟨fault, hdecode, hrun⟩ | ⟨key, a, at_, hdecode, ha, hrun⟩ | ⟨c, hc, hrun⟩
  · exact .of_malformed hdecode hrun access s
  · exact .of_mismatch hdecode ha hrun access s
  · exact .of_asksFor hc hrun access s

/-- **A record fails for the stated reasons only, and changes nothing**: for every type of entity,
    every store and every record, and in every run of good and bad records on a store of this
    library. The answer alone tells the reasons apart, unless the store refuses in another name than
    its own, and the stores of this library do not. -/
theorem failing_records (entity : Json.Codec α) :
    (∀ {σ : Type} (access : StoreAccess σ α) (r : Record) (s : σ),
      Explained entity access r.payload s ∧
        (access.Plain → Told entity access r.payload s)) ∧
    (∀ (r : Record) (s : Store α), Told entity .local_ r.payload s) ∧
    ∀ (rs : List Record) (s : Store α), Unharmed (processPayload entity .local_) rs s := by
  refine ⟨?_, ?_, ?_⟩
  · intro σ access r s
    have hexplained := explained entity access r.payload s
    exact ⟨hexplained, hexplained.told⟩
  · intro r s
    exact (explained entity .local_ r.payload s).told StoreAccess.plain_local
  · intro rs s
    have hfailed := snd_processPayload_of_failed entity
    constructor
    case each =>
      intro before r after _ hr
      have hsame : replay (processPayload entity .local_) (before ++ [r]) s =
          replay (processPayload entity .local_) before s := by
        rw [replay_append]
        exact hfailed r.payload _ hr
      rw [hsame]
      exact ⟨fun _ => rfl, rfl⟩
    case without =>
      rw [replay_applied hfailed]
      exact ⟨fun _ => rfl, rfl⟩
    case good => exact outcomes_applied hfailed rs s

end

end Catalogue
