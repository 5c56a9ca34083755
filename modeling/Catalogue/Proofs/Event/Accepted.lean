import Catalogue.Proofs.Event.Values

/-!
# Which texts are change events

An event is read from an object with four members in any order, among any others. This file says
which objects these are, for the entities of every domain, and as what they are read.

* `Says` -- what the members of an object say as an event on the wire (`wireEvent_decode_iff`:
  that is what it is read as);
* `knownMembers`, `Says.of_perm` -- order and unknown members play no part in it;
* `exists_objectText` -- every event is written as an object that says it;
* `Accepts`, `accepts_event` -- **what is accepted, what is made of it, and what is refused for its
  data**.
-/

namespace Catalogue

open Json

/-! ## 1. What the members say -/

/-- **What an object says as an event on the wire**, by its members: one type, one item id in
    canonical digits, one timestamp, and data at most once, which may be `null`. Where members have
    other names, nothing is asked of them. -/
structure Says (d : Domain) (ps : List (String × Bytes)) (w : WireEvent d.Carried) : Prop where
  eventType : ∃ v, valuesOf "eventType" ps = [v] ∧ TypeText w.eventType v
  key : valuesOf "key" ps = [digitBytes w.key.val]
  eventCreatedAt : ∃ v, valuesOf "eventCreatedAt" ps = [v] ∧ TimeText w.eventCreatedAt v
  data : (valuesOf "data" ps = [] ∨ valuesOf "data" ps = [writeNull]) ∧ w.data = none ∨
    ∃ v a, valuesOf "data" ps = [v] ∧ d.codec.decode v = .ok a ∧ w.data = some a

theorem reads_wireEvent_iff (d : Domain) (o : ObjectText) (w : WireEvent d.Carried) :
    (wireEventFields d.codec).Reads o.pairs (w.eventType, w.key, w.data, w.eventCreatedAt, ()) ↔
      Says d o.pairs w := by
  have hgram {name : String} {v : Bytes} (h : valuesOf name o.pairs = [v]) : Grammatical v :=
    o.grammatical_values _ (mem_of_mem_valuesOf (h ▸ List.mem_singleton_self v))
  show ((∃ v, valuesOf "eventType" o.pairs = [v] ∧ Codec.eventType.decode v = .ok w.eventType) ∧
    (∃ v, valuesOf "key" o.pairs = [v] ∧ Codec.itemId.decode v = .ok w.key) ∧
      (valuesOf "data" o.pairs = [] ∧ w.data = none ∨
        ∃ v, valuesOf "data" o.pairs = [v] ∧ d.codec.nullable.decode v = .ok w.data) ∧
      (∃ v, valuesOf "eventCreatedAt" o.pairs = [v] ∧
        Codec.instant.decode v = .ok w.eventCreatedAt) ∧ True) ↔ _
  constructor
  · rintro ⟨⟨word, htype, hword⟩, ⟨k, hkey, hk⟩, hdata, ⟨t, hcreated, ht⟩, -⟩
    refine ⟨⟨word, htype, (eventType_decode_iff (hgram htype) _).mp hword⟩, ?_,
      ⟨t, hcreated, (instant_decode_iff (hgram hcreated) _).mp ht⟩, ?_⟩
    · rw [hkey, (itemId_decode_iff (hgram hkey) w.key).mp hk]
    · rcases hdata with ⟨habsent, hnone⟩ | ⟨v, hv, hdecode⟩
      · exact .inl ⟨.inl habsent, hnone⟩
      · rcases (nullable_decode_iff (hgram hv) w.data).mp hdecode with ⟨rfl, hnone⟩ | ⟨-, a, ha, hw⟩
        · exact .inl ⟨.inr hv, hnone⟩
        · exact .inr ⟨v, a, hv, ha, hw⟩
  · rintro ⟨⟨word, htype, hword⟩, hkey, ⟨t, hcreated, ht⟩, hdata⟩
    refine ⟨⟨word, htype, (eventType_decode_iff (hgram htype) _).mpr hword⟩,
      ⟨_, hkey, (itemId_decode_iff (hgram hkey) w.key).mpr rfl⟩, ?_,
      ⟨t, hcreated, (instant_decode_iff (hgram hcreated) _).mpr ht⟩, trivial⟩
    rcases hdata with ⟨habsent | hnull, hnone⟩ | ⟨v, a, hv, ha, hw⟩
    · exact .inl ⟨habsent, hnone⟩
    · exact .inr ⟨writeNull, hnull, (nullable_decode_iff .null _).mpr (.inl ⟨rfl, hnone⟩)⟩
    · have hne : v ≠ writeNull := by
        rintro rfl
        exact d.codec_decode_null a ha
      exact .inr ⟨v, hv, (nullable_decode_iff (hgram hv) _).mpr (.inr ⟨hne, a, ha, hw⟩)⟩

/-- **A text holds an event on the wire exactly if it says so.** -/
theorem wireEvent_decode_iff (d : Domain) (o : ObjectText) (w : WireEvent d.Carried) :
    (Codec.wireEvent d.codec).decode o.text = .ok w ↔ Says d o.pairs w := by
  have hsettled : (wireEventFields d.codec).Settled 1 :=
    ⟨settled_eventType, settled_itemId.mono (by decide) (by decide), d.settled_codec,
      settled_instant.mono (by decide) (by decide), trivial⟩
  have hnames : (wireEventFields d.codec).names.Nodup := by
    show ["eventType", "key", "data", "eventCreatedAt"].Nodup
    decide
  refine (record_decode_iff "WireEvent" hsettled (by decide) hnames _ _ o w).trans ?_
  constructor
  · rintro ⟨⟨eventType, key, data, created, ⟨⟩⟩, hreads, rfl⟩
    exact (reads_wireEvent_iff d o _).mp hreads
  · intro h
    exact ⟨_, (reads_wireEvent_iff d o w).mpr h, rfl⟩

/-! ## 2. Order and unknown members -/

/-- The names that an event knows. -/
def eventNames : List String := ["eventType", "key", "data", "eventCreatedAt"]

/-- The members that an event knows, in their order. -/
def knownMembers (ps : List (String × Bytes)) : List (String × Bytes) :=
  ps.filter fun p => p.1 ∈ eventNames

theorem valuesOf_known {name : String} (h : name ∈ eventNames) (ps : List (String × Bytes)) :
    valuesOf name (knownMembers ps) = valuesOf name ps := by
  unfold valuesOf knownMembers
  rw [List.filter_filter]
  refine congrArg _ (List.filter_congr fun p _ => ?_)
  by_cases hp : p.1 = name
  · simp [hp, h]
  · simp [hp]

/-- Neither the order of the members nor the unknown ones play a part in what an object says. -/
theorem Says.of_perm {d : Domain} {ps qs : List (String × Bytes)} {w : WireEvent d.Carried}
    (h : Says d ps w) (hperm : (knownMembers ps).Perm (knownMembers qs)) : Says d qs w := by
  have hvalues {name : String} (hname : name ∈ eventNames) :
      (valuesOf name ps).Perm (valuesOf name qs) := by
    rw [← valuesOf_known hname ps, ← valuesOf_known hname qs]
    exact (hperm.filter _).map _
  have hone {name : String} {v : Bytes} (hname : name ∈ eventNames) (hv : valuesOf name ps = [v]) :
      valuesOf name qs = [v] := by
    have hp := hvalues hname
    rw [hv] at hp
    exact (List.singleton_perm.mp hp).symm
  have hnone {name : String} (hname : name ∈ eventNames) (hv : valuesOf name ps = []) :
      valuesOf name qs = [] := by
    have hp := hvalues hname
    rw [hv] at hp
    exact List.nil_perm.mp hp
  have hdata : "data" ∈ eventNames := by decide
  obtain ⟨⟨t, ht, htype⟩, hkey, ⟨c, hc, hcreated⟩, hvalue⟩ := h
  refine ⟨⟨t, hone (by decide) ht, htype⟩, hone (by decide) hkey,
    ⟨c, hone (by decide) hc, hcreated⟩, ?_⟩
  rcases hvalue with ⟨habsent | hnull, hw⟩ | ⟨v, a, hv, ha, hw⟩
  · exact .inl ⟨.inl (hnone hdata habsent), hw⟩
  · exact .inl ⟨.inr (hone hdata hnull), hw⟩
  · exact .inr ⟨v, a, hone hdata hv, ha, hw⟩

/-! ## 3. Events -/

/-- An event is made from its own form on the wire, and from no other. -/
theorem ofWire_ok_iff {α : Type} (w : WireEvent α) (e : ChangeEvent α) :
    ChangeEvent.ofWire w = .ok e ↔ w = e.toWire := by
  constructor
  · intro h
    obtain ⟨eventType, key, data, created⟩ := w
    cases eventType with
    | create =>
      cases data with
      | none => cases h
      | some a =>
        cases h
        rfl
    | delete =>
      cases data with
      | none =>
        cases h
        rfl
      | some a => cases h
  · rintro rfl
    exact ChangeEvent.ofWire_toWire e

theorem exists_toWire_iff {α : Type} (w : WireEvent α) :
    (∃ e : ChangeEvent α, w = e.toWire) ↔ (w.data.isSome = true ↔ w.eventType = .create) := by
  obtain ⟨eventType, key, data, created⟩ := w
  constructor
  · rintro ⟨⟨item, action, now⟩, h⟩
    cases action with
    | create a =>
      cases h
      exact ⟨fun _ => rfl, fun _ => rfl⟩
    | delete =>
      cases h
      exact ⟨nofun, nofun⟩
  · intro h
    cases eventType with
    | create =>
      obtain ⟨a, rfl⟩ := Option.isSome_iff_exists.mp (h.mpr rfl)
      exact ⟨⟨key, .create a, created⟩, rfl⟩
    | delete =>
      cases data with
      | none => exact ⟨⟨key, .delete, created⟩, rfl⟩
      | some a => exact nomatch h.mp rfl

/-- What becomes of an object that is read as a change event of a domain. -/
structure Accepts (d : Domain) (o : ObjectText) : Prop where
  /-- It is the event with the parts that it says. -/
  event : ∀ e, (Codec.changeEvent d.codec).decode o.text = .ok e ↔ Says d o.pairs e.toWire
  /-- It is an event if it says all of one, with data exactly for a create. -/
  succeeds : (∃ e, (Codec.changeEvent d.codec).decode o.text = .ok e) ↔
    ∃ w, Says d o.pairs w ∧ (w.data.isSome = true ↔ w.eventType = .create)
  /-- A create without data is refused for that. -/
  missing : ∀ w, Says d o.pairs w → w.eventType = .create → w.data = none →
    (Codec.changeEvent d.codec).decode o.text =
      .error (.here (.rejected (ChangeEvent.malformedText .create w.key "missing data")))
  /-- A delete with data is refused for that. -/
  unexpected : ∀ w, Says d o.pairs w → w.eventType = .delete → w.data.isSome = true →
    (Codec.changeEvent d.codec).decode o.text =
      .error (.here (.rejected (ChangeEvent.malformedText .delete w.key "unexpected data")))
  /-- The members may stand in another order, and among others that an event does not know. -/
  sameEvent : ∀ o' : ObjectText, (knownMembers o.pairs).Perm (knownMembers o'.pairs) →
    ((Codec.changeEvent d.codec).decode o'.text).toOption =
      ((Codec.changeEvent d.codec).decode o.text).toOption
  /-- An object that says all of an event is also refused alike. -/
  sameResult : ∀ o' : ObjectText, (knownMembers o.pairs).Perm (knownMembers o'.pairs) →
    (∃ w, Says d o.pairs w) → (Codec.changeEvent d.codec).decode o'.text =
      (Codec.changeEvent d.codec).decode o.text

/-- What is made of an object that says all of an event. -/
theorem changeEvent_decode_of_wire {d : Domain} {o : ObjectText} {w : WireEvent d.Carried}
    (h : Says d o.pairs w) : (Codec.changeEvent d.codec).decode o.text =
      match ChangeEvent.ofWire w with
      | .ok e => .ok e
      | .error reason => .error (.here (.rejected reason)) := by
  have hwire := (wireEvent_decode_iff d o w).mpr h
  cases hof : ChangeEvent.ofWire w with
  | ok e => exact checked_decode_iff.mpr ⟨w, hwire, hof⟩
  | error reason => exact checked_decode_error _ hwire hof

theorem changeEvent_decode_iff (d : Domain) (o : ObjectText) (e : ChangeEvent d.Carried) :
    (Codec.changeEvent d.codec).decode o.text = .ok e ↔ Says d o.pairs e.toWire := by
  refine checked_decode_iff.trans ⟨?_, fun h => ?_⟩
  · rintro ⟨w, hw, hof⟩
    obtain rfl := (ofWire_ok_iff w e).mp hof
    exact (wireEvent_decode_iff d o _).mp hw
  · exact ⟨e.toWire, (wireEvent_decode_iff d o _).mpr h, ChangeEvent.ofWire_toWire e⟩

/-- **Every event is written as an object that says it.** -/
theorem exists_objectText (d : Domain) (e : ChangeEvent d.Carried) : ∃ o : ObjectText,
    o.text = (Codec.changeEvent d.codec).encode e ∧ Says d o.pairs e.toWire := by
  have hwrites : (wireEventFields d.codec).Writes :=
    ⟨fun e => grammatical_writeText e.word, writes_itemId, d.writes_codec,
      fun i => grammatical_writeText i.text, trivial⟩
  have hvalues := hwrites.write (e.eventType, e.key, e.payload, e.createdAt, ())
  have htext : (ObjectText.written _ hvalues).text = (Codec.changeEvent d.codec).encode e :=
    text_written hvalues
  refine ⟨.written _ hvalues, htext, (changeEvent_decode_iff d _ e).mp ?_⟩
  rw [htext]
  exact (faithful_changeEvent d.faithful_codec).decode_encode (by decide) e

/-- **An event is read from exactly the objects that say one**, whichever order their members stand
    in, whatever else stands among these, and however all of it is spelled. An object that says all
    of an event, but has data for a delete or none for a create, is refused with that reason. -/
theorem accepts_event (d : Domain) (o : ObjectText) : Accepts d o where
  event := changeEvent_decode_iff d o
  succeeds := by
    constructor
    · rintro ⟨e, he⟩
      exact ⟨e.toWire, (changeEvent_decode_iff d o e).mp he, (exists_toWire_iff _).mp ⟨e, rfl⟩⟩
    · rintro ⟨w, hw, hrule⟩
      obtain ⟨e, rfl⟩ := (exists_toWire_iff w).mpr hrule
      exact ⟨e, (changeEvent_decode_iff d o e).mpr hw⟩
  missing := by
    rintro ⟨eventType, key, data, created⟩ hw rfl rfl
    exact changeEvent_decode_of_wire hw
  unexpected := by
    rintro ⟨eventType, key, data, created⟩ hw rfl hdata
    obtain ⟨a, rfl⟩ := Option.isSome_iff_exists.mp hdata
    exact changeEvent_decode_of_wire hw
  sameEvent o' hperm := by
    refine Option.ext fun e => ?_
    rw [toOption_eq_some_iff, toOption_eq_some_iff, changeEvent_decode_iff, changeEvent_decode_iff]
    exact ⟨fun h => h.of_perm hperm.symm, fun h => h.of_perm hperm⟩
  sameResult o' hperm := by
    rintro ⟨w, hw⟩
    rw [changeEvent_decode_of_wire hw, changeEvent_decode_of_wire (hw.of_perm hperm)]

/-- A create without data, its members in another order and an unknown one among them. -/
example :
    (Codec.changeEvent Codec.product).decode (bytesOf ("\x7b\"key\": 7, \"by\": [1, \x7b\x7d], " ++
      "\"eventCreatedAt\": \"2024-01-01T00:00:00Z\", \"\\u0065ventType\": \"CREATE\"\x7d")) =
        .error (.here (.rejected (ChangeEvent.malformedText .create ⟨7, by decide, by decide⟩
          "missing data"))) := rfl

end Catalogue
