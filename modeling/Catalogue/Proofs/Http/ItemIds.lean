import Mathlib.Algebra.Ring.Nat
import Catalogue.Proofs.Http.Writes
import Catalogue.Proofs.Transport.Listing

/-!
# Every spelling of an item id leads to one key

An item id may be written in several ways: with a plus in front, and with zeros behind that. What is
published about the item is keyed by its one canonical text, so all spellings end in one partition.

* `itemIdOf_cases` -- the three things that may become of a text;
* `ReadAsItem` -- which texts are item ids, and what is said of the others (`readAsItem`);
* `Keyed` -- the key of an item (`keyed`);
* `DeletedUnder` -- a delete that was published under a key (`deletedUnder_propagateDelete`: that of
  its item; `deletedUnder_respond`: so it is over HTTP);
* `spellings` -- all of it: deletes through two texts meet under one key if the texts denote one
  number, and not otherwise.
-/

namespace Catalogue

namespace Http

/-! ## 1. Reading -/

/-- **What may become of a text**: it is no number, or one below one, or an item id. -/
theorem itemIdOf_cases (raw : String) :
    ((¬ ∃ n, Numeral raw.toList n) ∧ itemIdOf raw =
      .error ⟨.badRequest, "Type mismatch: itemId '" ++ raw ++ "' is not a number"⟩) ∨
    (∃ n, Numeral raw.toList n ∧ n < 1 ∧ itemIdOf raw = .error (.invalidItemId n)) ∨
    ∃ item : ItemId, Numeral raw.toList item.val ∧ itemIdOf raw = .ok item := by
  cases hread : signed? (-9223372036854775808) 9223372036854775807 raw.toList with
  | none =>
    refine .inl ⟨?_, by simp only [itemIdOf, hread]⟩
    rintro ⟨n, hn⟩
    cases hread.symm.trans ((signed?_eq_some_iff raw.toList n).mpr hn)
  | some n =>
    have hnumeral := (signed?_eq_some_iff raw.toList n).mp hread
    cases hitem : ItemId.ofInt n with
    | error n' =>
      obtain ⟨rfl, hrange⟩ := (ItemId.ofInt_error_iff n n').mp hitem
      have hhigh := hnumeral.high
      exact .inr (.inl ⟨n', hnumeral, by omega, by simp only [itemIdOf, hread, hitem]⟩)
    | ok item =>
      obtain rfl := (ItemId.ofInt_ok_iff n item).mp hitem
      exact .inr (.inr ⟨item, hnumeral, by simp only [itemIdOf, hread, hitem]⟩)

/-- A text is an item id if it denotes the number of one. -/
theorem itemIdOf_ok_iff {raw : String} {item : ItemId} :
    itemIdOf raw = .ok item ↔ Numeral raw.toList item.val := by
  have hpos := item.pos
  rcases itemIdOf_cases raw with ⟨hno, hread⟩ | ⟨n, hn, hlow, hread⟩ | ⟨other, hn, hread⟩
  · rw [hread]
    exact ⟨nofun, fun h => absurd ⟨_, h⟩ hno⟩
  · rw [hread]
    refine ⟨nofun, fun h => ?_⟩
    have hsame := hn.unique h
    omega
  · rw [hread, Except.ok.injEq]
    refine ⟨fun h => h ▸ hn, fun h => ?_⟩
    have hval : (other.val : Int) = item.val := hn.unique h
    have hitem := (ItemId.ofInt_ok_iff other.val item).mpr hval
    rw [other.ofInt_val] at hitem
    exact Except.ok.inj hitem

/-- **What becomes of a text that should name an item.** -/
structure ReadAsItem (raw : String) : Prop where
  /-- It is an item id if it is one or more digits, perhaps behind a plus, that denote it. -/
  ok_iff : ∀ item : ItemId, itemIdOf raw = .ok item ↔ PlusDigits raw.toList item.val
  accepted_iff : (∃ item, itemIdOf raw = .ok item) ↔
    ∃ n, PlusDigits raw.toList n ∧ 1 ≤ n ∧ n ≤ 2 ^ 63 - 1
  /-- It is refused as a wrong value if it is a numeral for a number that is not positive. -/
  invalid_iff : ∀ n : Int,
    itemIdOf raw = .error ⟨.invalidInput, "Invalid itemId: " ++ toString n⟩ ↔
      Numeral raw.toList n ∧ n ≤ 0
  /-- Any other text is refused as no number. -/
  unreadable_iff :
    itemIdOf raw = .error ⟨.badRequest, "Type mismatch: itemId '" ++ raw ++ "' is not a number"⟩ ↔
      (¬ ∃ item, itemIdOf raw = .ok item) ∧
        ¬ ∃ n : Int, itemIdOf raw = .error ⟨.invalidInput, "Invalid itemId: " ++ toString n⟩

/-- The wording names the number. -/
theorem invalidItemId_eq (n : Int) :
    Problem.invalidItemId n = ⟨.invalidInput, "Invalid itemId: " ++ toString n⟩ := by
  rw [Problem.invalidItemId, ItemId.invalidText, integerText_eq_repr]
  rfl

theorem invalidItemId_inj {m n : Int}
    (h : Problem.invalidItemId m = Problem.invalidItemId n) : m = n :=
  integerText_injective ((String.append_right_inj _).mp (congrArg Problem.message h))

theorem readAsItem (raw : String) : ReadAsItem raw := by
  have hok (item : ItemId) : itemIdOf raw = .ok item ↔ PlusDigits raw.toList item.val := by
    rw [itemIdOf_ok_iff, numeral_natCast_iff item.pos]
    exact and_iff_left item.lt
  have hinvalid (n : Int) : itemIdOf raw = .error (.invalidItemId n) ↔
      Numeral raw.toList n ∧ n ≤ 0 := by
    rcases itemIdOf_cases raw with ⟨hno, hread⟩ | ⟨m, hm, hlow, hread⟩ | ⟨item, hitem, hread⟩
    · rw [hread]
      exact ⟨nofun, fun h => absurd ⟨n, h.1⟩ hno⟩
    · rw [hread, Except.error.injEq]
      constructor
      · intro h
        obtain rfl := invalidItemId_inj h
        exact ⟨hm, by omega⟩
      · rintro ⟨hn, -⟩
        rw [hm.unique hn]
    · rw [hread]
      refine ⟨nofun, fun h => ?_⟩
      have hpos := item.pos
      have hsame := hitem.unique h.1
      omega
  simp only [invalidItemId_eq] at hinvalid
  refine ⟨hok, ?_, hinvalid, ?_⟩
  · constructor
    · rintro ⟨item, hitem⟩
      have hlt := item.lt
      exact ⟨item.val, (hok item).mp hitem, item.pos, by omega⟩
    · rintro ⟨n, hn, hpos, hle⟩
      exact ⟨⟨n, hpos, by omega⟩, (hok _).mpr hn⟩
  · rcases itemIdOf_cases raw with ⟨hno, hread⟩ | ⟨n, hn, hlow, hread⟩ | ⟨item, hitem, hread⟩
    · rw [hread]
      exact ⟨fun _ => ⟨nofun, nofun⟩, fun _ => rfl⟩
    · rw [hread, invalidItemId_eq]
      exact ⟨nofun, fun h => absurd ⟨n, rfl⟩ h.2⟩
    · rw [hread]
      exact ⟨nofun, fun h => absurd ⟨item, rfl⟩ h.1⟩

/-! ## 2. Keys -/

/-- **The key of an item.** -/
structure Keyed (item : ItemId) : Prop where
  /-- It is the canonical decimal text of the id, -/
  canonical : item.partitionKey = toString item.val
  /-- is an item id itself, -/
  reads_back : itemIdOf item.partitionKey = .ok item
  /-- and belongs to no other item. -/
  own : ∀ other : ItemId, other.partitionKey = item.partitionKey → other = item

theorem keyed (item : ItemId) : Keyed item := by
  have hcanonical (k : ItemId) : k.partitionKey = toString k.val := decimalText_eq_repr k.val
  have hread (k : ItemId) : itemIdOf k.partitionKey = .ok k :=
    ((readAsItem _).ok_iff k).mpr (.inl (digits_decimalText k.val))
  refine ⟨hcanonical item, hread item, fun other hkey => ?_⟩
  have hother := hread other
  rw [hkey, hread item] at hother
  exact (Except.ok.inj hother).symm

/-! ## 3. Deletes -/

/-- **A delete that was published under a key**: every domain has one more record, at the end of its
    topic and in the partition of the key. -/
def DeletedUnder (t t' : Transport) (key : String) : Prop :=
  ∀ d : Domain, ∃ r : Record, r.key = key ∧ r.partition = t.partitionFor key ∧
    t'.records d.topic = t.records d.topic ++ [r]

/-- A transport after one message on the topic of each of some domains. -/
def publishedIn (t : Transport) (m : Domain → Message) (ds : List Domain) : Transport :=
  ds.foldl (fun t d => (t.publish d.topic (m d).key (m d).payload).2) t

/-- Domains that have one message each publish it, one after another. -/
theorem snd_steps_transport {t : Transport} (hf : t.failing = false) {m : Domain → Message}
    {p : Propagation} {ds : List Domain} (hnodup : ds.Nodup)
    (hpending : ∀ d ∈ ds, p.refused d = none ∧ p.pending d = [m d]) :
    (p.steps .transport ds t).2 = publishedIn t m ds := by
  induction ds generalizing p t with
  | nil => rfl
  | cons d ds ih =>
    obtain ⟨hd, hnodup⟩ := List.nodup_cons.mp hnodup
    obtain ⟨hr, hp⟩ := hpending d List.mem_cons_self
    have hpublish : t.publish d.topic (m d).key (m d).payload =
        (.ok (), (t.publish d.topic (m d).key (m d).payload).2) := by
      rw [Transport.publish_of_working hf]
    have hstep : p.step .transport d t =
        ({ p with pending := Propagation.set p.pending d [] },
          (t.publish d.topic (m d).key (m d).payload).2) := by
      rw [Propagation.step_of_pending _ _ hr hp]
      show (p.answered d [] (t.publish d.topic (m d).key (m d).payload).1, _) = _
      rw [hpublish]
      rfl
    have hworks : (t.publish d.topic (m d).key (m d).payload).2.failing = false := by
      rw [Transport.publish_of_working hf]
      exact hf
    rw [Propagation.steps_cons, hstep]
    refine ih hworks hnodup fun e he => ?_
    obtain ⟨hre, hpe⟩ := hpending e (List.mem_cons_of_mem d he)
    have hne : e ≠ d := fun h => hd (h ▸ he)
    exact ⟨hre, (if_neg hne).trans hpe⟩

/-- The topics of these domains have one more record, and the other domains have none. -/
theorem records_publishedIn {t : Transport} {l : Ledger} (h : Refines t l)
    (hnumbered : Numbered l.accepted) (hf : l.failing = false) (m : Domain → Message) {ds : List Domain}
    (hnodup : ds.Nodup) (d : Domain) :
    (d ∉ ds → (publishedIn t m ds).records d.topic = t.records d.topic) ∧
    (d ∈ ds → ∃ r : Record, r.key = (m d).key ∧ r.partition = t.partitionFor (m d).key ∧
      (publishedIn t m ds).records d.topic = t.records d.topic ++ [r]) := by
  induction ds generalizing t l with
  | nil => exact ⟨fun _ => rfl, nofun⟩
  | cons e ds ih =>
    obtain ⟨he, hnodup⟩ := List.nodup_cons.mp hnodup
    have hrecords := h.records_publish hnumbered hf e.topic (m e).key (m e).payload d.topic
    have hpartitions : (t.publish e.topic (m e).key (m e).payload).2.partitionFor (m d).key =
        t.partitionFor (m d).key := by
      rw [Transport.publish_of_working (h.failing.trans hf)]
      rfl
    obtain ⟨hout, hin⟩ := ih (h.publish hf e.topic (m e).key (m e).payload)
      (hnumbered.publish e.topic (m e).key (m e).payload) hf hnodup
    rw [hpartitions] at hin
    show (_ → (publishedIn (t.publish e.topic (m e).key (m e).payload).2 m ds).records d.topic = _) ∧
      (_ → ∃ r : Record, _ ∧ _ ∧
        (publishedIn (t.publish e.topic (m e).key (m e).payload).2 m ds).records d.topic = _)
    by_cases hd : d = e
    · subst hd
      rw [if_pos rfl] at hrecords
      exact ⟨fun hnot => absurd List.mem_cons_self hnot,
        fun _ => ⟨_, rfl, rfl, (hout he).trans hrecords⟩⟩
    · rw [if_neg fun heq => hd (Domain.topic_injective heq), List.append_nil] at hrecords
      rw [hrecords] at hout hin
      refine ⟨fun hnot => hout fun hmem => hnot (List.mem_cons_of_mem e hmem), fun hmem => ?_⟩
      exact hin (List.mem_of_ne_of_mem hd hmem)

/-- **A delete is published under the key of its item.** -/
theorem deletedUnder_propagateDelete {t : Transport} {l : Ledger} (h : Refines t l)
    (hnumbered : Numbered l.accepted) (hf : t.failing = false) (item : ItemId) (stamps : Stamps) :
    DeletedUnder t (propagateDelete .transport item stamps t).2 item.partitionKey := by
  have hall : Domain.all.Nodup := by decide
  obtain ⟨m, hm, hkey⟩ : ∃ m : Domain → Message,
      deleteMessages item stamps = (fun d => [m d]) ∧ ∀ d, (m d).key = item.partitionKey :=
    ⟨fun d => Message.ofEvent Json.Codec.unit ⟨item, .delete, stamps.of d 0⟩, rfl, fun _ => rfl⟩
  have hsteps : (propagateDelete .transport item stamps t).2 = publishedIn t m Domain.all := by
    rw [propagateDelete, propagate_eq, hm]
    exact snd_steps_transport hf hall fun d _ => ⟨rfl, rfl⟩
  intro d
  rw [hsteps, ← hkey d]
  exact (records_publishedIn h hnumbered (h.failing.symm.trans hf) m hall d).2 (Domain.mem_all d)

/-- So it is over HTTP, whatever spelling names the item. -/
theorem deletedUnder_respond {τ : Type} {c : Composite Transport τ}
    (hcarrier : c.carrier = Carrier.transport) {n : Nat} {ops : List Operation}
    (stamps : Stamps) (now : Instant) {r : Request} {raw : String} {item : ItemId}
    (hr : IsDelete r raw) (hitem : itemIdOf raw = .ok item) {s : Composite.State Transport τ}
    (hs : s.carrier = (Transport.empty n).run ops) (hf : s.carrier.failing = false) :
    DeletedUnder s.carrier (respond (c.backend stamps) r now s).2.carrier item.partitionKey := by
  have hcall : (c.delete item stamps s).2.carrier =
      (propagateDelete .transport item stamps s.carrier).2 := by
    rw [← hcarrier]
    exact (Write.call_alike c.carrier.alike_counted (.delete item) stamps
      (s := (s.metrics, s.carrier)) (t := s.carrier) rfl).2
  have hrespond : (respond (c.backend stamps) r now s).2.carrier =
      (propagateDelete .transport item stamps s.carrier).2 := by
    rw [respond_delete hr, hitem]
    exact (carrier_writeResponse c stamps .deletes r.path now (c.delete item stamps s)).trans hcall
  have hrefines : Refines s.carrier ((Ledger.empty (max n 1)).run ops) := hs ▸ refines_run n ops
  rw [hrespond]
  exact deletedUnder_propagateDelete hrefines (Numbered.run (l := .empty (max n 1)) rfl ops) hf
    item stamps

/-- **Every spelling of an item id leads to one key.** Which texts are item ids is as it is said;
    the key of an item is its canonical text. Deletes through two texts that are item ids are
    published under one key if the texts denote one number, and then in one partition; otherwise
    they are published under two. -/
theorem spellings :
    (∀ raw, ReadAsItem raw) ∧ (∀ item, Keyed item) ∧
    ∀ {τ : Type} (c : Composite Transport τ), c.carrier = Carrier.transport →
    ∀ (n : Nat) (ops ops' : List Operation) (stamps stamps' : Stamps)
      (now now' : Instant) (r r' : Request) (raw raw' : String) (item item' : ItemId)
      (s s' : Composite.State Transport τ),
      IsDelete r raw → itemIdOf raw = .ok item → IsDelete r' raw' → itemIdOf raw' = .ok item' →
      s.carrier = (Transport.empty n).run ops → s.carrier.failing = false →
      s'.carrier = (Transport.empty n).run ops' → s'.carrier.failing = false →
      ∀ d d' : Domain, ∃ rec rec' : Record,
        (respond (c.backend stamps) r now s).2.carrier.records d.topic =
          s.carrier.records d.topic ++ [rec] ∧
        (respond (c.backend stamps') r' now' s').2.carrier.records d'.topic =
          s'.carrier.records d'.topic ++ [rec'] ∧
        ((∃ n, Numeral raw.toList n ∧ Numeral raw'.toList n) ↔ rec.key = rec'.key) ∧
        (rec.key = rec'.key → rec.partition = rec'.partition) := by
  refine ⟨readAsItem, keyed, fun {τ} c hcarrier n ops ops' stamps stamps' now now' r r' raw raw' item
    item' s s' hr hitem hr' hitem' hs hf hs' hf' d d' => ?_⟩
  obtain ⟨rec, hkey, hpartition, hrecords⟩ :=
    deletedUnder_respond hcarrier stamps now hr hitem hs hf d
  obtain ⟨rec', hkey', hpartition', hrecords'⟩ :=
    deletedUnder_respond hcarrier stamps' now' hr' hitem' hs' hf' d'
  have hpartitions (ops : List Operation) : ((Transport.empty n).run ops).partitions = max n 1 :=
    (refines_run n ops).partitions.trans (Ledger.run_partitions _ ops)
  have hsize : s.carrier.partitions = s'.carrier.partitions := by
    rw [hs, hs', hpartitions, hpartitions]
  refine ⟨rec, rec', hrecords, hrecords', ?_, fun hsame => ?_⟩
  · rw [hkey, hkey']
    constructor
    · rintro ⟨k, hk, hk'⟩
      have hval : (item.val : Int) = item'.val :=
        ((itemIdOf_ok_iff.mp hitem).unique hk).trans (hk'.unique (itemIdOf_ok_iff.mp hitem'))
      rw [(keyed item).canonical, (keyed item').canonical, Int.ofNat.inj hval]
    · intro hsame
      have hitems : item = item' := (keyed item').own item hsame
      exact ⟨item.val, itemIdOf_ok_iff.mp hitem, hitems ▸ itemIdOf_ok_iff.mp hitem'⟩
  · rw [hpartition, hpartition', ← hkey, ← hkey', hsame, Transport.partitionFor,
      Transport.partitionFor, hsize]

/-- Deletes of item 7 under two spellings. -/
theorem spellings_plus_zeros :
    let c : Composite Transport LocalServices :=
      ⟨"localhost:7000", .of 3 0, .transport, LocalServices.calls, LocalServices.called, fun _ => ""⟩
    let now : Instant := ⟨⟨2024, 1, 1, by decide⟩, ⟨0, 0, 0, 0, by decide, by decide, by decide,
      by decide, by decide⟩⟩
    let r : Request := ⟨"DELETE", "/aggregate/%2B007", [], []⟩
    let r' : Request := ⟨"DELETE", "/aggregate/7", [], []⟩
    let s : Composite.State Transport LocalServices := ⟨.zero, .empty 3, .empty, 0⟩
    c.carrier = Carrier.transport ∧ IsDelete r "+007" ∧ IsDelete r' "7" ∧
      itemIdOf "+007" = .ok ⟨7, by decide, by decide⟩ ∧
      itemIdOf "7" = .ok ⟨7, by decide, by decide⟩ ∧
      s.carrier = (Transport.empty 3).run [] ∧ s.carrier.failing = false ∧
      ∃ rec rec' : Record,
        (respond (c.backend now) r now s).2.carrier.records "reviews" = [rec] ∧
        (respond (c.backend now) r' now s).2.carrier.records "reviews" = [rec'] ∧
        rec.key = rec'.key ∧ rec.partition = rec'.partition := by
  intro c now r r' s
  have hr : IsDelete r "+007" :=
    ⟨rfl, "%2B007", by decide +kernel, by decide, by decide, by decide +kernel⟩
  have hr' : IsDelete r' "7" :=
    ⟨rfl, "7", by decide +kernel, by decide, by decide, by decide +kernel⟩
  have hitem : itemIdOf "+007" = .ok ⟨7, by decide, by decide⟩ := by decide +kernel
  have hitem' : itemIdOf "7" = .ok ⟨7, by decide, by decide⟩ := by decide +kernel
  obtain ⟨rec, rec', hrecords, hrecords', hkey, hpartition⟩ :=
    spellings.2.2 c rfl 3 [] [] now now now now r r' "+007" "7" _ _ s s hr hitem hr' hitem' rfl
      rfl rfl rfl .review .review
  have hnone : s.carrier.records Domain.review.topic = [] := by decide +kernel
  rw [hnone] at hrecords hrecords'
  have hsame : rec.key = rec'.key :=
    hkey.mp ⟨7, (itemIdOf_ok_iff.mp hitem), (itemIdOf_ok_iff.mp hitem')⟩
  exact ⟨rfl, hr, hr', hitem, hitem', rfl, rfl, rec, rec', hrecords, hrecords', hsame,
    hpartition hsame⟩

end Http

end Catalogue
