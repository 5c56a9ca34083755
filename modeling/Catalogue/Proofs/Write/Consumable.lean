import Catalogue.Proofs.Consumer.Poll
import Catalogue.Proofs.Write.Carriers

/-!
# What is written can be consumed

Writes are made in any number and at any time, valid or not. Each of their hand-overs may be refused
in front of the transport or by it, so that any part of a write may be missing in the end. What does
arrive is an event that the consumers of its topic understand and apply.

* `Domain.Proper` -- an entity as a valid request has it (`proper_of_mem_entities`);
* `Message.Consumable` -- a message that consumers understand (`consumable_of_mem_messages`: all
  messages of writes are such), `process_of_consumable` -- they apply it;
* `Supply` -- calls on their way, the transport, and the stores that are fed from it;
  `Supply.Event` -- what can happen next;
* `Stocked` -- a transport that holds consumable messages only, `Supply.Sound` -- the invariant
  (`sound_run`);
* `Kept` -- a record in its place; `consumable_run` -- every record in every run, and every poll.
-/

namespace Catalogue

/-! ## 1. Entities of valid requests -/

/-- **An entity as a valid request has it**: within the bounds of its domain, and without the address
    of an instance. -/
def Domain.Proper : (d : Domain) → d.Carried → Prop
  | .product => fun (p : Product) =>
    (∃ c ∈ p.name.toList, isBlank c = false) ∧ 0 ≤ p.weight.toInt ∧ p.serviceAddress = none
  | .recommendation => fun (r : Recommendation) =>
    1 ≤ r.recommendationId.toInt ∧ 0 ≤ r.rating.toInt ∧ r.rating.toInt ≤ 5 ∧
      r.serviceAddress = none
  | .review => fun (r : Review) => 1 ≤ r.reviewId.toInt ∧ r.serviceAddress = none

/-- **All entities of a valid request are within their bounds.** -/
theorem proper_of_mem_entities {r : CreateRequest} {w : AggregateWrite} (h : r.toWrite = .ok w)
    (d : Domain) {a : d.Carried} (ha : a ∈ w.entities d) : d.Proper a := by
  have hvalid := CreateRequest.valid_of_toWrite h
  obtain ⟨item, -, rfl⟩ := CreateRequest.of_toWrite h
  cases d with
  | product =>
    rw [List.mem_singleton.mp ha]
    exact ⟨hvalid.name, hvalid.weight, rfl⟩
  | recommendation =>
    obtain ⟨x, hx, rfl⟩ := List.mem_map.mp ha
    obtain ⟨hid, hlow, hhigh⟩ := hvalid.recommendations x hx
    exact ⟨hid, hlow, hhigh, rfl⟩
  | review =>
    obtain ⟨x, hx, rfl⟩ := List.mem_map.mp ha
    exact ⟨hvalid.reviews x hx, rfl⟩

/-! ## 2. Messages that consumers understand -/

/-- **A message that the consumers of a domain understand**: an event of the domain under the key of
    its item. An entity that it creates belongs to that item, and is proper. -/
def Message.Consumable (d : Domain) (m : Message) : Prop :=
  ∃ e : ChangeEvent d.Carried, (Json.Codec.changeEvent d.codec).decode m.payload = .ok e ∧
    m.key = decimalText e.key.val ∧
    ∀ a, e.action = .create a → Entity.itemId a = e.key ∧ d.Proper a

/-- **All messages of writes are consumable.** A delete is written without knowing of the entities,
    and is understood all the same. -/
theorem consumable_of_mem_messages (w : Write) (stamps : Stamps) {d : Domain} {m : Message}
    (hm : m ∈ w.messages stamps d) : m.Consumable d := by
  cases w with
  | create request =>
    cases hw : request.toWrite with
    | error v =>
      simp only [Write.messages, hw] at hm
      exact absurd hm List.not_mem_nil
    | ok aw =>
      simp only [Write.messages, hw, createMessages_eq] at hm
      obtain ⟨a, ha, now, rfl⟩ := exists_of_mem_creations hm
      refine ⟨⟨aw.itemId, .create a, now⟩, ?_, rfl, ?_⟩
      · exact (Json.faithful_changeEvent d.faithful_codec).decode_encode (by decide) _
      · rintro _ ⟨⟩
        exact ⟨itemId_of_mem_entities hw d ha, proper_of_mem_entities hw d ha⟩
  | delete item =>
    obtain rfl := List.mem_singleton.mp hm
    refine ⟨⟨item, .delete, stamps.of d 0⟩,
      Json.decode_delete d.codec Json.Codec.unit item (stamps.of d 0), rfl, ?_⟩
    rintro _ ⟨⟩

/-- A payload from the topic of a domain is applied to one of the three stores. -/
theorem exists_process_eq (d : Domain) : ∃ get set,
    Stores.process d = processPayload d.codec (StoreAccess.local_.within get set) := by
  cases d with
  | product => exact ⟨_, _, rfl⟩
  | recommendation => exact ⟨_, _, rfl⟩
  | review => exact ⟨_, _, rfl⟩

/-- **Stores apply what is consumable**, whatever they hold. -/
theorem process_of_consumable {d : Domain} {m : Message} (hm : m.Consumable d) (s : Stores) :
    (Stores.process d m.payload s).1 = .ok () := by
  obtain ⟨e, hdecode, -, hcreate⟩ := hm
  obtain ⟨get, set, hprocess⟩ := exists_process_eq d
  simp only [hprocess, processPayload, hdecode, applyEvent]
  cases haction : e.action with
  | create a =>
    simp only [if_pos (hcreate a haction).1]
    rfl
  | delete => rfl

/-- No record fails that processing always applies. -/
theorem failed_tally_eq_zero {σ : Type} {process : Processing σ} {rs : List Record}
    (h : ∀ r ∈ rs, ∀ s, (process r.payload s).1 = .ok ()) (s : σ) :
    (tally process rs s).failed = 0 := by
  induction rs generalizing s with
  | nil => rfl
  | cons r rs ih =>
    have hrest := ih (fun r' hr' => h r' (List.mem_cons_of_mem r hr')) (process r.payload s).2
    simp only [tally, outcomes, List.countP_cons, h r List.mem_cons_self] at hrest ⊢
    rw [hrest]
    rfl

/-! ## 3. Runs -/

/-- Calls on their way, the transport that they hand to, and the stores that are fed from it. -/
structure Supply where
  calls : List Propagation
  transport : Transport
  stores : Stores

namespace Supply

/-- What can happen next. -/
inductive Event : Type 1 where
  /-- A call is made at a stroke. There is a gate in front of the transport. -/
  | call {γ : Type} (gate : Gate γ) (g : γ) (write : Write) (stamps : Stamps)
  /-- A call begins. -/
  | issue (write : Write) (stamps : Stamps)
  /-- A call hands over its next message in a domain, if it has one. The message is refused in front
      of the transport, or passed on. -/
  | handOver (call : Nat) (domain : Domain) (refusal : Option Refusal)
  /-- Records of a partition are released. -/
  | commit (topic : String) (partition offset : Nat)
  /-- The transport begins to fail, or works again. -/
  | setFailing (on : Bool)
  /-- A consumer polls a partition from a position on. -/
  | poll (domain : Domain) (partition position : Nat)

/-- No calls, an empty transport and stores without entities. -/
def start (partitions : Nat) : Supply := ⟨[], .empty partitions, .empty⟩

/-- The next hand-over of a call in a domain. -/
def handOver (s : Supply) (i : Nat) (d : Domain) (refusal : Option Refusal) : Supply :=
  match s.calls[i]? with
  | none => s
  | some p =>
    let (p, _, transport) := p.step (Carrier.transport.gated fun r _ _ _ => (r, r)) d
      (refusal, s.transport)
    { s with calls := s.calls.set i p, transport }

/-- What an event does. -/
def step (s : Supply) : Event → Supply
  | .call gate g w stamps =>
    { s with transport := (w.call (Carrier.transport.gated gate) stamps (g, s.transport)).2.2 }
  | .issue w stamps => { s with calls := s.calls ++ [.start (w.messages stamps)] }
  | .handOver i d refusal => s.handOver i d refusal
  | .commit topic partition offset =>
    { s with transport := (s.transport.commit topic partition offset).1 }
  | .setFailing on => { s with transport := s.transport.setFailing on }
  | .poll d partition position =>
    let (_, _, transport, stores) :=
      (⟨d.topic, partition, position⟩ : Consumer).poll (Stores.process d) s.transport s.stores
    { s with transport, stores }

/-- Event after event. -/
def run (s : Supply) (events : List Event) : Supply := events.foldl step s

end Supply

/-! ## 4. The invariant -/

/-- A transport that holds consumable messages only, on the topics of the domains. -/
def Stocked (t : Transport) : Prop :=
  ∃ l, Refines t l ∧ ∀ (d : Domain), ∀ m ∈ l.messages d.topic, m.Consumable d

/-- A write that has consumable messages only to hand over. -/
def Propagation.Stocked (p : Propagation) : Prop :=
  ∀ (d : Domain), ∀ m ∈ p.pending d, m.Consumable d

theorem Propagation.stocked_start (w : Write) (stamps : Stamps) :
    (Propagation.start (w.messages stamps)).Stocked :=
  fun _ _ hm => consumable_of_mem_messages w stamps hm

/-- What is left after an answer was there before. -/
theorem Propagation.Stocked.answered {p : Propagation} (h : p.Stocked) {d : Domain} {m : Message}
    {rest : List Message} (hp : p.pending d = m :: rest) (answer : Except Refusal Unit) :
    (p.answered d rest answer).Stocked := by
  cases answer with
  | error r => exact h
  | ok u =>
    intro e m' hm'
    by_cases he : e = d
    · subst he
      have hrest : m' ∈ rest := by simpa [Propagation.answered, Propagation.set] using hm'
      exact h e m' (hp ▸ List.mem_cons_of_mem m hrest)
    · have hsame : m' ∈ p.pending e := by
        simpa [Propagation.answered, Propagation.set, he] using hm'
      exact h e m' hsame

namespace Stocked

variable {t : Transport} {γ : Type}

theorem empty (n : Nat) : Stocked (.empty n) := ⟨.empty (max n 1), refines_empty n, nofun⟩

/-- What is published under a topic of a domain must be consumable there. -/
theorem take {l : Ledger} (h : ∀ (d : Domain), ∀ m ∈ l.messages d.topic, m.Consumable d)
    {d : Domain} {m : Message} (hm : m.Consumable d) (answer : Except Refusal Unit) (e : Domain) :
    ∀ m' ∈ (l.take ⟨d.topic, m, answer⟩).messages e.topic, m'.Consumable e := by
  intro m' hm'
  cases answer with
  | error r => exact h e m' hm'
  | ok u =>
    have hpublish : m' ∈ (l.publish d.topic m.key m.payload).messages e.topic := hm'
    rw [l.messages_publish] at hpublish
    split at hpublish
    next htopic =>
      obtain rfl := Domain.topic_injective htopic
      rcases List.mem_append.mp hpublish with hold | hnew
      · exact h e m' hold
      · rw [List.mem_singleton.mp hnew]
        exact hm
    · exact h e m' hpublish

/-- **A hand-over keeps it**, whatever is refused. -/
theorem step (h : Stocked t) (gate : Gate γ) (g : γ) {p : Propagation} (hp : p.Stocked)
    (d : Domain) :
    let x := p.step (Carrier.transport.gated gate) d (g, t)
    x.1.Stocked ∧ Stocked x.2.2 := by
  intro x
  obtain ⟨l, hl, hmessages⟩ := h
  rcases hl.step_gated gate g p d with hself | ⟨m, rest, answer, -, hpending, hx, hnext⟩
  · have hx : x = (p, g, t) := hself
    rw [hx]
    exact ⟨hp, l, hl, hmessages⟩
  · have hm : m.Consumable d := hp d m (hpending ▸ List.mem_cons_self)
    refine ⟨?_, _, hnext, take hmessages hm answer⟩
    rw [show x.1 = _ from hx]
    exact hp.answered hpending answer

theorem steps (h : Stocked t) (gate : Gate γ) (g : γ) {p : Propagation} (hp : p.Stocked)
    (ds : List Domain) : Stocked (p.steps (Carrier.transport.gated gate) ds (g, t)).2.2 := by
  induction ds generalizing p g t with
  | nil => exact h
  | cons d ds ih =>
    obtain ⟨hnext, htransport⟩ := h.step gate g hp d
    exact ih htransport _ hnext

theorem commit (h : Stocked t) (topic : String) (partition offset : Nat) :
    Stocked (t.commit topic partition offset).1 := by
  obtain ⟨l, hl, hmessages⟩ := h
  exact ⟨_, hl.commit topic partition offset, hmessages⟩

theorem setFailing (h : Stocked t) (on : Bool) : Stocked (t.setFailing on) := by
  obtain ⟨l, hl, hmessages⟩ := h
  exact ⟨_, hl.apply (.setFailing on), hmessages⟩

/-- A poll does no more to the transport than a commit. -/
theorem poll (h : Stocked t) {σ : Type} (process : Processing σ) (c : Consumer) (s : σ) :
    Stocked (c.poll process t s).2.2.1 := by
  simp only [Consumer.poll]
  split
  · exact h
  · exact h.commit _ _ _

end Stocked

namespace Supply

/-- **Everything that is on its way is consumable**, and so is everything that has arrived. -/
structure Sound (s : Supply) : Prop where
  calls : ∀ p ∈ s.calls, p.Stocked
  transport : Stocked s.transport

namespace Sound

variable {s : Supply}

theorem handOver (h : Sound s) (i : Nat) (d : Domain) (refusal : Option Refusal) :
    Sound (s.handOver i d refusal) := by
  unfold Supply.handOver
  cases hp : s.calls[i]? with
  | none => exact h
  | some p =>
    obtain ⟨hnext, htransport⟩ := h.transport.step (fun r _ _ _ => (r, r)) refusal
      (h.calls p (List.mem_of_getElem? hp)) d
    refine ⟨fun q hq => ?_, htransport⟩
    rcases List.mem_or_eq_of_mem_set hq with hold | rfl
    · exact h.calls q hold
    · exact hnext

/-- **Every event keeps the invariant.** -/
theorem step (h : Sound s) (event : Event) : Sound (s.step event) := by
  cases event with
  | call gate g w stamps =>
    refine ⟨h.calls, ?_⟩
    show Stocked (w.call (Carrier.transport.gated gate) stamps (g, s.transport)).2.2
    rw [w.snd_call]
    exact h.transport.steps gate g (Propagation.stocked_start w stamps) _
  | issue w stamps =>
    refine ⟨fun p hp => ?_, h.transport⟩
    rcases List.mem_append.mp hp with hold | hnew
    · exact h.calls p hold
    · rw [List.mem_singleton.mp hnew]
      exact Propagation.stocked_start w stamps
  | handOver i d refusal => exact h.handOver i d refusal
  | commit topic partition offset => exact ⟨h.calls, h.transport.commit topic partition offset⟩
  | setFailing on => exact ⟨h.calls, h.transport.setFailing on⟩
  | poll d partition position =>
    exact ⟨h.calls, h.transport.poll (Stores.process d) ⟨d.topic, partition, position⟩ s.stores⟩

theorem run (h : Sound s) (events : List Event) : Sound (s.run events) := by
  induction events generalizing s with
  | nil => exact h
  | cons event events ih => exact ih (h.step event)

end Sound

/-- **The invariant holds in every run.** -/
theorem sound_run (n : Nat) (events : List Event) : Sound ((start n).run events) :=
  Sound.run ⟨fun _ hp => absurd hp List.not_mem_nil, .empty n⟩ events

end Supply

/-! ## 5. Records and polls -/

/-- The records of a topic are those of its partitions. -/
theorem Transport.mem_records_iff {t : Transport} {topic : String} {r : Record} :
    r ∈ t.records topic ↔ ∃ partition, r ∈ t.read topic partition 0 := by
  rw [records, List.mem_mergeSort, List.mem_flatMap]
  constructor
  · rintro ⟨log, hlog, hr⟩
    obtain ⟨partition, hpartition⟩ := List.mem_iff_getElem?.mp hlog
    refine ⟨partition, ?_⟩
    simpa only [read, hpartition, PartitionLog.readFrom, Nat.zero_sub, List.drop_zero] using hr
  · rintro ⟨partition, hr⟩
    cases hlog : (t.logsOf topic)[partition]? with
    | none =>
      simp only [read, hlog] at hr
      exact absurd hr List.not_mem_nil
    | some log =>
      refine ⟨log, List.mem_of_getElem? hlog, ?_⟩
      simpa only [read, hlog, PartitionLog.readFrom, Nat.zero_sub, List.drop_zero] using hr

/-- **A record in its place**: in the partition of its key, with an event that consumers
    understand. -/
structure Kept (t : Transport) (d : Domain) (r : Record) : Prop where
  found : r ∈ t.read d.topic r.partition 0
  partition : r.partition = t.partitionFor r.key
  event : Message.Consumable d ⟨r.key, r.payload⟩

namespace Stocked

variable {t : Transport}

theorem kept_of_mem_read (h : Stocked t) {d : Domain} {partition offset : Nat} {r : Record}
    (hr : r ∈ t.read d.topic partition offset) : Kept t d r := by
  obtain ⟨l, hl, hmessages⟩ := h
  rw [hl.read_eq] at hr
  obtain ⟨i, hi⟩ := List.mem_iff_getElem?.mp (List.mem_of_mem_drop hr)
  obtain ⟨-, rfl, hkey⟩ := Ledger.place_of_getElem? hi
  have hmessage : (⟨r.key, r.payload⟩ : Message) ∈ l.messages d.topic := by
    have hlog : (⟨r.key, r.payload⟩ : Message) ∈
        (l.log d.topic r.partition).map fun r => (⟨r.key, r.payload⟩ : Message) :=
      List.mem_map_of_mem (List.mem_of_getElem? hi)
    rw [l.log_map_message] at hlog
    exact (List.mem_filter.mp hlog).1
  refine ⟨?_, ?_, hmessages d _ hmessage⟩
  · rw [hl.read_eq, Nat.zero_max]
    exact (List.drop_subset_drop_left _ (Nat.le_max_right _ _)) hr
  · rw [Transport.partitionFor, hl.partitions, hkey]

/-- No poll of a stocked transport meets a record that fails. -/
theorem failed_poll_eq_zero (h : Stocked t) (d : Domain) (partition position : Nat)
    (stores : Stores) :
    ((⟨d.topic, partition, position⟩ : Consumer).poll (Stores.process d) t stores).2.1.failed =
      0 := by
  have hfailed : (tally (Stores.process d) (t.read d.topic partition position) stores).failed = 0 :=
    failed_tally_eq_zero (fun r hr s => process_of_consumable (h.kept_of_mem_read hr).event s) stores
  simp only [Consumer.poll, Consumer.handleAll_eq]
  show 0 + _ = 0
  rw [hfailed]

end Stocked

namespace Supply

/-- **Everything that is written can be consumed.** After any calls, at a stroke or with hand-overs
    at any time, with any refusals, failures, releases and polls: every record on the topic of a
    domain is in the partition of its key and holds an event of the domain under the key of its
    item; what it creates belongs to that item, is within the bounds of its domain and has no
    address. So no poll reports a record that failed, from any position and for any stores. -/
theorem consumable_run (n : Nat) (events : List Event) (d : Domain) :
    let t := ((start n).run events).transport
    (∀ r ∈ t.records d.topic, Kept t d r) ∧
    ∀ (partition position : Nat) (stores : Stores),
      ((⟨d.topic, partition, position⟩ : Consumer).poll (Stores.process d) t stores).2.1.failed =
        0 := by
  intro t
  have hstocked : Stocked t := (sound_run n events).transport
  constructor
  · intro r hr
    obtain ⟨partition, hread⟩ := Transport.mem_records_iff.mp hr
    exact hstocked.kept_of_mem_read hread
  · exact hstocked.failed_poll_eq_zero d

/-- A create in parts: the second recommendation is refused in front of the transport, and the review
    by the transport. -/
example :
    let request : CreateRequest := ⟨7, "lamp", 3,
      some [⟨1, "ann", 5, "fine"⟩, ⟨2, "ben", 0, "dim"⟩], some [⟨1, "ann", "lamp", "good"⟩]⟩
    let now : Instant := ⟨⟨2024, 1, 1, by decide⟩, ⟨0, 0, 0, 0, by decide, by decide, by decide,
      by decide, by decide⟩⟩
    let t := ((start 4).run [.issue (.create request) now, .handOver 0 .recommendation none,
      .handOver 0 .product none, .handOver 0 .recommendation (some ⟨"recommendations", "full"⟩),
      .setFailing true, .handOver 0 .review none]).transport
    Domain.all.map (fun d => t.recordCount d.topic) = [1, 1, 0] := by
  decide +kernel

end Supply

end Catalogue
