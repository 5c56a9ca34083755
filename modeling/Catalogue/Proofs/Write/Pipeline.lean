import Catalogue.Deployment
import Catalogue.Proofs.Consumer.Progress
import Catalogue.Proofs.Write.Effects

/-!
# Writes on their way to the stores

A composite service hands the messages of its writes to a transport, and consumers, one per topic
and partition, carry them on to three stores. Writes come one after another, but a consumer may poll
at any time, also between two messages of one write.

* `Pipeline` -- the service with its transport, its consumers and its stores;
* `Pipeline.Runs` -- where any order of calls and polls can lead, with the writes that were made;
* `Ledger.messages`, `Ledger.released` -- what was accepted on a topic, and what of a partition has
  been carried on;
* `Pipeline.Accounts` -- the invariant: every message is pending or accepted, and a store is what the
  released messages make of it;
* `accounts_start`, `Accounts.issue`, `Accounts.handOver`, `Accounts.call` -- it holds at the beginning
  and is kept by writes; polls are dealt with in the next file.
-/

namespace Catalogue

/-- A composite service, a transport, and consumers that feed a store per domain. -/
structure Pipeline where
  /-- The write that is under way, or the last one that was. -/
  propagation : Propagation
  transport : Transport
  consumers : List (Domain × Consumer)
  stores : Stores

namespace Pipeline

/-! ## 1. Runs -/

/-- A pipeline in which nothing has happened: a consumer for every topic and partition, each at the
    beginning, and stores without entities. -/
def start (partitions : Nat) : Pipeline where
  propagation := .start fun _ => []
  transport := .empty partitions
  consumers := Deployment.allConsumers (Transport.empty partitions).partitions
  stores := .empty

/-- Whether no write is under way. -/
def Idle (s : Pipeline) : Prop := ∀ d, s.propagation.settled d = true

/-- A call from beginning to end. -/
def call (s : Pipeline) (w : Write) (stamps : Stamps) : Pipeline :=
  { s with transport := (w.call Carrier.transport stamps s.transport).2 }

/-- The beginning of a call, before it hands over anything. -/
def issue (s : Pipeline) (w : Write) (stamps : Stamps) : Pipeline :=
  { s with propagation := .start (w.messages stamps) }

/-- The next hand-over of a domain in the call that is under way. -/
def handOver (s : Pipeline) (d : Domain) : Pipeline :=
  let (propagation, transport) := s.propagation.step Carrier.transport d s.transport
  { s with propagation, transport }

/-- A poll of the consumer with a number, if there is one. -/
def poll (s : Pipeline) (i : Nat) : Pipeline :=
  match s.consumers[i]? with
  | none => s
  | some (d, c) =>
    let (c, _, transport, stores) := c.poll (Stores.process d) s.transport s.stores
    { s with consumers := s.consumers.set i (d, c), transport, stores }

/-- **Where calls and polls can lead**, and the writes that were made on the way. A call comes when
    no other is under way; it is made at a stroke, or it is issued and then hands over its messages
    one by one, the domains in any order, with polls in between. -/
inductive Runs (partitions : Nat) : List (Write × Stamps) → Pipeline → Prop where
  | start : Runs partitions [] (.start partitions)
  | call {ws : List (Write × Stamps)} {s : Pipeline} (h : Runs partitions ws s) (idle : s.Idle)
      (w : Write) (stamps : Stamps) : Runs partitions (ws ++ [(w, stamps)]) (s.call w stamps)
  | issue {ws : List (Write × Stamps)} {s : Pipeline} (h : Runs partitions ws s) (idle : s.Idle)
      (w : Write) (stamps : Stamps) : Runs partitions (ws ++ [(w, stamps)]) (s.issue w stamps)
  | handOver {ws : List (Write × Stamps)} {s : Pipeline} (h : Runs partitions ws s) (d : Domain) :
      Runs partitions ws (s.handOver d)
  | poll {ws : List (Write × Stamps)} {s : Pipeline} (h : Runs partitions ws s) (i : Nat) :
      Runs partitions ws (s.poll i)

/-- A consumer as it was when it started. -/
def origin (e : Domain × Consumer) : Domain × Consumer := (e.1, ⟨e.2.topic, e.2.partition, 0⟩)

theorem mem_allConsumers {n : Nat} {e : Domain × Consumer} :
    e ∈ Deployment.allConsumers n ↔ ∃ p < n, ∃ d : Domain, e = (d, ⟨d.topic, p, 0⟩) := by
  simp only [Deployment.allConsumers, List.mem_flatMap, List.mem_range, List.mem_map]
  constructor
  · rintro ⟨p, hp, d, -, rfl⟩
    exact ⟨p, hp, d, rfl⟩
  · rintro ⟨p, hp, d, rfl⟩
    exact ⟨p, hp, d, d.mem_all, rfl⟩

end Pipeline

/-! ## 2. Messages in the ledger -/

namespace Ledger

/-- The messages that were accepted on a topic. -/
def messages (l : Ledger) (topic : String) : List Message :=
  (l.accepted.filter fun a => a.topic == topic).map fun a => ⟨a.key, a.payload⟩

/-- The records of a partition that have been released. -/
def released (l : Ledger) (topic : String) (partition : Nat) : List Record :=
  (l.log topic partition).take (l.base topic partition)

/-- The partition of an item's messages. -/
def home (l : Ledger) (k : ItemId) : Nat := partitionOf l.partitions k.partitionKey

theorem messages_publish (l : Ledger) (topic key : String) (payload : Bytes) (t : String) :
    (l.publish topic key payload).messages t =
      if t = topic then l.messages t ++ [⟨key, payload⟩] else l.messages t := by
  simp only [messages, publish, List.filter_append]
  by_cases h : t = topic
  · simp [h]
  · simp [h, Ne.symm h]

theorem released_publish (l : Ledger) (hb : l.Bounded) (topic key : String) (payload : Bytes)
    (t : String) (p : Nat) :
    (l.publish topic key payload).released t p = l.released t p := by
  have hbase : (l.publish topic key payload).base t p = l.base t p := rfl
  rw [released, released, log_publish, hbase]
  split
  · rw [List.take_append_of_le_length (by rw [length_log]; exact hb t p)]
  · rfl

/-- What remains to be released. -/
theorem released_append_drop (l : Ledger) (topic : String) (partition : Nat) :
    l.released topic partition ++ (l.log topic partition).drop (l.base topic partition) =
      l.log topic partition := List.take_append_drop _ _

/-- A commit at the end of a partition releases all of it. -/
theorem released_commit_end (l : Ledger) (hb : l.Bounded) (topic : String) (partition : Nat)
    (t : String) (p : Nat) :
    (l.commit topic partition (l.endOffset topic partition)).released t p =
      if t = topic ∧ p = partition then l.log t p else l.released t p := by
  rw [released, log_commit]
  by_cases h : t = topic ∧ p = partition
  · obtain ⟨rfl, rfl⟩ := h
    rw [if_pos ⟨rfl, rfl⟩, base_commit_self, committed, Nat.min_self, Nat.max_eq_right (hb t p),
      List.take_of_length_le (Nat.le_of_eq (l.length_log t p))]
  · rw [if_neg h, released]
    simp [commit, h]

/-- **The log of a partition holds the messages of its topic whose key belongs to it.** -/
theorem log_map_message (l : Ledger) (topic : String) (partition : Nat) :
    (l.log topic partition).map (fun r => (⟨r.key, r.payload⟩ : Message)) =
      (l.messages topic).filter fun m => partitionOf l.partitions m.key == partition := by
  have hmap : (l.log topic partition).map (fun r => (⟨r.key, r.payload⟩ : Message)) =
      (l.appended topic partition).map fun a => ⟨a.key, a.payload⟩ := by
    refine List.ext_getElem? fun i => ?_
    rw [List.getElem?_map, getElem?_log, List.getElem?_map, Option.map_map]
    rfl
  rw [hmap, messages, List.filter_map, List.filter_filter, appended]
  congr 1
  refine List.filter_congr fun a _ => ?_
  rw [Bool.and_comm]
  rfl

end Ledger

/-- The messages of writes on the topic of a domain. -/
def Write.allMessages (ws : List (Write × Stamps)) (d : Domain) : List Message :=
  ws.flatMap fun w => w.1.messages w.2 d

theorem Write.allMessages_concat (ws : List (Write × Stamps)) (w : Write) (stamps : Stamps)
    (d : Domain) :
    allMessages (ws ++ [(w, stamps)]) d = allMessages ws d ++ w.messages stamps d := by
  simp [allMessages]

/-! ## 3. The invariant -/

namespace Pipeline

/-- **Every message is accounted for**: `l` is the ledger of the transport, and `ws` are the writes
    that were made. -/
structure Accounts (ws : List (Write × Stamps)) (s : Pipeline) (l : Ledger) : Prop where
  refines : Refines s.transport l
  accepting : l.failing = false
  refused : ∀ d, s.propagation.refused d = none
  /-- The messages of the writes were accepted, up to those that are pending. -/
  traffic : ∀ d : Domain, l.messages d.topic ++ s.propagation.pending d = Write.allMessages ws d
  /-- The consumers are those that were started, up to their positions. -/
  wired : s.consumers.map origin = Deployment.allConsumers l.partitions
  /-- No consumer is past the mark of its partition. One that lags behind reads from the mark on all
      the same, so it does not matter how far it lags. -/
  behind : ∀ e ∈ s.consumers, e.2.position ≤ l.base e.2.topic e.2.partition
  /-- The list of an item is what the released records of its partition make of it. -/
  stores : ∀ (d : Domain) (k : ItemId), (s.stores.of d).find k =
    Store.amendAll ((l.released d.topic (l.home k)).map fun r => Store.effectOn d.codec k r.payload)
      []

theorem accounts_start (n : Nat) : Accounts [] (.start n) (.empty (max n 1)) where
  refines := refines_empty n
  accepting := rfl
  refused _ := rfl
  traffic _ := rfl
  wired := by
    have hself : ∀ e ∈ Deployment.allConsumers (max n 1), origin e = e := by
      intro e he
      obtain ⟨p, -, d, rfl⟩ := mem_allConsumers.mp he
      rfl
    exact (List.map_congr_left hself).trans (List.map_id _)
  behind e he := by
    obtain ⟨p, -, d, rfl⟩ := mem_allConsumers.mp he
    exact Nat.zero_le _
  stores d k := by
    have hempty : (Stores.of .empty d).find k = [] := by
      cases d with
      | product => rfl
      | recommendation => rfl
      | review => rfl
    exact hempty

namespace Accounts

variable {ws : List (Write × Stamps)} {s : Pipeline} {l : Ledger}

theorem pending_of_idle (h : Accounts ws s l) (idle : s.Idle) (d : Domain) :
    s.propagation.pending d = [] := by
  have hsettled := idle d
  rw [Propagation.settled, h.refused d] at hsettled
  simpa using hsettled

theorem issue (h : Accounts ws s l) (idle : s.Idle) (w : Write) (stamps : Stamps) :
    Accounts (ws ++ [(w, stamps)]) (s.issue w stamps) l where
  refines := h.refines
  accepting := h.accepting
  refused _ := rfl
  traffic d := by
    have htraffic := h.traffic d
    rw [h.pending_of_idle idle d, List.append_nil] at htraffic
    rw [Write.allMessages_concat, ← htraffic]
    rfl
  wired := h.wired
  behind := h.behind
  stores := h.stores

/-- A domain that has nothing pending hands over nothing. -/
theorem handOver_of_nil (h : Accounts ws s l) {d : Domain} (hp : s.propagation.pending d = []) :
    s.handOver d = s := by
  simp [Pipeline.handOver, Propagation.step, h.refused d, hp]

/-- A message that is pending is accepted. -/
theorem handOver_of_cons (h : Accounts ws s l) {d : Domain} {m : Message} {rest : List Message}
    (hp : s.propagation.pending d = m :: rest) :
    s.handOver d =
      { s with
        propagation :=
          { s.propagation with pending := Propagation.set s.propagation.pending d rest }
        transport := (s.transport.publish d.topic m.key m.payload).2 } := by
  have hfst := h.refines.publish_fst d.topic m.key m.payload
  rw [h.accepting] at hfst
  have hpub : s.transport.publish d.topic m.key m.payload =
      (.ok (), (s.transport.publish d.topic m.key m.payload).2) := Prod.ext hfst rfl
  simp only [Pipeline.handOver, Propagation.step, h.refused d, hp, Carrier.transport]
  rw [hpub]

/-- The invariant follows a message from pending to accepted. -/
theorem publish (h : Accounts ws s l) {d : Domain} {m : Message} {rest : List Message}
    (hp : s.propagation.pending d = m :: rest) :
    Accounts ws (s.handOver d) (l.publish d.topic m.key m.payload) := by
  rw [h.handOver_of_cons hp]
  refine ⟨h.refines.publish h.accepting _ _ _, h.accepting, h.refused, fun e => ?_, h.wired,
    h.behind, fun e k => ?_⟩
  · have htraffic := h.traffic e
    rw [l.messages_publish]
    by_cases he : e = d
    · subst he
      rw [if_pos rfl, ← htraffic, hp]
      simp [Propagation.set]
    · rw [if_neg fun ht => he (Domain.topic_injective ht), ← htraffic]
      simp [Propagation.set, he]
  · rw [l.released_publish h.refines.bounded]
    exact h.stores e k

/-- **A hand-over moves one message from pending to accepted.** -/
theorem handOver (h : Accounts ws s l) (d : Domain) :
    ∃ l', Accounts ws (s.handOver d) l' ∧ l'.partitions = l.partitions ∧
      ∀ e, (s.handOver d).propagation.pending e =
        if e = d then (s.propagation.pending d).drop 1 else s.propagation.pending e := by
  cases hp : s.propagation.pending d with
  | nil =>
    rw [h.handOver_of_nil hp]
    refine ⟨l, h, rfl, fun e => ?_⟩
    by_cases he : e = d
    · rw [if_pos he, he, hp, List.drop_nil]
    · rw [if_neg he]
  | cons m rest =>
    refine ⟨l.publish d.topic m.key m.payload, h.publish hp, rfl, fun e => ?_⟩
    rw [h.handOver_of_cons hp]
    by_cases he : e = d
    · simp [Propagation.set, he]
    · simp [Propagation.set, he]

theorem handOvers (h : Accounts ws s l) (ds : List Domain) :
    ∃ l', Accounts ws (ds.foldl Pipeline.handOver s) l' ∧ l'.partitions = l.partitions ∧
      ∀ e, (ds.foldl Pipeline.handOver s).propagation.pending e =
        (s.propagation.pending e).drop (ds.count e) := by
  induction ds generalizing s l with
  | nil => exact ⟨l, h, rfl, fun _ => rfl⟩
  | cons d ds ih =>
    obtain ⟨l₁, h₁, hpart₁, hpending₁⟩ := h.handOver d
    obtain ⟨l₂, h₂, hpart₂, hpending₂⟩ := ih h₁
    refine ⟨l₂, h₂, hpart₂.trans hpart₁, fun e => ?_⟩
    rw [List.foldl_cons, hpending₂ e, hpending₁ e]
    by_cases he : e = d
    · rw [if_pos he, he, List.drop_drop, List.count_cons_self, Nat.add_comm]
    · rw [if_neg he, List.count_cons_of_ne (Ne.symm he)]

end Accounts

/-- Hand-overs in an order are the steps of the write in this order. -/
theorem foldl_handOver (ds : List Domain) (s : Pipeline) :
    ds.foldl handOver s =
      { s with
        propagation := (s.propagation.steps Carrier.transport ds s.transport).1
        transport := (s.propagation.steps Carrier.transport ds s.transport).2 } := by
  induction ds generalizing s with
  | nil => rfl
  | cons d ds ih =>
    rw [List.foldl_cons, ih]
    rfl

theorem count_inOrder (ms : Domain → List Message) (d : Domain) :
    (Propagation.inOrder ms).count d = (ms d).length := by
  cases d <;> simp [Propagation.inOrder, Domain.all, List.count_replicate]

namespace Accounts

variable {ws : List (Write × Stamps)} {s : Pipeline} {l : Ledger}

/-- **A call hands over all messages of its write.** -/
theorem call (h : Accounts ws s l) (idle : s.Idle) (w : Write) (stamps : Stamps) :
    ∃ l', Accounts (ws ++ [(w, stamps)]) (s.call w stamps) l' ∧ l'.partitions = l.partitions := by
  -- a call is an issue and all its hand-overs, but it keeps the propagation that was there before
  obtain ⟨l', h', hpart, hpending⟩ :=
    (h.issue idle w stamps).handOvers (Propagation.inOrder (w.messages stamps))
  rw [foldl_handOver] at h' hpending
  have htransport : (s.call w stamps).transport =
      ((s.issue w stamps).propagation.steps Carrier.transport
        (Propagation.inOrder (w.messages stamps)) (s.issue w stamps).transport).2 :=
    w.snd_call stamps Carrier.transport s.transport
  refine ⟨l', ⟨?_, h'.accepting, h.refused, fun d => ?_, h'.wired, h'.behind, h'.stores⟩, hpart⟩
  · rw [htransport]
    exact h'.refines
  · have htraffic := h'.traffic d
    have hdone := hpending d
    simp only at htraffic hdone
    rw [count_inOrder] at hdone
    have hissued : (s.issue w stamps).propagation.pending d = w.messages stamps d := rfl
    rw [hdone, hissued, List.drop_length, List.append_nil] at htraffic
    have hidle : (s.call w stamps).propagation.pending d = [] := h.pending_of_idle idle d
    rw [hidle, List.append_nil]
    exact htraffic

end Accounts

end Pipeline

end Catalogue
