import Catalogue.Transport.KeyHash
import Catalogue.Transport.Log

/-!
# The transport

Events are published on topics. Every topic has the same number of partitions, and a record goes to
the partition of its key, so records with one key keep their order. A topic exists from its first
accepted record on. All accepted records are numbered in one sequence.

* `Transport` -- the topics with their logs, the sequence, and a switch that makes publishing fail;
* `Refusal` -- why a record was not accepted;
* `Transport.publish`, `Transport.read`, `Transport.commit`, `Transport.records` -- the operations.
-/

namespace Catalogue

/-- A record that was not accepted. -/
structure Refusal where
  topic : String
  reason : String
  deriving DecidableEq, Repr

/-- The wording of a refusal. -/
def Refusal.message (r : Refusal) : String :=
  "Event transport unavailable for topic '" ++ r.topic ++ "': " ++ r.reason

/-- A topic: its name and the logs of its partitions, by number. -/
structure TopicLog where
  name : String
  logs : List PartitionLog
  deriving DecidableEq, Repr

/-- The state of a transport. -/
structure Transport where
  partitions : Nat
  topics : List TopicLog
  nextSequence : Nat
  failing : Bool
  partitions_pos : 0 < partitions
  deriving DecidableEq

namespace Transport

/-- A transport without topics; there is at least one partition. -/
def empty (partitions : Nat) : Transport where
  partitions := max partitions 1
  topics := []
  nextSequence := 0
  failing := false
  partitions_pos := by omega

/-- The partition of a key. -/
def partitionFor (t : Transport) (key : String) : Nat := partitionOf t.partitions key

/-- The logs of a topic, if it exists. -/
def logsOf (t : Transport) (topic : String) : List PartitionLog :=
  ((t.topics.find? fun l => l.name == topic).map TopicLog.logs).getD []

/-- The topics with one topic's logs changed; a topic that does not exist yet is added with
    `fresh` logs before that. -/
def updateTopic (topic : String) (fresh : List PartitionLog)
    (f : List PartitionLog → List PartitionLog) : List TopicLog → List TopicLog
  | [] => [⟨topic, f fresh⟩]
  | l :: rest =>
    if l.name = topic then ⟨l.name, f l.logs⟩ :: rest else l :: updateTopic topic fresh f rest

/-- Makes publishing fail, or work again. -/
def setFailing (t : Transport) (on : Bool) : Transport := { t with failing := on }

/-- Publishes a record, unless the transport fails. -/
def publish (t : Transport) (topic key : String) (payload : Bytes) :
    Except Refusal Unit × Transport :=
  if t.failing then (.error ⟨topic, "broker unreachable"⟩, t)
  else
    let partition := t.partitionFor key
    let append (log : PartitionLog) : PartitionLog :=
      log.append ⟨topic, partition, log.endOffset, t.nextSequence, key, payload⟩
    (.ok (),
      { t with
        topics := updateTopic topic (List.replicate t.partitions .empty)
          (fun logs => logs.modify partition append) t.topics
        nextSequence := t.nextSequence + 1 })

/-- The kept records of a partition from an offset on. -/
def read (t : Transport) (topic : String) (partition offset : Nat) : List Record :=
  match (t.logsOf topic)[partition]? with
  | some log => log.readFrom offset
  | none => []

/-- Releases the records of a partition below an offset, and says how many. -/
def commit (t : Transport) (topic : String) (partition offset : Nat) : Transport × Nat :=
  match (t.logsOf topic)[partition]? with
  | some log =>
    ({ t with
        topics := t.topics.map fun l =>
          if l.name = topic then { l with logs := l.logs.modify partition (·.commit offset |>.1) }
          else l },
      (log.commit offset).2)
  | none => (t, 0)

/-- The kept records of a topic, in the order of their acceptance. -/
def records (t : Transport) (topic : String) : List Record :=
  ((t.logsOf topic).flatMap PartitionLog.records).mergeSort fun a b => a.sequence ≤ b.sequence

/-- How many records of a topic are kept. -/
def recordCount (t : Transport) (topic : String) : Nat :=
  ((t.logsOf topic).map fun log => log.records.length).foldr (· + ·) 0

end Transport

end Catalogue
