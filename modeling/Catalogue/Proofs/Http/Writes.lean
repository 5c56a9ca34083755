import Catalogue.Deployment
import Catalogue.Proofs.Entity.Documents
import Catalogue.Proofs.Http.Relay
import Catalogue.Proofs.Text.Numeral
import Catalogue.Proofs.Write.Carriers

/-!
# Writes over HTTP

A write is asked for by a request. What the request stands for is settled before anything is handed
over: it cannot be read, or it breaks a rule, or it stands for events. Only in the last case are
messages handed over, and then the response says what became of them.

* `Composite.recorded` -- the composite service with a list of its attempts
  (`writeResponse_recorded`: the list makes no difference);
* `Composite.accounted_write` -- what was accepted, and what the caller gets;
* `IsCreate`, `IsDelete` -- the requests; `SaysJson`, `Buffered` -- those whose body is read;
* `Demands` -- what they stand for, read off the request and the rules;
* `createRequestOf_of_buffered` -- which bodies the interface decodes (`demands_create`,
  `demands_delete`: a request stands for just one thing);
* `Truthful` -- a response that says what became of the request (`Truthful.unreadable`,
  `Truthful.invalid`, `Truthful.events`: the responses that are made);
* `respond_cases` -- from the request to the response;
* `Reported`, `truthful_writes` -- the response to any of the requests, and the transport after it.
-/

namespace Catalogue

/-! ## 1. Attempts, domain by domain -/

namespace Attempt

/-- The attempts on a topic. -/
def on (as : List Attempt) (topic : String) : List Attempt := as.filter fun a => a.topic == topic

/-- The messages that were accepted on a topic, in their order. -/
def acceptedOn (as : List Attempt) (topic : String) : List Message :=
  (on as topic).filterMap accepted?

/-- The first refusal on a topic. -/
def refusalOn (as : List Attempt) (topic : String) : Option Refusal :=
  (on as topic).findSome? refusal?

/-- A refusal is found on the topic where it was made. -/
theorem refusalOn_ne_none {as : List Attempt} {a : Attempt} (ha : a ∈ as) {r : Refusal}
    (hr : a.answer = .error r) : refusalOn as a.topic ≠ none := by
  intro hnone
  have hon : a ∈ on as a.topic := List.mem_filter.mpr ⟨ha, beq_self_eq_true a.topic⟩
  have hself := List.findSome?_eq_none_iff.mp hnone a hon
  rw [refusal?, hr] at hself
  cases hself

theorem exists_of_refusalOn {as : List Attempt} {topic : String} {r : Refusal}
    (h : refusalOn as topic = some r) : ∃ a ∈ as, a.answer = .error r := by
  obtain ⟨a, ha, hr⟩ := List.exists_of_findSome?_eq_some h
  refine ⟨a, (List.mem_filter.mp ha).1, ?_⟩
  obtain ⟨t, m, answer⟩ := a
  cases answer with
  | ok u => cases hr
  | error r' => exact congrArg Except.error (Option.some.inj hr)

end Attempt

/-- A domain whose messages were all accepted was refused none. -/
theorem Trail.refusal_eq_none {topic : String} {ms : List Message} {n : Nat} {as : List Attempt}
    (h : Trail topic ms n as) (hall : as.filterMap Attempt.accepted? = ms) :
    as.findSome? Attempt.refusal? = none := by
  rcases h.cases_refusal with ⟨-, hnone, -⟩ | ⟨i, m, r, -, hm, -, -, hacc⟩
  · exact hnone
  · have hlength : ms.length ≤ i := by
      rw [← hall, hacc, List.length_take]
      exact Nat.min_le_left _ _
    rw [List.getElem?_eq_none hlength] at hm
    cases hm

/-- The turns of one call, with the list that they leave. -/
theorem Dispatch.turns_attempts {σ : Type} (c : Carrier σ) (x : Dispatch σ) (ds : List Domain) :
    ((x.turns c (ds.map .handOver)).attempts, (x.turns c (ds.map .handOver)).carrier) =
      (x.propagation.steps c.recorded ds (x.attempts, x.carrier)).2 := by
  induction ds generalizing x with
  | nil => rfl
  | cons d ds ih => exact ih (x.turn c (.handOver d))

/-! ## 2. The service with a list of its attempts -/

namespace Composite

variable {σ τ : Type}

/-- A write. -/
def write (c : Composite σ τ) (w : Write) (stamps : Stamps) :
    State σ τ → Except Failure Unit × State σ τ :=
  c.handOver fun carrier => w.call carrier stamps

/-- The service with a carrier that keeps its attempts. -/
def recorded (c : Composite σ τ) : Composite (List Attempt × σ) τ where
  address := c.address
  limits := c.limits
  carrier := c.carrier.recorded
  calls := c.calls
  called := c.called
  reportTail := c.reportTail

namespace State

/-- A state with an empty list. -/
def recorded (s : State σ τ) : State (List Attempt × σ) τ :=
  ⟨s.metrics, ([], s.carrier), s.services, s.clock⟩

/-- The state without its list. -/
def unrecorded (s : State (List Attempt × σ) τ) : State σ τ :=
  ⟨s.metrics, s.carrier.2, s.services, s.clock⟩

end State

/-- **The list makes no difference** to a write. -/
theorem write_recorded (c : Composite σ τ) (w : Write) (stamps : Stamps)
    (s : State (List Attempt × σ) τ) :
    (c.recorded.write w stamps s).1 = (c.write w stamps s.unrecorded).1 ∧
      (c.recorded.write w stamps s).2.unrecorded = (c.write w stamps s.unrecorded).2 := by
  obtain ⟨hresult, hmetrics, hcarrier⟩ := Write.call_alike c.carrier.alike_recorded.counted w stamps
    (s := (s.metrics, s.carrier)) (t := (s.metrics, s.carrier.2)) ⟨rfl, rfl⟩
  refine ⟨hresult, ?_⟩
  rw [State.mk.injEq]
  exact ⟨hmetrics, hcarrier, rfl, rfl⟩

/-- **What becomes of a write**, and what the list says of it. -/
theorem accounted_write (c : Composite σ τ) (w : Write) (stamps : Stamps) (s : State σ τ) :
    let x := c.recorded.write w stamps s.recorded
    match w.intended stamps with
    | .error v => x = (.error ⟨.invalidInput, v.message⟩, s.recorded)
    | .ok ms => ∃ y : Dispatch (Metrics × σ), y.attempts = x.2.carrier.1 ∧ y.answer = some x.1 ∧
        y.Accounted ms fun d => (ms d).length := by
  intro x
  cases hw : w.intended stamps with
  | error v =>
    cases w with
    | delete item => cases hw
    | create request =>
      cases haw : request.toWrite with
      | ok aw =>
        simp only [Write.intended, haw] at hw
        cases hw
      | error v' =>
        simp only [Write.intended, haw] at hw
        cases hw
        show c.recorded.handOver _ s.recorded = _
        simp only [handOver, Write.call, propagateCreate, haw]
        rfl
  | ok ms =>
    obtain ⟨hmessages, -⟩ := Write.of_intended_ok hw
    let counted := c.carrier.counted
    let y := (Dispatch.start w stamps (s.metrics, s.carrier)).turns counted (Dispatch.inOrder w stamps)
    obtain ⟨hanswer, -⟩ := Dispatch.call_eq_turns counted w stamps (s.metrics, s.carrier)
    have haccounted := (Dispatch.accounted_turns counted w stamps (s.metrics, s.carrier)).1
      (Dispatch.inOrder w stamps)
    rw [hw] at haccounted
    simp only [Dispatch.countP_inOrder, hmessages] at haccounted
    -- the list behind the counters is the list in front of them
    obtain ⟨hresult, -, hattempts, -⟩ := Write.call_alike c.carrier.alike_counted_recorded w stamps
      (s := (s.metrics, [], s.carrier)) (t := ([], s.metrics, s.carrier)) ⟨rfl, rfl, rfl⟩
    obtain ⟨hsame, -⟩ := Write.call_alike counted.alike_recorded w stamps
      (s := ([], s.metrics, s.carrier)) (t := (s.metrics, s.carrier)) rfl
    refine ⟨y, ?_, ?_, haccounted⟩
    · have hturns : y.attempts = ((Propagation.start (w.messages stamps)).steps counted.recorded
          (Propagation.inOrder (w.messages stamps)) ([], s.metrics, s.carrier)).2.1 :=
        congrArg Prod.fst (Dispatch.turns_attempts counted (.start w stamps (s.metrics, s.carrier))
          (Propagation.inOrder (w.messages stamps)))
      rw [hturns, ← w.snd_call stamps counted.recorded ([], s.metrics, s.carrier)]
      exact hattempts.symm
    · rw [hanswer, ← hsame, ← hresult]
      rfl

/-- **The ledger of a transport behind a gate keeps to the list** when a write is made. -/
theorem refines_write {γ : Type} {c : Composite (γ × Transport) τ} {gate : Gate γ}
    (hcarrier : c.carrier = Carrier.transport.gated gate) (w : Write) (stamps : Stamps)
    {s : State (γ × Transport) τ} {l : Ledger} (h : Refines s.carrier.2 l) :
    let x := c.recorded.write w stamps s.recorded
    Refines x.2.carrier.2.2 (l.takeAll x.2.carrier.1) := by
  intro x
  obtain ⟨-, hsame⟩ := Write.call_alike c.carrier.recorded.alike_counted w stamps
    (s := (s.metrics, [], s.carrier)) (t := ([], s.carrier)) rfl
  have hx : x.2.carrier = (w.call c.carrier.recorded stamps ([], s.carrier)).2 := hsame
  rw [hx, w.snd_call, hcarrier]
  exact Refines.steps_gated (s := ([], s.carrier)) h gate _ _

end Composite

namespace Http

open Json (Codec)

/-! ## 3. What requests stand for -/

/-- What a write request stands for. -/
inductive Demand where
  /-- It cannot be read. -/
  | unreadable (message : String)
  /-- It is read, and breaks a rule. -/
  | invalid (message : String)
  /-- It stands for events, with these messages. -/
  | events (messages : Domain → List Message)

/-- A request to create an item. -/
def IsCreate (r : Request) : Prop := r.method = "POST" ∧ r.path = "/aggregate"

/-- A request to delete the item that a text names; the text is a segment of the path, decoded. -/
def IsDelete (r : Request) (raw : String) : Prop :=
  r.method = "DELETE" ∧ ∃ segment, r.path = "/aggregate/" ++ segment ∧ segment ≠ "" ∧
    '/' ∉ segment.toList ∧ textOf? (percentDecoded (bytesOf segment)) = some raw

/-- **A request that says that its body is JSON**: by a content type that parses, and is that of JSON
    or of a format that is written in JSON. -/
def SaysJson (r : Request) : Prop :=
  ∃ value m, r.header? "content-type" = some value ∧ MediaType.parse? value = some m ∧
    m.type = "application" ∧ (m.subtype = "json" ∨ m.suffix = some "json")

/-- A request to create an item whose body is read: it is said to be JSON, and has no more than two
    mebibytes. -/
structure Buffered (r : Request) : Prop where
  create : IsCreate r
  type : SaysJson r
  length : r.body.length ≤ 2 * 1024 * 1024

/-- **What a request stands for**: `tail` is what the reader of JSON texts adds to its reports. -/
inductive Demands (stamps : Stamps) (tail : Bytes → String) (r : Request) : Demand → Prop where
  | mediaType (create : IsCreate r) (type : ¬ SaysJson r) : Demands stamps tail r
      (.unreadable "Expected request with \x60Content-Type: application/json\x60")
  | tooLong (create : IsCreate r) (type : SaysJson r) (long : 2 * 1024 * 1024 < r.body.length) :
      Demands stamps tail r (.unreadable "Failed to buffer the request body: length limit exceeded")
  /-- The body is JSON, but no request. -/
  | mismatch {path : List Json.Step} {cause : Json.Mismatch} (buffered : Buffered r)
      (body : Codec.createRequest.decode r.body = .error (.mismatch path cause)) :
      Demands stamps tail r (.unreadable
        ("Failed to deserialize the JSON body into the target type: " ++
          (if path.isEmpty then "" else Json.pathText path ++ ": ") ++ cause.message ++
            tail r.body))
  /-- The body is no JSON, or ends too early. -/
  | noJson {fault : Json.Fault} (buffered : Buffered r)
      (body : Codec.createRequest.decode r.body = .error fault)
      (broken : fault = .ungrammatical ∨ fault = .unfinished) :
      Demands stamps tail r
        (.unreadable ("Failed to parse the request body as JSON" ++ tail r.body))
  /-- The first rule that is broken counts. -/
  | invalidBody {request : CreateRequest} {v : Violation} (buffered : Buffered r)
      (body : Codec.createRequest.decode r.body = .ok request)
      (broken : request.violations.head? = some v) : Demands stamps tail r (.invalid v.message)
  | create {request : CreateRequest} {item : ItemId} (buffered : Buffered r)
      (body : Codec.createRequest.decode r.body = .ok request) (valid : request.Valid)
      (named : request.itemId.toInt = item.val) :
      Demands stamps tail r
        (.events fun d => (request.events item stamps d).map (Message.ofEvent d.codec))
  | notNumber {raw : String} (delete : IsDelete r raw) (number : ¬ ∃ n, Numeral raw.toList n) :
      Demands stamps tail r
        (.unreadable ("Type mismatch: itemId '" ++ raw ++ "' is not a number"))
  | belowOne {raw : String} {n : Int} (delete : IsDelete r raw) (number : Numeral raw.toList n)
      (below : n < 1) : Demands stamps tail r (.invalid (ItemId.invalidText n))
  | delete {raw : String} {item : ItemId} (delete : IsDelete r raw)
      (number : Numeral raw.toList item.val) :
      Demands stamps tail r
        (.events fun d => [Message.ofEvent Codec.unit ⟨item, .delete, stamps.of d 0⟩])

/-! ## 4. One thing and no other -/

/-- What a request to create an item stands for, as a function. -/
def createDemand (stamps : Stamps) (tail : Bytes → String) (r : Request) : Demand :=
  match createRequestOf tail r with
  | .error fault => .unreadable fault.message
  | .ok request =>
    match request.toWrite with
    | .error v => .invalid v.message
    | .ok w =>
      .events fun d => (request.events w.itemId stamps d).map (Message.ofEvent d.codec)

/-- What a request to delete an item stands for, as a function. -/
def deleteDemand (stamps : Stamps) (raw : String) : Demand :=
  match signed? (-9223372036854775808) 9223372036854775807 raw.toList with
  | none => .unreadable ("Type mismatch: itemId '" ++ raw ++ "' is not a number")
  | some n =>
    match ItemId.ofInt n with
    | .error n => .invalid (ItemId.invalidText n)
    | .ok item => .events fun d => [Message.ofEvent Codec.unit ⟨item, .delete, stamps.of d 0⟩]

theorem saysJson_iff (r : Request) : saysJson r = true ↔ SaysJson r := by
  unfold saysJson SaysJson
  cases hvalue : r.header? "content-type" with
  | none => simp
  | some value =>
    cases hm : MediaType.parse? value with
    | none => simp [hm]
    | some m => simp [hm, MediaType.isJson]

/-- A body is not read unless it is said to be JSON. -/
theorem createRequestOf_of_not_saysJson {r : Request} (h : ¬ SaysJson r) (tail : Bytes → String) :
    createRequestOf tail r = .error .mediaType := by
  have hsays : saysJson r = false := Bool.eq_false_iff.mpr (mt (saysJson_iff r).mp h)
  rw [createRequestOf, hsays]
  rfl

/-- Nor if it is too long. -/
theorem createRequestOf_of_long {r : Request} (h : SaysJson r)
    (hlong : 2 * 1024 * 1024 < r.body.length) (tail : Bytes → String) :
    createRequestOf tail r = .error .tooLong := by
  have hlimit : maxBody < r.body.length := hlong
  simp [createRequestOf, (saysJson_iff r).mpr h, hlimit]

/-- **Any other body is decoded.** -/
theorem createRequestOf_of_buffered {r : Request} (h : Buffered r) (tail : Bytes → String) :
    createRequestOf tail r =
      match Codec.createRequest.decode r.body with
      | .ok request => .ok request
      | .error fault => .error (.json fault (tail r.body)) := by
  have hlimit : ¬ maxBody < r.body.length := Nat.not_lt.mpr h.length
  cases hbody : Codec.createRequest.decode r.body with
  | ok request => simp [createRequestOf, (saysJson_iff r).mpr h.type, hlimit, hbody]
  | error fault => simp [createRequestOf, (saysJson_iff r).mpr h.type, hlimit, hbody]

theorem IsDelete.not_create {r : Request} {raw : String} (hd : IsDelete r raw) : ¬ IsCreate r := by
  rintro ⟨hmethod, -⟩
  have hsame : "POST" = "DELETE" := hmethod.symm.trans hd.1
  exact absurd hsame (by decide)

/-- A request names one text. -/
theorem IsDelete.unique {r : Request} {raw raw' : String} (h : IsDelete r raw)
    (h' : IsDelete r raw') : raw = raw' := by
  obtain ⟨-, segment, hpath, -, -, hraw⟩ := h
  obtain ⟨-, segment', hpath', -, -, hraw'⟩ := h'
  have hsegment : segment = segment' := (String.append_right_inj _).mp (hpath.symm.trans hpath')
  subst hsegment
  exact Option.some.inj (hraw.symm.trans hraw')

/-- A body that is decoded stands for what the request in it stands for. -/
theorem createDemand_of_decode {stamps : Stamps} {tail : Bytes → String} {r : Request}
    {request : CreateRequest} (h : Buffered r)
    (hbody : Codec.createRequest.decode r.body = .ok request) : createDemand stamps tail r =
      match request.toWrite with
      | .error v => .invalid v.message
      | .ok w =>
        .events fun d => (request.events w.itemId stamps d).map (Message.ofEvent d.codec) := by
  rw [createDemand, createRequestOf_of_buffered h, hbody]

/-- A body that is not decoded stands for the report of it. -/
theorem createDemand_of_fault {stamps : Stamps} {tail : Bytes → String} {r : Request}
    {fault : Json.Fault} (h : Buffered r)
    (hbody : Codec.createRequest.decode r.body = .error fault) :
    createDemand stamps tail r = .unreadable (BodyFault.json fault (tail r.body)).message := by
  rw [createDemand, createRequestOf_of_buffered h, hbody]

/-- What a request to create an item stands for is what it comes to. -/
theorem eq_createDemand {stamps : Stamps} {tail : Bytes → String} {r : Request} {demand : Demand}
    (hc : IsCreate r) (h : Demands stamps tail r demand) : demand = createDemand stamps tail r := by
  cases h with
  | mediaType _ type =>
    rw [createDemand, createRequestOf_of_not_saysJson type]
    rfl
  | tooLong _ type long =>
    rw [createDemand, createRequestOf_of_long type long]
    rfl
  | mismatch buffered body =>
    rw [createDemand_of_fault buffered body]
    rfl
  | noJson buffered body broken =>
    rw [createDemand_of_fault buffered body]
    rcases broken with rfl | rfl
    · rfl
    · rfl
  | invalidBody buffered body broken =>
    rw [createDemand_of_decode buffered body, (CreateRequest.toWrite_error_iff _ _).mpr broken]
  | create buffered body valid named =>
    obtain ⟨item, hitem, hwrite⟩ := CreateRequest.exists_toWrite valid
    rw [named, ItemId.ofInt_val] at hitem
    obtain rfl := Except.ok.inj hitem
    rw [createDemand_of_decode buffered body, hwrite]
    rfl
  | notNumber delete => exact absurd hc delete.not_create
  | belowOne delete => exact absurd hc delete.not_create
  | delete delete => exact absurd hc delete.not_create

/-- It does come to something. -/
theorem demands_createDemand {r : Request} (hc : IsCreate r) (stamps : Stamps)
    (tail : Bytes → String) : Demands stamps tail r (createDemand stamps tail r) := by
  by_cases htype : SaysJson r
  · by_cases hlength : r.body.length ≤ 2 * 1024 * 1024
    · have hbuffered : Buffered r := ⟨hc, htype, hlength⟩
      cases hbody : Codec.createRequest.decode r.body with
      | error fault =>
        rw [createDemand_of_fault hbuffered hbody]
        cases fault with
        | mismatch path cause => exact .mismatch hbuffered hbody
        | ungrammatical => exact .noJson hbuffered hbody (.inl rfl)
        | unfinished => exact .noJson hbuffered hbody (.inr rfl)
      | ok request =>
        rw [createDemand_of_decode hbuffered hbody]
        cases hwrite : request.toWrite with
        | error v => exact .invalidBody hbuffered hbody ((request.toWrite_error_iff v).mp hwrite)
        | ok w =>
          obtain ⟨item, hitem, rfl⟩ := CreateRequest.of_toWrite hwrite
          exact .create hbuffered hbody (CreateRequest.valid_of_toWrite hwrite)
            ((ItemId.ofInt_ok_iff _ item).mp hitem)
    · have hlong : 2 * 1024 * 1024 < r.body.length := Nat.not_le.mp hlength
      rw [createDemand, createRequestOf_of_long htype hlong]
      exact .tooLong hc htype hlong
  · rw [createDemand, createRequestOf_of_not_saysJson htype]
    exact .mediaType hc htype

/-- **A request to create an item stands for just one thing.** -/
theorem demands_create {stamps : Stamps} {tail : Bytes → String} {r : Request} (hc : IsCreate r) :
    Demands stamps tail r = (· = createDemand stamps tail r) := by
  funext demand
  refine propext ⟨eq_createDemand hc, ?_⟩
  rintro rfl
  exact demands_createDemand hc stamps tail

/-- **So does a request to delete one.** -/
theorem demands_delete {stamps : Stamps} {tail : Bytes → String} {r : Request} {raw : String}
    (hd : IsDelete r raw) : Demands stamps tail r = (· = deleteDemand stamps raw) := by
  funext demand
  refine propext ⟨fun h => ?_, ?_⟩
  · cases h with
    | mediaType create => exact absurd create hd.not_create
    | tooLong create => exact absurd create hd.not_create
    | mismatch buffered => exact absurd buffered.create hd.not_create
    | noJson buffered => exact absurd buffered.create hd.not_create
    | invalidBody buffered => exact absurd buffered.create hd.not_create
    | create buffered => exact absurd buffered.create hd.not_create
    | notNumber delete number =>
      obtain rfl := hd.unique delete
      have hnone : signed? (-9223372036854775808) 9223372036854775807 raw.toList = none :=
        Option.eq_none_iff_forall_ne_some.mpr fun n hn =>
          number ⟨n, (signed?_eq_some_iff raw.toList n).mp hn⟩
      simp only [deleteDemand, hnone]
    | @belowOne _ n delete number below =>
      obtain rfl := hd.unique delete
      have hitem : ItemId.ofInt n = .error n :=
        (ItemId.ofInt_error_iff n n).mpr ⟨rfl, by omega⟩
      simp only [deleteDemand, (signed?_eq_some_iff raw.toList n).mpr number, hitem]
    | @delete _ item delete number =>
      obtain rfl := hd.unique delete
      simp only [deleteDemand, (signed?_eq_some_iff raw.toList item.val).mpr number,
        ItemId.ofInt_val]
  · rintro rfl
    unfold deleteDemand
    split
    next hnone =>
      refine .notNumber hd ?_
      rintro ⟨n, hn⟩
      cases hnone.symm.trans ((signed?_eq_some_iff raw.toList n).mpr hn)
    next n hn =>
      have hnumber := (signed?_eq_some_iff raw.toList n).mp hn
      split
      next n' herror =>
        obtain ⟨rfl, hrange⟩ := (ItemId.ofInt_error_iff n n').mp herror
        have hhigh := hnumber.high
        exact .belowOne hd hnumber (by omega)
      next item hitem =>
        obtain rfl := (ItemId.ofInt_ok_iff n item).mp hitem
        exact .delete hd hnumber

/-! ## 5. Truthful responses -/

/-- An error body that carries a path, the status of the response, and a message. -/
def Tells (path : String) (response : Response) (m : String) : Prop :=
  ∃ info, Codec.errorInfo.decode response.body = .ok info ∧ info.path = some path ∧
    info.status = some (.number (.integer response.status.code)) ∧ info.message = some m

/-- **A response that says what became of a request**: `asks` is what the request stands for, and
    `attempts` are the messages that were handed over, with the answers to them. -/
structure Truthful (path : String) (asks : Demand → Prop) (attempts : List Attempt)
    (response : Response) : Prop where
  accepted_iff : response.status.code = 202 ↔
    ∃ ms, asks (.events ms) ∧ ∀ d : Domain, Attempt.acceptedOn attempts d.topic = ms d
  unreadable_iff : response.status.code = 400 ↔ ∃ m, asks (.unreadable m)
  invalid_iff : response.status.code = 422 ↔ ∃ m, asks (.invalid m)
  refused_iff : response.status.code = 500 ↔ ∃ a ∈ attempts, ∃ r, a.answer = .error r
  tells_unreadable : ∀ m, asks (.unreadable m) → Tells path response m
  tells_invalid : ∀ m, asks (.invalid m) → Tells path response m
  /-- If messages were refused in several domains, the first of these counts. -/
  tells_refused : response.status.code = 500 →
    ∃ (before : List Domain) (d : Domain) (after : List Domain) (r : Refusal),
      Domain.all = before ++ d :: after ∧
      (∀ e ∈ before, Attempt.refusalOn attempts e.topic = none) ∧
      Attempt.refusalOn attempts d.topic = some r ∧ Tells path response r.message
  /-- The messages of a domain are handed over in order, up to the first that is refused. -/
  trail : ∀ ms, asks (.events ms) → ∀ d : Domain,
    Trail d.topic (ms d) (ms d).length (Attempt.on attempts d.topic)
  topics : ∀ a ∈ attempts, ∃ d : Domain, a.topic = d.topic
  quiet : (∀ ms, ¬ asks (.events ms)) → attempts = []

theorem tells_problem (p : Problem) (path : String) (now : Instant) :
    Tells path (.problem p path now) p.message :=
  ⟨p.info path now, p.decode_body path now, rfl, rfl, rfl⟩

namespace Truthful

variable {path : String} {now : Instant}

/-- What is told of refusals is the first of them. -/
theorem tells_first {asks : Demand → Prop} {attempts : List Attempt} {response : Response}
    (h : Truthful path asks attempts response) (hcode : response.status.code = 500) {r : Refusal}
    (hr : Domain.all.findSome? (fun d => Attempt.refusalOn attempts d.topic) = some r) :
    Tells path response r.message := by
  obtain ⟨before, d, after, refusal, hsplit, hbefore, hd, htells⟩ := h.tells_refused hcode
  have hfirst : Domain.all.findSome? (fun d => Attempt.refusalOn attempts d.topic) =
      some refusal := List.findSome?_eq_some_iff.mpr ⟨before, d, after, hsplit, hd, hbefore⟩
  obtain rfl := Option.some.inj (hr.symm.trans hfirst)
  exact htells

/-- Headers say nothing of it. -/
theorem withHeader {asks : Demand → Prop} {attempts : List Attempt} {response : Response}
    (h : Truthful path asks attempts response) (name value : String) :
    Truthful path asks attempts (response.withHeader name value) :=
  ⟨h.accepted_iff, h.unreadable_iff, h.invalid_iff, h.refused_iff, h.tells_unreadable,
    h.tells_invalid, h.tells_refused, h.trail, h.topics, h.quiet⟩

/-- A request that cannot be read. -/
theorem unreadable (m : String) :
    Truthful path (· = .unreadable m) [] (.problem ⟨.badRequest, m⟩ path now) where
  accepted_iff := ⟨nofun, nofun⟩
  unreadable_iff := ⟨fun _ => ⟨m, rfl⟩, fun _ => rfl⟩
  invalid_iff := ⟨nofun, nofun⟩
  refused_iff := ⟨nofun, nofun⟩
  tells_unreadable := by
    rintro _ ⟨⟩
    exact tells_problem ⟨.badRequest, m⟩ path now
  tells_invalid := nofun
  tells_refused := nofun
  trail := nofun
  topics := nofun
  quiet _ := rfl

/-- A request that breaks a rule. -/
theorem invalid (m : String) :
    Truthful path (· = .invalid m) [] (.problem ⟨.invalidInput, m⟩ path now) where
  accepted_iff := ⟨nofun, nofun⟩
  unreadable_iff := ⟨nofun, nofun⟩
  invalid_iff := ⟨fun _ => ⟨m, rfl⟩, fun _ => rfl⟩
  refused_iff := ⟨nofun, nofun⟩
  tells_unreadable := nofun
  tells_invalid := by
    rintro _ ⟨⟩
    exact tells_problem ⟨.invalidInput, m⟩ path now
  tells_refused := nofun
  trail := nofun
  topics := nofun
  quiet _ := rfl

/-- **A request that stands for events**, whatever became of them. -/
theorem events {ρ σ : Type} {ms : Domain → List Message} {y : Dispatch ρ}
    (haccounted : y.Accounted ms fun d => (ms d).length) {result : Except Failure Unit}
    (hanswer : y.answer = some result) (b : Backend σ) (counter : Counter) (s : σ) :
    Truthful path (· = .events ms) y.attempts (writeResponse b counter path now (result, s)).1 := by
  have htrail : ∀ ms', Demand.events ms' = .events ms → ∀ d : Domain,
      Trail d.topic (ms' d) (ms' d).length (Attempt.on y.attempts d.topic) := by
    rintro _ ⟨⟩
    exact haccounted.trail
  cases result with
  | ok u =>
    have hall : ∀ d, Attempt.acceptedOn y.attempts d.topic = ms d := haccounted.ok_iff.mp hanswer
    have hnone : ¬ ∃ a ∈ y.attempts, ∃ r, a.answer = .error r := by
      rintro ⟨a, ha, r, hr⟩
      obtain ⟨d, hd⟩ := haccounted.topics a ha
      refine Attempt.refusalOn_ne_none ha hr ?_
      rw [hd]
      exact (haccounted.trail d).refusal_eq_none (hall d)
    exact {
      accepted_iff := ⟨fun _ => ⟨ms, rfl, hall⟩, fun _ => rfl⟩
      unreadable_iff := ⟨nofun, nofun⟩
      invalid_iff := ⟨nofun, nofun⟩
      refused_iff := ⟨nofun, fun h => absurd h hnone⟩
      tells_unreadable := nofun
      tells_invalid := nofun
      tells_refused := nofun
      trail := htrail
      topics := haccounted.topics
      quiet := fun h => absurd rfl (h ms) }
  | error f =>
    obtain ⟨-, before, d, after, r, hsplit, hbefore, hr, rfl⟩ := (haccounted.error_iff f).mp hanswer
    have hrefused : Attempt.refusalOn y.attempts d.topic = some r := hr
    have hnot : ¬ ∀ d, Attempt.acceptedOn y.attempts d.topic = ms d := by
      intro hall
      cases hr.symm.trans ((haccounted.trail d).refusal_eq_none (hall d))
    obtain ⟨a, ha, hanswered⟩ := Attempt.exists_of_refusalOn hrefused
    exact {
      accepted_iff := by
        refine ⟨nofun, ?_⟩
        rintro ⟨_, ⟨⟩, hall⟩
        exact absurd hall hnot
      unreadable_iff := ⟨nofun, nofun⟩
      invalid_iff := ⟨nofun, nofun⟩
      refused_iff := ⟨fun _ => ⟨a, ha, r, hanswered⟩, fun _ => rfl⟩
      tells_unreadable := nofun
      tells_invalid := nofun
      tells_refused := fun _ => ⟨before, d, after, r, hsplit, hbefore, hrefused,
        tells_problem ⟨.internal, r.message⟩ path now⟩
      trail := htrail
      topics := haccounted.topics
      quiet := fun h => absurd rfl (h ms) }

end Truthful

/-! ## 6. From the request to the response -/

section

variable {σ : Type} {now : Instant} {r : Request}

/-- A response as it is sent, open to pages of any origin. -/
def opened (x : Response × σ) : Response × σ :=
  (x.1.withHeader "access-control-allow-origin" "*", x.2)

theorem ofPath?_aggregate {segment : String} (hne : segment ≠ "") (hslash : '/' ∉ segment.toList) :
    Route.ofPath? ("/aggregate/" ++ segment) = some (.aggregate segment) := by
  have hlist : ("/aggregate/" ++ segment).toList = aggregateFront ++ segment.toList := by
    rw [String.toList_append]
    rfl
  have hother (path : String) (hlength : path.toList.length ≤ 11)
      (hnot : path.toList ≠ aggregateFront) : "/aggregate/" ++ segment ≠ path := by
    rintro rfl
    rw [hlist, List.length_append] at hlength
    have hnil : segment.toList = [] :=
      List.eq_nil_of_length_eq_zero (Nat.le_zero.mp (Nat.le_of_add_le_add_left hlength))
    exact hne (String.toList_injective hnil)
  unfold Route.ofPath?
  rw [if_neg (hother "/health" (by decide) (by decide)),
    if_neg (hother "/metrics" (by decide) (by decide)),
    if_neg (hother "/aggregate" (by decide) (by decide)), hlist]
  simp only [List.take_left, List.drop_left]
  rw [if_pos ⟨trivial, fun h => hne (String.toList_injective h), hslash⟩, String.ofList_toList]

theorem respond_create (hc : IsCreate r) (b : Backend σ) (s : σ) :
    respond b r now s = opened (createResponse b r now s) := by
  obtain ⟨hmethod, hpath⟩ := hc
  have hroute : Route.ofPath? r.path = some .aggregates := by
    rw [hpath]
    rfl
  simp [respond, respondPlain, Route.respond?, opened, hroute, hmethod]

theorem respond_delete {raw : String} (hd : IsDelete r raw) (b : Backend σ) (s : σ) :
    respond b r now s = opened (match itemIdOf raw with
      | .error p => (.problem p r.path now, s)
      | .ok item => writeResponse b .deletes r.path now (b.delete item s)) := by
  obtain ⟨hmethod, segment, hpath, hne, hslash, hraw⟩ := hd
  have hroute : Route.ofPath? r.path = some (.aggregate segment) := by
    rw [hpath]
    exact ofPath?_aggregate hne hslash
  have hplain : respondPlain b r now s = deleteResponse b segment r.path now s := by
    simp [respondPlain, Route.respond?, hroute, hmethod]
  have hnamed : deleteResponse b segment r.path now s = match itemIdOf raw with
      | .error p => (.problem p r.path now, s)
      | .ok item => writeResponse b .deletes r.path now (b.delete item s) := by
    rewrite [deleteResponse, withItem, hraw]
    rfl
  rw [respond, if_neg (by rw [hmethod]; decide), hplain, hnamed]
  rfl

/-- **The two ways in which a request is dealt with**: it is turned down before the service hears of
    it, or the service makes a write. -/
theorem respond_cases (h : IsCreate r ∨ ∃ raw, IsDelete r raw) (stamps : Stamps)
    (tail : Bytes → String) :
    (∃ demand p, Demands stamps tail r = (· = demand) ∧
      (demand = .unreadable p.message ∧ p.kind = .badRequest ∨
        demand = .invalid p.message ∧ p.kind = .invalidInput) ∧
      ∀ {σ : Type} (b : Backend σ) (s : σ), b.reportTail = tail →
        respond b r now s = opened (.problem p r.path now, s)) ∨
    ∃ w counter demand, Demands stamps tail r = (· = demand) ∧
      (match w.intended stamps with
        | .error v => demand = .invalid v.message
        | .ok ms => demand = .events ms) ∧
      ∀ {σ τ : Type} (c : Composite σ τ) (s : Composite.State σ τ), c.reportTail = tail →
        respond (c.backend stamps) r now s =
          opened (writeResponse (c.backend stamps) counter r.path now (c.write w stamps s)) := by
  rcases h with hc | ⟨raw, hd⟩
  · cases hbody : createRequestOf tail r with
    | error fault =>
      refine .inl ⟨_, ⟨.badRequest, fault.message⟩, demands_create hc, .inl ⟨?_, rfl⟩,
        fun b s htail => ?_⟩
      · simp only [createDemand, hbody]
      · simp only [respond_create hc, createResponse, htail, hbody]
    | ok request =>
      refine .inr ⟨.create request, .creates, _, demands_create hc, ?_, fun c s htail => ?_⟩
      · cases hvalid : request.toWrite with
        | error v => simp only [createDemand, Write.intended, hbody, hvalid]
        | ok w => simp only [createDemand, Write.intended, hbody, hvalid]
      · have htail' : (c.backend stamps).reportTail = tail := htail
        simp only [respond_create hc, createResponse, htail', hbody]
        rfl
  · cases hnumber : signed? (-9223372036854775808) 9223372036854775807 raw.toList with
    | none =>
      refine .inl ⟨_, ⟨.badRequest, "Type mismatch: itemId '" ++ raw ++ "' is not a number"⟩,
        demands_delete hd, .inl ⟨?_, rfl⟩, fun b s _ => ?_⟩
      · simp only [deleteDemand, hnumber]
      · simp only [respond_delete hd, itemIdOf, hnumber]
    | some n =>
      cases hitem : ItemId.ofInt n with
      | error n' =>
        refine .inl ⟨_, .invalidItemId n', demands_delete hd, .inr ⟨?_, rfl⟩, fun b s _ => ?_⟩
        · simp only [deleteDemand, hnumber, hitem]
          rfl
        · simp only [respond_delete hd, itemIdOf, hnumber, hitem]
      | ok item =>
        refine .inr ⟨.delete item, .deletes, _, demands_delete hd, ?_, fun c s _ => ?_⟩
        · simp only [deleteDemand, Write.intended, hnumber, hitem]
        · simp only [respond_delete hd, itemIdOf, hnumber, hitem]
          rfl

end

/-! ## 7. Whole requests -/

section

variable {σ τ : Type}

theorem carrier_writeResponse (c : Composite σ τ) (stamps : Stamps) (counter : Counter)
    (path : String) (now : Instant) (x : Except Failure Unit × Composite.State σ τ) :
    (writeResponse (c.backend stamps) counter path now x).2.carrier = x.2.carrier := by
  obtain ⟨result, s⟩ := x
  cases result with
  | ok u => rfl
  | error f => rfl

/-- The list makes no difference to the response to a write. -/
theorem writeResponse_recorded (c : Composite σ τ) (w : Write) (stamps : Stamps)
    (counter : Counter) (path : String) (now : Instant) (s : Composite.State σ τ) :
    let x := writeResponse (c.recorded.backend stamps) counter path now
      (c.recorded.write w stamps s.recorded)
    writeResponse (c.backend stamps) counter path now (c.write w stamps s) =
      (x.1, x.2.unrecorded) := by
  obtain ⟨hresult, hstate⟩ := c.write_recorded w stamps s.recorded
  have hself : s.recorded.unrecorded = s := rfl
  rw [hself] at hresult hstate
  have hwrite : c.write w stamps s = ((c.recorded.write w stamps s.recorded).1,
      (c.recorded.write w stamps s.recorded).2.unrecorded) :=
    Prod.ext hresult.symm hstate.symm
  rw [hwrite]
  cases c.recorded.write w stamps s.recorded with
  | mk result s' =>
    cases result with
    | ok u => rfl
    | error f => rfl

/-- What a response and the state after it say of a request: `x` has the list of attempts. -/
structure Reported {γ : Type} (asks : Demand → Prop) (path : String)
    (s : Composite.State (γ × Transport) τ)
    (x : Response × Composite.State (List Attempt × γ × Transport) τ) : Prop where
  demand : ∃ demand, asks = (· = demand)
  truthful : Truthful path asks x.2.carrier.1 x.1
  /-- A request that does not stand for events changes nothing. -/
  quiet : (∀ ms, ¬ asks (.events ms)) → x.2.unrecorded = s
  /-- The transport takes what was accepted. -/
  ledger : ∀ l, Refines s.carrier.2 l → Refines x.2.carrier.2.2 (l.takeAll x.2.carrier.1)

/-- A request that is turned down. -/
theorem reported_problem {γ : Type} {demand : Demand} {p : Problem}
    (hp : demand = .unreadable p.message ∧ p.kind = .badRequest ∨
      demand = .invalid p.message ∧ p.kind = .invalidInput)
    (path : String) (now : Instant) (s : Composite.State (γ × Transport) τ) :
    Reported (· = demand) path s (opened (.problem p path now, s.recorded)) where
  demand := ⟨demand, rfl⟩
  truthful := by
    obtain ⟨kind, m⟩ := p
    rcases hp with ⟨rfl, rfl⟩ | ⟨rfl, rfl⟩
    · exact (Truthful.unreadable m).withHeader _ _
    · exact (Truthful.invalid m).withHeader _ _
  quiet _ := rfl
  ledger _ hl := hl

/-- A request that is made into a write. -/
theorem reported_write {γ : Type} {c : Composite (γ × Transport) τ} {gate : Gate γ}
    (hcarrier : c.carrier = Carrier.transport.gated gate) {stamps : Stamps} {w : Write}
    {demand : Demand}
    (hw : match w.intended stamps with
      | .error v => demand = .invalid v.message
      | .ok ms => demand = .events ms)
    (counter : Counter) (path : String) (now : Instant) (s : Composite.State (γ × Transport) τ) :
    Reported (· = demand) path s (opened (writeResponse (c.recorded.backend stamps) counter path now
      (c.recorded.write w stamps s.recorded))) := by
  have haccounted := c.accounted_write w stamps s
  cases hi : w.intended stamps with
  | error v =>
    simp only [hi] at haccounted hw
    rw [haccounted]
    exact reported_problem (p := ⟨.invalidInput, v.message⟩) (.inr ⟨hw, rfl⟩) path now s
  | ok ms =>
    simp only [hi] at haccounted hw
    obtain ⟨y, hattempts, hanswer, hy⟩ := haccounted
    have hlist : (opened (writeResponse (c.recorded.backend stamps) counter path now
        (c.recorded.write w stamps s.recorded))).2.carrier =
          (c.recorded.write w stamps s.recorded).2.carrier :=
      carrier_writeResponse c.recorded stamps counter path now _
    subst hw
    refine ⟨⟨.events ms, rfl⟩, ?_, fun hnot => absurd rfl (hnot ms), fun l hl => ?_⟩
    · rw [hlist, ← hattempts]
      exact (Truthful.events hy hanswer _ counter _).withHeader _ _
    · rw [hlist]
      exact Composite.refines_write hcarrier w stamps hl

/-- **Writes over HTTP are reported truthfully.** A request to create or to delete an item stands for
    just one thing. The response says what became of it, whatever was refused on the way; a request
    that does not stand for events changes nothing. The transport takes the messages that were
    accepted and no others: all messages of the request, if the response says so. -/
theorem truthful_writes {γ : Type} (c : Composite (γ × Transport) τ) (gate : Gate γ)
    (hcarrier : c.carrier = Carrier.transport.gated gate) (stamps : Stamps) (now : Instant)
    (r : Request) (hr : IsCreate r ∨ ∃ raw, IsDelete r raw)
    (s : Composite.State (γ × Transport) τ) :
    let x := respond (c.recorded.backend stamps) r now s.recorded
    let y := respond (c.backend stamps) r now s
    let attempts := x.2.carrier.1
    let asks := Demands stamps c.reportTail r
    (∃ demand, ∀ demand', asks demand' ↔ demand' = demand) ∧
    y = (x.1, x.2.unrecorded) ∧
    Truthful r.path asks attempts y.1 ∧
    ((∀ ms, ¬ asks (.events ms)) → y.2 = s) ∧
    ∀ l, Refines s.carrier.2 l → ∃ l', Refines y.2.carrier.2 l' ∧
      (∀ topic, l'.messages topic = l.messages topic ++ Attempt.acceptedOn attempts topic) ∧
      ∀ ms, asks (.events ms) → y.1.status.code = 202 →
        ∀ d : Domain, l'.messages d.topic = l.messages d.topic ++ ms d := by
  intro x y attempts asks
  have hreported : Reported asks r.path s x ∧ y = (x.1, x.2.unrecorded) := by
    rcases respond_cases hr stamps c.reportTail with ⟨demand, p, hdemand, hp, hrespond⟩ |
        ⟨w, counter, demand, hdemand, hw, hrespond⟩
    · have hasks : asks = (· = demand) := hdemand
      have hx : x = opened (.problem p r.path now, s.recorded) := hrespond _ _ rfl
      have hy : y = opened (.problem p r.path now, s) := hrespond _ _ rfl
      rw [hx, hy, hasks]
      exact ⟨reported_problem hp r.path now s, rfl⟩
    · have hasks : asks = (· = demand) := hdemand
      have hx : x = opened (writeResponse (c.recorded.backend stamps) counter r.path now
          (c.recorded.write w stamps s.recorded)) := hrespond _ _ rfl
      have hy : y = opened (writeResponse (c.backend stamps) counter r.path now
          (c.write w stamps s)) := hrespond _ _ rfl
      rw [hx, hy, hasks]
      refine ⟨reported_write hcarrier hw counter r.path now s, ?_⟩
      rw [writeResponse_recorded]
      rfl
  obtain ⟨⟨⟨demand, hdemand⟩, htruthful, hquiet, hledger⟩, hy⟩ := hreported
  rw [hy]
  refine ⟨⟨demand, fun demand' => by rw [hdemand]⟩, rfl, htruthful, hquiet, fun l hl =>
    ⟨_, hledger l hl, l.messages_takeAll attempts, fun ms hms hcode d => ?_⟩⟩
  obtain ⟨ms', hms', hall⟩ := htruthful.accepted_iff.mp hcode
  rw [hdemand] at hms hms'
  cases hms.trans hms'.symm
  rw [← hall d]
  exact l.messages_takeAll attempts d.topic

/-- Three requests while the topic of recommendations is full: a delete of item 7, of which two topics
    take their messages and the response tells of the third; a create without recommendations, of
    which all events are taken; and a create whose body is no JSON. -/
theorem truthful_writes_told :
    let report := ": expected value at line 1 column 1"
    let c := { Composite.local_ "localhost:7000" (.of 3 0) with reportTail := fun _ => report }
    let now : Instant := ⟨⟨2024, 1, 1, by decide⟩, ⟨0, 0, 0, 0, by decide, by decide, by decide,
      by decide, by decide⟩⟩
    let s : Composite.State (List Quota × Transport) LocalServices :=
      ⟨.zero, ([⟨"recommendations", 0, "topic full"⟩], .empty 2), .empty, 0⟩
    let delete : Request := ⟨"DELETE", "/aggregate/%37", [], []⟩
    let lamp : CreateRequest := ⟨7, "lamp", 3, none, some [⟨1, "ann", "lamp", "good"⟩]⟩
    let json := [("Content-Type", "application/json; charset=utf-8")]
    let create : Request := ⟨"POST", "/aggregate", json, Codec.createRequest.encode lamp⟩
    let garbled : Request := ⟨"POST", "/aggregate", json, bytesOf "lamp"⟩
    let answer (r : Request) := respond (c.backend now) r now s
    c.carrier = Carrier.transport.gated Gate.quotas ∧
      IsDelete delete "7" ∧ IsCreate create ∧ IsCreate garbled ∧
      (answer delete).1.status.code = 500 ∧ Tells delete.path (answer delete).1
        "Event transport unavailable for topic 'recommendations': topic full" ∧
      (answer create).1.status.code = 202 ∧
      (∃ l, Refines (answer create).2.carrier.2 l ∧ ∀ d : Domain, l.messages d.topic =
        (lamp.events ⟨7, by decide, by decide⟩ now d).map (Message.ofEvent d.codec)) ∧
      (answer garbled).1.status.code = 400 ∧ (answer garbled).2 = s ∧
      Tells garbled.path (answer garbled).1
        "Failed to parse the request body as JSON: expected value at line 1 column 1" := by
  intro report c now s delete lamp json create garbled answer
  have hcarrier : c.carrier = Carrier.transport.gated Gate.quotas := Carrier.transport.limited_eq_gated
  have hdelete : IsDelete delete "7" :=
    ⟨rfl, "%37", by decide +kernel, by decide, by decide, by decide +kernel⟩
  have hcreate : Buffered create :=
    ⟨⟨rfl, by decide +kernel⟩, (saysJson_iff create).mp (by decide +kernel), by decide +kernel⟩
  have hgarbled : Buffered garbled :=
    ⟨⟨rfl, by decide +kernel⟩, (saysJson_iff garbled).mp (by decide +kernel), by decide +kernel⟩
  have hlamp : Demands now c.reportTail create (.events fun d =>
      (lamp.events ⟨7, by decide, by decide⟩ now d).map (Message.ofEvent d.codec)) :=
    .create hcreate (Json.faithful_createRequest.decode_encode (by decide) lamp)
      (lamp.violations_eq_nil_iff.mp (by decide +kernel)) rfl
  have hbody : Codec.createRequest.decode garbled.body = .error .ungrammatical := rfl
  have hreport : Demands now c.reportTail garbled
      (.unreadable ("Failed to parse the request body as JSON" ++ report)) :=
    .noJson hgarbled hbody (.inl rfl)
  obtain ⟨-, -, htruthful, -⟩ :=
    truthful_writes c Gate.quotas hcarrier now now delete (.inr ⟨"7", hdelete⟩) s
  obtain ⟨-, -, -, -, hledger⟩ :=
    truthful_writes c Gate.quotas hcarrier now now create (.inl hcreate.create) s
  obtain ⟨hone, -, hunread, hquiet, -⟩ :=
    truthful_writes c Gate.quotas hcarrier now now garbled (.inl hgarbled.create) s
  have hrefused : (answer delete).1.status.code = 500 := by decide +kernel
  have haccepted : (answer create).1.status.code = 202 := by decide +kernel
  refine ⟨hcarrier, hdelete, hcreate.create, hgarbled.create, hrefused, ?_, haccepted, ?_,
    hunread.unreadable_iff.mpr ⟨_, hreport⟩, hquiet fun ms hms => ?_,
    hunread.tells_unreadable _ hreport⟩
  · exact htruthful.tells_first (r := ⟨"recommendations", "topic full"⟩) hrefused
      (by decide +kernel)
  · obtain ⟨l, hl, -, hall⟩ := hledger _ (refines_empty 2)
    exact ⟨l, hl, hall _ hlamp haccepted⟩
  · obtain ⟨demand, hdemand⟩ := hone
    cases ((hdemand _).mp hms).trans ((hdemand _).mp hreport).symm

end

end Http

end Catalogue
