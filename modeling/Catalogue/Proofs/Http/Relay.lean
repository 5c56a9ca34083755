import Catalogue.Http.Api
import Catalogue.Proofs.Json.Unknown
import Catalogue.Services.Remote

/-!
# Failures that are passed on

A service reports a failure to whoever asked it, and a service that asked reads the failure from the
report. Reports are written with a member that their readers do not know, and readers expect less
than is written; still, nothing is lost, however often a failure is passed on.

* `Problem.info` -- what is read of a report (`decode_body`);
* `ofResponse_problem` -- the failure that is read of a report;
* `isText_body`, `result_problem` -- a report is text, so a client that mends broken text first
  reads the same failure;
* `Hop` -- a service that reports to another; `Hop.relay`, `Hop.relayAll` -- a failure that is
  passed on;
* `relayed_failure` -- failures over any number of hops.
-/

namespace Catalogue

namespace Http

open Json (Codec Fields Takes Delimited errorInfoFields)

/-! ## 1. One report -/

/-- The kind of failure that is read of a report. -/
def ProblemKind.failure : ProblemKind → FailureKind
  | .notFound => .notFound
  | .invalidInput => .invalidInput
  | .badRequest => .unexpected
  | .internal => .unexpected

/-- What is read of a report. -/
def Problem.info (p : Problem) (path : String) (now : Instant) : ErrorInfo :=
  ⟨some (offsetStamp now), some path, some (.number (.integer p.kind.status.code)),
    some p.message⟩

/-- A written integer as a free-form value that may be absent. -/
theorem readOptional_writeInteger (budget n : Nat) (hn : n < 1000) {rest : Bytes}
    (hrest : Delimited rest) :
    Json.readOptional Codec.value budget (Json.writeInteger n ++ rest) =
      .ok (some (.number (.integer n)), rest) := by
  have hread := Json.Value.read_writeInteger budget (i := n) (by omega) (by omega) hrest
  obtain ⟨b, t, hb, hblank, hnull⟩ := Json.writeInteger_head n
  rw [hb, List.cons_append] at hread ⊢
  simp only [Json.readOptional, Json.skipBlank_cons hblank, if_neg hnull, Codec.value, hread,
    Except.map]

/-- **A report is read in all its members** that are known to its reader. -/
theorem Problem.decode_body (p : Problem) (path : String) (now : Instant) :
    Codec.errorInfo.decode (p.body path now) = .ok (p.info path now) := by
  have hcode : p.kind.status.code < 1000 := by
    have hrange := p.kind.status.range
    omega
  have htext (s : String) (t : Bytes) (ht : Delimited t) :
      Json.readOptional Codec.text 126 (Json.writeText s ++ t) = .ok (some s, t) :=
    Fields.readOptional_write (Json.faithful_text 0) (Nat.zero_le _) s ht
  have htakes : Takes (errorInfoFields.put 126)
      [("timestamp", Json.writeText (offsetStamp now)),
       ("path", Json.writeText path),
       ("status", Json.writeInteger p.kind.status.code),
       ("error", Json.writeText p.kind.status.phrase),
       ("message", Json.writeText p.message)]
      errorInfoFields.blank
      (some (some (offsetStamp now)), some (some path),
        some (some (.number (.integer p.kind.status.code))), some (some p.message), ()) := by
    refine Fields.takes_optional (htext (offsetStamp now)) ?_ (by simp)
    refine Fields.takes_optional (htext path) ?_ (by simp)
    refine Fields.takes_optional
      (fun t ht => readOptional_writeInteger 126 p.kind.status.code hcode ht) ?_ (by simp)
    -- the member that is not known to the reader
    refine Fields.takes_unknown _ (by decide)
      (fun rest _ => Json.skipValue_writeText p.kind.status.phrase rest) ?_
    exact Fields.takes_optional (htext p.message) (.nil ()) nofun
  have hread : Codec.errorInfo.read 127 (p.body path now ++ []) = .ok (p.info path now, []) :=
    Codec.record_read_members "HttpErrorInfo" htakes rfl []
  rw [List.append_nil] at hread
  rw [Codec.decode, Codec.nesting, hread]
  rfl

/-- **The failure that is read of a report** has the kind that its status stands for, and the message
    of the report, whatever the reader would have said in its place. -/
theorem ofResponse_problem (p : Problem) (path : String) (now : Instant) (fallback : String) :
    let r := Response.problem p path now
    Failure.ofResponse r.status r.body fallback = ⟨p.kind.failure, p.message⟩ := by
  have hmessage : ErrorInfo.messageOf (p.body path now) = some p.message := by
    rw [ErrorInfo.messageOf, p.decode_body path now]
    rfl
  have hkind : (if p.kind.status = .notFound then FailureKind.notFound
      else if p.kind.status = .unprocessable then .invalidInput else .unexpected) =
      p.kind.failure := by
    cases p.kind <;> rfl
  simp only [Response.problem, Response.json, Failure.ofResponse, hmessage, Option.getD_some]
  exact congrArg (fun kind => (⟨kind, p.message⟩ : Failure)) hkind

/-- A failure is what is read of its report. -/
theorem failure_ofFailure (f : Failure) :
    (⟨(Problem.ofFailure f).kind.failure, (Problem.ofFailure f).message⟩ : Failure) = f := by
  obtain ⟨kind, message⟩ := f
  cases kind <;> rfl

/-- A report never has a status of success. -/
theorem isSuccess_problem (p : Problem) (path : String) (now : Instant) :
    (Response.problem p path now).status.isSuccess = false := by
  obtain ⟨kind, message⟩ := p
  cases kind <;> rfl

/-! ## 2. The report as text -/

/-- **A report is text.** -/
theorem isText_body (p : Problem) (path : String) (now : Instant) : IsText (p.body path now) := by
  refine Json.isText_writeObject fun m hm => ?_
  simp only [List.mem_cons, List.not_mem_nil, or_false] at hm
  rcases hm with rfl | rfl | rfl | rfl | rfl
  · exact Json.isText_writeText _
  · exact Json.isText_writeText _
  · exact Json.isText_writeInteger p.kind.status.code
  · exact Json.isText_writeText _
  · exact Json.isText_writeText _

/-- **A call that is answered with a report fails as the report says.** -/
theorem result_problem {α : Type} (entity : Codec α) (address : String) (p : Problem)
    (path : String) (now : Instant) :
    let r := Response.problem p path now
    RemoteService.result entity address (.response r.status r.body true) =
      .error ⟨p.kind.failure, p.message⟩ := by
  intro r
  have hfailed : ¬ r.status.isSuccess = true := by
    rw [isSuccess_problem p path now]
    exact Bool.false_ne_true
  have hbody : bytesOf (lossyText r.body) = r.body := (isText_body p path now).bytesOf_lossyText
  simp only [RemoteService.result, if_neg hfailed, if_true, hbody]
  rw [ofResponse_problem]

/-! ## 3. Hops -/

/-- A service that reports to another: the path that it was asked for and when it answers, and what
    the other would say if the report had no message. -/
structure Hop where
  path : String
  now : Instant
  fallback : String

namespace Hop

/-- What the other service reads of a report. -/
def read (h : Hop) (p : Problem) : Failure :=
  let r := Response.problem p h.path h.now
  Failure.ofResponse r.status r.body h.fallback

/-- A failure that is passed on. -/
def relay (h : Hop) (f : Failure) : Failure := h.read (.ofFailure f)

/-- A failure that is passed on again and again. -/
def relayAll (hops : List Hop) (f : Failure) : Failure := hops.foldl (fun f h => h.relay f) f

theorem read_eq (h : Hop) (p : Problem) : h.read p = ⟨p.kind.failure, p.message⟩ :=
  ofResponse_problem p h.path h.now h.fallback

/-- **One hop leaves a failure as it is.** -/
theorem relay_eq (h : Hop) (f : Failure) : h.relay f = f := by
  rw [relay, read_eq, failure_ofFailure]

/-- **So do any number of hops.** -/
theorem relayAll_eq (hops : List Hop) (f : Failure) : relayAll hops f = f := by
  induction hops with
  | nil => rfl
  | cons h hops ih =>
    have hstep : relayAll (h :: hops) f = relayAll hops (h.relay f) := rfl
    rw [hstep, h.relay_eq f, ih]

end Hop

/-- **Failures survive any number of hops.** A failure that a service reports is read as the same
    failure, with its kind and its message, whatever the message is and whatever the reader would
    have said in its place; so it is after any number of services that pass it on. A request that
    could not be read is an unexpected failure to the service that sent it, with the same message,
    and stays one. -/
theorem relayed_failure (hops : List Hop) :
    (∀ (f : Failure) (path : String) (now : Instant) (fallback : String),
      let r := Response.problem (.ofFailure f) path now
      Failure.ofResponse r.status r.body fallback = f ∧
      ∀ {α : Type} (entity : Codec α) (address : String),
        RemoteService.result entity address (.response r.status r.body true) = .error f) ∧
    (∀ f : Failure, Hop.relayAll hops f = f) ∧
    ∀ (m : String) (path : String) (now : Instant) (fallback : String),
      let r := Response.problem ⟨.badRequest, m⟩ path now
      Failure.ofResponse r.status r.body fallback = ⟨.unexpected, m⟩ ∧
      Hop.relayAll hops (Failure.ofResponse r.status r.body fallback) = ⟨.unexpected, m⟩ := by
  refine ⟨fun f path now fallback => ⟨?_, fun entity address => ?_⟩, Hop.relayAll_eq hops,
    fun m path now fallback => ?_⟩
  · exact Hop.relay_eq ⟨path, now, fallback⟩ f
  · have hread := result_problem entity address (.ofFailure f) path now
    rw [failure_ofFailure] at hread
    exact hread
  · intro r
    have hread : Failure.ofResponse r.status r.body fallback = ⟨.unexpected, m⟩ :=
      ofResponse_problem ⟨.badRequest, m⟩ path now fallback
    rw [hread]
    exact ⟨rfl, Hop.relayAll_eq hops _⟩

end Http

end Catalogue
