import Catalogue.Deployment
import Catalogue.Proofs.Read.Undisturbed
import Catalogue.Proofs.Text.Utf8

/-!
# Reads from services on the network

A read sends three requests and takes whatever they end with: a response of any status with any
body, whole or broken off, or none at all. The request for the product decides whether the read
succeeds, and which failure it is if not; the other two decide over one list each, and over nothing
else.

* `Delivers` -- a request ends with a value: success, and a body that decodes from end to end;
* `Reports` -- the failure that a response without success stands for;
* `Judged` -- the end of a request against its result (`judged_result`);
* `Lists` -- the list that a request adds to the view: all that was delivered, or nothing
  (`lists_orEmpty`);
* `RemoteServices.ended` -- what the requests of a read end with; `exists_web` -- any three ends can
  come together;
* `FromNetwork` -- a whole read; `read_from_network` -- every read that finds three places.
-/

namespace Catalogue

open Http (Status ErrorInfo)
open Json (Codec)

/-! ## 1. The end of one request -/

namespace RemoteService

/-- The statuses of success. -/
def Succeeds (status : Status) : Prop := 200 ≤ status.code ∧ status.code ≤ 299

theorem isSuccess_iff (status : Status) : status.isSuccess = true ↔ Succeeds status := by
  unfold Status.isSuccess Succeeds
  rw [Bool.and_eq_true, decide_eq_true_eq, decide_eq_true_eq]
  omega

/-- **A request delivers a value**: it succeeds, and its whole body holds the value. -/
def Delivers {α : Type} (entity : Codec α) (f : Fetched) (a : α) : Prop :=
  ∃ status body, f = .response status body true ∧ Succeeds status ∧ entity.decode body = .ok a

/-- The text of a body; one that broke off counts as empty. -/
def bodyText (body : Bytes) (whole : Bool) : String := if whole then lossyText body else ""

/-- The message that a text words, if it is an error body that has one. -/
def Words (text m : String) : Prop :=
  ∃ info : ErrorInfo, Codec.errorInfo.decode (bytesOf text) = .ok info ∧ info.message = some m

/-- **The failure that a response without success stands for**, by its status and the text of its
    body. -/
structure Reports (address : String) (status : Status) (text : String) (f : Failure) : Prop where
  notFound : status.code = 404 → f.kind = .notFound
  invalidInput : status.code = 422 → f.kind = .invalidInput
  unexpected : status.code ≠ 404 → status.code ≠ 422 → f.kind = .unexpected
  /-- The message is the body's own wherever it has one. -/
  worded : ∀ m, Words text m → f.message = m
  unworded : (¬ ∃ m, Words text m) →
    f.message = decimalText status.code ++ " " ++ status.phrase ++ " from GET " ++ address

/-- **The end of a request, against its result.** The four cases leave none out. -/
structure Judged {α : Type} (entity : Codec α) (address : String) (f : Fetched)
    (r : Except Failure α) : Prop where
  delivered : ∀ a, Delivers entity f a → r = .ok a
  /-- A response of success whose body breaks off or is something else. -/
  undecodable : ∀ status body whole, f = .response status body whole → Succeeds status →
    (¬ ∃ a, Delivers entity f a) → ∃ m, r = .error ⟨.unexpected, m⟩
  reported : ∀ status body whole, f = .response status body whole → ¬ Succeeds status →
    ∃ g, r = .error g ∧ Reports address status (bodyText body whole) g
  /-- There is no response. -/
  unanswered : ∀ reason, f = .failed reason → ∃ m, r = .error ⟨.unexpected, m⟩

theorem messageOf_eq_some_iff (text m : String) :
    ErrorInfo.messageOf (bytesOf text) = some m ↔ Words text m := by
  unfold ErrorInfo.messageOf Words
  cases Codec.errorInfo.decode (bytesOf text) with
  | ok info => exact ⟨fun h => ⟨info, rfl, h⟩, fun ⟨_, hinfo, h⟩ => Except.ok.inj hinfo ▸ h⟩
  | error fault => exact ⟨nofun, nofun⟩

theorem code_eq_iff (s t : Status) : s = t ↔ s.code = t.code := by
  constructor
  · exact congrArg Status.code
  · intro h
    obtain ⟨code, range⟩ := s
    obtain ⟨code', range'⟩ := t
    cases h
    rfl

/-- **A response without success is the failure that it reports.** -/
theorem reports_ofResponse (address : String) (status : Status) (text : String) :
    Reports address status text
      (Failure.ofResponse status (bytesOf text) (fallback status address)) := by
  have hkind : (Failure.ofResponse status (bytesOf text) (fallback status address)).kind =
      if status.code = 404 then .notFound else if status.code = 422 then .invalidInput
      else .unexpected := by
    simp only [Failure.ofResponse, code_eq_iff]
    rfl
  have hmessage : (Failure.ofResponse status (bytesOf text) (fallback status address)).message =
      (ErrorInfo.messageOf (bytesOf text)).getD (fallback status address) := rfl
  refine ⟨fun h => ?_, fun h => ?_, fun h h' => ?_, fun m hm => ?_, fun hnone => ?_⟩
  · rw [hkind, if_pos h]
  · rw [hkind, if_neg (by omega), if_pos h]
  · rw [hkind, if_neg h, if_neg h']
  · rw [hmessage, (messageOf_eq_some_iff text m).mpr hm]
    rfl
  · have hsilent : ErrorInfo.messageOf (bytesOf text) = none :=
      Option.eq_none_iff_forall_ne_some.mpr fun m hm =>
        hnone ⟨m, (messageOf_eq_some_iff text m).mp hm⟩
    rw [hmessage, hsilent]
    rfl

/-- The bytes of a failed request's body are those of its text. -/
theorem bytesOf_bodyText (body : Bytes) (whole : Bool) :
    bytesOf (bodyText body whole) = if whole then bytesOf (lossyText body) else [] := by
  cases whole with
  | true => rfl
  | false => rfl

/-- **Every end of a request is judged by its result.** -/
theorem judged_result {α : Type} (entity : Codec α) (address : String) (f : Fetched) :
    Judged entity address f (result entity address f) where
  delivered := by
    rintro a ⟨status, body, rfl, hsuccess, hdecode⟩
    simp only [result, (isSuccess_iff status).mpr hsuccess, if_true, hdecode]
  undecodable := by
    rintro status body whole rfl hsuccess hnone
    simp only [result, (isSuccess_iff status).mpr hsuccess, if_true]
    cases whole with
    | false => exact ⟨_, rfl⟩
    | true =>
      cases hdecode : entity.decode body with
      | ok a => exact absurd ⟨a, status, body, rfl, hsuccess, hdecode⟩ hnone
      | error fault => exact ⟨_, rfl⟩
  reported := by
    rintro status body whole rfl hfailed
    refine ⟨_, ?_, reports_ofResponse address status (bodyText body whole)⟩
    rw [bytesOf_bodyText]
    exact if_neg fun h => hfailed ((isSuccess_iff status).mp h)
  unanswered := by
    rintro reason rfl
    exact ⟨reason, rfl⟩

/-- A result that is a value was delivered. -/
theorem delivers_of_result {α : Type} {entity : Codec α} {address : String} {f : Fetched} {a : α}
    (h : result entity address f = .ok a) : Delivers entity f a := by
  have hjudged := judged_result entity address f
  by_cases hdelivers : ∃ b, Delivers entity f b
  · obtain ⟨b, hb⟩ := hdelivers
    cases (hjudged.delivered b hb).symm.trans h
    exact hb
  · exfalso
    cases f with
    | failed reason =>
      obtain ⟨m, hm⟩ := hjudged.unanswered reason rfl
      cases hm.symm.trans h
    | response status body whole =>
      by_cases hsuccess : Succeeds status
      · obtain ⟨m, hm⟩ := hjudged.undecodable status body whole rfl hsuccess hdelivers
        cases hm.symm.trans h
      · obtain ⟨g, hg, -⟩ := hjudged.reported status body whole rfl hsuccess
        cases hg.symm.trans h

/-- **The list that a request adds to the view**: the whole list if one was delivered, and nothing
    otherwise. -/
structure Lists {α : Type} (entity : Codec α) (f : Fetched) (items : List α) : Prop where
  delivered : ∀ as, Delivers entity.list f as → items = as
  undelivered : (¬ ∃ as, Delivers entity.list f as) → items = []

theorem lists_orEmpty {α : Type} (entity : Codec α) (address : String) (f : Fetched) :
    Lists entity f (Reading.orEmpty (result entity.list address f)) where
  delivered as has := by rw [(judged_result entity.list address f).delivered as has]; rfl
  undelivered hnone := by
    cases hresult : result entity.list address f with
    | ok as => exact absurd ⟨as, delivers_of_result hresult⟩ hnone
    | error g => rfl

end RemoteService

/-! ## 2. The requests of a read -/

namespace RemoteServices

/-- Where the service of a domain is. -/
def endpoint (s : RemoteServices) : Domain → Endpoint
  | .product => s.product
  | .recommendation => s.recommendation
  | .review => s.review

/-- The front of the path that the service of a domain is asked for, up to the number. -/
def stem : Domain → String
  | .product => "/product/"
  | .recommendation => "/recommendation?productId="
  | .review => "/review?productId="

/-- The address that the service of a domain is asked for. -/
def address (s : RemoteServices) (item : ItemId) (d : Domain) : String :=
  (s.endpoint d).url (stem d ++ decimalText item.val)

/-- **What the request to the service of a domain ends with.** -/
def ended (s : RemoteServices) (item : ItemId) (d : Domain) : Fetched :=
  (s.web (s.endpoint d).timeout (s.address item d)).1

theorem toList_address (s : RemoteServices) (item : ItemId) (d : Domain) :
    (s.address item d).toList =
      ((s.endpoint d).baseUrl.toList.reverse.dropWhile (· == '/')).reverse ++ (stem d).toList ++
        (decimalText item.val).toList := by
  simp only [address, Endpoint.url, String.toList_append, String.toList_ofList, List.append_assoc]

/-- **The three services are asked for different addresses**, wherever they are: read backwards from
    the number, no front is the beginning of another. -/
theorem address_injective (s : RemoteServices) (item : ItemId) {d e : Domain}
    (h : s.address item d = s.address item e) : d = e := by
  have hlist := congrArg String.toList h
  rw [toList_address, toList_address] at hlist
  have hfront := congrArg List.reverse (List.append_cancel_right hlist)
  rw [List.reverse_append, List.reverse_append] at hfront
  cases d <;> cases e <;> simp [stem] at hfront ⊢

/-- **Any three ends can come together.** -/
theorem exists_web (product recommendation review : Endpoint) (item : ItemId)
    (ends : Domain → Fetched) :
    ∃ web, (RemoteServices.mk web product recommendation review).ended item = ends := by
  let quiet : RemoteServices := ⟨fun _ _ => (.failed "", 0), product, recommendation, review⟩
  have haddress (web : Web) (d : Domain) :
      (RemoteServices.mk web product recommendation review).address item d =
        quiet.address item d := by
    cases d with
    | product => rfl
    | recommendation => rfl
    | review => rfl
  have hne (d e : Domain) (h : d ≠ e) : quiet.address item d ≠ quiet.address item e :=
    fun hsame => h (quiet.address_injective item hsame)
  have hproduct := hne .recommendation .product (by decide)
  have hproduct' := hne .review .product (by decide)
  have hrecommendation := hne .review .recommendation (by decide)
  let answer (a : String) : Fetched :=
    if a = quiet.address item .product then ends .product
    else if a = quiet.address item .recommendation then ends .recommendation
    else ends .review
  refine ⟨fun _ a => (answer a, 0), funext fun d => ?_⟩
  rw [ended, haddress]
  cases d with
  | product => simp only [answer, if_true]
  | recommendation => simp only [answer, if_neg hproduct, if_true]
  | review => simp only [answer, if_neg hproduct', if_neg hrecommendation]

/-! ## 3. Whole reads -/

/-- **The result of a read, against the ends of its requests.** -/
structure FromNetwork (address : String) (s : RemoteServices) (item : ItemId)
    (result : Except Failure Aggregate) : Prop where
  /-- The read succeeds if the product was delivered. Its lists are what the other two requests add,
      whatever they end with. -/
  delivered : ∃ recommendations reviews,
    RemoteService.Lists Codec.recommendation (s.ended item .recommendation) recommendations ∧
    RemoteService.Lists Codec.review (s.ended item .review) reviews ∧
    ∀ p, RemoteService.Delivers Codec.product (s.ended item .product) p →
      result = .ok (Aggregate.assemble address p recommendations reviews)
  /-- Otherwise it fails as the request for the product does. -/
  undelivered : (¬ ∃ p, RemoteService.Delivers Codec.product (s.ended item .product) p) →
    ∃ f, result = .error f ∧
      RemoteService.Judged Codec.product (s.address item .product) (s.ended item .product)
        (.error f)

/-- The result of a read whose requests were all sent. -/
theorem fromNetwork_complete (address : String) (s : RemoteServices) (item : ItemId) :
    FromNetwork address s item (Reading.complete address (s.calls item)) := by
  -- the addresses of the calls, and their ends, are those that are named here
  have hproduct : (s.calls item).product.outcome = RemoteService.result Codec.product
      (s.address item .product) (s.ended item .product) := rfl
  have hrecommendations : (s.calls item).recommendations.outcome = RemoteService.result
      Codec.recommendation.list (s.address item .recommendation)
      (s.ended item .recommendation) := rfl
  have hreviews : (s.calls item).reviews.outcome = RemoteService.result Codec.review.list
      (s.address item .review) (s.ended item .review) := rfl
  have hjudged := RemoteService.judged_result Codec.product (s.address item .product)
    (s.ended item .product)
  unfold Reading.complete
  rw [hproduct, hrecommendations, hreviews]
  refine ⟨⟨_, _, RemoteService.lists_orEmpty Codec.recommendation (s.address item .recommendation) _,
    RemoteService.lists_orEmpty Codec.review (s.address item .review) _, fun p hp => ?_⟩,
    fun hnone => ?_⟩
  · rw [hjudged.delivered p hp]
    rfl
  · cases hresult : RemoteService.result Codec.product (s.address item .product)
        (s.ended item .product) with
    | ok p => exact absurd ⟨p, RemoteService.delivers_of_result hresult⟩ hnone
    | error f => exact ⟨f, rfl, hresult ▸ hjudged⟩

/-- **Reads from services on the network.** Whatever the three requests end with, a read of the
    composite service whose pool has room for three calls is decided by the request for the product,
    and shows of each list all or nothing. So is any read none of whose calls a pool in use turns
    away, once it is answered. And the three ends are independent: any three can come together. -/
theorem read_from_network {σ : Type} (c : Composite σ RemoteServices)
    (hcalls : c.calls = RemoteServices.calls) (hroom : 3 ≤ c.limits.places) (item : ItemId) :
    (∀ state : Composite.State σ RemoteServices,
      FromNetwork c.address state.services item (c.read item state).1.result) ∧
    (∀ {κ : Type} [DecidableEq κ] (s : RemoteServices) (own : Domain → κ)
        (events : List (Pool.Event κ)),
      let x := Pool.Usage.unused.run c.limits events
      (∀ d, x.standing (own d) ≠ .rejected) →
      ∀ result, Reading.answer c.address (s.calls item) own x = some result →
        FromNetwork c.address s item result) ∧
    ∀ (product recommendation review : Endpoint) (ends : Domain → Fetched),
      ∃ web, (RemoteServices.mk web product recommendation review).ended item = ends := by
  refine ⟨fun state => ?_, ?_,
    fun product recommendation review => exists_web product recommendation review item⟩
  · have hread : (c.read item state).1.result =
        Reading.complete c.address (state.services.calls item) := by
      show (Reading.read c.limits c.address (c.calls state.services item)).result = _
      rw [hcalls]
      exact Reading.read_of_room hroom c.address (state.services.calls item)
    rw [hread]
    exact fromNetwork_complete c.address state.services item
  · intro κ _ s own events x hadmitted result hresult
    rw [Reading.answer_eq_complete hadmitted hresult]
    exact fromNetwork_complete c.address s item

/-- The product came, one of two recommendations is no recommendation, and nobody answered for the
    reviews: the product is shown, and neither list. -/
theorem read_from_network_degraded :
    let item : ItemId := ⟨7, by decide, by decide⟩
    let settings := Settings.ofLookup fun _ => none
    let lamp := bytesOf "\x7b\"itemId\":7,\"name\":\"lamp\",\"weight\":3\x7d"
    let list := bytesOf "[[7,1,\"ann\",5,\"fine\"],[7,2]]"
    let web : Web := fun _ a =>
      if a = "http://product:8080/product/7" then (.response .ok lamp true, 20)
      else if a = "http://recommendation:8080/recommendation?productId=7" then
        (.response .ok list true, 0)
      else (.failed "error sending request", 2000)
    let c := Composite.ofSettings settings
    c.calls = RemoteServices.calls ∧ 3 ≤ c.limits.places ∧
      (c.read item (.ofSettings web settings)).1.result =
        .ok ⟨item, "lamp", 3, [], [], ⟨"localhost:7000", "", "", ""⟩⟩ := by
  intro item settings lamp list web c
  have hroom : 3 ≤ c.limits.places := by decide
  refine ⟨rfl, hroom, ?_⟩
  let s := (Composite.State.ofSettings web settings).services
  obtain ⟨⟨recommendations, reviews, hr, hv, hp⟩, -⟩ :=
    (read_from_network c rfl hroom item).1 (.ofSettings web settings)
  have hproduct : s.address item .product = "http://product:8080/product/7" := by decide +kernel
  have hlist : s.address item .recommendation =
      "http://recommendation:8080/recommendation?productId=7" := by decide +kernel
  have hreviews : s.address item .review = "http://review:8080/review?productId=7" := by
    decide +kernel
  have hdelivers : RemoteService.Delivers Codec.product (s.ended item .product)
      ⟨item, "lamp", 3, none⟩ := by
    refine ⟨.ok, lamp, ?_, ⟨by decide, by decide⟩, by decide +kernel⟩
    rw [ended, hproduct]
    rfl
  have hnoList : recommendations = [] := by
    refine hr.undelivered ?_
    rintro ⟨as, status, body, hended, -, hbody⟩
    rw [ended, hlist] at hended
    cases hended
    have hfault : Codec.recommendation.list.decode list =
        .error (.mismatch [.element 1] (.tooShort 2 "Recommendation" 6)) := by decide +kernel
    cases hfault.symm.trans hbody
  have hnoAnswer : reviews = [] := by
    refine hv.undelivered ?_
    rintro ⟨as, status, body, hended, -⟩
    rw [ended, hreviews] at hended
    cases hended
  have haddress : c.address = "localhost:7000" := by decide +kernel
  rw [hp _ hdelivers, hnoList, hnoAnswer, haddress]
  rfl

end RemoteServices

end Catalogue
