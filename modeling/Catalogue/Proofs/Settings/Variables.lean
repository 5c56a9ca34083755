import Catalogue.Domain
import Catalogue.Proofs.Text.Numeral
import Catalogue.Settings

/-!
# Settings and variables

Every environment gives settings. This file says which texts set a number and to what, and which
variables each setting depends on.

* `WordText`, `SocketText` -- the texts that count as a number, each with the number it denotes;
* `SetBy` -- a value is what a variable's text denotes, or else the default;
* `Number` -- the settings of 64 bits (`setBy_number`), `setBy_socket` -- the socket number;
* `Own` -- every setting with a variable of its own (`eq_of_own`: together with the reported address
  these are all settings);
* `DeterminedBy` -- a setting depends on some variables, and on no others (`determined_own`,
  `determined_serviceAddress`);
* `Tolerant`, `settings_tolerant` -- all of it, for every environment.
-/

namespace Catalogue

namespace Settings

/-! ## 1. The texts of numbers -/

/-- **A number of 64 bits as a text**: digits, perhaps behind a plus, and blanks around both. -/
def WordText (s : String) (n : Nat) : Prop :=
  ∃ lead core trail, (∀ c ∈ lead, isBlank c) ∧ (∀ c ∈ trail, isBlank c) ∧
    s.toList = lead ++ (core ++ trail) ∧ PlusDigits core n ∧ n < 18446744073709551616

/-- **A number of 16 bits as a text**: digits, perhaps behind a plus, and nothing around them. -/
def SocketText (s : String) (n : Nat) : Prop := PlusDigits s.toList n ∧ n < 65536

theorem not_isBlank_of_digits {cs : List Char} {n : Nat} (h : Digits cs n) :
    ∀ c ∈ cs, ¬isBlank c := by
  obtain ⟨ds, -, hall, rfl, -⟩ := h
  intro c hc
  obtain ⟨d, hd, rfl⟩ := List.mem_map.mp hc
  have all : ∀ d : Fin 10, ¬isBlank (digitChar d.val) := by decide
  exact all ⟨d, hall d hd⟩

/-- There is no blank in a number. -/
theorem not_isBlank_of_plusDigits {cs : List Char} {n : Nat} (h : PlusDigits cs n) :
    ∀ c ∈ cs, ¬isBlank c := by
  rcases h with h | ⟨t, rfl, h⟩
  · exact not_isBlank_of_digits h
  · exact List.forall_mem_cons.mpr ⟨by decide, not_isBlank_of_digits h⟩

theorem ne_nil_of_plusDigits {cs : List Char} {n : Nat} (h : PlusDigits cs n) : cs ≠ [] := by
  rcases h with ⟨ds, hne, -, rfl, -⟩ | ⟨t, rfl, -⟩
  · exact mt List.map_eq_nil_iff.mp hne
  · exact List.cons_ne_nil _ _

/-- **A trimmed text is read as a number of 64 bits** when the text is one, with blanks around it. -/
theorem unsigned?_trim_eq_some_iff (s : String) (n : Nat) :
    unsigned? 18446744073709551616 (trim s.toList) = some n ↔ WordText s n := by
  rw [unsigned?_eq_some_iff]
  constructor
  · rintro ⟨hcore, hlt⟩
    obtain ⟨lead, trail, hlead, htrail, hs⟩ := exists_trim s.toList
    exact ⟨lead, trim s.toList, trail, hlead, htrail, hs, hcore, hlt⟩
  · rintro ⟨lead, core, trail, hlead, htrail, hs, hcore, hlt⟩
    have htrim : trim s.toList = core := by
      rw [hs, trim_around hlead htrail (not_isBlank_of_plusDigits hcore)
        (ne_nil_of_plusDigits hcore)]
    rw [htrim]
    exact ⟨hcore, hlt⟩

/-! ## 2. Numbers -/

/-- **A value set by a variable**: what its text denotes, and the default where the variable is absent
    or its text denotes nothing. -/
structure SetBy (Denotes : String → Nat → Prop) (given : Option String) (fallback value : Nat) :
    Prop where
  denoted : ∀ s n, given = some s → Denotes s n → value = n
  otherwise : (∀ s n, given = some s → ¬Denotes s n) → value = fallback

/-- A reader that accepts just the texts that denote something sets a value. -/
theorem setBy_getD {Denotes : String → Nat → Prop} {read : String → Option Nat}
    (hread : ∀ s n, read s = some n ↔ Denotes s n) (given : Option String) (fallback : Nat) :
    SetBy Denotes given fallback ((given.bind read).getD fallback) where
  denoted s n hs hn := by rw [hs, Option.bind_some, (hread s n).mpr hn, Option.getD_some]
  otherwise hnone := by
    have hunread : given.bind read = none :=
      Option.bind_eq_none_iff.mpr fun s hs =>
        Option.eq_none_iff_forall_ne_some.mpr fun n hn => hnone s n hs ((hread s n).mp hn)
    rw [hunread, Option.getD_none]

/-- The service of a domain. -/
def endpoint (s : Settings) : Domain → Endpoint
  | .product => s.product
  | .recommendation => s.recommendation
  | .review => s.review

/-- The settings of 64 bits. -/
inductive Number where
  | timeout (d : Domain)
  | poolSize
  | queueDepth
  | eventPartitions
  deriving DecidableEq, Repr

namespace Number

/-- The variable that sets a number. -/
def variableName : Number → String
  | timeout .product => "PRODUCT_TIMEOUT_MS"
  | timeout .recommendation => "RECOMMENDATION_TIMEOUT_MS"
  | timeout .review => "REVIEW_TIMEOUT_MS"
  | poolSize => "UPSTREAM_POOL_SIZE"
  | queueDepth => "UPSTREAM_QUEUE_DEPTH"
  | eventPartitions => "EVENT_PARTITIONS"

/-- The default of a number. -/
def fallback : Number → Nat
  | timeout _ => 2000
  | poolSize => 10
  | queueDepth => 100
  | eventPartitions => 2

/-- The number itself. -/
def value (s : Settings) : Number → Nat
  | timeout d => (s.endpoint d).timeout
  | poolSize => s.poolSize
  | queueDepth => s.queueDepth
  | eventPartitions => s.eventPartitions

end Number

/-- Every number is read from its variable. -/
theorem value_ofLookup (lookup : Lookup) (x : Number) :
    x.value (ofLookup lookup) = numberOr lookup x.variableName x.fallback := by
  cases x with
  | timeout d => cases d <;> rfl
  | poolSize => rfl
  | queueDepth => rfl
  | eventPartitions => rfl

/-- **Every number of 64 bits is set by its variable.** -/
theorem setBy_number (lookup : Lookup) (x : Number) :
    SetBy WordText (lookup x.variableName) x.fallback (x.value (ofLookup lookup)) := by
  rw [value_ofLookup]
  exact setBy_getD unsigned?_trim_eq_some_iff _ _

/-- **The socket number is set by its variable.** -/
theorem setBy_socket (lookup : Lookup) :
    SetBy SocketText (lookup "PORT") 7000 (ofLookup lookup).socket :=
  setBy_getD (fun s => unsigned?_eq_some_iff 65536 s.toList) _ _

/-! ## 3. Settings with a variable of their own -/

/-- The settings that have a variable of their own. -/
inductive Own where
  | number (x : Number)
  | socket
  | host
  | logLevel
  | logFormat
  | baseUrl (d : Domain)
  deriving DecidableEq, Repr

namespace Own

/-- What a setting holds. -/
def Value : Own → Type
  | number _ => Nat
  | socket => Nat
  | logFormat => LogFormat
  | host => String
  | logLevel => String
  | baseUrl _ => String

/-- The variable of a setting. -/
def variableName : Own → String
  | number x => x.variableName
  | socket => "PORT"
  | host => "HOST"
  | logLevel => "RUST_LOG"
  | logFormat => "LOG_FORMAT"
  | baseUrl .product => "PRODUCT_SERVICE_URL"
  | baseUrl .recommendation => "RECOMMENDATION_SERVICE_URL"
  | baseUrl .review => "REVIEW_SERVICE_URL"

/-- The setting itself. -/
def value (s : Settings) : (x : Own) → x.Value
  | number x => x.value s
  | socket => s.socket
  | host => s.host
  | logLevel => s.logLevel
  | logFormat => s.logFormat
  | baseUrl d => (s.endpoint d).baseUrl

end Own

attribute [ext] Endpoint Settings

/-- **No setting is left out**: those with a variable of their own and the reported address are all. -/
theorem eq_of_own {s u : Settings} (hown : ∀ x : Own, x.value s = x.value u)
    (haddress : s.serviceAddress = u.serviceAddress) : s = u := by
  have hendpoint (d : Domain) : s.endpoint d = u.endpoint d :=
    Endpoint.ext (hown (.baseUrl d)) (hown (.number (.timeout d)))
  exact Settings.ext (hown .host) (hown .socket) (hown .logLevel) (hown .logFormat) haddress
    (hendpoint .product) (hendpoint .recommendation) (hendpoint .review)
    (hown (.number .poolSize)) (hown (.number .queueDepth)) (hown (.number .eventPartitions))

/-! ## 4. Dependence -/

/-- **A setting depends on a variable** when a change of that variable alone can change it. -/
def DependsOn {α : Type} (setting : Settings → α) (name : String) : Prop :=
  ∃ lookup another : Lookup, (∀ other, other ≠ name → lookup other = another other) ∧
    setting (ofLookup lookup) ≠ setting (ofLookup another)

/-- **A setting is determined by some variables**: environments that agree on them agree on it, and
    it depends on these variables and on no others. -/
structure DeterminedBy {α : Type} (setting : Settings → α) (names : List String) : Prop where
  agree : ∀ lookup another : Lookup, (∀ name ∈ names, lookup name = another name) →
    setting (ofLookup lookup) = setting (ofLookup another)
  exactly : ∀ name, DependsOn setting name ↔ name ∈ names

/-- The environment with one variable. -/
def single (name text : String) : Lookup := fun other => if other = name then some text else none

/-- A setting is determined by the variables that it needs, if each of them on its own can change the
    setting of the empty environment. -/
theorem DeterminedBy.of_single {α : Type} {setting : Settings → α} {names : List String}
    (agree : ∀ lookup another : Lookup, (∀ name ∈ names, lookup name = another name) →
      setting (ofLookup lookup) = setting (ofLookup another))
    (change : ∀ name ∈ names, ∃ text,
      setting (ofLookup (single name text)) ≠ setting (ofLookup fun _ => none)) :
    DeterminedBy setting names where
  agree := agree
  exactly name := by
    constructor
    · rintro ⟨lookup, another, hsame, hdiffer⟩
      refine Decidable.by_contra fun hname => hdiffer (agree lookup another fun other hother => ?_)
      exact hsame other (ne_of_mem_of_not_mem hother hname)
    · intro hname
      obtain ⟨text, hdiffer⟩ := change name hname
      exact ⟨single name text, fun _ => none, fun other hother => if_neg hother, hdiffer⟩

/-- A setting with a variable of its own needs no other. -/
theorem own_congr (x : Own) {lookup another : Lookup}
    (h : lookup x.variableName = another x.variableName) :
    x.value (ofLookup lookup) = x.value (ofLookup another) := by
  cases x with
  | number x =>
    show x.value (ofLookup lookup) = x.value (ofLookup another)
    rw [value_ofLookup, value_ofLookup, numberOr, numberOr]
    exact congrArg (fun given => (Option.bind given _).getD _) h
  | socket => exact congrArg (fun given => (Option.bind given _).getD _) h
  | host => exact congrArg (Option.getD · _) h
  | logLevel => exact congrArg (Option.getD · _) h
  | logFormat => exact congrArg logFormatOf h
  | baseUrl d => cases d <;> exact congrArg (Option.getD · _) h

/-- Every variable of a setting can change it: numbers are set to one, and the log format to `json`. -/
theorem exists_change (x : Own) : ∃ text,
    x.value (ofLookup (single x.variableName text)) ≠ x.value (ofLookup fun _ => none) := by
  cases x with
  | number x =>
    refine ⟨"1", ?_⟩
    show x.value _ ≠ x.value _
    cases x with
    | timeout d => cases d <;> decide
    | poolSize => decide
    | queueDepth => decide
    | eventPartitions => decide
  | socket => exact ⟨"1", show (ofLookup _).socket ≠ (ofLookup _).socket by decide⟩
  | host => exact ⟨"", show (ofLookup _).host ≠ (ofLookup _).host by decide⟩
  | logLevel => exact ⟨"", show (ofLookup _).logLevel ≠ (ofLookup _).logLevel by decide⟩
  | logFormat => exact ⟨"json", show (ofLookup _).logFormat ≠ (ofLookup _).logFormat by decide⟩
  | baseUrl d =>
    refine ⟨"", ?_⟩
    show ((ofLookup _).endpoint d).baseUrl ≠ ((ofLookup _).endpoint d).baseUrl
    cases d <;> decide

/-- **A setting with a variable of its own depends on that variable**, and on no other. -/
theorem determined_own (x : Own) : DeterminedBy x.value [x.variableName] :=
  .of_single (fun _ _ h => own_congr x (h _ (List.mem_singleton.mpr rfl))) fun name hname => by
    rw [List.mem_singleton.mp hname]
    exact exists_change x

/-- **The reported address depends on three variables**: its own, the host's name and the socket
    number. -/
theorem determined_serviceAddress :
    DeterminedBy serviceAddress ["SERVICE_ADDRESS", "HOSTNAME", "PORT"] := by
  refine .of_single (fun lookup another h => ?_) ?_
  · obtain ⟨haddress, hname, hport, -⟩ :
        lookup "SERVICE_ADDRESS" = another "SERVICE_ADDRESS" ∧
          lookup "HOSTNAME" = another "HOSTNAME" ∧ lookup "PORT" = another "PORT" ∧ True := by
      simpa using h
    have hsocket : socketOf lookup = socketOf another := by rw [socketOf, socketOf, hport]
    show (lookup "SERVICE_ADDRESS").getD _ = (another "SERVICE_ADDRESS").getD _
    rw [haddress, hname, hsocket]
  · have haddress : (ofLookup (single "SERVICE_ADDRESS" "")).serviceAddress ≠
        (ofLookup fun _ => none).serviceAddress := by decide
    have hname : (ofLookup (single "HOSTNAME" "")).serviceAddress ≠
        (ofLookup fun _ => none).serviceAddress := by decide
    have hport : (ofLookup (single "PORT" "1")).serviceAddress ≠
        (ofLookup fun _ => none).serviceAddress := by decide +kernel
    simpa using ⟨⟨"", haddress⟩, ⟨"", hname⟩, ⟨"1", hport⟩⟩

/-! ## 5. Every environment -/

/-- **What an environment comes to**, whatever its texts are: every number is one that its variable
    denotes or the default, and the reported address, unless it is given, has the socket number that
    is listened on. -/
structure Tolerant (lookup : Lookup) : Prop where
  number : ∀ x : Number,
    SetBy WordText (lookup x.variableName) x.fallback (x.value (ofLookup lookup))
  socket : SetBy SocketText (lookup "PORT") 7000 (ofLookup lookup).socket
  bound : bindAddress (ofLookup lookup) =
    (ofLookup lookup).host ++ ":" ++ decimalText (ofLookup lookup).socket
  given : ∀ s, lookup "SERVICE_ADDRESS" = some s → (ofLookup lookup).serviceAddress = s
  composed : lookup "SERVICE_ADDRESS" = none → (ofLookup lookup).serviceAddress =
    (lookup "HOSTNAME").getD "localhost" ++ ":" ++ decimalText (ofLookup lookup).socket

/-- Every environment is tolerated. -/
theorem tolerant (lookup : Lookup) : Tolerant lookup where
  number := setBy_number lookup
  socket := setBy_socket lookup
  bound := rfl
  given s hs := by
    show (lookup "SERVICE_ADDRESS").getD _ = s
    rw [hs, Option.getD_some]
  composed hnone := by
    show (lookup "SERVICE_ADDRESS").getD _ = _
    rw [hnone, Option.getD_none]
    rfl

/-- **Settings stand for every environment.** Whatever the texts are, each number is what its own
    variable denotes within its bounds, and the default where that denotes nothing; the reported
    address is the one that is given, or is put together with the socket number listened on. Every
    setting is determined by its own variable and by no other, but for the reported address, which
    depends on three; and these are all settings. -/
theorem settings_tolerant :
    (∀ lookup : Lookup, Tolerant lookup) ∧
    (∀ x : Own, DeterminedBy x.value [x.variableName]) ∧
    DeterminedBy serviceAddress ["SERVICE_ADDRESS", "HOSTNAME", "PORT"] ∧
    ∀ s u : Settings, (∀ x : Own, x.value s = x.value u) →
      s.serviceAddress = u.serviceAddress → s = u :=
  ⟨tolerant, determined_own, determined_serviceAddress, fun _ _ => eq_of_own⟩

/-- A number in blanks of several kinds, one that does not fit into its bits, and a socket number in a
    blank. -/
example :
    (ofLookup (single "UPSTREAM_POOL_SIZE" "\t +0018446744073709551615\u2003")).poolSize =
        18446744073709551615 ∧
      (ofLookup (single "UPSTREAM_POOL_SIZE" "18446744073709551616")).poolSize = 10 ∧
      (ofLookup (single "PORT" " 80")).socket = 7000 := by
  decide

end Settings

end Catalogue
