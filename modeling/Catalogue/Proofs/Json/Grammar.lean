import Catalogue.Json.Walk
import Catalogue.Proofs.Json.Record

/-!
# The grammar of a JSON text

What a text has to look like, said without any reader: blanks, numbers, strings, and values made
of them. The readers are then shown to stop exactly where such a text ends.

* `cases_of_toOption` -- what it means that a result is, up to its fault, an option;
* `Blank` -- a run of blanks (`skipBlank_append`: it is skipped);
* `Figure` -- a number without its sign (`Figure.scan`: it is scanned, up to a delimiter);
* `Spelled` -- what stands between the quotes of a string; `spelledText` -- the text it spells, if
  it spells one (`readText_spelled`);
* `Padded`, `Entry` -- an element of a list and a member of an object, with the blanks in them;
* `Grammatical` -- a value, as deep as one likes;
* `skipValue_grammatical` -- every value is passed over, wherever it stands.
-/

namespace Catalogue.Json

/-! ## 1. Results without their faults -/

/-- A result without its fault, changed or not. -/
theorem toOption_map {ε α β : Type} (f : α → β) (r : Except ε α) :
    (r.map f).toOption = r.toOption.map f := by
  cases r <;> rfl

theorem toOption_eq_some_iff {ε α : Type} {r : Except ε α} {a : α} :
    r.toOption = some a ↔ r = .ok a := by
  cases r with
  | error e => exact ⟨nofun, nofun⟩
  | ok b =>
    constructor
    · rintro ⟨⟩
      rfl
    · rintro ⟨⟩
      rfl

/-- Two ways in which a result can be what an option says. -/
theorem cases_of_toOption {ε α β : Type} {r : Except ε β} {o : Option α} {f : α → β}
    (h : r.toOption = o.map f) :
    (∃ e, r = .error e ∧ o = none) ∨ ∃ a, r = .ok (f a) ∧ o = some a := by
  cases r with
  | error e =>
    cases o with
    | none => exact .inl ⟨e, rfl, rfl⟩
    | some a => cases h
  | ok b =>
    cases o with
    | none => cases h
    | some a =>
      obtain rfl : b = f a := Option.some.inj h
      exact .inr ⟨a, rfl, rfl⟩

/-! ## 2. Blanks -/

/-- Blanks and nothing else. -/
def Blank (pad : Bytes) : Prop := ∀ b ∈ pad, isJsonBlank b = true

theorem blank_nil : Blank [] := fun _ hb => absurd hb List.not_mem_nil

theorem skipBlank_append {pad : Bytes} (h : Blank pad) (t : Bytes) :
    skipBlank (pad ++ t) = skipBlank t := by
  induction pad with
  | nil => rfl
  | cons b pad ih =>
    rw [List.cons_append, skipBlank, if_pos (h b List.mem_cons_self)]
    exact ih fun c hc => h c (List.mem_cons_of_mem b hc)

/-- Blanks lead to the byte behind them. -/
theorem skipBlank_pad {pad : Bytes} (h : Blank pad) {b : UInt8} (hb : isJsonBlank b = false)
    (t : Bytes) : skipBlank (pad ++ b :: t) = b :: t := by
  rw [skipBlank_append h, skipBlank_cons hb]

theorem isJsonBlank_iff (b : UInt8) :
    isJsonBlank b = true ↔ b = 0x20 ∨ b = 0x09 ∨ b = 0x0A ∨ b = 0x0D := by
  simp [isJsonBlank, or_assoc]

/-- Blanks may stand between a number and what ends it. -/
theorem Blank.delimited {pad rest : Bytes} (h : Blank pad) (hrest : Delimited rest) :
    Delimited (pad ++ rest) := by
  cases pad with
  | nil => exact hrest
  | cons b pad =>
    show isDigit b = false ∧ b ≠ 0x2E ∧ b ≠ 0x65 ∧ b ≠ 0x45
    rcases (isJsonBlank_iff b).mp (h b List.mem_cons_self) with rfl | rfl | rfl | rfl <;> decide

/-! ## 3. Numbers -/

/-- A text that does not go on with digits. -/
def EndsDigits : Bytes → Prop
  | [] => True
  | b :: _ => isDigit b = false

/-- A text that goes on neither with digits nor with a point. -/
def EndsWhole : Bytes → Prop
  | [] => True
  | b :: _ => isDigit b = false ∧ b ≠ 0x2E

/-- The digits before the point: a zero alone, or digits that start with another digit. -/
inductive Whole : Bytes → Prop where
  | zero : Whole [0x30]
  | digits {b : UInt8} {ds : Bytes} (hb : isDigit b = true) (hne : b ≠ 0x30)
      (hds : ∀ c ∈ ds, isDigit c = true) : Whole (b :: ds)

/-- A point and digits, or nothing. -/
inductive Fraction : Bytes → Prop where
  | absent : Fraction []
  | present {ds : Bytes} (hne : ds ≠ []) (hds : ∀ c ∈ ds, isDigit c = true) :
      Fraction (0x2E :: ds)

/-- An exponent with its digits, behind a sign or without one, or nothing. -/
inductive Exponent : Bytes → Prop where
  | absent : Exponent []
  | present {letter : UInt8} {sign ds : Bytes} (hletter : letter = 0x65 ∨ letter = 0x45)
      (hsign : sign = [] ∨ sign = [0x2B] ∨ sign = [0x2D]) (hne : ds ≠ [])
      (hds : ∀ c ∈ ds, isDigit c = true) : Exponent (letter :: (sign ++ ds))

/-- A number without its sign. -/
inductive Figure : Bytes → Prop where
  | of {whole fraction exponent : Bytes} (hw : Whole whole) (hf : Fraction fraction)
      (hx : Exponent exponent) : Figure (whole ++ (fraction ++ exponent))

theorem leadingDigits_append {ds t : Bytes} (hds : ∀ c ∈ ds, isDigit c = true) (ht : EndsDigits t) :
    leadingDigits (ds ++ t) = ds.map digitOf := by
  have hstop : t.takeWhile isDigit = [] := by
    cases t with
    | nil => rfl
    | cons b t =>
      have hb : isDigit b = false := ht
      rw [List.takeWhile_cons, if_neg (by simp [hb])]
  rw [leadingDigits, List.takeWhile_append_of_pos hds, hstop, List.append_nil]

theorem afterDigits_append {ds t : Bytes} (hds : ∀ c ∈ ds, isDigit c = true) (ht : EndsDigits t) :
    afterDigits (ds ++ t) = t := by
  have hstop : t.dropWhile isDigit = t := by
    cases t with
    | nil => rfl
    | cons b t =>
      have hb : isDigit b = false := ht
      rw [List.dropWhile_cons, if_neg (by simp [hb])]
  rw [afterDigits, List.dropWhile_append_of_pos hds, hstop]

theorem scanDigits_append {ds t : Bytes} (hne : ds ≠ []) (hds : ∀ c ∈ ds, isDigit c = true)
    (ht : EndsDigits t) : scanDigits (ds ++ t) = .ok (ds.map digitOf, t) := by
  obtain ⟨b, ds, rfl⟩ := List.exists_cons_of_ne_nil hne
  rw [scanDigits, leadingDigits_append hds ht, afterDigits_append hds ht]
  rfl

theorem ne_of_isDigit {b c : UInt8} (hb : isDigit b = true) (hc : isDigit c = false) : b ≠ c := by
  rintro rfl
  rw [hb] at hc
  cases hc

theorem Whole.scan {w : Bytes} (h : Whole w) {t : Bytes} (ht : EndsDigits t) :
    scanWhole (w ++ t) = .ok (w.map digitOf, t) := by
  cases h with
  | zero =>
    cases t with
    | nil => rfl
    | cons b t =>
      have hb : isDigit b = false := ht
      simp [scanWhole, hb, digitOf]
  | @digits b ds hb hne hds =>
    have hall : ∀ c ∈ b :: ds, isDigit c = true := List.forall_mem_cons.mpr ⟨hb, hds⟩
    have hlead := leadingDigits_append hall ht
    have hafter := afterDigits_append hall ht
    rw [List.cons_append] at hlead hafter ⊢
    rw [scanWhole.eq_def]
    simp only [if_neg hne, if_pos hb, hlead, hafter]

theorem Fraction.endsDigits {f t : Bytes} (h : Fraction f) (ht : EndsWhole t) :
    EndsDigits (f ++ t) := by
  cases h with
  | absent =>
    cases t with
    | nil => trivial
    | cons b t => exact ht.1
  | present hne hds => exact rfl

/-- A fraction is scanned up to what does not continue it; where none is found, there is none. -/
theorem Fraction.scan {f : Bytes} (h : Fraction f) : ∃ digits : Option (List Nat),
    (digits = none → f = []) ∧
      ∀ t, EndsWhole t → scanFraction (f ++ t) = .ok (digits, t) := by
  cases h with
  | absent =>
    refine ⟨none, fun _ => rfl, fun t ht => ?_⟩
    cases t with
    | nil => rfl
    | cons b t => rw [List.nil_append, scanFraction, if_neg ht.2]
  | @present ds hne hds =>
    refine ⟨some (ds.map digitOf), fun h => absurd h (Option.some_ne_none _), fun t ht => ?_⟩
    have hdigits := scanDigits_append hne hds (Fraction.absent.endsDigits ht)
    rw [List.nil_append] at hdigits
    rw [List.cons_append, scanFraction, if_pos rfl, hdigits]
    rfl

theorem Exponent.endsWhole {x rest : Bytes} (h : Exponent x) (hrest : Delimited rest) :
    EndsWhole (x ++ rest) := by
  cases h with
  | absent =>
    cases rest with
    | nil => trivial
    | cons b t => exact ⟨hrest.1, hrest.2.1⟩
  | present hletter =>
    show isDigit _ = false ∧ _ ≠ _
    rcases hletter with rfl | rfl
    · exact ⟨rfl, by decide⟩
    · exact ⟨rfl, by decide⟩

/-- An exponent is scanned up to a delimiter; where none is found, there is none. -/
theorem Exponent.scan {x : Bytes} (h : Exponent x) : ∃ exponent : Option (Bool × List Nat),
    (exponent = none → x = []) ∧
      ∀ rest, Delimited rest → scanExponent (x ++ rest) = .ok (exponent, rest) := by
  cases h with
  | absent => exact ⟨none, fun _ => rfl, fun rest hrest => scanExponent_delimited hrest⟩
  | @present letter sign ds hletter hsign hne hds =>
    have hsigned : ∃ negative, ∀ t, scanExponentSign (sign ++ (ds ++ t)) = (negative, ds ++ t) := by
      rcases hsign with rfl | rfl | rfl
      · obtain ⟨d, ds, rfl⟩ := List.exists_cons_of_ne_nil hne
        have hd : isDigit d = true := hds d List.mem_cons_self
        have hplus : d ≠ 0x2B := ne_of_isDigit hd rfl
        refine ⟨false, fun t => ?_⟩
        rw [List.nil_append, List.cons_append, scanExponentSign, if_neg hplus,
          if_neg (digit_not_special hd).2.1]
      · exact ⟨false, fun _ => rfl⟩
      · exact ⟨true, fun _ => rfl⟩
    obtain ⟨negative, hsigned⟩ := hsigned
    refine ⟨some (negative, ds.map digitOf), nofun, fun rest hrest => ?_⟩
    have hstop : EndsDigits rest := Fraction.absent.endsDigits (Exponent.absent.endsWhole hrest)
    rw [List.cons_append, List.append_assoc, scanExponent, if_pos hletter, hsigned]
    simp only [scanDigits_append hne hds hstop, bind, Except.bind]

/-- **A number is scanned up to a delimiter.** Where neither fraction nor exponent is found, it is
    digits alone. -/
theorem Figure.scan {v : Bytes} (h : Figure v) : ∃ whole fraction exponent, Whole whole ∧
    (fraction = none → exponent = none → v = whole) ∧
      ∀ negative rest, Delimited rest → Literal.scan negative (v ++ rest) =
        .ok (⟨negative, whole.map digitOf, fraction, exponent⟩, rest) := by
  obtain ⟨hw, hf, hx⟩ := h
  obtain ⟨fraction, hfraction, scanF⟩ := hf.scan
  obtain ⟨exponent, hexponent, scanX⟩ := hx.scan
  refine ⟨_, fraction, exponent, hw, fun hf hx => ?_, fun negative rest hrest => ?_⟩
  · rw [hfraction hf, hexponent hx, List.append_nil, List.append_nil]
  · have hpoint := hx.endsWhole hrest
    simp only [List.append_assoc, Literal.scan, hw.scan (hf.endsDigits hpoint), scanF _ hpoint,
      scanX _ hrest, bind, Except.bind]

/-- A number starts with a digit. -/
theorem Figure.head {v : Bytes} (h : Figure v) : ∃ b t, v = b :: t ∧ isDigit b = true := by
  obtain ⟨hw, -, -⟩ := h
  cases hw with
  | zero => exact ⟨0x30, _, rfl, rfl⟩
  | digits hb => exact ⟨_, _, rfl, hb⟩

/-! ## 4. Strings -/

/-- What stands between the quotes of a string: bytes for themselves, letters behind a backslash,
    and numbers of four digits. -/
inductive Spelled : Bytes → Prop where
  | done : Spelled []
  | plain {b : UInt8} {t : Bytes} (hquote : b ≠ 0x22) (hslash : b ≠ 0x5C) (hb : 0x20 ≤ b)
      (ht : Spelled t) : Spelled (b :: t)
  | letter {c b : UInt8} {t : Bytes} (hc : escapedByte? c = some b) (ht : Spelled t) :
      Spelled (0x5C :: c :: t)
  | number {a b c d : UInt8} {n : Nat} {t : Bytes} (hn : hexReversed? [d, c, b, a] = some n)
      (ht : Spelled t) : Spelled (0x5C :: 0x75 :: a :: b :: c :: d :: t)

/-- No number starts like a letter behind a backslash. -/
theorem ne_of_escapedByte? {c b : UInt8} (h : escapedByte? c = some b) : c ≠ 0x75 := by
  rintro rfl
  cases h

/-- **A string is passed over**, whatever it spells. -/
theorem Spelled.skip {t : Bytes} (h : Spelled t) (rest : Bytes) :
    skipString .plain (t ++ 0x22 :: rest) = .ok rest := by
  induction h with
  | done => rfl
  | @plain b t hquote hslash hb ht ih =>
    have hnot : ¬ b < 0x20 := UInt8.not_lt.mpr hb
    rw [List.cons_append, skipString, if_neg hquote, if_neg hslash, if_neg hnot, ih]
  | letter hc ht ih =>
    simp only [List.cons_append, skipString]
    simp [ne_of_escapedByte? hc, hc, ih]
  | number hn ht ih =>
    simp only [List.cons_append, skipString]
    simp [hn, ih]

/-- Between two characters a string stands plainly, or behind the first half of a pair. -/
def StringState.between : StringState → Prop
  | .plain => True
  | .pairEscape _ => True
  | _ => False

theorem between_afterNumber {high : Option Nat} {n : Nat} {s : StringState} {bytes : Bytes}
    (h : afterNumber high n = some (s, bytes)) : s.between := by
  unfold afterNumber at h
  split at h
  · split at h
    · cases h
    · split at h
      · cases h
        trivial
      · cases h
        trivial
  · split at h
    · cases h
      trivial
    · cases h

/-- The four digits of a character's number, in one go. -/
theorem scanString_quad (high : Option Nat) (acc : Bytes) (a b c d : UInt8) (t : Bytes) :
    scanString (.quad high []) acc (a :: b :: c :: d :: t) =
      match (hexReversed? [d, c, b, a]).bind (afterNumber high) with
      | some (state, bytes) => scanString state (bytes.reverse ++ acc) t
      | none => .error .wrong := by
  simp only [scanString, List.length_nil, List.length_cons, Nat.zero_add, Nat.reduceAdd,
    Nat.reduceLT, if_true]
  rfl

/-- What a string spells does not depend on what follows it. -/
theorem Spelled.scan {t : Bytes} (h : Spelled t) (s : StringState) (hs : s.between) (acc : Bytes) :
    ∃ o : Option Bytes, ∀ rest,
      (scanString s acc (t ++ 0x22 :: rest)).toOption = o.map fun bytes => (bytes, rest) := by
  induction h generalizing s acc with
  | done =>
    cases s with
    | plain => exact ⟨some acc.reverse, fun rest => rfl⟩
    | pairEscape high => exact ⟨none, fun rest => rfl⟩
    | _ => exact hs.elim
  | @plain b t hquote hslash hb ht ih =>
    cases s with
    | plain =>
      obtain ⟨o, ho⟩ := ih .plain trivial (b :: acc)
      refine ⟨o, fun rest => ?_⟩
      rw [List.cons_append, scanString, if_neg hquote, if_neg hslash,
        if_neg (UInt8.not_lt.mpr hb), ho]
    | pairEscape high =>
      refine ⟨none, fun rest => ?_⟩
      rw [List.cons_append, scanString, if_neg hslash]
      rfl
    | _ => exact hs.elim
  | @letter c b t hc ht ih =>
    have hletter := ne_of_escapedByte? hc
    cases s with
    | plain =>
      obtain ⟨o, ho⟩ := ih .plain trivial (b :: acc)
      refine ⟨o, fun rest => ?_⟩
      simp only [List.cons_append, scanString, if_neg hletter, hc, ← ho rest]
      rfl
    | pairEscape high =>
      refine ⟨none, fun rest => ?_⟩
      simp only [List.cons_append, scanString, if_neg hletter]
      rfl
    | _ => exact hs.elim
  | @number a b c d n t hn ht ih =>
    have hcharacter (high : Option Nat) : ∃ o : Option Bytes, ∀ rest,
        (scanString (.quad high []) acc (a :: b :: c :: d :: (t ++ 0x22 :: rest))).toOption =
          o.map fun bytes => (bytes, rest) := by
      simp only [scanString_quad, hn, Option.bind_some]
      cases hafter : afterNumber high n with
      | none => exact ⟨none, fun rest => rfl⟩
      | some next => exact ih next.1 (between_afterNumber hafter) (next.2.reverse ++ acc)
    cases s with
    | plain =>
      obtain ⟨o, ho⟩ := hcharacter none
      refine ⟨o, fun rest => ?_⟩
      simp only [List.cons_append, scanString, ← ho rest]
      rfl
    | pairEscape high =>
      obtain ⟨o, ho⟩ := hcharacter (some high)
      refine ⟨o, fun rest => ?_⟩
      simp only [List.cons_append, scanString, ← ho rest]
      rfl
    | _ => exact hs.elim

/-- The text that a string spells: nothing for half a pair, or for bytes that are no text. -/
def spelledText (t : Bytes) : Option String :=
  (readText (t ++ [0x22])).toOption.map Prod.fst

/-- **What stands between quotes is read as the text it spells**, whatever follows. -/
theorem readText_spelled {t : Bytes} (h : Spelled t) (rest : Bytes) :
    (readText (t ++ 0x22 :: rest)).toOption = (spelledText t).map fun s => (s, rest) := by
  obtain ⟨o, ho⟩ := h.scan .plain trivial []
  have hread (rest : Bytes) : (readText (t ++ 0x22 :: rest)).toOption =
      (o.bind textOf?).map fun s => (s, rest) := by
    rcases cases_of_toOption (ho rest) with ⟨stop, hscan, ho⟩ | ⟨bytes, hscan, ho⟩
    · rw [readText, hscan, ho]
      rfl
    · rw [readText, hscan, ho]
      cases htext : textOf? bytes with
      | none => simp only [Option.bind_some, htext, Option.map_none, Except.toOption]
      | some s => simp only [Option.bind_some, htext, Option.map_some, Except.toOption]
  rw [spelledText, hread, hread]
  cases o.bind textOf? <;> rfl

/-! ## 5. Values -/

/-- A value between blanks, as an element of a list stands there. -/
structure Padded where
  before : Bytes
  value : Bytes
  after : Bytes
  before_blank : Blank before
  after_blank : Blank after

namespace Padded

/-- The element as it is written. -/
def text (e : Padded) : Bytes := e.before ++ (e.value ++ e.after)

end Padded

/-- A member of an object: its name as it is spelled, a colon, and a value. -/
structure Entry where
  lead : Bytes
  name : Bytes
  gap : Bytes
  content : Padded
  lead_blank : Blank lead
  name_spelled : Spelled name
  gap_blank : Blank gap

namespace Entry

/-- The member from behind its name on. -/
def afterName (m : Entry) : Bytes := m.gap ++ 0x3A :: m.content.text

/-- The member as it is written. -/
def text (m : Entry) : Bytes := m.lead ++ 0x22 :: (m.name ++ 0x22 :: m.afterName)

end Entry

/-- The byte that opens a bracket. -/
def Bracket.opening : Bracket → UInt8
  | .list => 0x5B
  | .object => 0x7B

/-- Parts with commas between them and brackets around them. -/
def bracketText (bracket : Bracket) (pad : Bytes) (parts : List Bytes) : Bytes :=
  bracket.opening :: (pad ++ (joinParts parts ++ [bracket.close]))

/-- A list as it is written. -/
def listText (pad : Bytes) (es : List Padded) : Bytes :=
  bracketText .list pad (es.map Padded.text)

/-- An object as it is written. -/
def objectText (pad : Bytes) (ms : List Entry) : Bytes :=
  bracketText .object pad (ms.map Entry.text)

/-- **The values of a JSON text.** Blanks may stand around the parts of lists and objects; names
    may be repeated. -/
inductive Grammatical : Bytes → Prop where
  | null : Grammatical writeNull
  | yes : Grammatical (0x74 :: trueTail)
  | no : Grammatical (0x66 :: falseTail)
  | positive {t : Bytes} (h : Figure t) : Grammatical t
  | negative {t : Bytes} (h : Figure t) : Grammatical (0x2D :: t)
  | text {t : Bytes} (h : Spelled t) : Grammatical (0x22 :: (t ++ [0x22]))
  | list {pad : Bytes} (hpad : Blank pad) (es : List Padded)
      (h : ∀ e ∈ es, Grammatical e.value) : Grammatical (listText pad es)
  | object {pad : Bytes} (hpad : Blank pad) (ms : List Entry)
      (h : ∀ m ∈ ms, Grammatical m.content.value) : Grammatical (objectText pad ms)

/-- A value starts neither with a blank nor with a closing bracket. -/
theorem Grammatical.head {v : Bytes} (h : Grammatical v) :
    ∃ b t, v = b :: t ∧ isJsonBlank b = false ∧ b ≠ 0x5D := by
  cases h with
  | null => exact ⟨0x6E, _, rfl, rfl, by decide⟩
  | yes => exact ⟨0x74, _, rfl, rfl, by decide⟩
  | no => exact ⟨0x66, _, rfl, rfl, by decide⟩
  | positive h =>
    obtain ⟨b, t, rfl, hb⟩ := h.head
    exact ⟨b, t, rfl, (digit_not_special hb).1, ne_of_isDigit hb rfl⟩
  | negative h => exact ⟨0x2D, _, rfl, rfl, by decide⟩
  | text h => exact ⟨0x22, _, rfl, rfl, by decide⟩
  | list hpad es h => exact ⟨0x5B, _, rfl, rfl, by decide⟩
  | object hpad ms h => exact ⟨0x7B, _, rfl, rfl, by decide⟩

/-! ## 6. Values that are passed over -/

/-- Steps over a text, each of which takes something off it. -/
inductive Passes : SkipMode × List Bracket × Bytes → SkipMode × List Bracket × Bytes → Prop where
  | refl (s : SkipMode × List Bracket × Bytes) : Passes s s
  | step {mode : SkipMode} {open_ : List Bracket} {t : Bytes}
      {s s' : SkipMode × List Bracket × Bytes} (h : skipStep mode open_ t = .ok s)
      (hshort : s.2.2.length < t.length) (hs : Passes s s') : Passes (mode, open_, t) s'

theorem Passes.trans {s s' s'' : SkipMode × List Bracket × Bytes} (h : Passes s s')
    (h' : Passes s' s'') : Passes s s'' := by
  induction h with
  | refl s => exact h'
  | step hstep hshort hs ih => exact .step hstep hshort (ih h')

/-- **What is passed in steps is passed at once**, with as much fuel as there is text. -/
theorem Passes.skipSteps_eq {s s' : SkipMode × List Bracket × Bytes} (h : Passes s s')
    (hend : s'.1 = .next ∧ s'.2.1 = []) (fuel : Bytes) (hfuel : s.2.2.length ≤ fuel.length) :
    skipSteps fuel s.1 s.2.1 s.2.2 = .ok s'.2.2 := by
  induction h generalizing fuel with
  | refl s =>
    rw [hend.1, hend.2]
    cases fuel <;> rfl
  | @step mode open_ t s s' hstep hshort hs ih =>
    obtain ⟨b, fuel, rfl⟩ : ∃ b f, fuel = b :: f :=
      List.exists_cons_of_length_pos (Nat.lt_of_lt_of_le (Nat.zero_lt_of_lt hshort) hfuel)
    have hrest := ih hend fuel (Nat.le_of_lt_succ (Nat.lt_of_lt_of_le hshort hfuel))
    by_cases hdone : mode = .next ∧ open_ = []
    · -- no bracket is open: nothing is passed any more
      obtain ⟨rfl, rfl⟩ := hdone
      cases hstep
      exact absurd hshort (Nat.lt_irrefl _)
    · rw [skipSteps, hstep]
      · exact hrest
      · rintro rfl rfl
        exact hdone ⟨rfl, rfl⟩

/-- A value that is passed wherever it stands. -/
def Passed (v : Bytes) : Prop :=
  ∀ {pad rest : Bytes} (open_ : List Bracket), Blank pad → Delimited rest →
    Passes (.value, open_, pad ++ (v ++ rest)) (.next, open_, rest)

/-- A value that takes one step. -/
theorem passed_of_step {v : Bytes} (hne : v ≠ [])
    (h : ∀ {pad rest : Bytes} (open_ : List Bracket), Blank pad → Delimited rest →
      skipStep .value open_ (pad ++ (v ++ rest)) = .ok (.next, open_, rest)) : Passed v := by
  intro pad rest open_ hpad hrest
  refine .step (h open_ hpad hrest) ?_ (.refl _)
  have hpos : 0 < v.length := List.length_pos_iff.mpr hne
  simp only [List.length_append]
  omega

theorem passed_figure {v : Bytes} (h : Figure v) : Passed v := by
  obtain ⟨b, t, rfl, hb⟩ := h.head
  obtain ⟨whole, fraction, exponent, -, -, hscan⟩ := h.scan
  refine passed_of_step (List.cons_ne_nil b t) fun {pad rest} open_ hpad hrest => ?_
  obtain ⟨hblank, hminus, hnull⟩ := digit_not_special hb
  have htrue : b ≠ 0x74 := ne_of_isDigit hb rfl
  have hfalse : b ≠ 0x66 := ne_of_isDigit hb rfl
  have hnumber := hscan false rest hrest
  rw [List.cons_append] at hnumber ⊢
  simp only [skipStep, skipBlank_append hpad, skipBlank_cons hblank, if_neg hnull, if_neg htrue,
    if_neg hfalse, if_neg hminus, if_pos hb, skipNumber, hnumber, Except.map]

theorem passed_negative {v : Bytes} (h : Figure v) : Passed (0x2D :: v) := by
  obtain ⟨whole, fraction, exponent, -, -, hscan⟩ := h.scan
  refine passed_of_step (List.cons_ne_nil _ _) fun {pad rest} open_ hpad hrest => ?_
  simp only [List.cons_append, skipStep, skipBlank_append hpad]
  rw [skipBlank_cons (by decide)]
  simp [skipNumber, hscan false rest hrest, Except.map]

theorem passed_text {t : Bytes} (h : Spelled t) : Passed (0x22 :: (t ++ [0x22])) := by
  refine passed_of_step (List.cons_ne_nil _ _) fun {pad rest} open_ hpad hrest => ?_
  have hskip := h.skip rest
  simp only [List.cons_append, List.append_assoc, List.nil_append, skipStep, skipBlank_append hpad]
  rw [skipBlank_cons (by decide)]
  simp [isDigit, hskip, Except.map]

theorem passed_word {b : UInt8} {tail : Bytes}
    (h : b = 0x6E ∧ tail = nullTail ∨ b = 0x74 ∧ tail = trueTail ∨ b = 0x66 ∧ tail = falseTail) :
    Passed (b :: tail) := by
  refine passed_of_step (List.cons_ne_nil _ _) fun {pad rest} open_ hpad hrest => ?_
  simp only [skipStep, skipBlank_append hpad]
  rcases h with ⟨rfl, rfl⟩ | ⟨rfl, rfl⟩ | ⟨rfl, rfl⟩
  · rfl
  · rfl
  · rfl

theorem skipBlank_entry {pad : Bytes} (h : Blank pad) (m : Entry) (rest : Bytes) :
    skipBlank (pad ++ (m.text ++ rest)) = 0x22 :: (m.name ++ 0x22 :: (m.afterName ++ rest)) := by
  simp only [Entry.text, List.append_assoc, List.cons_append]
  rw [skipBlank_append h, skipBlank_pad m.lead_blank rfl]

theorem skipBlank_afterName (m : Entry) (rest : Bytes) :
    skipBlank (m.afterName ++ rest) = 0x3A :: (m.content.text ++ rest) := by
  simp only [Entry.afterName, List.append_assoc, List.cons_append]
  exact skipBlank_pad m.gap_blank rfl _

theorem skipName_quote (m : Entry) (rest : Bytes) :
    skipName (0x22 :: (m.name ++ 0x22 :: (m.afterName ++ rest))) =
      .ok (m.content.text ++ rest) := by
  rw [skipName, skipBlank_cons rfl]
  simp only [if_true, m.name_spelled.skip, bind, Except.bind, skipBlank_afterName]

/-- What stands behind a part of a list or of an object. -/
def partsTail (bracket : Bracket) (parts : List Bytes) (rest : Bytes) : Bytes :=
  parts.flatMap (fun part => 0x2C :: part) ++ bracket.close :: rest

theorem partsTail_cons (bracket : Bracket) (part : Bytes) (parts : List Bytes) (rest : Bytes) :
    partsTail bracket (part :: parts) rest = 0x2C :: (part ++ partsTail bracket parts rest) := by
  simp only [partsTail, List.flatMap_cons, List.cons_append, List.append_assoc]

theorem delimited_partsTail (bracket : Bracket) (parts : List Bytes) (rest : Bytes) :
    Delimited (partsTail bracket parts rest) := by
  cases parts with
  | nil =>
    cases bracket
    · exact ⟨rfl, by decide⟩
    · exact ⟨rfl, by decide⟩
  | cons part parts => exact delimited_comma _

theorem bracketText_nil (bracket : Bracket) (pad rest : Bytes) :
    bracketText bracket pad [] ++ rest = bracket.opening :: (pad ++ bracket.close :: rest) := by
  simp [bracketText, joinParts]

theorem bracketText_cons (bracket : Bracket) (pad part : Bytes) (parts : List Bytes)
    (rest : Bytes) : bracketText bracket pad (part :: parts) ++ rest =
      bracket.opening :: (pad ++ (part ++ partsTail bracket parts rest)) := by
  simp [bracketText, joinParts_cons, partsTail]

/-- A part that is passed, as the first one behind the bracket and as another one behind a comma. -/
structure PartPassed (bracket : Bracket) (part : Bytes) : Prop where
  fromBracket : ∀ {before pad tail : Bytes} (open_ : List Bracket), Blank before → Blank pad →
    Delimited tail → ∃ blanks, Blank blanks ∧
      Passes (.value, open_, before ++ bracket.opening :: (pad ++ (part ++ tail)))
        (.next, bracket :: open_, blanks ++ tail)
  fromComma : ∀ {pad tail : Bytes} (open_ : List Bracket), Blank pad → Delimited tail →
    ∃ blanks, Blank blanks ∧ Passes (.next, bracket :: open_, pad ++ 0x2C :: (part ++ tail))
      (.next, bracket :: open_, blanks ++ tail)

theorem partPassed_element {e : Padded} (hgram : Grammatical e.value) (h : Passed e.value) :
    PartPassed .list e.text where
  fromBracket {before pad tail} open_ hbefore hpad htail := by
    obtain ⟨b, v, hv, hblank, hclose⟩ := hgram.head
    have hfirst : skipBlank (pad ++ (e.text ++ tail)) = b :: (v ++ (e.after ++ tail)) := by
      simp only [Padded.text, hv, List.append_assoc, List.cons_append]
      rw [skipBlank_append hpad, skipBlank_pad e.before_blank hblank]
    have hstep : skipStep .value open_ (before ++ 0x5B :: (pad ++ (e.text ++ tail))) =
        .ok (.value, .list :: open_, [] ++ (e.value ++ (e.after ++ tail))) := by
      simp only [skipStep, skipBlank_append hbefore]
      rw [skipBlank_cons rfl]
      simp [isDigit, hfirst, Bracket.close, hclose, hv]
    refine ⟨e.after, e.after_blank, .step hstep ?_
      (h _ blank_nil (e.after_blank.delimited htail))⟩
    simp only [Padded.text, List.length_append, List.length_cons, List.length_nil]
    omega
  fromComma {pad tail} open_ hpad htail := by
    have hcomma : skipStep .next (.list :: open_) (pad ++ 0x2C :: (e.text ++ tail)) =
        .ok (.value, .list :: open_, e.before ++ (e.value ++ (e.after ++ tail))) := by
      simp only [skipStep, skipBlank_append hpad, Padded.text, List.append_assoc]
      rfl
    refine ⟨e.after, e.after_blank, .step hcomma ?_
      (h _ e.before_blank (e.after_blank.delimited htail))⟩
    simp only [Padded.text, List.length_append, List.length_cons]
    omega

theorem partPassed_entry {m : Entry} (h : Passed m.content.value) :
    PartPassed .object m.text where
  fromBracket {before pad tail} open_ hbefore hpad htail := by
    have hname := skipName_quote m tail
    have hstep : skipStep .value open_ (before ++ 0x7B :: (pad ++ (m.text ++ tail))) =
        .ok (.value, .object :: open_, m.content.text ++ tail) := by
      simp only [skipStep, skipBlank_append hbefore]
      rw [skipBlank_cons rfl]
      simp [isDigit, skipBlank_entry hpad, Bracket.close, hname, bind, Except.bind]
    rw [Padded.text, List.append_assoc, List.append_assoc] at hstep
    refine ⟨m.content.after, m.content.after_blank, .step hstep ?_
      (h _ m.content.before_blank (m.content.after_blank.delimited htail))⟩
    simp only [Entry.text, Entry.afterName, Padded.text, List.length_append, List.length_cons]
    omega
  fromComma {pad tail} open_ hpad htail := by
    have hname : skipName (m.text ++ tail) = .ok (m.content.text ++ tail) := by
      have hquote := skipBlank_entry blank_nil m tail
      rw [List.nil_append] at hquote
      rw [skipName, hquote, ← skipName_quote m tail, skipName, skipBlank_cons rfl]
    have hcomma : skipStep .next (.object :: open_) (pad ++ 0x2C :: (m.text ++ tail)) =
        .ok (.value, .object :: open_, m.content.text ++ tail) := by
      have hblank (t : Bytes) : skipBlank (pad ++ 0x2C :: t) = 0x2C :: t :=
        skipBlank_pad hpad rfl t
      simp only [skipStep, hblank, if_true, hname, bind, Except.bind]
    rw [Padded.text, List.append_assoc, List.append_assoc] at hcomma
    refine ⟨m.content.after, m.content.after_blank, .step hcomma ?_
      (h _ m.content.before_blank (m.content.after_blank.delimited htail))⟩
    simp only [Entry.text, Entry.afterName, Padded.text, List.length_append, List.length_cons]
    omega

/-- The parts behind the first one, and the closing bracket. -/
theorem passes_partsTail {bracket : Bracket} {parts : List Bytes}
    (h : ∀ part ∈ parts, PartPassed bracket part) {pad : Bytes} (hpad : Blank pad)
    (open_ : List Bracket) (rest : Bytes) :
    Passes (.next, bracket :: open_, pad ++ partsTail bracket parts rest) (.next, open_, rest) := by
  induction parts generalizing pad with
  | nil =>
    have hclose : skipStep .next (bracket :: open_) (pad ++ bracket.close :: rest) =
        .ok (.next, open_, rest) := by
      simp only [skipStep, skipBlank_append hpad]
      cases bracket
      · rfl
      · rfl
    refine .step hclose ?_ (.refl _)
    simp only [partsTail, List.flatMap_nil, List.nil_append, List.length_append, List.length_cons]
    omega
  | cons part parts ih =>
    obtain ⟨hpart, hparts⟩ := List.forall_mem_cons.mp h
    obtain ⟨blanks, hblanks, hpass⟩ :=
      hpart.fromComma open_ hpad (delimited_partsTail bracket parts rest)
    rw [partsTail_cons]
    exact hpass.trans (ih hparts hblanks)

/-- **Brackets around parts that are passed are passed**, with or without blanks in them. -/
theorem passed_brackets {bracket : Bracket} {pad : Bytes} (hpad : Blank pad) {parts : List Bytes}
    (h : ∀ part ∈ parts, PartPassed bracket part) : Passed (bracketText bracket pad parts) := by
  intro before rest open_ hbefore hrest
  cases parts with
  | nil =>
    have hstep : skipStep .value open_
        (before ++ bracket.opening :: (pad ++ bracket.close :: rest)) =
          .ok (.next, open_, rest) := by
      simp only [skipStep, skipBlank_append hbefore]
      cases bracket with
      | list =>
        have hclose : skipBlank (pad ++ 0x5D :: rest) = 0x5D :: rest := skipBlank_pad hpad rfl rest
        rw [skipBlank_cons rfl]
        simp [isDigit, Bracket.opening, Bracket.close, hclose]
      | object =>
        have hclose : skipBlank (pad ++ 0x7D :: rest) = 0x7D :: rest := skipBlank_pad hpad rfl rest
        rw [skipBlank_cons rfl]
        simp [isDigit, Bracket.opening, Bracket.close, hclose]
    rw [bracketText_nil]
    refine .step hstep ?_ (.refl _)
    simp only [List.length_append, List.length_cons]
    omega
  | cons part parts =>
    obtain ⟨hpart, hparts⟩ := List.forall_mem_cons.mp h
    obtain ⟨blanks, hblanks, hfirst⟩ :=
      hpart.fromBracket open_ hbefore hpad (delimited_partsTail bracket parts rest)
    rw [bracketText_cons]
    exact hfirst.trans (passes_partsTail hparts hblanks open_ rest)

theorem passed_list {pad : Bytes} (hpad : Blank pad) {es : List Padded}
    (hgram : ∀ e ∈ es, Grammatical e.value) (h : ∀ e ∈ es, Passed e.value) :
    Passed (listText pad es) := by
  refine passed_brackets hpad fun part hpart => ?_
  obtain ⟨e, he, rfl⟩ := List.mem_map.mp hpart
  exact partPassed_element (hgram e he) (h e he)

theorem passed_object {pad : Bytes} (hpad : Blank pad) {ms : List Entry}
    (h : ∀ m ∈ ms, Passed m.content.value) : Passed (objectText pad ms) := by
  refine passed_brackets hpad fun part hpart => ?_
  obtain ⟨m, hm, rfl⟩ := List.mem_map.mp hpart
  exact partPassed_entry (h m hm)

/-- **Every value is passed.** -/
theorem Grammatical.passed {v : Bytes} (h : Grammatical v) : Passed v := by
  induction h with
  | null => exact passed_word (.inl ⟨rfl, rfl⟩)
  | yes => exact passed_word (.inr (.inl ⟨rfl, rfl⟩))
  | no => exact passed_word (.inr (.inr ⟨rfl, rfl⟩))
  | positive h => exact passed_figure h
  | negative h => exact passed_negative h
  | text h => exact passed_text h
  | list hpad es h ih => exact passed_list hpad h ih
  | object hpad ms h ih => exact passed_object hpad ih

/-- **A value is passed over at once**, whatever stands before and behind it. -/
theorem skipValue_grammatical {v : Bytes} (h : Grammatical v) {pad rest : Bytes}
    (hpad : Blank pad) (hrest : Delimited rest) : skipValue (pad ++ (v ++ rest)) = .ok rest :=
  (h.passed [] hpad hrest).skipSteps_eq ⟨rfl, rfl⟩ _ (Nat.le_refl _)

end Catalogue.Json
