import Catalogue.Calendar
import Catalogue.Json.Codec
import Catalogue.Text.Blank

/-!
# Instants

Change events say when they were created. An instant is kept in UTC and written in one form:
`2024-01-01T00:00:00Z`, with as few groups of three fraction digits as are exact. It is read from a
wider range of forms: blanks between the parts, one-digit fields, any offset from UTC, signed
years, a leap second, and any number of fraction digits, of which nine count.

* `Instant.text` -- the written form;
* `Instant.parse` -- the forms that are read, `InstantFault` -- why a text is none of them;
* `Instant.shift` -- a local time as the instant it denotes;
* `Codec.instant` -- an instant as a JSON string.
-/

namespace Catalogue

/-- A point in time, in UTC. -/
structure Instant where
  date : Date
  time : TimeOfDay
  deriving DecidableEq

namespace Instant

/-! ## 1. Writing -/

/-- A year: four digits, or with a sign and four digits or more outside 0 to 9999. -/
def yearText (year : Int) : List Char :=
  if 0 ≤ year ∧ year ≤ 9999 then paddedDigits 4 year.natAbs
  else (if year < 0 then '-' else '+') :: paddedText 4 year.natAbs

/-- The fraction of a second, in the fewest groups of three digits that are exact. -/
def fractionText (nano : Nat) : List Char :=
  if nano = 0 then []
  else if nano % 1000000 = 0 then '.' :: paddedDigits 3 (nano / 1000000)
  else if nano % 1000 = 0 then '.' :: paddedDigits 6 (nano / 1000)
  else '.' :: paddedDigits 9 nano

/-- The written form. A leap second is second 60. -/
def chars (i : Instant) : List Char :=
  let leap := 1000000000 ≤ i.time.nano
  let second := if leap then i.time.second + 1 else i.time.second
  let nano := if leap then i.time.nano - 1000000000 else i.time.nano
  yearText i.date.year ++ '-' :: paddedDigits 2 i.date.month ++ '-' :: paddedDigits 2 i.date.day ++
    'T' :: paddedDigits 2 i.time.hour ++ ':' :: paddedDigits 2 i.time.minute ++
    ':' :: paddedDigits 2 second ++ fractionText nano ++ ['Z']

/-- The written form as text. -/
def text (i : Instant) : String := String.ofList i.chars

end Instant

/-! ## 2. Reading -/

/-- Why a text names no instant. -/
inductive InstantFault where
  /-- The text ends too early. -/
  | tooShort
  /-- A character is out of place. -/
  | invalid
  /-- A number is out of its range, or there is no such date or offset. -/
  | outOfRange
  /-- The instant lies outside the calendar. -/
  | impossible
  /-- Something follows the instant. -/
  | tooLong
  deriving DecidableEq, Repr

/-- The wording of a fault. -/
def InstantFault.message : InstantFault → String
  | .tooShort => "premature end of input"
  | .invalid => "input contains invalid characters"
  | .outOfRange => "input is out of range"
  | .impossible => "no possible date and time matching input"
  | .tooLong => "trailing input"

namespace Instant

/-- A reader of a part of an instant. -/
abbrev Part (α : Type) := List Char → Except InstantFault (α × List Char)

/-- Whether a character is an ASCII digit. -/
def isDigitChar (c : Char) : Bool := (digitValue? c).isSome

/-- One or more digits, at most `most` of them if that is given: their number and how many. -/
def digits (most : Option Nat) : Part (Nat × Nat) := fun cs =>
  match cs with
  | [] => .error .tooShort
  | _ =>
    let run := cs.takeWhile isDigitChar
    let taken := match most with
      | none => run
      | some n => run.take n
    if taken.isEmpty then .error .invalid
    else .ok ((digitsValue (taken.filterMap digitValue?), taken.length), cs.drop taken.length)

/-- A field of one or two digits within bounds, after blanks. -/
def field (lo hi : Nat) : Part Nat := fun cs => do
  let ((n, _), rest) ← digits (some 2) (trimStart cs)
  if lo ≤ n ∧ n ≤ hi then .ok (n, rest) else .error .outOfRange

/-- A year after blanks: with a sign any number of digits, without one at most four. -/
def yearField : Part Int := fun cs =>
  let bounded (negative : Bool) (r : Except InstantFault ((Nat × Nat) × List Char)) :
      Except InstantFault (Int × List Char) := do
    let ((n, _), rest) ← r
    let year : Int := if negative then -(n : Int) else n
    if -2147483648 ≤ year ∧ year < 2147483648 then .ok (year, rest) else .error .outOfRange
  match trimStart cs with
  | '-' :: t => bounded true (digits none t)
  | '+' :: t => bounded false (digits none t)
  | t => bounded false (digits (some 4) t)

/-- A fixed character. -/
def mark (c : Char) (cs : List Char) : Except InstantFault (List Char) :=
  match cs with
  | [] => .error .tooShort
  | b :: t => if b = c then .ok t else .error .invalid

/-- A fraction of a second, in nanoseconds, if a point stands here: nine digits count, and those
    after them are passed over. -/
def fraction : Part Nat := fun cs =>
  match cs with
  | '.' :: t => do
    let ((n, count), rest) ← digits (some 9) t
    .ok (n * Nat.pow 10 (9 - count), rest.dropWhile isDigitChar)
  | _ => .ok (0, cs)

/-- Two digits of an offset. One character left over that is not ASCII is out of place, any other
    one is too little. -/
def digitPair (cs : List Char) : Except InstantFault ((Char × Char) × List Char) :=
  match cs with
  | [] => .error .tooShort
  | [c] => if c.toNat < 128 then .error .tooShort else .error .invalid
  | a :: b :: t => if isDigitChar a ∧ isDigitChar b then .ok ((a, b), t) else .error .invalid

/-- The number of a pair of digits. -/
def pairValue (p : Char × Char) : Nat :=
  10 * (digitValue? p.1).getD 0 + (digitValue? p.2).getD 0

/-- Hours and minutes of an offset after its sign, in minutes; colons and blanks may stand between
    them. -/
def offsetSize : Part Nat := fun cs => do
  let (hours, t) ← digitPair cs
  let (minutes, rest) ← digitPair (t.dropWhile fun c => c == ':' || isBlank c)
  if pairValue minutes < 60 then .ok (60 * pairValue hours + pairValue minutes, rest)
  else .error .outOfRange

/-- Whether a text starts with the letters UTC in any case, and what follows them. -/
def afterUtc? : List Char → Option (List Char)
  | u :: t :: c :: rest =>
    if (u == 'U' || u == 'u') && (t == 'T' || t == 't') && (c == 'C' || c == 'c') then some rest
    else none
  | _ => none

/-- An offset from UTC in minutes, after blanks: `Z`, `UTC`, or a sign with hours and minutes. -/
def offset : Part Int := fun cs =>
  let t := trimStart cs
  match afterUtc? t with
  | some rest => .ok (0, rest)
  | none =>
    let signed (negative : Bool) (r : Except InstantFault (Nat × List Char)) :
        Except InstantFault (Int × List Char) := do
      let (n, rest) ← r
      .ok (if negative then -(n : Int) else n, rest)
    match t with
    | [] => .error .tooShort
    | c :: rest =>
      if c = 'Z' ∨ c = 'z' then .ok (0, rest)
      else if c = '+' then signed false (offsetSize rest)
      else if c = '-' ∨ c = '\u2212' then signed true (offsetSize rest)
      else .error .invalid

/-- The time of day with these numbers, second 60 being a leap second. -/
def timeOf? (hour minute second nano : Nat) : Option TimeOfDay :=
  let (second, nano) := if second = 60 then (59, nano + 1000000000) else (second, nano)
  if h : hour < 24 ∧ minute < 60 ∧ second < 60 ∧ nano < 2000000000 ∧
      (1000000000 ≤ nano → second = 59) then
    some ⟨hour, minute, second, nano, h.1, h.2.1, h.2.2.1, h.2.2.2.1, h.2.2.2.2⟩
  else none

/-- The instant that a local time `minutes` ahead of UTC denotes, if the calendar has it. -/
def shift (date : Date) (time : TimeOfDay) (minutes : Int) : Option Instant :=
  let total : Int := 60 * time.hour + time.minute - minutes
  let ofDay := (total % 1440).toNat
  let local' : TimeOfDay :=
    { hour := ofDay / 60, minute := ofDay % 60, second := time.second, nano := time.nano
      hour_lt := by omega, minute_lt := by omega, second_lt := time.second_lt
      nano_lt := time.nano_lt, leap := time.leap }
  let day := if total < 0 then date.previous else if 1440 ≤ total then date.next else some date
  day.map fun date => ⟨date, local'⟩

/-- The instant a text names. -/
def parse (cs : List Char) : Except InstantFault Instant := do
  let (year, t) ← yearField cs
  let t ← mark '-' (trimStart t)
  let (month, t) ← field 1 12 t
  let t ← mark '-' (trimStart t)
  let (day, t) ← field 1 31 t
  let t ← match t with
    | [] => .error .tooShort
    | c :: t => if c = 'T' ∨ c = 't' ∨ c = ' ' then .ok t else .error .invalid
  let (hour, t) ← field 0 23 t
  let t ← mark ':' (trimStart t)
  let (minute, t) ← field 0 59 t
  let t ← mark ':' (trimStart t)
  let (second, t) ← field 0 60 t
  let (nano, t) ← fraction t
  let (minutes, t) ← offset t
  if !(trimStart t).isEmpty then .error .tooLong
  else
    match Date.of? year month day, timeOf? hour minute second nano with
    | some date, some time =>
      if minutes.natAbs < 1440 then
        match shift date time minutes with
        | some instant => .ok instant
        | none => .error .impossible
      else .error .outOfRange
    | _, _ => .error .outOfRange

end Instant

/-! ## 3. As JSON -/

namespace Json

/-- An instant as a string. -/
def Codec.instant : Codec Instant :=
  Codec.checked
    { read := fun _ => readString "an RFC 3339 formatted date and time string", write := writeText }
    (fun s => match Instant.parse s.toList with
      | .ok i => .ok i
      | .error f => .error f.message)
    Instant.text

end Json

end Catalogue
