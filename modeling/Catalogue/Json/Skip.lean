import Catalogue.Json.Scan

/-!
# Values that are passed over

A member that a record does not know is passed over: its value must be grammatical, but its
strings are not decoded and its nesting has no limit.

* `skipNumber`, `skipString` -- lexemes that are only checked;
* `skipValue` -- a whole value, with the brackets that are open kept in a list.
-/

namespace Catalogue.Json

/-- Passes over a number without its sign. A number cut off by the end of the text is wrong. -/
def skipNumber (t : Bytes) : Except Fault Bytes :=
  match Literal.scan false t with
  | .ok (_, rest) => .ok rest
  | .error _ => .error .ungrammatical

/-- Where a string that is passed over stands between two bytes. -/
inductive SkipState where
  | plain
  | escape
  /-- Within the four digits of a numbered character, those read so far last one first. -/
  | quad (digits : Bytes)
  deriving DecidableEq, Repr

/-- The text after a string's closing quote. -/
def skipString : SkipState → Bytes → Except Fault Bytes
  | _, [] => .error .unfinished
  | .plain, b :: t =>
    if b = 0x22 then .ok t
    else if b = 0x5C then skipString .escape t
    else if b < 0x20 then .error .ungrammatical
    else skipString .plain t
  | .escape, b :: t =>
    if b = 0x75 then skipString (.quad []) t
    else if (escapedByte? b).isSome then skipString .plain t
    else .error .ungrammatical
  | .quad digits, b :: t =>
    if digits.length < 3 then skipString (.quad (b :: digits)) t
    else if (hexReversed? (b :: digits)).isSome then skipString .plain t
    else .error .ungrammatical

/-- An open bracket. -/
inductive Bracket where
  | list
  | object
  deriving DecidableEq, Repr

/-- The byte that closes a bracket. -/
def Bracket.close : Bracket → UInt8
  | .list => 0x5D
  | .object => 0x7D

/-- Passes over a member's name and the colon after it. -/
def skipName (t : Bytes) : Except Fault Bytes :=
  match skipBlank t with
  | [] => .error .unfinished
  | b :: t =>
    if b = 0x22 then do
      let t ← skipString .plain t
      match skipBlank t with
      | [] => .error .unfinished
      | c :: t => if c = 0x3A then .ok t else .error .ungrammatical
    else .error .ungrammatical

/-- What is due while a value is passed over. -/
inductive SkipMode where
  /-- A value. -/
  | value
  /-- A comma or the closing bracket. -/
  | next
  deriving DecidableEq, Repr

/-- One step over a value with the brackets `open_` around it: the new mode and brackets, and the
    rest of the text. -/
def skipStep : SkipMode → List Bracket → Bytes →
    Except Fault (SkipMode × List Bracket × Bytes)
  | .value, open_, t =>
    let opened (bracket : Bracket) (t : Bytes) : Except Fault (SkipMode × List Bracket × Bytes) :=
      match skipBlank t with
      | [] => .error .unfinished
      | b :: rest =>
        if b = bracket.close then .ok (.next, open_, rest)
        else match bracket with
          | .list => .ok (.value, bracket :: open_, b :: rest)
          | .object => do
            let t ← skipName (b :: rest)
            .ok (.value, bracket :: open_, t)
    let passed (r : Except Fault Bytes) : Except Fault (SkipMode × List Bracket × Bytes) :=
      r.map fun t => (.next, open_, t)
    match skipBlank t with
    | [] => .error .unfinished
    | b :: rest =>
      if b = 0x6E then passed (expectWord nullTail rest)
      else if b = 0x74 then passed (expectWord trueTail rest)
      else if b = 0x66 then passed (expectWord falseTail rest)
      else if b = 0x2D then passed (skipNumber rest)
      else if isDigit b then passed (skipNumber (b :: rest))
      else if b = 0x22 then passed (skipString .plain rest)
      else if b = 0x5B then opened .list rest
      else if b = 0x7B then opened .object rest
      else .error .ungrammatical
  | .next, [], t => .ok (.next, [], t)
  | .next, bracket :: open_, t =>
    match skipBlank t with
    | [] => .error .unfinished
    | b :: rest =>
      if b = 0x2C then
        match bracket with
        | .list => .ok (.value, bracket :: open_, rest)
        | .object => do
          let t ← skipName rest
          .ok (.value, bracket :: open_, t)
      else if b = bracket.close then .ok (.next, open_, rest)
      else .error .ungrammatical

/-- Steps until no bracket is open. Every step takes a byte off the text, so a text as long as the
    first one is `fuel` enough. -/
def skipSteps : (fuel : Bytes) → SkipMode → List Bracket → Bytes → Except Fault Bytes
  | _, .next, [], t => .ok t
  | [], _, _, _ => .error .unfinished
  | _ :: fuel, mode, open_, t =>
    match skipStep mode open_ t with
    | .error f => .error f
    | .ok (mode, open_, t) => skipSteps fuel mode open_ t

/-- Passes over a value. -/
def skipValue (t : Bytes) : Except Fault Bytes :=
  skipSteps t .value [] t

end Catalogue.Json
