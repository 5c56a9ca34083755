import Catalogue.Json.Fault
import Catalogue.Text.Hexadecimal

/-!
# The lexemes of a JSON text

A text is a byte string. The scanners of this file take a lexeme off its front and return the
rest; each recurses on the bytes themselves.

* `skipBlank`, `expectWord` -- blanks and fixed words;
* `Literal.scan` -- a number as it is spelled, `Literal.value` -- the number it denotes;
* `scanString` -- a string, one byte at a time, up to its closing quote.

A lexeme can stop in two ways: the text ends (`Stop.ended`) or a byte is wrong (`Stop.wrong`).
-/

namespace Catalogue.Json

/-- Takes a value off the front of a text. -/
abbrev Reader (α : Type) := Bytes → Except Fault (α × Bytes)

/-- Why a lexeme stopped before its end. -/
inductive Stop where
  | ended
  | wrong
  deriving DecidableEq, Repr

/-- A stopped lexeme as a fault of the text. -/
def Stop.fault : Stop → Fault
  | .ended => .unfinished
  | .wrong => .ungrammatical

/-! ## 1. Blanks and words -/

/-- Space, tab, line feed and carriage return may stand between lexemes. -/
def isJsonBlank (b : UInt8) : Bool := b == 0x20 || b == 0x09 || b == 0x0A || b == 0x0D

/-- The text from its first byte that is not blank. -/
def skipBlank : Bytes → Bytes
  | [] => []
  | b :: t => if isJsonBlank b then skipBlank t else b :: t

/-- Takes a fixed word off the front. -/
def expectWord : (word : Bytes) → Bytes → Except Fault Bytes
  | [], t => .ok t
  | _ :: _, [] => .error .unfinished
  | w :: word, b :: t => if b = w then expectWord word t else .error .ungrammatical

/-- The rest of the word `null` after its first letter. -/
def nullTail : Bytes := [0x75, 0x6C, 0x6C]

/-- The rest of the word `true` after its first letter. -/
def trueTail : Bytes := [0x72, 0x75, 0x65]

/-- The rest of the word `false` after its first letter. -/
def falseTail : Bytes := [0x61, 0x6C, 0x73, 0x65]

/-! ## 2. Numbers -/

/-- The bytes of the ASCII digits. -/
def isDigit (b : UInt8) : Bool := 0x30 ≤ b && b ≤ 0x39

/-- The value of a digit byte. -/
def digitOf (b : UInt8) : Nat := b.toNat - 48

/-- The digits at the front of a text. -/
def leadingDigits (t : Bytes) : List Nat := (t.takeWhile isDigit).map digitOf

/-- A text without the digits at its front. -/
def afterDigits (t : Bytes) : Bytes := t.dropWhile isDigit

/-- A number as it is spelled. -/
structure Literal where
  negative : Bool
  whole : List Nat
  fraction : Option (List Nat)
  /-- Whether the exponent is negative, and its digits. -/
  exponent : Option (Bool × List Nat)
  deriving DecidableEq, Repr

/-- The digits before the point: a zero alone, or digits that start with another digit. -/
def scanWhole : Bytes → Except Stop (List Nat × Bytes)
  | [] => .error .ended
  | b :: t =>
    if b = 0x30 then
      match t with
      | d :: _ => if isDigit d then .error .wrong else .ok ([0], t)
      | [] => .ok ([0], t)
    else if isDigit b then .ok (leadingDigits (b :: t), afterDigits (b :: t))
    else .error .wrong

/-- One or more digits. -/
def scanDigits (t : Bytes) : Except Stop (List Nat × Bytes) :=
  match leadingDigits t with
  | [] => .error (if t.isEmpty then .ended else .wrong)
  | ds => .ok (ds, afterDigits t)

/-- A point and digits, if a point stands here. -/
def scanFraction : Bytes → Except Stop (Option (List Nat) × Bytes)
  | b :: t =>
    if b = 0x2E then do
      let (ds, rest) ← scanDigits t
      .ok (some ds, rest)
    else .ok (none, b :: t)
  | [] => .ok (none, [])

/-- The sign of an exponent, plus unless a minus stands here. -/
def scanExponentSign : Bytes → Bool × Bytes
  | b :: t => if b = 0x2B then (false, t) else if b = 0x2D then (true, t) else (false, b :: t)
  | [] => (false, [])

/-- An exponent, if one stands here. -/
def scanExponent : Bytes → Except Stop (Option (Bool × List Nat) × Bytes)
  | b :: t =>
    if b = 0x65 ∨ b = 0x45 then do
      let (negative, digits) := scanExponentSign t
      let (ds, rest) ← scanDigits digits
      .ok (some (negative, ds), rest)
    else .ok (none, b :: t)
  | [] => .ok (none, [])

/-- A number without its sign, which is known already. -/
def Literal.scan (negative : Bool) (t : Bytes) : Except Stop (Literal × Bytes) := do
  let (whole, t) ← scanWhole t
  let (fraction, t) ← scanFraction t
  let (exponent, t) ← scanExponent t
  .ok (⟨negative, whole, fraction, exponent⟩, t)

/-- The leading digits that fit into 64 bits, and how many are left over. -/
def fittingDigits : List Nat → Nat → Nat × Nat
  | [], n => (n, 0)
  | d :: ds, n =>
    if 10 * n + d < 18446744073709551616 then fittingDigits ds (10 * n + d) else (n, ds.length + 1)

/-- Continues a significand with the digits after the point while it fits into 64 bits; `taken`
    counts them. -/
def fittingFraction : List Nat → (n taken : Nat) → Nat × Nat
  | [], n, taken => (n, taken)
  | d :: ds, n, taken =>
    if 10 * n + d < 18446744073709551616 then fittingFraction ds (10 * n + d) (taken + 1)
    else (n, taken)

/-- A power of ten as a binary64 value. -/
def floatPower (n : Nat) : Float := Float.ofScientific 1 false n

/-- Divides by a power of ten, 308 places at a time. -/
def divideByPower (f : Float) (n : Nat) : Float :=
  if n ≤ 308 then f / floatPower n
  else if f == 0.0 then f
  else divideByPower (f / floatPower 308) (n - 308)
termination_by n

/-- `significand · 10 ^ exponent` by one multiplication or by divisions of binary64 values;
    nothing if that is too large. -/
def scaledFloat (significand : Nat) (exponent : Int) : Option Float :=
  let f := significand.toUInt64.toFloat
  if exponent < 0 then some (divideByPower f exponent.natAbs)
  else if exponent ≤ 308 then
    let g := f * floatPower exponent.natAbs
    if g.isInf then none else some g
  else if f == 0.0 then some f
  else none

/-- A binary64 number with a sign. -/
def signedFloat (negative : Bool) (f : Float) : Number :=
  .float (if negative then -f else f).toBits

/-- The value of an exponent's digits, cut off where no number is that far from one. -/
def exponentValue (ds : List Nat) : Nat := ds.foldl (fun n d => min (10 * n + d) 4294967296) 0

/-- The number a literal denotes; nothing if it is too large. An integer of 64 bits is itself, all
    else is a binary64 value: fractions, exponents, larger integers and a negative zero. -/
def Literal.value (l : Literal) : Option Number :=
  let (n, dropped) := fittingDigits l.whole 0
  match l.fraction, l.exponent with
  | none, none =>
    if dropped ≠ 0 then (scaledFloat n dropped).map (signedFloat l.negative)
    else if !l.negative then some (.integer n)
    else if n = 0 ∨ 9223372036854775808 < n then some (signedFloat true n.toUInt64.toFloat)
    else some (.integer (-(n : Int)))
  | fraction, exponent =>
    let (n, taken) := fittingFraction (fraction.getD []) n 0
    let shift : Int := match exponent with
      | none => 0
      | some (negative, ds) =>
        if negative then -(exponentValue ds : Int) else exponentValue ds
    (scaledFloat n ((dropped : Int) - taken + shift)).map (signedFloat l.negative)

/-- A number without its sign, and its value. -/
def scanNumber (negative : Bool) : Reader Number := fun t =>
  match Literal.scan negative t with
  | .error stop => .error stop.fault
  | .ok (l, rest) =>
    match l.value with
    | none => .error .ungrammatical
    | some n => .ok (n, rest)

/-! ## 3. Strings -/

/-- The number of a run of hexadecimal digits, last digit first. -/
def hexReversed? : Bytes → Option Nat
  | [] => some 0
  | b :: t => do
    let d ← hexDigit? b
    let n ← hexReversed? t
    some (16 * n + d)

/-- Where a string stands between two bytes. -/
inductive StringState where
  /-- Between characters. -/
  | plain
  /-- After a backslash. -/
  | escape
  /-- Within the four digits of a numbered character, those read so far last one first; `high` is
      the high surrogate that the number has to complete. -/
  | quad (high : Option Nat) (digits : Bytes)
  /-- After a high surrogate: a backslash is due. -/
  | pairEscape (high : Nat)
  /-- After a high surrogate and a backslash: the letter of a numbered character is due. -/
  | pairLetter (high : Nat)
  deriving DecidableEq, Repr

/-- The byte that a letter after a backslash stands for. -/
def escapedByte? (b : UInt8) : Option UInt8 :=
  if b = 0x22 ∨ b = 0x5C ∨ b = 0x2F then some b
  else if b = 0x62 then some 0x08
  else if b = 0x66 then some 0x0C
  else if b = 0x6E then some 0x0A
  else if b = 0x72 then some 0x0D
  else if b = 0x74 then some 0x09
  else none

/-- The state after the number `n` of a character, and the bytes of the character if it is
    complete. A lone surrogate is none. -/
def afterNumber (high : Option Nat) (n : Nat) : Option (StringState × Bytes) :=
  match high with
  | none =>
    if 0xDC00 ≤ n ∧ n ≤ 0xDFFF then none
    else if 0xD800 ≤ n ∧ n ≤ 0xDBFF then some (.pairEscape n, [])
    else some (.plain, String.utf8EncodeChar (Char.ofNat n))
  | some h =>
    if 0xDC00 ≤ n ∧ n ≤ 0xDFFF then
      some (.plain, String.utf8EncodeChar
        (Char.ofNat ((h - 0xD800) * 0x400 + (n - 0xDC00) + 0x10000)))
    else none

/-- The bytes a string spells, up to and without its closing quote; `acc` holds those read so far,
    last one first. -/
def scanString : StringState → (acc : Bytes) → Bytes → Except Stop (Bytes × Bytes)
  | _, _, [] => .error .ended
  | .plain, acc, b :: t =>
    if b = 0x22 then .ok (acc.reverse, t)
    else if b = 0x5C then scanString .escape acc t
    else if b < 0x20 then .error .wrong
    else scanString .plain (b :: acc) t
  | .escape, acc, b :: t =>
    if b = 0x75 then scanString (.quad none []) acc t
    else match escapedByte? b with
      | some c => scanString .plain (c :: acc) t
      | none => .error .wrong
  | .quad high digits, acc, b :: t =>
    if digits.length < 3 then scanString (.quad high (b :: digits)) acc t
    else match (hexReversed? (b :: digits)).bind (afterNumber high) with
      | some (state, bytes) => scanString state (bytes.reverse ++ acc) t
      | none => .error .wrong
  | .pairEscape high, acc, b :: t =>
    if b = 0x5C then scanString (.pairLetter high) acc t else .error .wrong
  | .pairLetter high, acc, b :: t =>
    if b = 0x75 then scanString (.quad (some high) []) acc t else .error .wrong

/-- The text of a string whose opening quote has been taken. -/
def readText : Reader String := fun t =>
  match scanString .plain [] t with
  | .error stop => .error stop.fault
  | .ok (bytes, rest) =>
    match textOf? bytes with
    | some s => .ok (s, rest)
    | none => .error .ungrammatical

/-! ## 4. Values of another type -/

/-- The fault of a text, from its first byte that is not blank, whose value is not of the expected
    type. -/
def mistyped (expected : String) (t : Bytes) : Fault :=
  let named (found : Found) : Fault := .here (.wrongType found expected)
  let word (tail rest : Bytes) (found : Found) : Fault :=
    match expectWord tail rest with
    | .ok _ => named found
    | .error f => f
  let number (negative : Bool) (rest : Bytes) : Fault :=
    match scanNumber negative rest with
    | .ok (n, _) => named (.number n)
    | .error f => f
  match t with
  | [] => .unfinished
  | b :: rest =>
    if b = 0x6E then word nullTail rest .null
    else if b = 0x74 then word trueTail rest (.boolean true)
    else if b = 0x66 then word falseTail rest (.boolean false)
    else if b = 0x2D then number true rest
    else if isDigit b then number false t
    else if b = 0x22 then
      match readText rest with
      | .ok (s, _) => named (.text s)
      | .error f => f
    else if b = 0x5B then named .list
    else if b = 0x7B then named .object
    else .ungrammatical

/-- An integer in `lo..hi`; `expected` names the type in faults. -/
def readInteger (expected : String) (lo hi : Int) : Reader Int := fun t =>
  let bounded (r : Except Fault (Number × Bytes)) : Except Fault (Int × Bytes) :=
    match r with
    | .error f => .error f
    | .ok (.float bits, _) => .error (.here (.wrongType (.number (.float bits)) expected))
    | .ok (.integer i, rest) =>
      if lo ≤ i ∧ i ≤ hi then .ok (i, rest) else .error (.here (.outOfRange i expected))
  match skipBlank t with
  | [] => .error .unfinished
  | b :: rest =>
    if b = 0x2D then bounded (scanNumber true rest)
    else if isDigit b then bounded (scanNumber false (b :: rest))
    else .error (mistyped expected (b :: rest))

/-- A string; `expected` names what it is for. -/
def readString (expected : String) : Reader String := fun t =>
  match skipBlank t with
  | [] => .error .unfinished
  | b :: rest => if b = 0x22 then readText rest else .error (mistyped expected (b :: rest))

end Catalogue.Json
