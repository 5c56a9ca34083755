import Catalogue.Text.Hexadecimal
import Catalogue.Text.Numeral
import Catalogue.Text.Pieces

/-!
# Numbers of hosts

A host without a name is given by its number. A short number has 32 bits and is written in one to
four parts with dots between them: all but the last one are bytes, and the last one stands for all
bytes that are left. A part may be decimal, octal behind a zero, or hexadecimal behind `0x`. A long
number has 128 bits and is written in hexadecimal groups of 16 bits with colons between them; two
colons stand for groups of zeros, and the last two groups may be written like a short number.

* `shortNumber?`, `shortText` -- the short number a text denotes, and its normal form;
* `endsInNumber` -- whether a name is no name but a short number, well written or not;
* `longNumber?`, `longText` -- the long number a text denotes, and its normal form.

The normal form has four decimal bytes, or groups without zeros in front; in it two colons stand for
the longest row of zeros, if one is longer than a single group.
-/

namespace Catalogue.Http

/-! ## 1. Numerals -/

/-- The value of a digit in base sixteen. -/
def digitInBase? (base : Nat) (c : Char) : Option Nat :=
  if c.toNat < 128 then (hexDigit? c.toNat.toUInt8).filter (· < base) else none

/-- The number that a row of digits denotes. -/
def inBase? (base : Nat) (cs : List Char) : Option Nat :=
  (cs.mapM (digitInBase? base)).map fun ds => ds.foldl (fun n d => base * n + d) 0

/-- The number that a part of a short number denotes. -/
def part? : List Char → Option Nat
  | [] => none
  | '0' :: 'x' :: digits => inBase? 16 digits
  | '0' :: d :: digits => inBase? 8 (d :: digits)
  | digits => inBase? 10 digits

/-! ## 2. Short numbers -/

/-- The number of parts that share all numbers below a bound: each of them is a byte, and the last
    one is whatever fits behind them. -/
def joinParts? : Nat → List Nat → Option Nat
  | _, [] => none
  | bound, [n] => if 1 < bound ∧ n < bound then some n else none
  | bound, n :: rest =>
    let size := bound / 256
    if 1 < bound ∧ n < 256 then (joinParts? size rest).map (n * size + ·) else none

/-- The parts of a short number. A dot at the end counts for nothing. -/
def parts (cs : List Char) : List (List Char) :=
  let ps := pieces (· = '.') cs
  if ps.getLast? = some [] then ps.dropLast else ps

/-- The short number that a text denotes. -/
def shortNumber? (cs : List Char) : Option (BitVec 32) :=
  (((parts cs).mapM part?).bind (joinParts? 4294967296)).map (BitVec.ofNat 32)

/-- Whether the last part is a numeral, or has digits only. -/
def endsInNumber (cs : List Char) : Bool :=
  (parts cs).getLast?.any fun last =>
    (part? last).isSome || (!last.isEmpty && (inBase? 10 last).isSome)

/-- The bytes of a short number, the highest one first. -/
def shortBytes (n : BitVec 32) : List Nat :=
  [24, 16, 8, 0].map fun place => (n.extractLsb' place 8).toNat

/-- The normal form of a short number. -/
def shortText (n : BitVec 32) : List Char :=
  ['.'].intercalate ((shortBytes n).map fun b => (decimalText b).toList)

/-! ## 3. Long numbers -/

/-- The number that a group denotes. -/
def group? (cs : List Char) : Option Nat :=
  if cs.isEmpty || 4 < cs.length then none else inBase? 16 cs

/-- The byte that a decimal numeral without zeros in front denotes. -/
def byte? (cs : List Char) : Option Nat :=
  (natural? cs).filter fun n => n < 256 && (decimalText n).toList = cs

/-- The two groups that four bytes denote. -/
def lastGroups? (cs : List Char) : Option (List Nat) :=
  match (pieces (· = '.') cs).mapM byte? with
  | some [a, b, c, d] => some [256 * a + b, 256 * c + d]
  | _ => none

/-- The groups that a text denotes, the last of which may be bytes. -/
def groups? : List (List Char) → Option (List Nat)
  | [] => some []
  | [last] =>
    match group? last with
    | some n => some [n]
    | none => lastGroups? last
  | cs :: rest => do
    let n ← group? cs
    let ns ← groups? rest
    some (n :: ns)

/-- The pieces of a text between its colons; an empty text has none. -/
def groupTexts (cs : List Char) : List (List Char) :=
  if cs.isEmpty then [] else pieces (· = ':') cs

/-- What stands before and behind the first two colons. -/
def splitAtGap : List Char → List Char × Option (List Char)
  | ':' :: ':' :: rest => ([], some rest)
  | c :: rest =>
    let (before, behind) := splitAtGap rest
    (c :: before, behind)
  | [] => ([], none)

/-- The eight groups that a text denotes. Two colons stand for one group of zeros at least, and
    there are no bytes in front of them. -/
def eightGroups? (cs : List Char) : Option (List Nat) :=
  match splitAtGap cs with
  | (all, none) => (groups? (groupTexts all)).filter fun ns => ns.length = 8
  | (before, some behind) => do
    let front ← (groupTexts before).mapM group?
    let back ← groups? (groupTexts behind)
    if front.length + back.length < 8 then
      some (front ++ List.replicate (8 - front.length - back.length) 0 ++ back)
    else none

/-- The long number that a text denotes. -/
def longNumber? (cs : List Char) : Option (BitVec 128) :=
  (eightGroups? cs).map fun ns => ns.foldl (fun n g => n <<< 16 ||| BitVec.ofNat 128 g) 0

/-- The groups of a long number, the highest one first. -/
def longGroups (n : BitVec 128) : List Nat :=
  [112, 96, 80, 64, 48, 32, 16, 0].map fun place => (n.extractLsb' place 16).toNat

/-- The zeros at the front of a list. -/
def zerosInFront (ns : List Nat) : Nat := (ns.takeWhile (· = 0)).length

/-- Where the first of the longest rows of zeros begins, and how long it is. -/
def longestZeros (ns : List Nat) : Nat × Nat :=
  (List.range ns.length).foldl
    (fun best i =>
      let here := zerosInFront (ns.drop i)
      if best.2 < here then (i, here) else best)
    (0, 0)

/-- The normal form of a long number. -/
def longText (n : BitVec 128) : List Char :=
  let texts (ns : List Nat) : List Char := [':'].intercalate (ns.map hexText)
  let ns := longGroups n
  let (start, size) := longestZeros ns
  if size < 2 then texts ns
  else texts (ns.take start) ++ "::".toList ++ texts (ns.drop (start + size))

end Catalogue.Http
