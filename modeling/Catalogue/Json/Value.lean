import Catalogue.Json.Walk

/-!
# Free-form JSON

A member whose shape is not fixed holds any JSON value. Its objects keep their members in the order
of their names, and of two members with one name the later counts.

* `Value` -- the values, with `Value.same`, equality up to the sign of a zero;
* `writeText`, `Value.write` -- the compact text;
* `Value.read` -- the value at the front of a text, nested at most as deep as allowed.
-/

namespace Catalogue.Json

/-- Any JSON value. -/
inductive Value where
  | null
  | boolean (b : Bool)
  | number (n : Number)
  | text (s : String)
  | list (elements : List Value)
  | object (members : List (String × Value))
  deriving Repr, Inhabited

/-! ## 1. Writing -/

/-- The lower-case hexadecimal digit of a number below sixteen. -/
def hexByte (n : Nat) : UInt8 := if n < 10 then (48 + n).toUInt8 else (87 + n).toUInt8

/-- One byte of a string as it is written: quotes, backslashes and control characters are escaped,
    all else stands for itself. -/
def escapedByte (b : UInt8) : Bytes :=
  if b = 0x22 ∨ b = 0x5C then [0x5C, b]
  else if 0x20 ≤ b then [b]
  else if b = 0x08 then [0x5C, 0x62]
  else if b = 0x09 then [0x5C, 0x74]
  else if b = 0x0A then [0x5C, 0x6E]
  else if b = 0x0C then [0x5C, 0x66]
  else if b = 0x0D then [0x5C, 0x72]
  else [0x5C, 0x75, 0x30, 0x30, hexByte (b.toNat / 16), hexByte (b.toNat % 16)]

/-- A string between quotes. -/
def writeText (s : String) : Bytes := 0x22 :: ((bytesOf s).flatMap escapedByte ++ [0x22])

/-- The bytes of a number's canonical digits. -/
def digitBytes (n : Nat) : Bytes := (decimalDigits n).map fun d => (48 + d).toUInt8

/-- An integer in canonical decimal. -/
def writeInteger (i : Int) : Bytes :=
  if i < 0 then 0x2D :: digitBytes i.natAbs else digitBytes i.natAbs

/-- The word `null`. -/
def writeNull : Bytes := 0x6E :: nullTail

/-- Parts with commas between them. -/
def joinParts : List Bytes → Bytes
  | [] => []
  | [part] => part
  | part :: parts => part ++ 0x2C :: joinParts parts

/-- A list of parts that are written already. -/
def writeList (parts : List Bytes) : Bytes := 0x5B :: (joinParts parts ++ [0x5D])

/-- An object whose values are written already. -/
def writeObject (members : List (String × Bytes)) : Bytes :=
  0x7B :: (joinParts (members.map fun m => writeText m.1 ++ 0x3A :: m.2) ++ [0x7D])

/-- A number in its shortest spelling. -/
def Number.write : Number → Bytes
  | .integer i => writeInteger i
  | .float bits => bytesOf (floatText bits)

mutual

/-- The compact text of a value. -/
def Value.write : Value → Bytes
  | .null => writeNull
  | .boolean true => 0x74 :: trueTail
  | .boolean false => 0x66 :: falseTail
  | .number n => n.write
  | .text s => writeText s
  | .list elements => writeList (writeAll elements)
  | .object members => writeObject (writeMembers members)

/-- The compact texts of several values. -/
def writeAll : List Value → List Bytes
  | [] => []
  | v :: vs => v.write :: writeAll vs

/-- The compact texts of the values of several members. -/
def writeMembers : List (String × Value) → List (String × Bytes)
  | [] => []
  | (name, v) :: rest => (name, v.write) :: writeMembers rest

end

/-! ## 2. Equality -/

/-- Integers are the same if equal, and binary64 values if equal as numbers. -/
def Number.same : Number → Number → Bool
  | .integer i, .integer j => i == j
  | .float a, .float b => Float.ofBits a == Float.ofBits b
  | _, _ => false

mutual

/-- Equality of values. -/
def Value.same : Value → Value → Bool
  | .null, .null => true
  | .boolean a, .boolean b => a == b
  | .number m, .number n => m.same n
  | .text s, .text t => s == t
  | .list vs, .list ws => sameAll vs ws
  | .object ms, .object ns => sameMembers ms ns
  | _, _ => false

/-- Equality of several values. -/
def sameAll : List Value → List Value → Bool
  | [], [] => true
  | v :: vs, w :: ws => v.same w && sameAll vs ws
  | _, _ => false

/-- Equality of several members. -/
def sameMembers : List (String × Value) → List (String × Value) → Bool
  | [], [] => true
  | (k, v) :: ms, (l, w) :: ns => k == l && v.same w && sameMembers ms ns
  | _, _ => false

end

instance : BEq Value := ⟨Value.same⟩

/-! ## 3. Reading -/

/-- Puts a member in its place among members in the order of their names; a member of the same
    name is replaced. -/
def insertMember (name : String) (v : Value) : List (String × Value) → List (String × Value)
  | [] => [(name, v)]
  | (k, w) :: rest =>
    if name < k then (name, v) :: (k, w) :: rest
    else if name = k then (name, v) :: rest
    else (k, w) :: insertMember name v rest

/-- The value at the front of a text, where `budget` more brackets may be opened. -/
def Value.read : (budget : Nat) → Reader Value
  | budget, t =>
    let word (tail rest : Bytes) (v : Value) : Except Fault (Value × Bytes) :=
      (expectWord tail rest).map fun rest => (v, rest)
    let number (r : Except Fault (Number × Bytes)) : Except Fault (Value × Bytes) :=
      r.map fun (n, rest) => (.number n, rest)
    match skipBlank t with
    | [] => .error .unfinished
    | b :: rest =>
      if b = 0x6E then word nullTail rest .null
      else if b = 0x74 then word trueTail rest (.boolean true)
      else if b = 0x66 then word falseTail rest (.boolean false)
      else if b = 0x2D then number (scanNumber true rest)
      else if isDigit b then number (scanNumber false (b :: rest))
      else if b = 0x22 then (readText rest).map fun (s, rest) => (.text s, rest)
      else if b = 0x5B then
        match budget with
        | 0 => .error .ungrammatical
        | budget + 1 =>
          (readElements (Value.read budget) rest [] rest).map fun (vs, rest) => (.list vs, rest)
      else if b = 0x7B then
        match budget with
        | 0 => .error .ungrammatical
        | budget + 1 =>
          let member (name : String) (ms : List (String × Value)) :
              Reader (List (String × Value)) := fun t => do
            let t ← expectColon t
            match Value.read budget t with
            | .error f => .error (f.under (.member name))
            | .ok (v, t) => .ok (insertMember name v ms, t)
          match foldMembers member rest true [] rest with
          | .error f => .error f
          | .ok (ms, t) => (closeObject t).map fun rest => (.object ms, rest)
      else .error .ungrammatical

end Catalogue.Json
