import Catalogue.Json.Value

/-!
# Codecs

A codec is a type's JSON form: how a value is written, and how it is read off the front of a text.
Reading gets the number of brackets that may still be opened; a text may nest 127 deep.

* `Codec.int32`, `Codec.int64`, `Codec.text`, `Codec.value` -- the plain codecs;
* `Codec.checked` -- a codec whose values have to satisfy a rule of the domain;
* `Codec.list` -- lists, written in order;
* `Codec.decode`, `Codec.encode` -- whole texts: nothing but blanks may follow the value.
-/

namespace Catalogue.Json

/-- The JSON form of a type. -/
structure Codec (α : Type) where
  read : (budget : Nat) → Reader α
  write : α → Bytes

namespace Codec

/-- A 32-bit integer. -/
def int32 : Codec Int32 where
  read _ t := (readInteger "i32" (-2147483648) 2147483647 t).map fun (i, rest) =>
    (Int32.ofInt i, rest)
  write i := writeInteger i.toInt

/-- A 64-bit integer. -/
def int64 : Codec Int64 where
  read _ t := (readInteger "i64" (-9223372036854775808) 9223372036854775807 t).map fun (i, rest) =>
    (Int64.ofInt i, rest)
  write i := writeInteger i.toInt

/-- A string. -/
def text : Codec String where
  read _ := readString "a string"
  write := writeText

/-- Any JSON value. -/
def value : Codec Value where
  read := Value.read
  write := Value.write

/-- The value that says nothing, written `null`. -/
def unit : Codec Unit where
  read _ t :=
    match skipBlank t with
    | [] => .error .unfinished
    | b :: rest =>
      if b = 0x6E then (expectWord nullTail rest).map fun rest => ((), rest)
      else .error (mistyped "unit" (b :: rest))
  write _ := writeNull

/-- Values that satisfy a rule: what `check` refuses is a mismatch with the given reason. -/
def checked {α β : Type} (c : Codec α) (check : α → Except String β) (raw : β → α) : Codec β where
  read budget t :=
    match c.read budget t with
    | .error f => .error f
    | .ok (a, rest) =>
      match check a with
      | .error reason => .error (.here (.rejected reason))
      | .ok b => .ok (b, rest)
  write b := c.write (raw b)

/-- A list. -/
def list {α : Type} (c : Codec α) : Codec (List α) where
  read budget t :=
    match skipBlank t with
    | [] => .error .unfinished
    | b :: rest =>
      if b = 0x5B then
        match budget with
        | 0 => .error .ungrammatical
        | budget + 1 => readElements (c.read budget) rest [] rest
      else .error (mistyped "a sequence" (b :: rest))
  write as := writeList (as.map c.write)

/-- How deep a text may nest. -/
def nesting : Nat := 127

/-- The value a whole text holds. -/
def decode {α : Type} (c : Codec α) (t : Bytes) : Except Fault α :=
  match c.read nesting t with
  | .error f => .error f
  | .ok (a, rest) => if (skipBlank rest).isEmpty then .ok a else .error .ungrammatical

/-- The compact text of a value. -/
def encode {α : Type} (c : Codec α) (a : α) : Bytes := c.write a

end Codec

end Catalogue.Json
