import Catalogue.Text.Utf8

/-!
# Hexadecimal digits and percent signs

A byte may be spelled by two hexadecimal digits behind a percent sign.

* `hexDigit?`, `upperHexByte` -- what a digit denotes, and the digit of a number below sixteen;
* `hexText` -- the digits of a number;
* `percentEncoded` -- a byte string with some of its bytes spelled that way;
* `percentDecoded` -- the bytes meant; a percent sign without two digits behind it means itself.
-/

namespace Catalogue

/-- The value of a hexadecimal digit. -/
def hexDigit? (b : UInt8) : Option Nat :=
  if 0x30 ≤ b ∧ b ≤ 0x39 then some (b.toNat - 48)
  else if 0x61 ≤ b ∧ b ≤ 0x66 then some (b.toNat - 87)
  else if 0x41 ≤ b ∧ b ≤ 0x46 then some (b.toNat - 55)
  else none

/-- The upper-case hexadecimal digit of a number below sixteen. -/
def upperHexByte (n : Nat) : UInt8 := if n < 10 then (48 + n).toUInt8 else (55 + n).toUInt8

/-- The lower-case hexadecimal digits of a number. -/
def hexText (n : Nat) : List Char := Nat.toDigits 16 n

/-- A byte string with every byte of a class spelled in hexadecimal. -/
def percentEncoded (spelled : UInt8 → Bool) (t : Bytes) : Bytes :=
  t.flatMap fun b =>
    if spelled b then [0x25, upperHexByte (b.toNat / 16), upperHexByte (b.toNat % 16)] else [b]

/-- The byte that two hexadecimal digits spell. -/
def hexPair? (high low : UInt8) : Option UInt8 :=
  match hexDigit? high, hexDigit? low with
  | some h, some l => some (16 * h + l).toUInt8
  | _, _ => none

/-- The byte string that is meant. -/
def percentDecoded : Bytes → Bytes
  | 0x25 :: high :: low :: rest =>
    match hexPair? high low with
    | some b => b :: percentDecoded rest
    | none => 0x25 :: percentDecoded (high :: low :: rest)
  | b :: rest => b :: percentDecoded rest
  | [] => []

end Catalogue
