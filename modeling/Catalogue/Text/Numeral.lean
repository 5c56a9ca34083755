/-!
# Decimal numerals

Numbers are written in plain decimal: ASCII digits, no grouping, a sign only where one is allowed.

* `decimalDigits`, `decimalText`, `integerText` -- the canonical spelling of a number;
* `digitsValue` -- what a run of digits denotes (`digitsValue_decimalDigits`: the canonical
  spelling denotes the number it spells);
* `natural?`, `unsigned?`, `signed?` -- the numbers a text denotes, within bounds, when the whole
  text is a numeral.
-/

namespace Catalogue

/-! ## 1. Writing -/

/-- The decimal digits of a number, most significant first. -/
def decimalDigits (n : Nat) : List Nat :=
  if n < 10 then [n] else decimalDigits (n / 10) ++ [n % 10]

/-- The character of a digit. -/
def digitChar (d : Nat) : Char := Char.ofNat (48 + d)

/-- The canonical decimal text of a number. -/
def decimalText (n : Nat) : String := String.ofList ((decimalDigits n).map digitChar)

/-- The canonical decimal text of an integer. -/
def integerText (i : Int) : String :=
  if i < 0 then String.ofList ('-' :: (decimalDigits i.natAbs).map digitChar)
  else decimalText i.natAbs

/-- The last `width` digits of a number, zeros in front where it has fewer. -/
def paddedDigits : Nat → Nat → List Char
  | 0, _ => []
  | width + 1, n => paddedDigits width (n / 10) ++ [digitChar (n % 10)]

/-- A number with zeros in front up to a least width. -/
def paddedText (width n : Nat) : List Char :=
  let ds := (decimalDigits n).map digitChar
  List.replicate (width - ds.length) '0' ++ ds

/-! ## 2. Reading -/

/-- The value of an ASCII digit. -/
def digitValue? (c : Char) : Option Nat :=
  if 48 ≤ c.toNat ∧ c.toNat ≤ 57 then some (c.toNat - 48) else none

/-- The number a run of digits denotes. -/
def digitsValue (ds : List Nat) : Nat := ds.foldl (fun n d => 10 * n + d) 0

/-- The number a text of one or more digits denotes. -/
def natural? (cs : List Char) : Option Nat :=
  if cs.isEmpty then none else (cs.mapM digitValue?).map digitsValue

/-- The number below `bound` that an optional plus and digits denote. -/
def unsigned? (bound : Nat) (cs : List Char) : Option Nat :=
  let digits := match cs with
    | '+' :: t => t
    | _ => cs
  (natural? digits).filter (· < bound)

/-- The integer in `lo..hi` that an optional sign and digits denote. -/
def signed? (lo hi : Int) (cs : List Char) : Option Int :=
  let value : Option Int := match cs with
    | '+' :: t => (natural? t).map Int.ofNat
    | '-' :: t => (natural? t).map fun n => -(n : Int)
    | _ => (natural? cs).map Int.ofNat
  value.filter fun i => lo ≤ i ∧ i ≤ hi

/-! ## 3. What is written reads back -/

theorem foldl_digits_append (ds : List Nat) (d n : Nat) :
    (ds ++ [d]).foldl (fun n d => 10 * n + d) n = 10 * ds.foldl (fun n d => 10 * n + d) n + d := by
  simp [List.foldl_append]

/-- **The canonical digits of a number denote it.** -/
theorem digitsValue_decimalDigits (n : Nat) : digitsValue (decimalDigits n) = n := by
  induction n using Nat.strongRecOn with
  | _ n ih =>
    rw [decimalDigits]
    split
    · simp [digitsValue]
    · have h := ih (n / 10) (by omega)
      unfold digitsValue at h ⊢
      rw [foldl_digits_append, h]
      omega

/-- Every canonical digit is a digit. -/
theorem lt_of_mem_decimalDigits {n d : Nat} (h : d ∈ decimalDigits n) : d < 10 := by
  induction n using Nat.strongRecOn with
  | _ n ih =>
    rw [decimalDigits] at h
    split at h
    · simp_all
    · rcases List.mem_append.1 h with h | h
      · exact ih (n / 10) (by omega) h
      · simp at h; omega

theorem decimalDigits_ne_nil (n : Nat) : decimalDigits n ≠ [] := by
  rw [decimalDigits]; split <;> simp

end Catalogue
