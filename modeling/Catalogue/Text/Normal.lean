import Catalogue.Text.Composition

/-!
# The normal form of a text

A letter with marks can be written as one character, or as a letter and its marks, in any order that
looks the same. In the normal form every letter is composed with as many of its marks as possible,
and the other marks stand in the order of their classes.

* `decompose`, `inOrder`, `compose` -- the three steps;
* `normalForm` -- the normal form.
-/

namespace Catalogue

/-! ## 1. Syllables of Hangul -/

/-- The parts of a syllable: two or three letters of Hangul. -/
def syllableParts? (c : Char) : Option (List Char) :=
  let n := c.toNat - 0xAC00
  if 0xAC00 ≤ c.toNat ∧ n < 11172 then
    let front := [Char.ofNat (0x1100 + n / 588), Char.ofNat (0x1161 + n % 588 / 28)]
    some (if n % 28 = 0 then front else front ++ [Char.ofNat (0x11A7 + n % 28)])
  else none

/-- The syllable of two letters, or of a syllable of two letters and a third one. -/
def syllable? (a b : Char) : Option Char :=
  let first := a.toNat - 0x1100
  let vowel := b.toNat - 0x1161
  let last := b.toNat - 0x11A7
  let short := a.toNat - 0xAC00
  if 0x1100 ≤ a.toNat ∧ first < 19 ∧ 0x1161 ≤ b.toNat ∧ vowel < 21 then
    some (Char.ofNat (0xAC00 + 588 * first + 28 * vowel))
  else if 0xAC00 ≤ a.toNat ∧ short < 11172 ∧ short % 28 = 0 ∧ 0x11A7 < b.toNat ∧ last < 28 then
    some (Char.ofNat (a.toNat + last))
  else none

/-! ## 2. The three steps -/

/-- The parts of a character that are not composed, with a bound on how deep its parts lie. -/
def partsOf : Nat → Char → List Char
  | 0, c => [c]
  | depth + 1, c =>
    match syllableParts? c with
    | some cs => cs
    | none =>
      match compositions.lookup? c with
      | some ns => ns.flatMap fun n => partsOf depth (Char.ofNat n)
      | none => [c]

/-- How deep the parts of a character lie at most: a letter with three marks. -/
def deepest : Nat := 3

/-- A text with all its characters taken apart. -/
def decompose (cs : List Char) : List Char := cs.flatMap (partsOf deepest)

/-- A character put before a text in order: a mark goes behind the marks of lower classes. -/
def putInOrder (c : Char) : List Char → List Char
  | [] => [c]
  | d :: rest =>
    if 0 < combiningClass d ∧ combiningClass d < combiningClass c then d :: putInOrder c rest
    else c :: d :: rest

/-- A text with the marks of each letter in the order of their classes. -/
def inOrder (cs : List Char) : List Char := cs.foldr putInOrder []

/-- The character that is composed of two others. -/
def composed? (a b : Char) : Option Char :=
  match syllable? a b with
  | some c => some c
  | none =>
    (compositions.entries.find? fun e => e.numbers = [a.toNat, b.toNat]).map fun e =>
      Char.ofNat e.range.first

/-- A letter, the marks behind it that it was not composed with, last one first, and the rest of the
    text. A character can be composed with the letter unless a mark of its own class or a higher one
    stands between them. -/
def composeFrom (letter : Char) (marks : List Char) : List Char → List Char
  | [] => letter :: marks.reverse
  | c :: rest =>
    let blocked := match marks with
      | [] => false
      | m :: _ => combiningClass c ≤ combiningClass m
    match if blocked then none else composed? letter c with
    | some letter => composeFrom letter marks rest
    | none =>
      if combiningClass c = 0 then letter :: marks.reverse ++ composeFrom c [] rest
      else composeFrom letter (c :: marks) rest

/-- A text with each letter composed with as many of its marks as possible. -/
def compose : List Char → List Char
  | [] => []
  | c :: rest => if combiningClass c = 0 then composeFrom c [] rest else c :: compose rest

/-- The normal form of a text. -/
def normalForm (cs : List Char) : List Char := compose (inOrder (decompose cs))

end Catalogue
