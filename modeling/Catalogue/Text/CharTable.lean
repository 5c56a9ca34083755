import Catalogue.Text.Pieces

/-!
# Tables of characters

What is known of single characters is kept in tables. A table is a text of entries between blanks,
and its numbers are in upper-case hexadecimal:

* `41` is a character, and `41-5A` all those from one to another, both included;
* `AA=61`, `BC=31.2044.34` and `300-314=E6` give the numbers on the right to every character on the
  left;
* `41-5A+61` gives the number on the right to the first character, the next number to the next one,
  and so on;
* `100-12E/101` does the same, but leaves out every second character.

The entries of a table rise and do not overlap.

* `CharClass` -- a class of characters, `CharClass.contains` -- whether one is in it;
* `CharTable` -- numbers for characters, `CharTable.lookup?` -- those of one.
-/

namespace Catalogue

/-- The number that upper-case hexadecimal digits write. -/
def hexNumber (cs : List Char) : Nat :=
  cs.foldl (fun n c => 16 * n + if c.isDigit then c.toNat - 48 else c.toNat - 55) 0

/-- The entries of a table. -/
def tableEntries (text : String) : List (List Char) :=
  (pieces Char.isWhitespace text.toList).filter (· ≠ [])

/-! ## 1. Classes -/

/-- The characters from one number to another, both included. -/
structure CharRange where
  first : Nat
  last : Nat
  deriving DecidableEq, Repr

/-- The range that an entry writes. -/
def CharRange.ofEntry (cs : List Char) : CharRange :=
  match splitAtFirst '-' cs with
  | (first, none) => ⟨hexNumber first, hexNumber first⟩
  | (first, some last) => ⟨hexNumber first, hexNumber last⟩

/-- A class of characters, as ranges that rise. -/
structure CharClass where
  ranges : List CharRange
  deriving DecidableEq, Repr

namespace CharClass

/-- The class that a table writes. -/
def ofText (text : String) : CharClass := ⟨(tableEntries text).map CharRange.ofEntry⟩

/-- Whether a character is in a class. Only the first range that does not end before it can hold
    it. -/
def contains (k : CharClass) (c : Char) : Bool :=
  match k.ranges.find? fun r => c.toNat ≤ r.last with
  | none => false
  | some r => r.first ≤ c.toNat

end CharClass

/-! ## 2. Numbers for characters -/

/-- How the characters of an entry come by their numbers. -/
inductive Spread where
  /-- All have the same numbers. -/
  | same
  /-- The numbers rise with the characters. -/
  | rising
  /-- The numbers rise with the characters, and every second character has none. -/
  | alternate
  deriving DecidableEq, Repr

/-- An entry of a table: characters with their numbers. -/
structure CharEntry where
  range : CharRange
  spread : Spread
  numbers : List Nat
  deriving DecidableEq, Repr

namespace CharEntry

/-- The sign between the two sides of an entry. -/
def spreadOf? (c : Char) : Option Spread :=
  match c with
  | '=' => some .same
  | '+' => some .rising
  | '/' => some .alternate
  | _ => none

/-- The entry that a text writes. -/
def ofEntry (cs : List Char) : CharEntry :=
  let left := cs.takeWhile fun c => (spreadOf? c).isNone
  let right := cs.drop left.length
  { range := .ofEntry left
    spread := (right.head?.bind spreadOf?).getD .same
    numbers := (pieces (· = '.') (right.drop 1)).map hexNumber }

/-- The numbers of the character at a distance from the first one. -/
def numbersAt? (e : CharEntry) (distance : Nat) : Option (List Nat) :=
  match e.spread with
  | .same => some e.numbers
  | .rising => some (e.numbers.map (· + distance))
  | .alternate => if distance % 2 = 0 then some (e.numbers.map (· + distance)) else none

end CharEntry

/-- Numbers for characters. -/
structure CharTable where
  entries : List CharEntry
  deriving DecidableEq, Repr

namespace CharTable

/-- The table that a text writes. -/
def ofText (text : String) : CharTable := ⟨(tableEntries text).map CharEntry.ofEntry⟩

/-- The numbers of a character, if it has any. Only the first entry that does not end before it can
    give it some. -/
def lookup? (t : CharTable) (c : Char) : Option (List Nat) :=
  match t.entries.find? fun e => c.toNat ≤ e.range.last with
  | none => none
  | some e => if e.range.first ≤ c.toNat then e.numbersAt? (c.toNat - e.range.first) else none

end CharTable

end Catalogue
