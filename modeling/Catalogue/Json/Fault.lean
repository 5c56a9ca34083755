import Catalogue.Text.Numeral
import Catalogue.Text.Quoted
import Catalogue.Decimal.Shortest

/-!
# What can be wrong with a JSON text

A text is read from left to right into a typed value, and the first problem met is the answer.
There are three kinds: the text ends too early, it breaks the grammar, or it is grammatical so far
and holds a value of the wrong shape. Only the last kind carries a cause, and the way from the
outermost value to the place where it was noticed.

* `Number` -- the numbers a text can hold, with their shortest spelling;
* `Mismatch` -- a wrong shape or value, worded by `Mismatch.message`;
* `Fault` -- the three kinds; `Fault.under` -- a fault of a part, seen from the whole.
-/

namespace Catalogue.Json

/-! ## 1. Numbers -/

/-- A number of a JSON text: an integer of 64 bits, or else a binary64 value. -/
inductive Number where
  | integer (value : Int)
  | float (bits : UInt64)
  deriving DecidableEq, Repr

/-- The text of a positive decimal `c · 10 ^ p`: positional where the leading digit stands within
    five places after the point and sixteen before it, and otherwise with an exponent. -/
def decimalLayout (c : Nat) (p : Int) : List Char :=
  let digits := (decimalDigits c).map digitChar
  let point : Int := digits.length + p
  let zeros (n : Int) : List Char := List.replicate n.toNat '0'
  if 0 ≤ p ∧ point ≤ 16 then digits ++ zeros p ++ ['.', '0']
  else if 0 < point ∧ point ≤ 16 then
    digits.take point.toNat ++ '.' :: digits.drop point.toNat
  else if -5 < point ∧ point ≤ 0 then ['0', '.'] ++ zeros (-point) ++ digits
  else
    let fraction := match digits.drop 1 with
      | [] => []
      | more => '.' :: more
    let sign := if point - 1 < 0 then '-' else '+'
    digits.take 1 ++ fraction ++ 'e' :: sign :: (decimalDigits (point - 1).natAbs).map digitChar

/-- The shortest text of a finite binary64 value. -/
def floatText (bits : UInt64) : String :=
  let x := Binary64.ofBits bits
  let magnitude :=
    if x.significand = 0 then ['0', '.', '0']
    else decimalLayout x.shortest.1 x.shortest.2
  String.ofList (if x.negative then '-' :: magnitude else magnitude)

/-- The text of a number. -/
def Number.text : Number → String
  | .integer i => integerText i
  | .float bits => floatText bits

/-! ## 2. Wrong shapes -/

/-- What stood in the text where something else was expected. -/
inductive Found where
  | null
  | boolean (b : Bool)
  | number (n : Number)
  | text (s : String)
  | list
  | object
  deriving DecidableEq, Repr

/-- A found value, as diagnostics name it. -/
def Found.description : Found → String
  | .null => "null"
  | .boolean true => "boolean \x60true\x60"
  | .boolean false => "boolean \x60false\x60"
  | .number (.integer i) => "integer \x60" ++ integerText i ++ "\x60"
  | .number (.float bits) => "floating point \x60" ++ floatText bits ++ "\x60"
  | .text s => "string " ++ quoted s
  | .list => "sequence"
  | .object => "map"

/-- A wrong shape or value. -/
inductive Mismatch where
  /-- A value of another type. -/
  | wrongType (found : Found) (expected : String)
  /-- An integer that does not fit. -/
  | outOfRange (value : Int) (expected : String)
  /-- A record written as a list with too few elements. -/
  | tooShort (count : Nat) (record : String) (size : Nat)
  /-- A member given twice. -/
  | repeated (name : String)
  /-- A mandatory member that is absent. -/
  | missing (name : String)
  /-- A word outside a choice of two. -/
  | unknownWord (found first second : String)
  /-- A value of the right shape that breaks a rule of the domain. -/
  | rejected (reason : String)
  deriving DecidableEq, Repr

/-- The wording of a mismatch. -/
def Mismatch.message : Mismatch → String
  | .wrongType found expected => "invalid type: " ++ found.description ++ ", expected " ++ expected
  | .outOfRange value expected =>
    "invalid value: integer \x60" ++ integerText value ++ "\x60, expected " ++ expected
  | .tooShort count record size =>
    "invalid length " ++ decimalText count ++ ", expected struct " ++ record ++ " with " ++
      decimalText size ++ (if size = 1 then " element" else " elements")
  | .repeated name => "duplicate field \x60" ++ name ++ "\x60"
  | .missing name => "missing field \x60" ++ name ++ "\x60"
  | .unknownWord found first second =>
    "unknown variant \x60" ++ found ++ "\x60, expected \x60" ++ first ++ "\x60 or \x60" ++ second ++
      "\x60"
  | .rejected reason => reason

/-! ## 3. Faults -/

/-- A step from a value to one of its parts. -/
inductive Step where
  | member (name : String)
  | element (index : Nat)
  deriving DecidableEq, Repr

/-- A step as it is written after the steps before it. -/
def Step.text : Step → String
  | .member name => "." ++ name
  | .element i => "[" ++ decimalText i ++ "]"

/-- A way from the outermost value to a part: names joined by points, indices in brackets. -/
def pathText : List Step → String
  | [] => ""
  | .member name :: rest => rest.foldl (fun text step => text ++ step.text) name
  | .element i :: rest => rest.foldl (fun text step => text ++ step.text) (Step.element i).text

/-- Why a text was not read. -/
inductive Fault where
  /-- The text is grammatical so far, and the value at `path` does not fit. -/
  | mismatch (path : List Step) (cause : Mismatch)
  /-- The text breaks the grammar, or nests too deeply. -/
  | ungrammatical
  /-- The text ends inside a value. -/
  | unfinished
  deriving DecidableEq, Repr

/-- A mismatch at the value itself. -/
def Fault.here (cause : Mismatch) : Fault := .mismatch [] cause

/-- A fault of a part, seen from the value that holds it. -/
def Fault.under (step : Step) : Fault → Fault
  | .mismatch path cause => .mismatch (step :: path) cause
  | f => f

end Catalogue.Json
