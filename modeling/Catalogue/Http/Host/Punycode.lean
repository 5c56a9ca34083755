/-!
# Names in ASCII

A label in the letters of any script is sent in ASCII: first its ASCII characters, then a hyphen,
then the others, as a row of numbers. Each number says how many steps to go on from one insertion to
the next one, where the steps run through all places of the label, and then through all places again
for the next character. The numbers are written in base 36 with the lowest digit first; a digit
below its threshold is the last one, and the thresholds adapt to the size of the numbers.

* `Punycode.encode` -- a label in ASCII;
* `Punycode.decode?` -- the label that is meant.
-/

namespace Catalogue.Http.Punycode

/-! ## 1. Digits and thresholds -/

/-- The digit of a number below 36. -/
def digit (n : Nat) : Char := Char.ofNat (if n < 26 then 97 + n else 22 + n)

/-- The value of a digit, in either case. -/
def digitValue? (c : Char) : Option Nat :=
  if 'a' ≤ c ∧ c ≤ 'z' then some (c.toNat - 97)
  else if 'A' ≤ c ∧ c ≤ 'Z' then some (c.toNat - 65)
  else if '0' ≤ c ∧ c ≤ '9' then some (c.toNat - 22)
  else none

/-- The threshold of the digit at a place, counted in steps of 36. -/
def threshold (bias place : Nat) : Nat :=
  if place ≤ bias then 1 else if bias + 26 ≤ place then 26 else place - bias

theorem threshold_pos (bias place : Nat) : 0 < threshold bias place := by
  unfold threshold
  split
  · omega
  · split <;> omega

/-- How far a number has to be divided by 35 until it is small, and what is left of it. -/
def shrink (n bias : Nat) : Nat :=
  if 455 < n then shrink (n / 35) (bias + 36) else bias + 36 * n / (n + 38)
termination_by n

/-- The bias that fits the size of a number, given the number of characters so far. The first number
    is by far the largest. -/
def adapt (n size : Nat) (isFirst : Bool) : Nat :=
  let n := if isFirst then n / 700 else n / 2
  shrink (n + n / size) 0

/-! ## 2. Writing -/

/-- The digits of a number from a place on. -/
def digitsFrom (bias place n : Nat) : List Char :=
  let t := threshold bias place
  if n < t then [digit n]
  else digit (t + (n - t) % (36 - t)) :: digitsFrom bias (place + 36) ((n - t) / (36 - t))
termination_by n
decreasing_by
  have pos := threshold_pos bias place
  exact Nat.lt_of_le_of_lt (Nat.div_le_self _ _) (by omega)

/-- A label on its way. -/
structure Writer where
  written : List Char
  /-- The steps since the last insertion. -/
  steps : Nat
  bias : Nat
  /-- The characters so far. -/
  size : Nat

/-- Goes past a character of the label in the round for one character. -/
def Writer.pass (isFirst : Nat → Bool) (round : Nat) (w : Writer) (c : Char) : Writer :=
  if c.toNat < round then { w with steps := w.steps + 1 }
  else if c.toNat = round then
    { written := w.written ++ digitsFrom w.bias 36 w.steps
      steps := 0
      bias := adapt w.steps (w.size + 1) (isFirst w.size)
      size := w.size + 1 }
  else w

/-- The rounds for the characters beyond ASCII, in rising order; `next` is the first one that has
    not been gone through. -/
def rounds (cs : List Char) (isFirst : Nat → Bool) : List Nat → Nat → Writer → Writer
  | [], _, w => w
  | round :: rest, next, w =>
    let w := { w with steps := w.steps + (round - next) * (w.size + 1) }
    let w := cs.foldl (Writer.pass isFirst round) w
    rounds cs isFirst rest (round + 1) { w with steps := w.steps + 1 }

/-- Puts a number into a list that rises, unless it is in it. -/
def insertOnce (n : Nat) : List Nat → List Nat
  | [] => [n]
  | m :: rest =>
    if n < m then n :: m :: rest else if n = m then m :: rest else m :: insertOnce n rest

/-- A label in ASCII. -/
def encode (cs : List Char) : List Char :=
  let (plain, others) := cs.partition fun c => c.toNat < 128
  let w := rounds cs (· = plain.length) (others.foldr (fun c => insertOnce c.toNat) []) 128
    ⟨[], 0, 72, plain.length⟩
  plain ++ (if plain.isEmpty then [] else ['-']) ++ w.written

/-! ## 3. Reading -/

/-- Reads a number on top of another one, from a place on whose digit has a weight. Its weights have
    no more than 32 bits. -/
def readNumber (bias place weight n : Nat) : List Char → Option (Nat × List Char)
  | [] => none
  | c :: rest =>
    match digitValue? c with
    | none => none
    | some d =>
      let t := threshold bias place
      if d < t then some (n + d * weight, rest)
      else if 4294967296 ≤ weight * (36 - t) then none
      else readNumber bias (place + 36) (weight * (36 - t)) (n + d * weight) rest

theorem readNumber_length {bias place weight n : Nat} {cs : List Char} {r : Nat × List Char}
    (h : readNumber bias place weight n cs = some r) : r.2.length < cs.length := by
  induction cs generalizing place weight n with
  | nil => simp [readNumber] at h
  | cons c rest ih =>
    rw [readNumber] at h
    split at h
    · simp at h
    · simp only at h
      split at h
      · cases h
        simp
      · split at h
        · simp at h
        · exact Nat.lt_succ_of_lt (ih h)

/-- The character of a number, if there is one. -/
def character? (n : Nat) : Option Char :=
  if n < 0xD800 ∨ 0xDFFF < n ∧ n < 0x110000 then some (Char.ofNat n) else none

/-- Reads the numbers that are left: the character, the bias and the place of the next insertion,
    and the label so far. -/
def insertions (point bias place : Nat) (label : List Char) (cs : List Char) :
    Option (List Char) :=
  if cs.isEmpty then some label
  else
    match _ : readNumber bias 36 1 place cs with
    | none => none
    | some (n, rest) =>
      let size := label.length + 1
      let point := point + n / size
      match character? point with
      | none => none
      | some c =>
        insertions point (adapt (n - place) size (place = 0)) (n % size + 1)
          (label.insertIdx (n % size) c) rest
termination_by cs.length
decreasing_by exact readNumber_length (by assumption)

/-- The label that is meant. The last hyphen ends its ASCII characters, unless it is the first
    character of all. -/
def decode? (cs : List Char) : Option (List Char) :=
  let digits := (cs.reverse.takeWhile (· ≠ '-')).reverse
  let plain := cs.take (cs.length - digits.length - 1)
  if plain.isEmpty then insertions 128 72 0 [] cs else insertions 128 72 0 plain digits

end Catalogue.Http.Punycode
