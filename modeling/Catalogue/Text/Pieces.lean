/-!
# Pieces of a text

* `pieces` -- what stands between the separators of a text;
* `splitAtFirst`, `splitAtLast` -- what stands before and behind the first and the last of them.
-/

namespace Catalogue

/-- The pieces of a text between its separators: always one more than there are separators, and an
    empty one wherever two of them meet. -/
def pieces (separates : Char → Bool) (cs : List Char) : List (List Char) :=
  cs.foldr
    (fun c acc =>
      if separates c then [] :: acc
      else match acc with
        | [] => [[c]]
        | s :: rest => (c :: s) :: rest)
    [[]]

/-- The part before a character, and the part behind it if it occurs. -/
def splitAtFirst (c : Char) (cs : List Char) : List Char × Option (List Char) :=
  match cs.dropWhile (· ≠ c) with
  | [] => (cs, none)
  | _ :: rest => (cs.takeWhile (· ≠ c), some rest)

/-- The part before the last occurrence of a character, if there is one, and the part behind it. -/
def splitAtLast (c : Char) (cs : List Char) : Option (List Char) × List Char :=
  match splitAtFirst c cs.reverse with
  | (_, none) => (none, cs)
  | (behind, some before) => (some before.reverse, behind.reverse)

end Catalogue
