import Catalogue.Json.Skip

/-!
# Walking through lists and objects

A list is read element by element and an object member by member. These are the steps between
the parts.

* `nextElement`, `closeList` -- from one element of a list to the next, and past the bracket;
* `nextMember`, `expectColon`, `closeObject` -- the same for the members of an object;
* `readElements` -- all the elements of a list;
* `foldMembers` -- all the members of an object, each taken by a step that has seen the ones
  before it.
-/

namespace Catalogue.Json

/-! ## 1. Lists -/

/-- The text from the next element of a list, or nothing where the closing bracket stands.
    `first` says that no element has been read yet. -/
def nextElement (first : Bool) (t : Bytes) : Except Fault (Option Bytes) :=
  match skipBlank t with
  | [] => .error .unfinished
  | b :: rest =>
    if b = 0x5D then .ok none
    else if first then .ok (some (b :: rest))
    else if b = 0x2C then
      match skipBlank rest with
      | [] => .error .unfinished
      | c :: rest => if c = 0x5D then .error .ungrammatical else .ok (some (c :: rest))
    else .error .ungrammatical

/-- The text after a list's closing bracket. -/
def closeList (t : Bytes) : Except Fault Bytes :=
  match skipBlank t with
  | [] => .error .unfinished
  | b :: rest => if b = 0x5D then .ok rest else .error .ungrammatical

/-- The elements of a list whose opening bracket has been taken, `acc` holding those read so far,
    last one first. Every element takes a byte off the text, so a text as long as the first one is
    `fuel` enough. -/
def readElements {α : Type} (element : Reader α) :
    (fuel : Bytes) → (acc : List α) → Reader (List α)
  | [], _, _ => .error .unfinished
  | _ :: fuel, acc, t =>
    match nextElement acc.isEmpty t with
    | .error f => .error f
    | .ok none => (closeList t).map fun rest => (acc.reverse, rest)
    | .ok (some t) =>
      match element t with
      | .error f => .error (f.under (.element acc.length))
      | .ok (a, rest) => readElements element fuel (a :: acc) rest

/-! ## 2. Objects -/

/-- The text after the opening quote of the next member's name, or nothing where the closing
    bracket stands. `first` says that no member has been read yet. -/
def nextMember (first : Bool) (t : Bytes) : Except Fault (Option Bytes) :=
  match skipBlank t with
  | [] => .error .unfinished
  | b :: rest =>
    if b = 0x7D then .ok none
    else if first then
      if b = 0x22 then .ok (some rest) else .error .ungrammatical
    else if b = 0x2C then
      match skipBlank rest with
      | [] => .error .unfinished
      | c :: rest => if c = 0x22 then .ok (some rest) else .error .ungrammatical
    else .error .ungrammatical

/-- The text after the colon between a name and its value. -/
def expectColon (t : Bytes) : Except Fault Bytes :=
  match skipBlank t with
  | [] => .error .unfinished
  | b :: rest => if b = 0x3A then .ok rest else .error .ungrammatical

/-- The text after an object's closing bracket. -/
def closeObject (t : Bytes) : Except Fault Bytes :=
  match skipBlank t with
  | [] => .error .unfinished
  | b :: rest => if b = 0x7D then .ok rest else .error .ungrammatical

/-- Takes the members of an object whose opening bracket has been taken. `member` gets a name, what
    has been collected so far and the text after the name. -/
def foldMembers {σ : Type} (member : String → σ → Reader σ) :
    (fuel : Bytes) → (first : Bool) → σ → Reader σ
  | [], _, _, _ => .error .unfinished
  | _ :: fuel, first, s, t =>
    match nextMember first t with
    | .error f => .error f
    | .ok none => .ok (s, t)
    | .ok (some t) =>
      match readText t with
      | .error f => .error f
      | .ok (name, t) =>
        match member name s t with
        | .error f => .error f
        | .ok (s, t) => foldMembers member fuel false s t

end Catalogue.Json
