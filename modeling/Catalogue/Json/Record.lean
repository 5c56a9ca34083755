import Catalogue.Json.Codec

/-!
# Records

A record is written as an object, its members in the order of their declaration. It is read from an
object, whose members may stand in any order among unknown ones, or from a list of the members'
values in the order of their declaration.

* `Presence` -- whether a member is mandatory, and what an absent one looks like;
* `Fields` -- the declared members of a record, over the tuple of their values (`record`) and the
  tuple of those read so far (`draft`);
* `Fields.put`, `Fields.complete` -- one member of an object, and the check at its end;
* `Fields.readElements` -- the same record as a list;
* `Codec.record` -- the codec of a structure with these members.

A repeated member is a mismatch, and so is an absent mandatory one; the latter is noticed at the end
of the object, in the order of declaration.
-/

namespace Catalogue.Json

/-- How an optional member is written when it is absent. -/
inductive Absence where
  /-- As `null`. -/
  | null
  /-- Not at all. -/
  | omitted
  deriving DecidableEq, Repr

/-- The declared members of a record. -/
inductive Fields : (draft record : Type) → Type 1 where
  | nil : Fields Unit Unit
  /-- A member that has to be present. -/
  | required {δ ρ α : Type} (name : String) (codec : Codec α) (rest : Fields δ ρ) :
      Fields (Option α × δ) (α × ρ)
  /-- A member that may be absent; `null` means the same. -/
  | optional {δ ρ α : Type} (name : String) (absence : Absence) (codec : Codec α)
      (rest : Fields δ ρ) : Fields (Option (Option α) × δ) (Option α × ρ)

/-- A value that may be `null`. -/
def readOptional {α : Type} (codec : Codec α) (budget : Nat) : Reader (Option α) := fun t =>
  let present (t : Bytes) : Except Fault (Option α × Bytes) :=
    (codec.read budget t).map fun (a, rest) => (some a, rest)
  match skipBlank t with
  | [] => present []
  | b :: rest =>
    if b = 0x6E then (expectWord nullTail rest).map fun rest => (none, rest)
    else present (b :: rest)

/-- The value of a member, after the member's name. -/
def readMember {α : Type} (name : String) (read : Reader α) : Reader α := fun t => do
  let t ← expectColon t
  match read t with
  | .error f => .error (f.under (.member name))
  | .ok r => .ok r

namespace Fields

/-- How many members a record has. -/
def size : {δ ρ : Type} → Fields δ ρ → Nat
  | _, _, nil => 0
  | _, _, required _ _ rest => rest.size + 1
  | _, _, optional _ _ _ rest => rest.size + 1

/-! ## 1. Writing -/

/-- The members that are written, in the order of declaration. -/
def write : {δ ρ : Type} → Fields δ ρ → ρ → List (String × Bytes)
  | _, _, nil, () => []
  | _, _, required name codec rest, (a, r) => (name, codec.write a) :: rest.write r
  | _, _, optional name absence codec rest, (a, r) =>
    match a, absence with
    | some a, _ => (name, codec.write a) :: rest.write r
    | none, .null => (name, writeNull) :: rest.write r
    | none, .omitted => rest.write r

/-! ## 2. Reading from an object -/

/-- Nothing read so far. -/
def blank : {δ ρ : Type} → Fields δ ρ → δ
  | _, _, nil => ()
  | _, _, required _ _ rest => (none, rest.blank)
  | _, _, optional _ _ _ rest => (none, rest.blank)

/-- Takes one member. Unknown members are passed over. -/
def put : {δ ρ : Type} → Fields δ ρ → (budget : Nat) → (name : String) → δ → Reader δ
  | _, _, nil, _, _, d, t => do
    let t ← expectColon t
    (skipValue t).map fun rest => (d, rest)
  | _, _, required name codec rest, budget, key, (slot, d), t =>
    if key = name then
      match slot with
      | some _ => .error (.here (.repeated name))
      | none => (readMember name (codec.read budget) t).map fun (a, t) => ((some a, d), t)
    else (rest.put budget key d t).map fun (d, t) => ((slot, d), t)
  | _, _, optional name _ codec rest, budget, key, (slot, d), t =>
    if key = name then
      match slot with
      | some _ => .error (.here (.repeated name))
      | none => (readMember name (readOptional codec budget) t).map fun (a, t) => ((some a, d), t)
    else (rest.put budget key d t).map fun (d, t) => ((slot, d), t)

/-- The record, once no member follows. -/
def complete : {δ ρ : Type} → Fields δ ρ → δ → Except Fault ρ
  | _, _, nil, () => .ok ()
  | _, _, required name _ rest, (slot, d) =>
    match slot with
    | none => .error (.here (.missing name))
    | some a => (rest.complete d).map fun r => (a, r)
  | _, _, optional _ _ _ rest, (slot, d) =>
    (rest.complete d).map fun r => (slot.join, r)

/-! ## 3. Reading from a list -/

/-- The members' values from a list, from the member numbered `index` on. Where the list ends,
    optional members are absent. -/
def readElements : {δ ρ : Type} → Fields δ ρ → (record : String) → (total budget index : Nat) →
    Reader ρ
  | _, _, nil, _, _, _, _, t => .ok ((), t)
  | _, _, required _ codec rest, record, total, budget, index, t =>
    match nextElement (index == 0) t with
    | .error f => .error f
    | .ok none => .error (.here (.tooShort index record total))
    | .ok (some t) =>
      match codec.read budget t with
      | .error f => .error (f.under (.element index))
      | .ok (a, t) =>
        (rest.readElements record total budget (index + 1) t).map fun (r, t) => ((a, r), t)
  | _, _, optional _ _ codec rest, record, total, budget, index, t =>
    match nextElement (index == 0) t with
    | .error f => .error f
    | .ok none =>
      (rest.readElements record total budget (index + 1) t).map fun (r, t) => ((none, r), t)
    | .ok (some t) =>
      match readOptional codec budget t with
      | .error f => .error (f.under (.element index))
      | .ok (a, t) =>
        (rest.readElements record total budget (index + 1) t).map fun (r, t) => ((a, r), t)

end Fields

/-- The codec of a structure: its name in faults, its members, and how it is taken apart and put
    together. -/
def Codec.record {δ ρ α : Type} (name : String) (fields : Fields δ ρ) (make : ρ → α)
    (parts : α → ρ) : Codec α where
  read budget t :=
    match skipBlank t with
    | [] => .error .unfinished
    | b :: rest =>
      if b = 0x7B then
        match budget with
        | 0 => .error .ungrammatical
        | budget + 1 =>
          match foldMembers (fields.put budget) rest true fields.blank rest with
          | .error f => .error f
          | .ok (d, t) =>
            match fields.complete d with
            | .error f => .error f
            | .ok r => (closeObject t).map fun rest => (make r, rest)
      else if b = 0x5B then
        match budget with
        | 0 => .error .ungrammatical
        | budget + 1 =>
          match fields.readElements name fields.size budget 0 rest with
          | .error f => .error f
          | .ok (r, t) => (closeList t).map fun rest => (make r, rest)
      else .error (mistyped ("struct " ++ name) (b :: rest))
  write a := writeObject (fields.write (parts a))

end Catalogue.Json
