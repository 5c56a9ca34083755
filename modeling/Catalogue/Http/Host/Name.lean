import Catalogue.Http.Host.Letters
import Catalogue.Http.Host.Punycode
import Catalogue.Text.Direction
import Catalogue.Text.Joining
import Catalogue.Text.Normal
import Catalogue.Text.Pieces

/-!
# Names of hosts

A name is a row of labels with dots between them. It may be written in the letters of any script,
and it is sent in ASCII: the letters are brought into the one form that all ways of writing the same
name share, and a label with other characters than ASCII is then coded. A label that is coded
already must be the code of one in that form.

* `HostLabel` -- what a label means and how it is sent;
* `HostLabel.ofLetters?` -- the label that a row of letters is, if it may stand in a name;
* `HostLabel.labels?` -- the labels of a name in any letters;
* `hostName?` -- a name as it is sent.

Labels may be empty, and only those that are coded have a greatest length.
-/

namespace Catalogue.Http

/-- A label of a name. -/
structure HostLabel where
  /-- The letters that are meant. -/
  meant : List Char
  /-- The ASCII characters that are sent. -/
  sent : List Char
  deriving DecidableEq, Repr

namespace HostLabel

/-! ## 1. Labels -/

/-- Whether a character may stand in a label: no blank, no control character, and nothing that ends
    a host in an address or means something else there. -/
def isLetter (c : Char) : Bool := 0x21 ≤ c.toNat && !("%#/:<>?@[\\]^|\x7f".toList.contains c)

/-- How a coded label begins. -/
def codeMark : List Char := "xn--".toList

/-- How many characters a code has at most behind its mark. -/
def maxCode : Nat := 2000

/-- How many characters a label has at most that is to be coded. -/
def maxCoded : Nat := 1000

/-- The label that is coded by the characters behind the mark. What it means must be in the form
    that all ways of writing it share. -/
def ofCode? (code : List Char) : Option HostLabel :=
  if code.isEmpty || code.getLast? = some '-' || maxCode < code.length then none
  else
    (Punycode.decode? code).bind fun cs =>
      if (cs.all fun c => hostLetters? c = some [c]) && normalForm cs = cs then
        some ⟨cs, codeMark ++ code⟩
      else none

/-- Whether a label is not to be coded. -/
def isPlain (cs : List Char) : Bool := cs.all fun c => c.toNat < 128

/-- The label that letters in normal form are, coded or not. -/
def ofNormal? (cs : List Char) : Option HostLabel :=
  if cs.take codeMark.length = codeMark then
    if isPlain cs then ofCode? (cs.drop codeMark.length) else none
  else if isPlain cs then some ⟨cs, cs⟩
  else if cs.length ≤ maxCoded then some ⟨cs, codeMark ++ Punycode.encode cs⟩
  else none

/-- Whether a label may stand in a name: it has letters only, no mark in front, and every joiner has
    a meaning. -/
def isSound (l : HostLabel) : Bool :=
  l.meant.all isLetter && !(l.meant.head?.any isMark) && joinersFit l.meant

/-- The label that letters in normal form are, if it may stand in a name. -/
def ofLetters? (cs : List Char) : Option HostLabel := (ofNormal? cs).filter isSound

/-! ## 2. Names -/

/-- The directions of the letters of a label. -/
def directions (l : HostLabel) : List Direction := l.meant.map direction

/-- The labels of a name in any letters. If one of them runs from the right, each of them has to
    read the same way beside the others. -/
def labels? (cs : List Char) : Option (List HostLabel) := do
  let letters ← cs.mapM hostLetters?
  let labels ← (pieces (· = '.') (normalForm letters.flatten)).mapM ofLetters?
  if labels.any fun l => l.directions.any Direction.turns then
    if labels.all fun l => directionsFit l.directions then some labels else none
  else some labels

end HostLabel

/-- A name in any letters, as it is sent. -/
def hostName? (cs : List Char) : Option (List Char) :=
  (HostLabel.labels? cs).map fun labels => ['.'].intercalate (labels.map HostLabel.sent)

end Catalogue.Http
