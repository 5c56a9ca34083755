import Catalogue.Http.Host.Name
import Catalogue.Http.Host.Number
import Catalogue.Http.Spelling

/-!
# Hosts

The host of an address is a name, a short number or a long one; a long one stands in brackets. Where
an address is that of a host on the web, its name may be written in any letters and spelled in part.
In any other address the name is taken as it is.

* `Host` -- a host, `Host.text` -- its normal form;
* `Host.parse?` -- the host that a text denotes in an address on the web;
* `Host.parsePlain?` -- the host that it denotes in any other address.
-/

namespace Catalogue.Http

/-- The host of an address. -/
inductive Host where
  | name (text : String)
  /-- A number of 32 bits. -/
  | short (number : BitVec 32)
  /-- A number of 128 bits. -/
  | long (number : BitVec 128)
  deriving DecidableEq, Repr

namespace Host

/-- The normal form of a host. -/
def text : Host → String
  | name s => s
  | short n => String.ofList (shortText n)
  | long n => "[" ++ String.ofList (longText n) ++ "]"

/-- The long number in brackets: `none` if a text has no bracket in front. -/
def bracketed? : List Char → Option (Option Host)
  | '[' :: inner =>
    some (if inner.getLast? = some ']' then (longNumber? inner.dropLast).map long else none)
  | _ => none

/-- The host that a text denotes in an address on the web. -/
def parse? (cs : List Char) : Option Host :=
  match bracketed? cs with
  | some host => host
  | none => do
    let meant ← textOf? (percentDecoded (bytesOf (String.ofList cs)))
    let sent ← hostName? meant.toList
    if sent.isEmpty then none
    else if endsInNumber sent then (shortNumber? sent).map short
    else some (name (String.ofList sent))

/-- Whether a character may stand in a name that is taken as it is. -/
def isPlainLetter (c : Char) : Bool := !("\x00\t\n\r #/:<>?@[\\]^|".toList.contains c)

/-- The host that a text denotes in an address that is not one on the web. An empty name is one,
    too. -/
def parsePlain? (cs : List Char) : Option Host :=
  match bracketed? cs with
  | some host => host
  | none => if cs.all isPlainLetter then some (name (spell isControlByte cs)) else none

end Host

end Catalogue.Http
