import Catalogue.Text.Hexadecimal

/-!
# Bytes that are spelled

An address is written in printable ASCII characters. All other bytes are spelled in hexadecimal
behind a percent sign, and so are the characters that would end a part of the address or mean
something else in it. A percent sign itself is left alone, so what is spelled already stays as it
is.

* `spell` -- a text with a class of bytes spelled;
* `isControlByte`, `fragmentSpelled`, `querySpelled`, `pathSpelled`, `userSpelled` -- the classes.
-/

namespace Catalogue.Http

/-- Control characters and bytes beyond ASCII are spelled everywhere. -/
def isControlByte (b : UInt8) : Bool := b < 0x20 || 0x7E < b

/-- What is spelled in a fragment. -/
def fragmentSpelled (b : UInt8) : Bool :=
  isControlByte b || [0x20, 0x22, 0x3C, 0x3E, 0x60].contains b

/-- What is spelled in a query. An apostrophe is, in addresses on the web and of files. -/
def querySpelled (apostrophe : Bool) (b : UInt8) : Bool :=
  isControlByte b || [0x20, 0x22, 0x23, 0x3C, 0x3E].contains b || (apostrophe && b == 0x27)

/-- What is spelled in a path. -/
def pathSpelled (b : UInt8) : Bool :=
  fragmentSpelled b || [0x23, 0x3F, 0x7B, 0x7D].contains b

/-- What is spelled in the name and the password of a user. -/
def userSpelled (b : UInt8) : Bool :=
  pathSpelled b || [0x2F, 0x3A, 0x3B, 0x3D, 0x40, 0x5B, 0x5C, 0x5D, 0x5E, 0x7C].contains b

/-- A text with a class of bytes spelled. -/
def spell (spelled : UInt8 → Bool) (cs : List Char) : String :=
  (textOf? (percentEncoded spelled (bytesOf (String.ofList cs)))).getD ""

end Catalogue.Http
