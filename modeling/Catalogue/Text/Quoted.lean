import Catalogue.Text.Hexadecimal
import Catalogue.Text.Unprintable

/-!
# Quoted text in diagnostics

A diagnostic that names a piece of text shows it between double quotes. Quotes and backslashes get
a backslash in front, the usual control characters their letter, and every other character without
a visible form its number in hexadecimal between braces.
-/

namespace Catalogue

/-- How one character of a quoted text is shown. -/
def quotedChar (c : Char) : List Char :=
  match c with
  | '"' => ['\\', '"']
  | '\\' => ['\\', '\\']
  | '\t' => ['\\', 't']
  | '\n' => ['\\', 'n']
  | '\r' => ['\\', 'r']
  | c =>
    if c.toNat = 0 then ['\\', '0']
    else if isUnprintable c then ['\\', 'u', '\x7b'] ++ hexText c.toNat ++ ['\x7d']
    else [c]

/-- A text between double quotes. -/
def quoted (s : String) : String :=
  String.ofList ('"' :: (s.toList.flatMap quotedChar ++ ['"']))

end Catalogue
