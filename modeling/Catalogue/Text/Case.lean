/-!
# Texts that are compared without regard to case

Names of headers, media types and log formats are words of ASCII letters that may be written in
either case. They are compared in their lower-case form; no other character has one here.
-/

namespace Catalogue

/-- The lower-case form of an ASCII letter. -/
def lowerAscii (c : Char) : Char := if 'A' ≤ c ∧ c ≤ 'Z' then Char.ofNat (c.toNat + 32) else c

/-- A text with its ASCII letters in lower case. -/
def lowerText (s : String) : String := String.ofList (s.toList.map lowerAscii)

end Catalogue
