import Catalogue.Http.Spelling
import Catalogue.Text.Case
import Catalogue.Text.Pieces

/-!
# Paths of addresses

A path is a row of segments. In its normal form the steps `.` and `..` are carried out, a step at
the end leaves an empty segment, and no step leads above the root or above a drive, which is a
letter with a colon or a bar behind it.

* `walk` -- the segments of a path below others;
* `normalPath` -- the normal form of a path below the root;
* `filePath` -- the normal form of the path of a file, with the drive it begins with.
-/

namespace Catalogue.Http

/-- What divides a path on the web: a backslash does so as well. -/
def isSlash (c : Char) : Bool := c = '/' || c = '\\'

/-- Whether a segment is a step to where it stands. -/
def isHere (s : String) : Bool := [".", "%2e"].contains (lowerText s)

/-- Whether a segment is a step up. -/
def isUp (s : String) : Bool := ["..", ".%2e", "%2e.", "%2e%2e"].contains (lowerText s)

/-- Whether a text names a drive. -/
def isDrive : List Char → Bool
  | [c, d] => c.isAlpha && (d = ':' || d = '|')
  | _ => false

/-- The segments above the last one, all of them with the last one first. Nothing is above the root,
    and a drive is left by no step. -/
def parent : List String → List String
  | s :: above :: rest => if isDrive s.toList then s :: above :: rest else above :: rest
  | root => root

/-- Carries out the steps among segments below others, which are given with the last one first. -/
def walk : List String → List String → List String
  | above, [] => above.reverse
  | above, s :: rest =>
    let arrive (above : List String) : List String := if rest.isEmpty then "" :: above else above
    if isHere s then walk (arrive above) rest
    else if isUp s then walk (arrive (parent above)) rest
    else walk (s :: above) rest

/-- The segments of a text below others, which are given with the last one first. -/
def segmentsBelow (above : List String) (separates : Char → Bool) (cs : List Char) : List String :=
  walk above ((pieces separates cs).map (spell pathSpelled))

/-- The text of segments. -/
def joinSegments (segments : List String) : String := "/".intercalate segments

/-- The normal form of the path that a text denotes below the root. -/
def normalPath (separates : Char → Bool) (cs : List Char) : String :=
  joinSegments (segmentsBelow [""] separates cs)

/-- The normal form of the path of a file below the root, and whether it begins with a drive. The
    drive is written with a colon, and the path has one slash in front. -/
def filePath (cs : List Char) : String × Bool :=
  let (segments, onDrive) := match segmentsBelow [""] isSlash cs with
    | root :: s :: rest =>
      if isDrive s.toList then
        (root :: String.ofList (s.toList.take 1 ++ [':']) :: rest, true)
      else (root :: s :: rest, false)
    | segments => (segments, false)
  ("/" ++ String.ofList ((joinSegments segments).toList.dropWhile (· = '/')), onDrive)

end Catalogue.Http
