import ChangeRelay.Network.Percent
import ChangeRelay.Network.Host

/-!
# Paths of addresses

The path of an address is brought into its normal form: dot segments are
resolved and characters that may not stand are coded.  A segment that looks like
the letter of a drive is never removed by the dots after it, and in the address
of a file the letter at the front is always followed by a colon.
-/

namespace ChangeRelay.Network.Url

open Text

/-! ## Characters that may stand -/

/-- Whether a character may stand in a fragment. -/
def mayStandInFragment (c : Char) : Bool :=
  Host.isPrintable c && c ∉ [' ', '"', '<', '>', '\x60']

/-- Whether a character may stand in a path. -/
def mayStandInPath (c : Char) : Bool :=
  mayStandInFragment c && c ∉ ['#', '?', '\x7b', '\x7d']

/-- Whether a character may stand in a query. -/
def mayStandInQuery (isKnown : Bool) (c : Char) : Bool :=
  Host.isPrintable c && c ∉ [' ', '"', '#', '<', '>'] && !(isKnown && c = '\'')

/-- Whether a character may stand in credentials. -/
def mayStandInCredentials (c : Char) : Bool :=
  mayStandInPath c && c ∉ ['/', ':', ';', '=', '@', '[', '\\', ']', '^', '|']

/-! ## Segments -/

/-- A segment with the codes of dots resolved, to compare it. -/
def dotForm : List Char → List Char
  | '%' :: '2' :: 'e' :: rest | '%' :: '2' :: 'E' :: rest => '.' :: dotForm rest
  | c :: rest => c :: dotForm rest
  | [] => []

/-- Whether a character is a letter of ASCII. -/
def isLetter (c : Char) : Bool :=
  Percent.isAlphanumeric c && (decimalDigit? c).isNone

/-- Whether a text is the letter of a drive: a letter and a colon or a bar. -/
def isDrive : List Char → Bool
  | [letter, mark] => isLetter letter && mark ∈ [':', '|']
  | _ => false

/-- Whether a segment begins like the letter of a drive. -/
def beginsAsDrive (segment : List Char) : Bool :=
  isDrive (segment.take 2) && (segment.drop 2).head?.all (· = '\\')

/-- The segments after the last one was removed; `kept` has the last one first. -/
def removeLast : List (List Char) → List (List Char)
  | [] => []
  | last :: others => if beginsAsDrive last then last :: others else others

/-- What is kept of a segment; `isFirstOfFile` if it is the first one in the
address of a file. -/
def keepSegment (isFirstOfFile : Bool) (segment : List Char) : List Char :=
  if isFirstOfFile && isDrive segment then segment.take 1 ++ [':']
  else Percent.encode mayStandInPath segment

/-- The segments of a path without dot segments; `kept` are those before, the
last one first. -/
def resolveDots (isFile : Bool) (kept : List (List Char)) :
    List (List Char) → List (List Char)
  | [] => kept.reverse
  | segment :: rest =>
      let final := if rest.isEmpty then [[]] else []
      if dotForm segment = ['.', '.'] then
        resolveDots isFile (final ++ removeLast kept) rest
      else if dotForm segment = ['.'] then resolveDots isFile (final ++ kept) rest
      else resolveDots isFile (keepSegment (isFile && kept.isEmpty) segment :: kept) rest

/-- The path of some segments. -/
def joinSegments (segments : List (List Char)) : String :=
  "/" ++ String.intercalate "/" (segments.map String.ofList)

/-- A path in its normal form, without the slash in front. -/
def normalPath (afterSlash : List Char) : String :=
  joinSegments (resolveDots false [] (segments '/' afterSlash))

/-- The path of a file in its normal form, and whether it begins with the letter
of a drive.  It begins with exactly one slash. -/
def filePath (afterSlash : List Char) : String × Bool :=
  let resolved := resolveDots true [] (segments '/' afterSlash)
  let path := (joinSegments resolved).toList.dropWhile (· = '/')
  (String.ofList ('/' :: path), resolved.head?.any isDrive)

end ChangeRelay.Network.Url
