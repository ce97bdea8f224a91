import ChangeRelay.Text.LowerCase.Mapping
import ChangeRelay.Text.LowerCase.Property

/-!
# Lower case

The full lower-case mapping of Unicode, without regard to language.  Two
characters need more than the simple mapping: a capital I with a dot becomes two
characters, and a capital sigma becomes a final sigma at the end of a word.
-/

namespace ChangeRelay.Text

namespace LowerCase

/-- Whether the nearest character that may decide, past ignorable ones, is a
cased letter. -/
def meetsCased (text : List Char) : Bool :=
  match text.dropWhile isCaseIgnorable with
  | [] => false
  | c :: _ => isCased c

/-- Whether a sigma ends a word, from the text before it, nearest character
first, and the text after it. -/
def endsWord (before after : List Char) : Bool :=
  meetsCased before && !meetsCased after

/-- The lower-case form of a character, apart from a capital sigma. -/
def lowerChar (c : Char) : List Char :=
  if c = 'İ' then ['i', '\u0307'] else [Char.ofNat (lowerPoint c.toNat)]

/-- The lower-case form of a text.  `before` is the text in front of it,
nearest character first. -/
def lowerChars (before : List Char) : List Char → List Char
  | [] => []
  | c :: rest =>
      let lowered :=
        if c = 'Σ' then [if endsWord before rest then 'ς' else 'σ'] else lowerChar c
      lowered ++ lowerChars (c :: before) rest

end LowerCase

/-- A text in lower case. -/
def lower (text : String) : String :=
  String.ofList (LowerCase.lowerChars [] text.toList)

end ChangeRelay.Text
