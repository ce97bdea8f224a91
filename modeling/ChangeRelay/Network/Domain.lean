import ChangeRelay.Network.Domain.Direction
import ChangeRelay.Network.Domain.Joining
import ChangeRelay.Network.Domain.Permission
import ChangeRelay.Network.Domain.Punycode
import ChangeRelay.Text.Normal

/-!
# Names in ASCII characters

A name consists of labels between dots.  It may have characters of all scripts,
but it is looked up in ASCII characters.  Its characters are mapped and brought
into normal form; then each label beyond ASCII is written as `xn--` and its
code.  A label that has that form already must be the code of a label that needs
one.
-/

namespace ChangeRelay.Network.Domain

open Text

/-- What stands before the code of a label. -/
def codeMark : List Char :=
  ['x', 'n', '-', '-']

/-- A label: as it is meant, and as it is written in ASCII characters. -/
structure Label where
  meant : List Char
  written : List Char
deriving DecidableEq, Repr

/-- Whether a text has no characters beyond ASCII. -/
def isAscii (text : List Char) : Bool :=
  text.all (· < '\x80')

/-- Whether a label beyond ASCII may stand in a name. -/
def isPermitted (label : List Char) : Bool :=
  label.all mayStand && !label.head?.any isMark && joinersMayStand [] label

/-- The label that is meant by a mapped one. -/
def readLabel? (mapped : List Char) : Option Label :=
  if codeMark.isPrefixOf mapped then do
    let meant ← Punycode.decode? (mapped.drop codeMark.length)
    if isAscii mapped ∧ ¬ isAscii meant ∧ normalForm meant = meant ∧ isPermitted meant then
      return ⟨meant, mapped⟩
    else none
  else if isAscii mapped then
    if mapped.all mayStandAscii then some ⟨mapped, mapped⟩ else none
  else if isPermitted mapped then some ⟨mapped, codeMark ++ Punycode.encode mapped⟩
  else none

/-- The written form of a name. -/
def toAscii? (name : List Char) : Option (List Char) := do
  let mapped := normalForm (name.flatMap mapChar)
  let labels ← (segments '.' mapped).mapM readLabel?
  if keepDirections (labels.map Label.meant) then
    return ['.'].intercalate (labels.map Label.written)
  else none

end ChangeRelay.Network.Domain
