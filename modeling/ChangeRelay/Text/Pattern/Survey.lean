import ChangeRelay.Text.Pattern.Reader

/-!
# Patterns that can be matched

A pattern is matched byte by byte against UTF-8.  So where characters are those
of ASCII, nothing may stand for a byte beyond ASCII: no class of all others, no
byte in two digits, no character whatever.  A matcher that never looks ahead
cannot find the edges of words of Unicode either.
-/

namespace ChangeRelay.Text.Pattern

/-- Why a text cannot be used as a pattern. -/
inductive Flaw where
  /-- The text is no pattern, or not one that can be matched. -/
  | unusable
  /-- The pattern asks for the edge of a word of Unicode. -/
  | wordEdge
deriving DecidableEq, Repr

/-- What is known in the middle of a pattern. -/
structure Survey where
  /-- Whether characters are those of Unicode. -/
  unicode : Bool
  /-- Whether the edge of a word of Unicode was asked for. -/
  foundWordEdge : Bool
deriving DecidableEq, Repr

/-- The letters that name a property. -/
def isPropertyLetter (c : Char) : Bool :=
  c.toLower ∈ ['c', 'l', 'm', 'n', 'p', 's', 'z']

/-- Whether a class can be matched. -/
def NamedClass.isUsable (unicode : Bool) : NamedClass → Bool
  | .kind negated | .ascii negated => unicode || !negated
  | .property letter => unicode && isPropertyLetter letter

/-- Whether a single character can be matched. -/
def Literal.isUsable (unicode : Bool) (literal : Literal) : Bool :=
  unicode || !literal.isByte || literal.char < '\x80'

/-- Whether a single character can be matched as part of a set. -/
def Literal.isUsableInSet (unicode : Bool) (literal : Literal) : Bool :=
  unicode || literal.char < '\x80'

mutual

/-- Whether a set can be matched. -/
def CharSet.isUsable (unicode : Bool) : CharSet → Bool
  | .literal single => single.isUsableInSet unicode
  | .range first last => first.isUsableInSet unicode && last.isUsableInSet unicode
  | .named characters => characters.isUsable unicode
  | .nested negated inner => (unicode || !negated) && inner.isUsable unicode
  | .union parts => CharSet.areUsable unicode parts
  | .combined left right => left.isUsable unicode && right.isUsable unicode

/-- Whether all of some sets can be matched. -/
def CharSet.areUsable (unicode : Bool) : List CharSet → Bool
  | [] => true
  | part :: rest => part.isUsable unicode && CharSet.areUsable unicode rest

end

/-- The survey goes on if something can be matched. -/
def Survey.require (usable : Bool) (survey : Survey) : Option Survey :=
  if usable then some survey else none

/-- The survey under some flags. -/
def Survey.under (flags : Flags) (survey : Survey) : Survey :=
  { survey with unicode := flags.unicode.getD survey.unicode }

mutual

/-- What is known after a pattern, unless it cannot be matched. -/
def survey? (before : Survey) : Pattern → Option Survey
  | .empty => some before
  | .flags said => some (before.under said)
  | .literal single => before.require (single.isUsable before.unicode)
  | .any => before.require before.unicode
  | .place .edge => some before
  | .place .wordEdge =>
      some { before with foundWordEdge := before.foundWordEdge || before.unicode }
  | .named characters => before.require (characters.isUsable before.unicode)
  | .set negated inner =>
      before.require ((before.unicode || !negated) && inner.isUsable before.unicode)
  | .repetition inner => survey? before inner
  | .group said inner =>
      (survey? (before.under said) inner).map fun after =>
        { after with unicode := before.unicode }
  | .alternation parts | .sequence parts => surveyAll? before parts

/-- What is known after patterns one after another. -/
def surveyAll? (before : Survey) : List Pattern → Option Survey
  | [] => some before
  | part :: rest => (survey? before part).bind fun after => surveyAll? after rest

end

/-- Check that a text can be used as a pattern. -/
def check (text : List Char) : Except Flaw Unit :=
  match (ofText? text).filter (·.depth ≤ depthLimit) |>.bind (survey? ⟨true, false⟩) with
  | none => .error .unusable
  | some after => if after.foundWordEdge then .error .wordEdge else .ok ()

end ChangeRelay.Text.Pattern
