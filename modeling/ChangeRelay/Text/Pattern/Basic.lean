/-!
# Patterns

The form of regular expressions.  Of a part that does not matter for whether a
pattern can be matched, only its presence is kept: a repetition does not say how
often, and a group does not say what it is called.
-/

namespace ChangeRelay.Text.Pattern

/-- A single character of a pattern. -/
structure Literal where
  char : Char
  /-- Whether it is written as the two hexadecimal digits of a byte. -/
  isByte : Bool
deriving DecidableEq, Repr

/-- What the flags in front of a part say. -/
structure Flags where
  /-- Whether characters are those of Unicode, if the flags say so. -/
  unicode : Option Bool
  /-- Whether white space does not count, if the flags say so. -/
  spaced : Option Bool
deriving DecidableEq, Repr

/-- A class of characters with a name. -/
inductive NamedClass where
  /-- Digits, white space or word characters, or all others. -/
  | kind (negated : Bool)
  /-- The characters with a property that has one letter as its name. -/
  | property (letter : Char)
  /-- A class of ASCII characters, or all others. -/
  | ascii (negated : Bool)
deriving DecidableEq, Repr

/-- A set of characters, as it is written in brackets. -/
inductive CharSet where
  | literal (literal : Literal)
  | range (first last : Literal)
  | named (characters : NamedClass)
  /-- A set in brackets of its own. -/
  | nested (negated : Bool) (inner : CharSet)
  | union (parts : List CharSet)
  /-- What an operator makes of two sets. -/
  | combined (left right : CharSet)
deriving Inhabited

/-- A place in a text. -/
inductive Place where
  /-- The beginning or the end of a line or of the whole text. -/
  | edge
  /-- The beginning or the end of a word, or neither. -/
  | wordEdge
deriving DecidableEq, Repr

end Pattern

/-- A regular expression. -/
inductive Pattern where
  | empty
  /-- Flags that hold from here on. -/
  | flags (flags : Pattern.Flags)
  | literal (literal : Pattern.Literal)
  /-- Any character. -/
  | any
  | place (place : Pattern.Place)
  | named (characters : Pattern.NamedClass)
  | set (negated : Bool) (inner : Pattern.CharSet)
  | repetition (inner : Pattern)
  | group (flags : Pattern.Flags) (inner : Pattern)
  | alternation (branches : List Pattern)
  | sequence (parts : List Pattern)
deriving Inhabited

namespace Pattern

/-! ## Nesting -/

/-- How deep patterns may be nested. -/
def depthLimit : Nat :=
  250

mutual

/-- How deep a set is nested. -/
def CharSet.depth : CharSet → Nat
  | .literal _ | .range _ _ | .named _ => 0
  | .nested _ inner => inner.depth + 1
  | .union [] => 0
  | .union parts => CharSet.depths parts + 1
  | .combined left right => max left.depth right.depth + 1

/-- How deep the deepest of some sets is nested. -/
def CharSet.depths : List CharSet → Nat
  | [] => 0
  | part :: rest => max part.depth (CharSet.depths rest)

end

mutual

/-- How deep a pattern is nested. -/
def depth : Pattern → Nat
  | .empty | .flags _ | .literal _ | .any | .place _ | .named _ => 0
  | .set _ inner => inner.depth + 1
  | .repetition inner | .group _ inner => depth inner + 1
  | .alternation parts | .sequence parts => depths parts + 1

/-- How deep the deepest of some patterns is nested. -/
def depths : List Pattern → Nat
  | [] => 0
  | part :: rest => max (depth part) (depths rest)

end

end Pattern

end ChangeRelay.Text
