import ChangeRelay.Text.Visibility

/-!
# Quotations

A text in quotation marks shows what a reader would otherwise not see: marks and
backslashes inside of it have a backslash in front, and a character that cannot
be seen is given by its code point.
-/

namespace ChangeRelay.Text

/-- The letter that stands for a control after a backslash. -/
def controlShorthand? (c : Char) : Option Char :=
  if c = '\x00' then some '0'
  else if c = '\t' then some 't'
  else if c = '\r' then some 'r'
  else if c = '\n' then some 'n'
  else none

/-- A character by its code point. -/
def codePointText (c : Char) : List Char :=
  ['\\', 'u', '\x7b'] ++ Nat.toDigits 16 c.toNat ++ ['\x7d']

/-- A character as it stands in a quotation; `marks` have a backslash in front. -/
def quoteChar (marks : List Char) (c : Char) : List Char :=
  match controlShorthand? c with
  | some letter => ['\\', letter]
  | none =>
      if c ∈ marks then ['\\', c]
      else if isVisible c then [c]
      else codePointText c

/-- A text in quotation marks; `marks` have a backslash in front. -/
def quoteMarking (marks : List Char) (text : String) : String :=
  "\"" ++ String.ofList (text.toList.flatMap (quoteChar marks)) ++ "\""

/-- A text in quotation marks. -/
def quote : String → String :=
  quoteMarking ['\\', '"']

/-- A path in quotation marks. -/
def quotePath : String → String :=
  quoteMarking ['\\', '"', '\'']

end ChangeRelay.Text
