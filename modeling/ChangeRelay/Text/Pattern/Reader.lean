import ChangeRelay.Text.Alphanumeric
import ChangeRelay.Text.Digits
import ChangeRelay.Text.Parts
import ChangeRelay.Text.Pattern.Basic

/-!
# Reading patterns

A pattern stands between braces, so there is no closing brace in it.  Whatever
needs one, as a counted repetition does, cannot be read.

Flags can say that white space does not count.  Then it is passed over between
the parts of a pattern, and so are comments, which begin with a number sign and
end with their line.
-/

namespace ChangeRelay.Text.Pattern

/-! ## Single characters -/

/-- A text without white space and comments in front, if they do not count. -/
def skipSpace (spaced : Bool) (inComment : Bool) : List Char → List Char
  | [] => []
  | c :: rest =>
      if !spaced then c :: rest
      else if inComment then skipSpace spaced (c ≠ '\n') rest
      else if isBlank c then skipSpace spaced false rest
      else if c = '#' then skipSpace spaced true rest
      else c :: rest

/-- The first character of a text that is no white space, if white space does not
count; a number sign is passed over like white space. -/
def peekSpaced (spaced : Bool) (afterSign : Bool) : List Char → Option Char
  | [] => none
  | c :: rest =>
      if !spaced then some c
      else if isBlank c then peekSpaced spaced afterSign rest
      else if !afterSign && c = '#' then peekSpaced spaced true rest
      else some c

/-- Characters that have a meaning of their own in patterns. -/
def isMeta (c : Char) : Bool :=
  c ∈ ['\\', '.', '+', '*', '?', '(', ')', '|', '[', ']', '\x7b', '\x7d', '^', '$', '#', '&',
    '-', '~']

/-- Whether a backslash in front of a character leaves its meaning. -/
def isEscapable (c : Char) : Bool :=
  isMeta c || (c < '\x80' && !isAlphanumeric c && c ∉ ['<', '>'])

/-- What a backslash makes of a letter that stands for a control character. -/
def controlLetter? : Char → Option Char
  | 'a' => some '\x07'
  | 'f' => some '\x0c'
  | 't' => some '\t'
  | 'n' => some '\n'
  | 'r' => some '\r'
  | 'v' => some '\x0b'
  | _ => none

/-- A part of a pattern that a backslash begins, or that is one character. -/
inductive Atom where
  | literal (literal : Literal)
  | place (place : Place)
  | named (characters : NamedClass)

/-- So many hexadecimal digits, and the text after them. -/
def readHexDigits? (spaced : Bool) : (count : Nat) → List Char → Option (List Nat × List Char)
  | 0, text => some ([], text)
  | count + 1, text =>
      match skipSpace spaced false text with
      | [] => none
      | c :: rest => do
          let digit ← hexDigit? c
          let (digits, after) ← readHexDigits? spaced count rest
          return (digit :: digits, after)

/-- The character that so many hexadecimal digits stand for. -/
def readHexChar? (spaced : Bool) (count : Nat) (text : List Char) :
    Option (Atom × List Char) := do
  let (digits, rest) ← readHexDigits? spaced count text
  let point := ofDigits 16 digits
  if point.isValidChar then
    return (.literal ⟨Char.ofNat point, count = 2⟩, skipSpace spaced false rest)
  else none

/-- What follows a backslash. -/
def readEscape? (spaced : Bool) : List Char → Option (Atom × List Char)
  | [] => none
  | 'x' :: rest => readHexChar? spaced 2 rest
  | 'u' :: rest => readHexChar? spaced 4 rest
  | 'U' :: rest => readHexChar? spaced 8 rest
  | 'p' :: rest | 'P' :: rest =>
      match skipSpace spaced false rest with
      | [] => none
      | letter :: after =>
          if letter ∈ ['\\', '\x7b'] then none
          else some (.named (.property letter), skipSpace spaced false after)
  | 'b' :: '\x7b' :: _ => none
  | c :: rest =>
      if c ∈ ['d', 's', 'w'] then some (.named (.kind false), rest)
      else if c ∈ ['D', 'S', 'W'] then some (.named (.kind true), rest)
      else if c ∈ ['A', 'z'] then some (.place .edge, rest)
      else if c ∈ ['b', 'B', '<', '>'] then some (.place .wordEdge, rest)
      else if isEscapable c then some (.literal ⟨c, false⟩, rest)
      else (controlLetter? c).map fun control => (.literal ⟨control, false⟩, rest)

/-! ## Sets of characters -/

/-- The names of the classes of ASCII characters. -/
def asciiClassNames : List String :=
  ["alnum", "alpha", "ascii", "blank", "cntrl", "digit", "graph", "lower", "print", "punct",
    "space", "upper", "word", "xdigit"]

/-- A class of ASCII characters after its opening bracket. -/
def readAsciiClass? : List Char → Option (NamedClass × List Char)
  | ':' :: text =>
      let negated := text.head? = some '^'
      let name := if negated then text.drop 1 else text
      let word := name.takeWhile (· ≠ ':')
      match name.drop word.length with
      | ':' :: ']' :: rest =>
          if String.ofList word ∈ asciiClassNames then some (.ascii negated, rest) else none
      | _ => none
  | _ => none

/-- One character or class of a set, and the text after it. -/
def readSetAtom? (spaced : Bool) : List Char → Option (Atom × List Char)
  | [] => none
  | '\\' :: rest => readEscape? spaced rest
  | c :: rest => some (.literal ⟨c, false⟩, rest)

/-- A character, a class or a range of a set, and the text after it.  A hyphen
makes a range unless another hyphen or the end of the set follows it. -/
def readRange? (spaced : Bool) (text : List Char) : Option (CharSet × List Char) := do
  let (first, after) ← readSetAtom? spaced text
  match skipSpace spaced false after with
  | [] => none
  | c :: rest =>
      if c ≠ '-' ∨ peekSpaced spaced false rest ∈ [some ']', some '-'] then
        match first with
        | .literal single => return (.literal single, c :: rest)
        | .named characters => return (.named characters, c :: rest)
        | .place _ => none
      else
        let (last, after) ← readSetAtom? spaced (skipSpace spaced false rest)
        match first, last with
        | .literal low, .literal high =>
            if low.char ≤ high.char then return (.range low high, after) else none
        | _, _ => none

/-- The set of some parts, the last one first. -/
def unionOf : List CharSet → CharSet
  | [part] => part
  | parts => .union parts.reverse

/-- The hyphens in front of a set, which stand for themselves. -/
def readHyphens (spaced : Bool) (fuel : Nat) (text : List Char) : List CharSet × List Char :=
  match fuel, text with
  | fuel + 1, '-' :: rest =>
      let (hyphens, after) := readHyphens spaced fuel (skipSpace spaced false rest)
      (.literal ⟨'-', false⟩ :: hyphens, after)
  | _, text => ([], text)

/-- The beginning of a set after its opening bracket: whether it is negated, the
parts that have to stand first to stand for themselves, and the text after
them. -/
def readSetOpening (spaced : Bool) (text : List Char) : Bool × List CharSet × List Char :=
  let inside := skipSpace spaced false text
  let negated := inside.head? = some '^'
  let marked := if negated then skipSpace spaced false (inside.drop 1) else inside
  match readHyphens spaced marked.length marked with
  | ([], ']' :: rest) => (negated, [.literal ⟨']', false⟩], skipSpace spaced false rest)
  | (hyphens, rest) => (negated, hyphens, rest)

/-- Whether a text begins with an operator on sets: twice the same sign. -/
def beginsWithOperator : List Char → Bool
  | a :: b :: _ => a = b && a ∈ ['&', '-', '~']
  | _ => false

mutual

/-- A set after its opening bracket, and the text after its closing bracket. -/
def readSet? (spaced : Bool) : (fuel : Nat) → List Char → Option (Bool × CharSet × List Char)
  | 0, _ => none
  | fuel + 1, text => do
      let (negated, parts, rest) := readSetOpening spaced text
      let (inner, after) ← readParts? spaced fuel none parts rest
      return (negated, inner, after)

/-- The rest of a set.  `left` is what stands in front of the last operator, and
`parts` are those after it, the last one first. -/
def readParts? (spaced : Bool) : (fuel : Nat) → (left : Option CharSet) →
    (parts : List CharSet) → List Char → Option (CharSet × List Char)
  | 0, _, _, _ => none
  | fuel + 1, left, parts, text =>
      let whole := (left.map fun before => CharSet.combined before (unionOf parts)).getD
        (unionOf parts)
      match skipSpace spaced false text with
      | [] => none
      | ']' :: rest => some (whole, rest)
      | '[' :: rest =>
          match readAsciiClass? rest with
          | some (characters, after) =>
              readParts? spaced fuel left (.named characters :: parts) after
          | none => do
              let (negated, inner, after) ← readSet? spaced fuel rest
              readParts? spaced fuel left (.nested negated inner :: parts) after
      | other =>
          if beginsWithOperator other then
            readParts? spaced fuel (some whole) [] (other.drop 2)
          else do
            let (part, after) ← readRange? spaced other
            readParts? spaced fuel left (part :: parts) after

end

/-! ## Groups and flags -/

/-- A flag: one of its letters, or the sign that takes back those after it. -/
def isFlag (c : Char) : Bool :=
  c ∈ ['i', 'm', 's', 'U', 'u', 'R', 'x', '-']

/-- What flags say about a letter. -/
def flagState (letter : Char) (written : List Char) : Option Bool :=
  if letter ∈ written then some ('-' ∉ written.takeWhile (· ≠ letter)) else none

/-- The flags in front of a text, and the text after them.  No flag occurs
twice, and the sign that takes flags back has some to take back. -/
def readFlags? (text : List Char) : Option (List Char × List Char) :=
  let written := text.takeWhile fun c => c ≠ ':' && c ≠ ')'
  let rest := text.drop written.length
  if written.all isFlag ∧ written.Nodup ∧ written.getLast? ≠ some '-' ∧ rest ≠ [] then
    some (written, rest)
  else none

/-- Flags that say nothing. -/
def noFlags : Flags :=
  ⟨none, none⟩

/-- What written flags say. -/
def flagsOf (written : List Char) : Flags :=
  ⟨flagState 'u' written, flagState 'x' written⟩

/-- Whether a character may stand in the name of a group. -/
def isGroupNameChar (c : Char) : Bool :=
  isAlphanumeric c || c ∈ ['_', '.', '[', ']']

/-- The name of a group after its opening mark, and the text after its closing
one. -/
def readGroupName? (text : List Char) : Option (String × List Char) :=
  let name := text.takeWhile (· ≠ '>')
  match text.drop name.length with
  | [] => none
  | _ :: rest =>
      if name.head?.any (fun c => isAlphabetic c || c = '_') ∧ name.all isGroupNameChar then
        some (String.ofList name, rest)
      else none

/-- The beginning of a group after its opening bracket. -/
inductive Opening where
  /-- Flags that hold for the rest of the group around them. -/
  | flags (flags : Flags) (rest : List Char)
  /-- A group with flags of its own. -/
  | plain (flags : Flags) (rest : List Char)
  | called (name : String) (rest : List Char)

/-- The beginning of a group after its opening bracket. -/
def readOpening? : List Char → Option Opening
  | '?' :: '=' :: _ | '?' :: '!' :: _ | '?' :: '<' :: '=' :: _ | '?' :: '<' :: '!' :: _ => none
  | '?' :: 'P' :: '<' :: rest | '?' :: '<' :: rest =>
      (readGroupName? rest).map fun (name, after) => .called name after
  | '?' :: rest =>
      match readFlags? rest with
      | some (written, ')' :: after) =>
          if written.isEmpty then none else some (.flags (flagsOf written) after)
      | some (written, _ :: after) => some (.plain (flagsOf written) after)
      | _ => none
  | rest => some (.plain noFlags rest)

/-! ## Whole patterns -/

/-- The pattern of some parts, the last one first. -/
def sequenceOf : List Pattern → Pattern
  | [] => .empty
  | [part] => part
  | parts => .sequence parts.reverse

/-- The pattern of some branches. -/
def alternationOf : List Pattern → Pattern
  | [branch] => branch
  | branches => .alternation branches

/-- Whether a part can be repeated. -/
def isRepeatable : Pattern → Bool
  | .empty | .flags _ => false
  | _ => true

/-- The text after the question mark that may follow a repetition. -/
def afterLazyMark : List Char → List Char
  | '?' :: rest => rest
  | rest => rest

/-- The pattern of an atom. -/
def ofAtom : Atom → Pattern
  | .literal single => .literal single
  | .place spot => .place spot
  | .named characters => .named characters

/-- Where a reader stands: the text that is left, whether white space counts, and
the names of the groups so far. -/
structure Position where
  rest : List Char
  spaced : Bool
  names : List String

mutual

/-- The branches of a group, up to its closing bracket or the end of the text. -/
def readBranches? : (fuel : Nat) → Position → Option (List Pattern × Position)
  | 0, _ => none
  | fuel + 1, position => do
      let (branch, next) ← readBranch? fuel [] position
      match next.rest with
      | '|' :: rest =>
          let (others, last) ← readBranches? fuel { next with rest }
          return (branch :: others, last)
      | _ => return ([branch], next)

/-- The rest of a branch; `parts` are those so far, the last one first. -/
def readBranch? : (fuel : Nat) → (parts : List Pattern) → Position → Option (Pattern × Position)
  | 0, _, _ => none
  | fuel + 1, parts, position =>
      let go (part : Pattern) (rest : List Char) : Option (Pattern × Position) :=
        readBranch? fuel (part :: parts) { position with rest }
      let text := skipSpace position.spaced false position.rest
      match text with
      | [] | ')' :: _ | '|' :: _ => some (sequenceOf parts, { position with rest := text })
      | '(' :: rest => do
          match ← readOpening? (skipSpace position.spaced false rest) with
          | .flags said after =>
              readBranch? fuel (.flags said :: parts)
                { position with rest := after, spaced := said.spaced.getD position.spaced }
          | .plain said after =>
              readGroup? fuel said parts position.spaced
                { position with rest := after, spaced := said.spaced.getD position.spaced }
          | .called name after =>
              if name ∈ position.names then none
              else
                readGroup? fuel noFlags parts position.spaced
                  { position with rest := after, names := name :: position.names }
      | '[' :: rest => do
          let (negated, inner, after) ← readSet? position.spaced (2 * text.length) rest
          go (.set negated inner) after
      | '\\' :: rest => do
          let (atom, after) ← readEscape? position.spaced rest
          go (ofAtom atom) after
      | '.' :: rest => go .any rest
      | c :: rest =>
          if c ∈ ['^', '$'] then go (.place .edge) rest
          else if c ∈ ['?', '*', '+'] then
            match parts with
            | [] => none
            | last :: others =>
                if isRepeatable last then
                  readBranch? fuel (.repetition last :: others)
                    { position with rest := afterLazyMark rest }
                else none
          else if c = '\x7b' then none
          else go (.literal ⟨c, false⟩) rest

/-- The rest of a group, and of the branch around it, whose parts so far are
`parts`. -/
def readGroup? : (fuel : Nat) → Flags → (parts : List Pattern) → (spacedAround : Bool) →
    Position → Option (Pattern × Position)
  | 0, _, _, _, _ => none
  | fuel + 1, said, parts, spacedAround, position => do
      let (branches, last) ← readBranches? fuel position
      match last.rest with
      | ')' :: rest =>
          readBranch? fuel (.group said (alternationOf branches) :: parts)
            { last with rest, spaced := spacedAround }
      | _ => none

end

/-- The pattern that a text spells.  Of three steps of the reader at least one
takes a character. -/
def ofText? (text : List Char) : Option Pattern := do
  let (branches, last) ← readBranches? (3 * text.length + 3) ⟨text, false, []⟩
  if last.rest.isEmpty then return alternationOf branches else none

end ChangeRelay.Text.Pattern
