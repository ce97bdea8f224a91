import ChangeRelay.Json.Quoted

/-!
# Drafts of JSON values

A draft is what text shows of a JSON value before anything is decided about it.
It keeps the members of an object as they were written, each key as often as it
occurs, and it may lack its end.  Where the text cannot be read any further the
draft says so at that very place, so a reader who walks through a draft in its
order meets the same trouble first as one who walks through the text.

What a value is needed for decides how strict its text has to be.  In a part
that is passed over, numbers may be beyond the finite range and surrogates need
no partner.
-/

namespace ChangeRelay.Json

/-- A quoted text: what it stands for, and whether it can be passed over. -/
structure Quotation where
  read : Except Trouble String
  skip : Except Trouble Unit

/-- How the text of a container ends. -/
inductive Closing where
  | closed
  | cutOff
  /-- Something stands where the container has to go on or to end. -/
  | wrong
deriving DecidableEq, Repr

/-- What follows if a container ends, in the way in which it ends. -/
def Closing.finish {α : Type} (closing : Closing) (result : Except Trouble α) :
    Except Trouble α :=
  match closing with
  | .closed => result
  | .cutOff => .error .cutOff
  | .wrong => .error .fault

/-- What text shows of a value. -/
inductive Draft where
  | null
  | bool (value : Bool)
  /-- A number; none if it is beyond the finite range. -/
  | num (value? : Option JsonNumber)
  | str (text : Quotation)
  | arr (items : List Draft) (closing : Closing)
  | obj (members : List (Quotation × Draft)) (closing : Closing)
  /-- The text ends before the value begins. -/
  | missing
  /-- The text of the value breaks off; the trouble with it when it is needed,
  and when it is passed over. -/
  | broken (whenRead whenSkipped : Trouble)
deriving Inhabited

/-- Whether a character may stand between the parts of a text. -/
def isSpace (c : Char) : Bool :=
  c == ' ' || c == '\n' || c == '\t' || c == '\r'

/-- A text without the space in front. -/
def dropSpace (text : List Char) : List Char :=
  text.dropWhile isSpace

/-- The quoted text after an opening quote, and the text after it, unless the
quoted text breaks off. -/
def quotation (text : List Char) : Quotation × Option (List Char) :=
  let skipped := skipQuoted text
  (⟨(readQuoted none text).map fun (value, _) => String.ofList value, skipped.map fun _ => ()⟩,
    skipped.toOption)

/-- The key in front of a text, and the text after it, unless the key breaks
off. -/
def readKey (text : List Char) : Quotation × Option (List Char) :=
  match dropSpace text with
  | '"' :: rest => quotation rest
  | [] => (⟨.error .cutOff, .error .cutOff⟩, none)
  | _ => (⟨.error .fault, .error .fault⟩, none)

/-- The text after a word in front of a text. -/
def readWord : List Char → List Char → Except Trouble (List Char)
  | [], text => .ok text
  | _ :: _, [] => .error .cutOff
  | expected :: word, c :: text => if c = expected then readWord word text else .error .fault

namespace Draft

/-- Whether a draft is one of `null`. -/
def isNull : Draft → Bool
  | .null => true
  | _ => false

/-- The draft of a word, and the text after it, unless it breaks off. -/
def ofWord (rest : String) (draft : Draft) (text : List Char) : Draft × Option (List Char) :=
  match readWord rest.toList text with
  | .ok after => (draft, some after)
  | .error trouble => (.broken trouble trouble, none)

/-- The draft of a number, and the text after it, unless it breaks off. -/
def ofNumber (text : List Char) : Draft × Option (List Char) :=
  match readNumber text with
  | .ok (literal, after) => (.num literal.value?, some after)
  | .error trouble => (.broken trouble .fault, none)

mutual

/-- The draft of the value in front of a text, and the text after it, unless
the value breaks off.  Every second step takes a character. -/
def readValue : (fuel : Nat) → List Char → Draft × Option (List Char)
  | 0, _ => (.missing, none)
  | fuel + 1, text =>
      match dropSpace text with
      | [] => (.missing, none)
      | '[' :: rest =>
          match dropSpace rest with
          | ']' :: after => (.arr [] .closed, some after)
          | _ =>
              let (items, closing, after) := readItems fuel rest
              (.arr items closing, after)
      | '\x7b' :: rest =>
          match dropSpace rest with
          | '\x7d' :: after => (.obj [] .closed, some after)
          | _ =>
              let (members, closing, after) := readMembers fuel rest
              (.obj members closing, after)
      | '"' :: rest =>
          let (text, after) := quotation rest
          (.str text, after)
      | 'n' :: rest => ofWord "ull" .null rest
      | 't' :: rest => ofWord "rue" (.bool true) rest
      | 'f' :: rest => ofWord "alse" (.bool false) rest
      | other => ofNumber other

/-- The items of an array after its opening bracket or after a comma, how the
array ends, and the text after it. -/
def readItems : (fuel : Nat) → List Char → List Draft × Closing × Option (List Char)
  | 0, _ => ([], .wrong, none)
  | fuel + 1, text =>
      let (item, after) := readValue fuel text
      match after.map dropSpace with
      | none => ([item], .wrong, none)
      | some [] => ([item], .cutOff, none)
      | some (']' :: rest) => ([item], .closed, some rest)
      | some (',' :: rest) =>
          let (others, closing, last) := readItems fuel rest
          (item :: others, closing, last)
      | some _ => ([item], .wrong, none)

/-- The members of an object after its opening brace or after a comma, how the
object ends, and the text after it. -/
def readMembers :
    (fuel : Nat) → List Char → List (Quotation × Draft) × Closing × Option (List Char)
  | 0, _ => ([], .wrong, none)
  | fuel + 1, text =>
      let (key, afterKey) := readKey text
      match afterKey.map dropSpace with
      | none => ([(key, .missing)], .wrong, none)
      | some [] => ([(key, .missing)], .wrong, none)
      | some (':' :: text) =>
          let (value, after) := readValue fuel text
          match after.map dropSpace with
          | none => ([(key, value)], .wrong, none)
          | some [] => ([(key, value)], .cutOff, none)
          | some ('\x7d' :: rest) => ([(key, value)], .closed, some rest)
          | some (',' :: rest) =>
              let (others, closing, last) := readMembers fuel rest
              ((key, value) :: others, closing, last)
          | some _ => ([(key, value)], .wrong, none)
      | some _ => ([(key, .broken .fault .fault)], .wrong, none)

end

/-- The draft of the value in front of a text, and the text after it. -/
def ofText (text : String) : Draft × Option (List Char) :=
  readValue (2 * text.length + 2) text.toList

end Draft

end ChangeRelay.Json
