import ChangeRelay.Text.Decimal
import ChangeRelay.Text.Parts
import ChangeRelay.Text.Pattern.Survey
import ChangeRelay.Text.Unsigned

/-!
# Directives

Which entries are logged is set by a list of directives with commas between
them.  A directive is a level, or the name of a target, or a target and a level
as in `target[span{field=value}]=level`, where each part may be left out.  The
value of a field is a truth value, a number or a pattern.

The form of a directive is found without the white space around it, but its
parts are cut out of the whole text at the same places.  So white space in front
of a directive shifts its parts, and may even cut a character in two.

Only whether a list of directives can be read is decided here, and why not.
-/

namespace ChangeRelay.Log

/-- Why a directive cannot be read. -/
inductive DirectiveFault where
  /-- The directive has not the form of one. -/
  | form
  /-- What stands at the place of a level is none. -/
  | level
  /-- The value of a field has a flaw as a pattern. -/
  | field (flaw : Text.Pattern.Flaw)
  /-- A part begins or ends inside of a character. -/
  | insideCharacter
deriving DecidableEq, Repr

/-- The fault as it is shown. -/
def DirectiveFault.message : DirectiveFault → String
  | form => "invalid filter directive"
  | level =>
      "error parsing level filter: expected one of \"off\", \"error\", \"warn\", \"info\", "
        ++ "\"debug\", \"trace\", or a number 0-5"
  | field .unusable => "invalid field filter: error building NFA"
  | field .wordEdge =>
      "invalid field filter: unsupported regex feature for DFAs: cannot build DFAs for regexes "
        ++ "with Unicode word boundaries; switch to ASCII word boundaries, or heuristically "
        ++ "enable Unicode word boundaries or use a different regex engine"
  | insideCharacter => "not a character boundary"

/-- Whether the fault stops the program at once. -/
def DirectiveFault.isAbrupt (fault : DirectiveFault) : Bool :=
  fault = insideCharacter

namespace Directive

/-! ## Levels and fields -/

/-- The names of levels. -/
def levelNames : List String :=
  ["off", "error", "warn", "info", "debug", "trace"]

/-- A text with its ASCII letters in lower case. -/
def foldAscii (text : List Char) : List Char :=
  text.map Char.toLower

/-- Whether a text is a level: a name, in any letter case, or the number of one.
An empty text stands for the lowest level. -/
def isLevel (text : List Char) : Bool :=
  text.isEmpty
    || (match Text.readUnsigned Text.largest64 (String.ofList text) with
      | .ok number => number < levelNames.length
      | .error _ => false)
    || levelNames.any fun name => foldAscii text = name.toList

/-- Check the value of a field. -/
def checkValue (text : List Char) : Except DirectiveFault Unit :=
  if String.ofList text ∈ ["true", "false"] || Text.isDecimal text then .ok ()
  else (Text.Pattern.check text).mapError .field

/-- Check a field.  Its value, if there is one, stands between the first equals
sign and the next. -/
def checkField (text : List Char) : Except DirectiveFault Unit :=
  match Text.segments '=' text with
  | _ :: value :: _ => checkValue value
  | _ => if text.isEmpty then .error .form else .ok ()

/-! ## The form of a directive -/

/-- What a character of a directive belongs to; places are those of bytes. -/
inductive Part where
  | start
  /-- A level or a target, from the first character on. -/
  | levelOrTarget
  | span (first : Nat)
  | field (first : Nat)
  /-- The field is complete. -/
  | afterField
  /-- The span is complete. -/
  | afterSpan
  | level (first : Nat)
deriving DecidableEq, Repr

/-- Whether a directive may begin with a character. -/
def mayBegin (c : Char) : Bool :=
  Text.isAlphanumeric c || c ∈ ['-', ':', '_']

/-- The part of a text between two places. -/
def cut (whole : List Char) (first last : Nat) : Except DirectiveFault (List Char) :=
  match Text.slice? first last whole with
  | some part => .ok part
  | none => .error .insideCharacter

/-- Go on with a character at a place. -/
def Part.next (whole : List Char) (place : Nat) (c : Char) :
    Part → Except DirectiveFault Part
  | start =>
      if c = '[' then .ok (.span (place + 1))
      else if mayBegin c then .ok .levelOrTarget
      else .error .form
  | levelOrTarget => do
      if c = '=' then
        let _ ← cut whole 0 place
        return .level (place + 1)
      else if c = '[' then
        let _ ← cut whole 0 place
        return .span (place + 1)
      else return .levelOrTarget
  | span first => do
      if c = ']' then
        let _ ← cut whole first place
        return .afterSpan
      else if c = '\x7b' then
        let _ ← cut whole first place
        return .field (place + 1)
      else return .span first
  | field first => do
      if c = '\x7d' then
        checkField (← cut whole first place)
        return .afterField
      else return .field first
  | afterField => if c = ']' then .ok .afterSpan else .error .form
  | afterSpan => if c = '=' then .ok (.level (place + 1)) else .error .form
  | level first => .ok (.level first)

/-- The part that the last character of a text belongs to, from a part and a
place on. -/
def Part.after (whole : List Char) (place : Nat) (part : Part) :
    List Char → Except DirectiveFault Part
  | [] => .ok part
  | c :: rest => do
      let next ← part.next whole place c
      next.after whole (place + c.utf8Size) rest

/-- Check a directive. -/
def check (whole : List Char) : Except DirectiveFault Unit := do
  match ← Part.start.after whole 0 (Text.trimChars whole) with
  | .levelOrTarget | .afterSpan => return ()
  | .level first =>
      let level ← cut whole first (Text.byteCount whole)
      if isLevel level then return () else throw .level
  | .start | .span _ | .field _ | .afterField => throw .form

/-! ## Lists of directives -/

/-- Check a list of directives.  Between two commas there may be nothing at all;
of several faults the first counts. -/
def checkList (text : String) : Except DirectiveFault Unit :=
  ((Text.segments ',' text.toList).filter (!·.isEmpty)).forM check

end Directive

end ChangeRelay.Log
