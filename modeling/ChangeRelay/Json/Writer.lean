import ChangeRelay.Json.Basic
import ChangeRelay.Text.Digits

/-!
# Writing JSON text

Values are written on one line without spaces, members in the order they have.
Only quotes, backslashes and control characters are escaped.
-/

namespace ChangeRelay.Json

open Text

/-- How a character is written inside quotes. -/
def escaped : Char → List Char
  | '"' => ['\\', '"']
  | '\\' => ['\\', '\\']
  | '\n' => ['\\', 'n']
  | '\r' => ['\\', 'r']
  | '\t' => ['\\', 't']
  | '\x08' => ['\\', 'b']
  | '\x0c' => ['\\', 'f']
  | c =>
      if c.toNat < 0x20 then
        ['\\', 'u', '0', '0', hexDigit (c.toNat / 16), hexDigit (c.toNat % 16)]
      else [c]

/-- A text in quotes. -/
def quoted (text : String) : String :=
  "\"" ++ String.ofList (text.toList.flatMap escaped) ++ "\""

/-- A number. -/
def numberText : JsonNumber → String
  | .int value => toString value
  | .real value => value.text

mutual

/-- The text of a value. -/
def toText : Json → String
  | .null => "null"
  | .bool true => "true"
  | .bool false => "false"
  | .num value => numberText value
  | .str value => quoted value
  | .arr items => "[" ++ itemsText items ++ "]"
  | .obj members => "\x7b" ++ membersText members ++ "\x7d"

/-- The texts of items, separated by commas. -/
def itemsText : List Json → String
  | [] => ""
  | [item] => toText item
  | item :: next :: rest => toText item ++ "," ++ itemsText (next :: rest)

/-- The texts of members, separated by commas. -/
def membersText : List (String × Json) → String
  | [] => ""
  | [(key, value)] => quoted key ++ ":" ++ toText value
  | (key, value) :: next :: rest =>
      quoted key ++ ":" ++ toText value ++ "," ++ membersText (next :: rest)

end

end ChangeRelay.Json
