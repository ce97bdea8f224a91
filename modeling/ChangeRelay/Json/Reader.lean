import ChangeRelay.Json.Draft

/-!
# Reading JSON text

The reader walks through the draft of a text.  It is strict: no trailing
commas, no lone surrogates, no numbers beyond the finite range, no text after
the value, and at most `maximumDepth` containers inside one another.
-/

namespace ChangeRelay.Json

/-- How many containers may be open inside one another. -/
def maximumDepth : Nat :=
  127

namespace Draft

mutual

/-- The value of a draft, with room for so many containers inside one another. -/
def value (room : Nat) : Draft → Except Trouble Json
  | .null => .ok .null
  | .bool value => .ok (.bool value)
  | .num (some value) => .ok (.num value)
  | .num none => .error .fault
  | .str text => text.read.map Json.str
  | .arr items closing =>
      match room with
      | 0 => .error .fault
      | room + 1 => do
          let values ← itemValues room items
          closing.finish (.ok (.arr values))
  | .obj members closing =>
      match room with
      | 0 => .error .fault
      | room + 1 => do
          let values ← memberValues room [] members
          closing.finish (.ok (.obj values))
  | .missing => .error .cutOff
  | .broken trouble _ => .error trouble

/-- The values of items. -/
def itemValues (room : Nat) : List Draft → Except Trouble (List Json)
  | [] => .ok []
  | item :: rest => do
      let first ← value room item
      return first :: (← itemValues room rest)

/-- The values of members, put to those that are sorted already. -/
def memberValues (room : Nat) (sorted : List (String × Json)) :
    List (Quotation × Draft) → Except Trouble (List (String × Json))
  | [] => .ok sorted
  | (key, draft) :: rest => do
      let name ← key.read
      let read ← value room draft
      memberValues room (insertMember name read sorted) rest

end

mutual

/-- Pass over a draft. -/
def skim : Draft → Except Trouble Unit
  | .null | .bool _ | .num _ => .ok ()
  | .str text => text.skip
  | .arr items closing => do
      skimItems items
      closing.finish (.ok ())
  | .obj members closing => do
      skimMembers members
      closing.finish (.ok ())
  | .missing => .error .cutOff
  | .broken _ trouble => .error trouble

/-- Pass over items. -/
def skimItems : List Draft → Except Trouble Unit
  | [] => .ok ()
  | item :: rest => do
      skim item
      skimItems rest

/-- Pass over members. -/
def skimMembers : List (Quotation × Draft) → Except Trouble Unit
  | [] => .ok ()
  | (key, draft) :: rest => do
      key.skip
      skim draft
      skimMembers rest

end

end Draft

/-- What a reader of drafts makes of a text that holds one value. -/
def readText {α : Type} (read : Draft → Except Trouble α) (text : String) : Except Trouble α :=
  let (draft, after) := Draft.ofText text
  match read draft, after with
  | .ok result, some rest => if rest.all isSpace then .ok result else .error .fault
  | .ok _, none => .error .fault
  | .error trouble, _ => .error trouble

/-- The value that a text spells. -/
def ofText? (text : String) : Option Json :=
  (readText (Draft.value maximumDepth) text).toOption

end ChangeRelay.Json
