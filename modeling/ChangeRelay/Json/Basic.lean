import ChangeRelay.Json.Binary64

/-!
# JSON values

The members of an object are a list of key-value pairs.  The reader produces
canonical objects, with their keys in increasing order and no key twice, and
`Json.object` makes a canonical object from any list of members; so equality of
values does not depend on the order in which members were written.

Integers and other numbers are kept apart: `1` and `1.0` are different values.
-/

namespace ChangeRelay

/-- A JSON number: an integer of at most 64 bits, or a binary64 value. -/
inductive JsonNumber where
  | int (value : Int)
  | real (value : Binary64)
deriving DecidableEq, Repr, Inhabited

/-- A JSON value. -/
inductive Json where
  | null
  | bool (value : Bool)
  | num (value : JsonNumber)
  | str (value : String)
  | arr (items : List Json)
  | obj (members : List (String × Json))
deriving Repr, Inhabited

namespace Json

/-! ## Decidable equality -/

mutual

/-- Equality of values is decidable. -/
def decEq : (left right : Json) → Decidable (left = right)
  | .null, .null => isTrue rfl
  | .bool a, .bool b =>
      if h : a = b then isTrue (h ▸ rfl) else isFalse (fun equal => h (by injection equal))
  | .num a, .num b =>
      if h : a = b then isTrue (h ▸ rfl) else isFalse (fun equal => h (by injection equal))
  | .str a, .str b =>
      if h : a = b then isTrue (h ▸ rfl) else isFalse (fun equal => h (by injection equal))
  | .arr a, .arr b =>
      match decEqItems a b with
      | isTrue h => isTrue (h ▸ rfl)
      | isFalse h => isFalse (fun equal => h (by injection equal))
  | .obj a, .obj b =>
      match decEqMembers a b with
      | isTrue h => isTrue (h ▸ rfl)
      | isFalse h => isFalse (fun equal => h (by injection equal))
  | .null, .bool _ | .null, .num _ | .null, .str _ | .null, .arr _ | .null, .obj _
  | .bool _, .null | .bool _, .num _ | .bool _, .str _ | .bool _, .arr _ | .bool _, .obj _
  | .num _, .null | .num _, .bool _ | .num _, .str _ | .num _, .arr _ | .num _, .obj _
  | .str _, .null | .str _, .bool _ | .str _, .num _ | .str _, .arr _ | .str _, .obj _
  | .arr _, .null | .arr _, .bool _ | .arr _, .num _ | .arr _, .str _ | .arr _, .obj _
  | .obj _, .null | .obj _, .bool _ | .obj _, .num _ | .obj _, .str _ | .obj _, .arr _ =>
      isFalse (fun equal => by injection equal)

/-- Equality of item lists is decidable. -/
def decEqItems : (left right : List Json) → Decidable (left = right)
  | [], [] => isTrue rfl
  | [], _ :: _ | _ :: _, [] => isFalse (fun equal => by injection equal)
  | a :: as, b :: bs =>
      match decEq a b, decEqItems as bs with
      | isTrue head, isTrue tail => isTrue (by rw [head, tail])
      | isFalse head, _ => isFalse (fun equal => head (by injection equal))
      | _, isFalse tail => isFalse (fun equal => tail (by injection equal))

/-- Equality of member lists is decidable. -/
def decEqMembers : (left right : List (String × Json)) → Decidable (left = right)
  | [], [] => isTrue rfl
  | [], _ :: _ | _ :: _, [] => isFalse (fun equal => by injection equal)
  | (j, a) :: as, (k, b) :: bs =>
      if name : j = k then
        match decEq a b, decEqMembers as bs with
        | isTrue head, isTrue tail => isTrue (by rw [name, head, tail])
        | isFalse head, _ =>
            isFalse (fun equal => head (by injection equal with pair; injection pair))
        | _, isFalse tail => isFalse (fun equal => tail (by injection equal))
      else
        isFalse (fun equal => name (by injection equal with pair; injection pair))

end

instance : DecidableEq Json :=
  decEq

/-! ## Looking into a value -/

/-- The first value with this key. -/
def lookup (key : String) : List (String × Json) → Option Json
  | [] => none
  | (name, value) :: rest => if name = key then some value else lookup key rest

/-- The member of an object with this key. -/
def get? (key : String) : Json → Option Json
  | .obj members => lookup key members
  | _ => none

/-- The value reached by following keys through nested objects. -/
def path? : List String → Json → Option Json
  | [], value => some value
  | key :: rest, value => (value.get? key).bind (path? rest)

/-- The text of a string value. -/
def str? : Json → Option String
  | .str value => some value
  | _ => none

/-- The truth value of a boolean. -/
def bool? : Json → Option Bool
  | .bool value => some value
  | _ => none

/-- The value of an integer. -/
def int? : Json → Option Int
  | .num (.int value) => some value
  | _ => none

/-- The items of an array. -/
def arr? : Json → Option (List Json)
  | .arr items => some items
  | _ => none

/-- The members of an object. -/
def obj? : Json → Option (List (String × Json))
  | .obj members => some members
  | _ => none

/-- The text at the end of a path of keys. -/
def textAt? (keys : List String) (value : Json) : Option String :=
  (value.path? keys).bind str?

@[simp]
theorem lookup_nil (key : String) : lookup key [] = none :=
  rfl

@[simp]
theorem lookup_cons_self (key : String) (value : Json) (rest : List (String × Json)) :
    lookup key ((key, value) :: rest) = some value := by
  simp [lookup]

theorem lookup_cons_of_ne {name key : String} (different : name ≠ key) (value : Json)
    (rest : List (String × Json)) :
    lookup key ((name, value) :: rest) = lookup key rest := by
  simp [lookup, different]

/-! ## Canonical objects -/

/-- Put a member at its place in increasing key order; a member that is already
there under the same key is replaced. -/
def insertMember (key : String) (value : Json) :
    List (String × Json) → List (String × Json)
  | [] => [(key, value)]
  | (name, old) :: rest =>
      if key < name then (key, value) :: (name, old) :: rest
      else if key = name then (key, value) :: rest
      else (name, old) :: insertMember key value rest

/-- The canonical object with these members; of two members with one key the
later one counts. -/
def object (members : List (String × Json)) : Json :=
  .obj (members.foldl (fun sorted member => insertMember member.1 member.2 sorted) [])

/-- An integer value. -/
def ofInt (value : Int) : Json :=
  .num (.int value)

/-- A natural number as a value. -/
def ofNat (value : Nat) : Json :=
  .num (.int value)

/-- An optional value, `null` when it is absent. -/
def ofOption {α : Type} (encode : α → Json) : Option α → Json
  | none => .null
  | some value => encode value

end Json

end ChangeRelay
