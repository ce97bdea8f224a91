import ChangeRelay.Calendar.Timestamp

/-!
# Shapes of API objects

An API object is described by data: a shape says which JSON values are
accepted, and how a field behaves when it is missing.  The descriptions of all
object types are tables over these two types, and reading, writing and
comparing objects are defined once, by recursion on them.
-/

namespace ChangeRelay.Schema

open Calendar (Precision)

/-- What a field means when it is missing or `null`. -/
inductive Presence where
  /-- The field is then absent. -/
  | optional
  /-- The field then has the default value of its shape. -/
  | defaulted
  /-- The object is then not accepted. -/
  | required
  /-- A missing field has the default value of its shape; `null` is not
  accepted. -/
  | implied
deriving DecidableEq, Repr

mutual

/-- The accepted JSON values at one place of an object. -/
inductive Shape where
  | text
  | flag
  | int32
  | int64
  /-- An integer of 16 bits without a sign. -/
  | uint16
  /-- A 32-bit integer or a text; the two are told apart. -/
  | intOrText
  /-- A timestamp, written back with this precision. -/
  | time (precision : Precision)
  /-- Any JSON value, kept as it is. -/
  | free
  /-- Exactly this text. -/
  | constant (value : String)
  | list (item : Shape)
  | map (value : Shape)
  | record (fields : Fields)

/-- The fields of a record, in increasing order of their names. -/
inductive Fields where
  | nil
  | cons (name : String) (presence : Presence) (shape : Shape) (rest : Fields)

end

/-- One row of a table of fields. -/
abbrev Row :=
  String × Presence × Shape

/-- A field that may be absent. -/
def optional (name : String) (shape : Shape) : Row :=
  (name, .optional, shape)

/-- A field with a default value. -/
def defaulted (name : String) (shape : Shape) : Row :=
  (name, .defaulted, shape)

/-- A field that has to be there. -/
def required (name : String) (shape : Shape) : Row :=
  (name, .required, shape)

/-- A field that always holds the same text. -/
def constant (name value : String) : Row :=
  (name, .implied, .constant value)

/-- The fields of a table. -/
def Fields.ofRows : List Row → Fields
  | [] => .nil
  | (name, presence, shape) :: rest => .cons name presence shape (ofRows rest)

/-- The record with these fields. -/
def Shape.ofRows (rows : List Row) : Shape :=
  .record (.ofRows rows)

end ChangeRelay.Schema
