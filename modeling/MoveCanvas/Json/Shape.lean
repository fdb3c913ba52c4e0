import MoveCanvas.Json.Value

/-! # Shapes of data

A shape says what data a JSON value carries. A record lists its fields in the order of its
declaration; a field has one name for writing and may have further names for reading. Each shape
has a type of values, so that reading and writing are defined once for all shapes. -/

namespace MoveCanvas.Json

/-- Whether a field may be absent. A nullable field may also be null, and then writes null or
nothing; an optional field refuses null unless its shape takes it. -/
inductive Presence
  | required
  | optional
  | nullable (written : Bool)
deriving DecidableEq

mutual

inductive Shape
  | text
  | flag
  | byte
  /-- Any value, kept as it is. -/
  | raw
  | list (item : Shape)
  | record (title : String) (fields : Fields)

inductive Fields
  | nil
  | cons (name : String) (aliases : List String) (presence : Presence) (shape : Shape)
      (rest : Fields)

end

/-- What a field holds; only an optional or nullable field may hold nothing. -/
@[reducible]
def Presence.Slot (value : Type) : Presence → Type
  | .required => value
  | .optional | .nullable _ => Option value

mutual

@[reducible]
def Shape.Val : Shape → Type
  | .text => String
  | .flag => Bool
  | .byte => UInt8
  | .raw => Json
  | .list item => List item.Val
  | .record _ fields => fields.Val

@[reducible]
def Fields.Val : Fields → Type
  | .nil => Unit
  | .cons _ _ presence shape rest => presence.Slot shape.Val × rest.Val

end

/-- A record while its members are read: the fields read so far. -/
@[reducible]
def Fields.Partial : Fields → Type
  | .nil => Unit
  | .cons _ _ presence shape rest => Option (presence.Slot shape.Val) × rest.Partial

def Fields.unread : (fields : Fields) → fields.Partial
  | .nil => ()
  | .cons _ _ _ _ rest => (none, rest.unread)

def Fields.count : Fields → Nat
  | .nil => 0
  | .cons _ _ _ _ rest => rest.count + 1

/-- The data wanted, as error texts name it. -/
def Shape.wanted : Shape → String
  | .text => "a string"
  | .flag => "a boolean"
  | .byte => "u8"
  | .raw => "any valid JSON value"
  | .list _ => "a sequence"
  | .record title _ => "struct " ++ title

/-- A record of which some elements are missing, as error texts name it. -/
def Fields.wanted (title : String) (fields : Fields) : String :=
  "struct " ++ title ++ " with " ++ toString fields.count ++
    (if fields.count = 1 then " element" else " elements")

/-! ## Writing -/

mutual

/-- The value of data, its records written in the order of declaration. -/
def Shape.encode : (shape : Shape) → shape.Val → Json
  | .text, s => .str s
  | .flag, b => .bool b
  | .byte, n => .num (.int (n : UInt8).toNat)
  | .raw, value => value
  | .list item, items => .arr (items.map item.encode)
  | .record _ fields, slots => .obj (fields.encode slots)

def Fields.encode : (fields : Fields) → fields.Val → List (String × Json)
  | .nil, () => []
  | .cons name _ .required shape rest, (value, slots) =>
    (name, shape.encode value) :: rest.encode slots
  | .cons name _ .optional shape rest, (some value, slots)
  | .cons name _ (.nullable _) shape rest, (some value, slots) =>
    (name, shape.encode value) :: rest.encode slots
  | .cons _ _ .optional _ rest, (none, slots) => rest.encode slots
  | .cons name _ (.nullable written) _ rest, (none, slots) =>
    if written then (name, .null) :: rest.encode slots else rest.encode slots

end

end MoveCanvas.Json
