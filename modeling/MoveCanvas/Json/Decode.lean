import MoveCanvas.Json.DecodeError
import MoveCanvas.Json.Shape

/-! # Reading data of a shape

A document is read in its own order, and the first defect is reported. Members of unknown name are
skipped; a record may also be written as an array of its fields. A text may nest at most 127
containers where it is read, while values that are already read have no such limit, and the two
differ in the error for an array that has too many elements. -/

namespace MoveCanvas.Json

/-- Where a document comes from: a text with room for so many further nested containers, or a
value. -/
inductive Source
  | text (room : Nat)
  | value
deriving DecidableEq

def nestingLimit : Nat := 127

def Source.enter : Source → Except DecodeError Source
  | .text 0 => .error .malformed
  | .text (room + 1) => .ok (.text room)
  | .value => .ok .value

/-- The error for an array of so many elements where a record has fewer fields. -/
def Source.surplus (source : Source) (length : Nat) : DecodeError :=
  match source with
  | .text _ => .malformed
  | .value => .wrongLength length "fewer elements in array"

/-- A container that a fault cut short is malformed, once its parts are accepted. -/
def ifEnded (ended : Bool) (a : α) : Except DecodeError α :=
  if ended then .ok a else .error .malformed

mutual

def Document.toValue (source : Source) : Document → Except DecodeError Json
  | .null => .ok .null
  | .bool b => .ok (.bool b)
  | .number (some n) => .ok (.num n)
  | .text (some s) => .ok (.str s)
  | .number none | .text none | .fault => .error .malformed
  | .array items ended => do
    let values ← toItems (← source.enter) items
    ifEnded ended (.arr values)
  | .object members ended => do
    let values ← toMembers (← source.enter) members
    ifEnded ended (.obj (sortMembers values))

def Document.toItems (source : Source) : List Document → Except DecodeError (List Json)
  | [] => .ok []
  | item :: items => do
    let value ← item.toValue source
    let values ← toItems source items
    .ok (value :: values)

def Document.toMembers (source : Source) :
    List (Option String × Document) → Except DecodeError (List (String × Json))
  | [] => .ok []
  | (none, _) :: _ => .error .malformed
  | (some key, member) :: members => do
    let value ← member.toValue source
    let values ← toMembers source members
    .ok ((key, value) :: values)

end

def Presence.decode (read : Document → Except DecodeError α) (document : Document) :
    (presence : Presence) → Except DecodeError (presence.Slot α)
  | .required => read document
  | .optional => some <$> read document
  | .nullable _ =>
    match document with
    | .null => .ok none
    | document => some <$> read document

/-- What an absent field holds, if it may be absent. -/
def Presence.absent? : (presence : Presence) → Option (presence.Slot α)
  | .required => none
  | .optional | .nullable _ => some none

/-- What a field holds for which an array has no element. -/
def absentElement (presence : Presence) (missing : DecodeError) (ended : Bool) :
    Except DecodeError (presence.Slot α) :=
  match presence.absent? with
  | some slot => ifEnded ended slot
  | none => if ended then .error missing else .error .malformed

/-- The record of the fields read; the first required field that is absent is missing. -/
def Fields.finish : (fields : Fields) → fields.Partial → Except DecodeError fields.Val
  | .nil, () => .ok ()
  | .cons name _ presence _ rest, (slot, slots) =>
    match slot.or presence.absent? with
    | none => .error (.missingField name)
    | some slot => do
      let slots ← rest.finish slots
      .ok (slot, slots)

/-! ## Scalars and containers -/

def decodeText : Document → Except DecodeError String
  | .text (some s) => .ok s
  | document => .error (document.refuse Shape.text.wanted)

def decodeFlag : Document → Except DecodeError Bool
  | .bool b => .ok b
  | document => .error (document.refuse Shape.flag.wanted)

def decodeByte : Document → Except DecodeError UInt8
  | .number (some (.int n)) =>
    if 0 ≤ n ∧ n < 256 then .ok (UInt8.ofNat n.toNat)
    else .error (.outOfRange n Shape.byte.wanted)
  | document => .error (document.refuse Shape.byte.wanted)

def decodeList (source : Source) (wanted : String)
    (item : Source → Document → Except DecodeError α) : Document → Except DecodeError (List α)
  | .array items ended => do
    let inner ← source.enter
    let values ← items.mapM (item inner)
    ifEnded ended values
  | document => .error (document.refuse wanted)

def decodeMembers (unread : β) (member : Option String → Document → β → Except DecodeError β)
    (finish : β → Except DecodeError α) (members : List (Option String × Document))
    (ended : Bool) : Except DecodeError α := do
  let read ← members.foldlM (fun read (key, document) => member key document read) unread
  let read ← ifEnded ended read
  finish read

def decodeRecord (source : Source) (wanted : String)
    (members : Source → List (Option String × Document) → Bool → Except DecodeError α)
    (elements : Source → DecodeError → Bool → List Document → Except DecodeError α) :
    Document → Except DecodeError α
  | .object ms ended => do
    let inner ← source.enter
    members inner ms ended
  | .array items ended => do
    let inner ← source.enter
    elements inner (source.surplus items.length) ended items
  | document => .error (document.refuse wanted)

/-! ## Shapes -/

mutual

def Shape.decode : (shape : Shape) → Source → Document → Except DecodeError shape.Val
  | .text, _ => decodeText
  | .flag, _ => decodeFlag
  | .byte, _ => decodeByte
  | .raw, source => Document.toValue source
  | .list item, source => decodeList source (Shape.list item).wanted item.decode
  | .record title fields, source =>
    decodeRecord source (Shape.record title fields).wanted
      (fun inner => decodeMembers fields.unread (fields.decodeMember inner) fields.finish)
      (fun inner => fields.decodeElements inner (.wrongLength · (fields.wanted title)) 0)

/-- Reads one member of an object. A field given before is not read again. -/
def Fields.decodeMember : (fields : Fields) → Source → Option String → Document → fields.Partial →
    Except DecodeError fields.Partial
  | .nil, _, none, _, _ | .cons .., _, none, _, _ => .error .malformed
  | .nil, _, some _, document, () => ifEnded document.isWhole ()
  | .cons name aliases presence shape rest, source, some key, document, (slot, slots) =>
    if key = name ∨ key ∈ aliases then
      if slot.isSome then .error (.duplicateField name)
      else do
        let value ← presence.decode (shape.decode source) document
        .ok (some value, slots)
    else do
      let slots ← rest.decodeMember source (some key) document slots
      .ok (slot, slots)

/-- Reads fields from consecutive elements of an array; `index` is that of the next element. -/
def Fields.decodeElements : (fields : Fields) → Source → (missing : Nat → DecodeError) →
    (index : Nat) → (surplus : DecodeError) → (ended : Bool) → List Document →
      Except DecodeError fields.Val
  | .nil, _, _, _, surplus, ended, items =>
    if items.isEmpty then ifEnded ended () else .error surplus
  | .cons _ _ presence shape rest, source, missing, index, surplus, ended, items => do
    let slot ← match items with
      | document :: _ => presence.decode (shape.decode source) document
      | [] => absentElement presence (missing index) ended
    let slots ← rest.decodeElements source missing (index + 1) surplus ended items.tail
    .ok (slot, slots)

end

/-- Reads data from a text. Anything but space after the value makes the text malformed. -/
def Shape.ofText (shape : Shape) (text : String) : Except DecodeError shape.Val := do
  let (document, clean) := Document.ofText text
  let value ← shape.decode (.text nestingLimit) document
  ifEnded clean value

def Shape.ofValue (shape : Shape) (value : Json) : Except DecodeError shape.Val :=
  shape.decode .value (.ofValue value)

def ofText (text : String) : Except DecodeError Json :=
  Shape.raw.ofText text

end MoveCanvas.Json
