import MoveCanvas.Json.Value

/-! # Writing JSON texts

A text is written on one line or over many lines with two spaces for each open container. Members
are written in the order in which the value lists them. In strings only the quote, the backslash
and the control characters below the space are escaped. -/

namespace MoveCanvas.Json

def hexDigit (n : Nat) : Char :=
  if n < 10 then Char.ofNat ('0'.toNat + n) else Char.ofNat ('a'.toNat + (n - 10))

def escapeChar (c : Char) : List Char :=
  if c = '"' then ['\\', '"']
  else if c = '\\' then ['\\', '\\']
  else if c = '\x08' then ['\\', 'b']
  else if c = '\t' then ['\\', 't']
  else if c = '\n' then ['\\', 'n']
  else if c = '\x0c' then ['\\', 'f']
  else if c = '\r' then ['\\', 'r']
  else if c.toNat < 0x20 then ['\\', 'u', '0', '0', hexDigit (c.toNat / 16), hexDigit (c.toNat % 16)]
  else [c]

def stringText (s : String) : List Char :=
  '"' :: s.toList.flatMap escapeChar ++ ['"']

/-- How parts are separated: what stands before a part at a depth, and after a key. -/
structure Layout where
  lead : Nat → List Char
  afterKey : List Char

def oneLine : Layout := ⟨fun _ => [], [':']⟩

def indented : Layout := ⟨fun depth => '\n' :: List.replicate (2 * depth) ' ', [':', ' ']⟩

mutual

def write (layout : Layout) (depth : Nat) : Json → List Char
  | .null => "null".toList
  | .bool true => "true".toList
  | .bool false => "false".toList
  | .num n => n.chars
  | .str s => stringText s
  | .arr [] => ['[', ']']
  | .arr (item :: items) =>
    '[' :: layout.lead (depth + 1) ++ write layout (depth + 1) item ++
      writeItems layout (depth + 1) items ++ layout.lead depth ++ [']']
  | .obj [] => ['\x7b', '\x7d']
  | .obj ((key, value) :: members) =>
    '\x7b' :: layout.lead (depth + 1) ++ stringText key ++ layout.afterKey ++
      write layout (depth + 1) value ++ writeMembers layout (depth + 1) members ++
      layout.lead depth ++ ['\x7d']

/-- The items after the first. -/
def writeItems (layout : Layout) (depth : Nat) : List Json → List Char
  | [] => []
  | item :: items =>
    ',' :: layout.lead depth ++ write layout depth item ++ writeItems layout depth items

def writeMembers (layout : Layout) (depth : Nat) : List (String × Json) → List Char
  | [] => []
  | (key, value) :: members =>
    ',' :: layout.lead depth ++ stringText key ++ layout.afterKey ++ write layout depth value ++
      writeMembers layout depth members

end

def compact (value : Json) : String :=
  String.ofList (write oneLine 0 value)

def pretty (value : Json) : String :=
  String.ofList (write indented 0 value)

end MoveCanvas.Json
