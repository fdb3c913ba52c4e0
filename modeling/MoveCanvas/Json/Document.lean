import MoveCanvas.Json.Token
import MoveCanvas.Json.Value

/-! # JSON documents

A document is what a text shows up to its first fault: the members of an object in the order of
the text, keys repeated as written, and containers that a fault cut short marked as not ended. Only
the last part of a container can be broken, and a broken part leaves every container around it
unended. A reader that wants typed data can therefore report the first defect in text order,
whether it is a fault of the text or data of the wrong type. -/

namespace MoveCanvas.Json

inductive Document
  | null
  | bool (value : Bool)
  /-- A number; none lies beyond the range of binary64. -/
  | number (value : Option Number)
  /-- A string; none has half of a surrogate pair. -/
  | text (value : Option String)
  | array (items : List Document) (ended : Bool)
  | object (members : List (Option String × Document)) (ended : Bool)
  /-- No value begins here. -/
  | fault

namespace Document

/-- Whether no fault of the text lies inside. -/
def isWhole : Document → Bool
  | .array _ ended | .object _ ended => ended
  | .fault => false
  | _ => true

mutual

def ofValue : Json → Document
  | .null => .null
  | .bool b => .bool b
  | .num n => .number (some n)
  | .str s => .text (some s)
  | .arr items => .array (ofItems items) true
  | .obj members => .object (ofMembers members) true

def ofItems : List Json → List Document
  | [] => []
  | item :: items => ofValue item :: ofItems items

def ofMembers : List (String × Json) → List (Option String × Document)
  | [] => []
  | (key, value) :: members => (some key, ofValue value) :: ofMembers members

end

theorem isWhole_ofValue (value : Json) : (ofValue value).isWhole = true := by
  cases value <;> rfl

/-! ## Building from tokens -/

/-- An open container with the parts read so far, the last part first. An object may wait for the
value of a key. -/
inductive Frame
  | array (items : List Document)
  | object (members : List (Option String × Document))
  | member (members : List (Option String × Document)) (key : Option String)

inductive Want
  | value
  | valueOrClose
  | keyOrClose
  | key
  | colon
  | separator

/-- Inside a value, with the innermost open container first; or past it, where `clean` says that
nothing but space has followed. -/
inductive State
  | inside (frames : List Frame) (want : Want)
  | past (root : Document) (clean : Bool)

/-- The document that has `broken` as its last part. Where a key is missing nothing is added. -/
def enclose (broken : Document) : List Frame → Document
  | [] => broken
  | .array items :: frames => enclose (.array (broken :: items).reverse false) frames
  | .object members :: frames => enclose (.object members.reverse false) frames
  | .member members key :: frames =>
    enclose (.object ((key, broken) :: members).reverse false) frames

/-- A value ends: it becomes a part of the innermost container. -/
def State.deliver (value : Document) : List Frame → State
  | [] => .past value true
  | .array items :: frames => .inside (.array (value :: items) :: frames) .separator
  | .member members key :: frames => .inside (.object ((key, value) :: members) :: frames) .separator
  | frames => .past (enclose .fault frames) false

def State.begin (frames : List Frame) : Token → State
  | .openList => .inside (.array [] :: frames) .valueOrClose
  | .openRecord => .inside (.object [] :: frames) .keyOrClose
  | .null => .deliver .null frames
  | .bool b => .deliver (.bool b) frames
  | .number n => .deliver (.number n) frames
  | .text s => .deliver (.text s) frames
  | _ => .past (enclose .fault frames) false

def State.step : State → Token → State
  | .past root _, _ => .past root false
  | .inside (.array items :: frames) .valueOrClose, .closeList =>
    .deliver (.array items.reverse true) frames
  | .inside frames .valueOrClose, token | .inside frames .value, token => .begin frames token
  | .inside (.object members :: frames) .keyOrClose, .closeRecord =>
    .deliver (.object members.reverse true) frames
  | .inside (.object members :: frames) .keyOrClose, .text key
  | .inside (.object members :: frames) .key, .text key =>
    .inside (.member members key :: frames) .colon
  | .inside frames .colon, .colon => .inside frames .value
  | .inside (.array items :: frames) .separator, .comma =>
    .inside (.array items :: frames) .value
  | .inside (.array items :: frames) .separator, .closeList =>
    .deliver (.array items.reverse true) frames
  | .inside (.object members :: frames) .separator, .comma =>
    .inside (.object members :: frames) .key
  | .inside (.object members :: frames) .separator, .closeRecord =>
    .deliver (.object members.reverse true) frames
  | .inside frames _, _ => .past (enclose .fault frames) false

/-- The document that the tokens build, and whether nothing follows it. -/
def ofTokens (tokens : List Token) : Document × Bool :=
  match tokens.foldl State.step (.inside [] .value) with
  | .past root clean => (root, clean)
  | .inside frames _ => (enclose .fault frames, false)

def ofText (text : String) : Document × Bool :=
  ofTokens (Token.scan text.toList)

end Document

end MoveCanvas.Json
