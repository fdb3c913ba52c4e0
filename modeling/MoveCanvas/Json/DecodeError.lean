import MoveCanvas.Json.Document
import MoveCanvas.Text.Quoted

/-! # Decoding errors

Why a document does not give the data that is wanted: the text is malformed, or it is well-formed
up to the place where data of the wrong kind stands. -/

namespace MoveCanvas.Json

inductive Found
  | null
  | bool (value : Bool)
  | number (value : Number)
  | text (value : String)
  | sequence
  | map
deriving DecidableEq

def Found.description : Found → String
  | .null => "null"
  | .bool b => "boolean `" ++ (if b then "true" else "false") ++ "`"
  | .number (.int n) => "integer `" ++ (Number.int n).text ++ "`"
  | .number (.real x) => "floating point `" ++ (Number.real x).text ++ "`"
  | .text s => "string " ++ Text.quoted s
  | .sequence => "sequence"
  | .map => "map"

inductive DecodeError
  /-- The text is no JSON text, nests too deeply, or writes a value that denotes nothing. -/
  | malformed
  | wrongType (found : Found) (wanted : String)
  | outOfRange (value : Int) (wanted : String)
  | wrongLength (length : Nat) (wanted : String)
  | missingField (name : String)
  | duplicateField (name : String)
  /-- A refusal stated by another reader in its own words. -/
  | other (reason : String)
deriving DecidableEq

def DecodeError.message : DecodeError → String
  | .malformed => "<syntax>"
  | .wrongType found wanted => "invalid type: " ++ found.description ++ ", expected " ++ wanted
  | .outOfRange n wanted =>
    "invalid value: integer `" ++ (Number.int n).text ++ "`, expected " ++ wanted
  | .wrongLength length wanted => "invalid length " ++ toString length ++ ", expected " ++ wanted
  | .missingField name => "missing field `" ++ name ++ "`"
  | .duplicateField name => "duplicate field `" ++ name ++ "`"
  | .other reason => reason

/-- The error for a document where something else is wanted. Containers are not looked into. -/
def Document.refuse (wanted : String) : Document → DecodeError
  | .null => .wrongType .null wanted
  | .bool b => .wrongType (.bool b) wanted
  | .number (some n) => .wrongType (.number n) wanted
  | .text (some s) => .wrongType (.text s) wanted
  | .array _ _ => .wrongType .sequence wanted
  | .object _ _ => .wrongType .map wanted
  | .number none | .text none | .fault => .malformed

end MoveCanvas.Json
