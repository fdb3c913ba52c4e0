import MoveCanvas.Text.Numeral
import MoveCanvas.Text.Search

/-! # Handles

A handle is the connection point at one end of an edge. Field and parameter slots carry an index
below `2 ^ 64`; a spelling that denotes no slot is kept as it is. -/

namespace MoveCanvas

inductive Handle
  | objectMain
  | field (index : Nat)
  | returnValue
  | param (index : Nat)
  | witnessInput
  | unspecified
  | other (spelling : String)
deriving DecidableEq, Repr

namespace Handle

def indexLimit : Nat := 0x10000000000000000

/-- The slot that a spelling denotes: a kind, the last dash, and a bounded numeral. -/
def slot? (spelling : String) : Option Handle :=
  match Text.cutLast? '-' spelling.toList with
  | none => none
  | some (kind, numeral) =>
    match Text.unsigned? indexLimit numeral with
    | none => none
    | some index =>
      if kind = "field".toList then some (.field index)
      else if kind = "param".toList then some (.param index)
      else none

def ofSpelling (spelling : String) : Handle :=
  if spelling = "" then .unspecified
  else if spelling = "obj-main" then .objectMain
  else if spelling = "return-val" then .returnValue
  else if spelling = "witness-input" then .witnessInput
  else (slot? spelling).getD (.other spelling)

def ofWire : Option String → Handle
  | none => .unspecified
  | some spelling => ofSpelling spelling

def display : Handle → String
  | .objectMain => "obj-main"
  | .field index => "field-" ++ toString index
  | .returnValue => "return-val"
  | .param index => "param-" ++ toString index
  | .witnessInput => "witness-input"
  | .unspecified => "<none>"
  | .other spelling => spelling

def wire : Handle → Option String
  | .unspecified => none
  | handle => some handle.display

/-- Whether an edge that ends here enters an initializer's witness slot. -/
def entersWitness : Handle → Bool
  | .witnessInput | .unspecified => true
  | _ => false

end Handle

end MoveCanvas
