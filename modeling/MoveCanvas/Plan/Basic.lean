import MoveCanvas.Intent
import MoveCanvas.Witness

/-! # Module plans

A plan lists what a module declares, with every choice made: names are identifiers, defaults are
filled in and types are resolved. Writing a plan as text decides nothing more. -/

namespace MoveCanvas

structure Plan.Struct where
  node : String
  name : String
  abilities : Abilities
  fields : List Member
  isWitness : Bool
deriving DecidableEq, Repr

structure Plan.Init where
  node : String
  witness : String
  decimals : UInt8
  symbol : String
  name : String
  description : String
deriving DecidableEq, Repr

/-- A parameter with its type as declared on the canvas and as resolved for the module. -/
structure Plan.Param where
  name : String
  declared : String
  resolved : String
deriving DecidableEq, Repr

structure Plan.Function where
  node : String
  name : String
  intent : Intent
  params : List Plan.Param
  /-- An edge leads from here to a transfer. No body depends on it. -/
  feedsTransfer : Bool
deriving DecidableEq, Repr

structure Plan where
  moduleName : String
  witness : Witness
  structs : List Plan.Struct
  /-- No planned struct is the witness, so one is added. -/
  synthesizesWitness : Bool
  /-- A function mints an NFT and no struct on the canvas has its name. -/
  synthesizesNft : Bool
  init : Option Plan.Init
  functions : List Plan.Function
deriving DecidableEq, Repr

namespace Plan

def Function.param? (f : Function) (name : String) : Option Param :=
  f.params.find? (·.name = name)

def Function.paramOfType? (f : Function) (p : String → Bool) : Option String :=
  (f.params.find? (p ·.resolved)).map (·.name)

end Plan

end MoveCanvas
