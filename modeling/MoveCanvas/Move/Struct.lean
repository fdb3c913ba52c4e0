import MoveCanvas.Move.Layout
import MoveCanvas.Plan.OfGraph

/-! # Struct declarations

The structs of a module in the order in which they are declared: the planned ones, then the
synthesized witness, then the synthesized NFT. -/

namespace MoveCanvas.Move

structure StructDecl where
  name : String
  abilities : Abilities
  fields : List Member
deriving DecidableEq, Repr

namespace StructDecl

def ofPlan (s : Plan.Struct) : StructDecl :=
  ⟨s.name, s.abilities, s.fields⟩

def witness (name : String) : StructDecl :=
  ⟨name, .dropOnly, []⟩

def nft : StructDecl :=
  ⟨Plan.nftName, .keyStore, [⟨"id", "UID"⟩, ⟨"name", "String"⟩, ⟨"url", "Url"⟩]⟩

def abilityClause (abilities : Abilities) : String :=
  if abilities.isEmpty then "" else " has " ++ commaSeparated abilities.names

def fieldLine (field : Member) : String :=
  indent 2 (field.name ++ ": " ++ field.type ++ ",")

/-- A struct without fields takes one line. -/
def lines (s : StructDecl) : List String :=
  let head := indent 1 ("struct " ++ s.name ++ abilityClause s.abilities)
  match s.fields with
  | [] => [head ++ " \x7b\x7d"]
  | fields => (head ++ " \x7b") :: fields.map fieldLine ++ [indent 1 "\x7d"]

def text (s : StructDecl) : String :=
  unlines s.lines

end StructDecl

def structsOf (plan : Plan) : List StructDecl :=
  plan.structs.map .ofPlan ++
    (if plan.synthesizesWitness then [.witness plan.witness.name] else []) ++
    (if plan.synthesizesNft then [.nft] else [])

end MoveCanvas.Move
