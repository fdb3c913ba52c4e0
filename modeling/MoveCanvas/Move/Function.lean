import MoveCanvas.Move.Layout
import MoveCanvas.Plan.OfGraph

/-! # Functions

Each planned function becomes a public entry function. Its intent decides the body, and the body
names the parameters that play a part in it: the first parameter of the needed type or name, or a
conventional name where there is none. -/

namespace MoveCanvas.Move

/-- A function body with the names of the parameters it uses. -/
inductive Body
  | mintCoin (capability amount context : String)
  | mintNft (capability : Option String) (name url context : String)
  | transfer (object recipient : String)
  | placeholder (text : String)
deriving DecidableEq, Repr

namespace Body

def isCapability (type : String) : Bool :=
  Text.occursIn "TreasuryCap".toList type.toList

def isContext (type : String) : Bool :=
  Text.occursIn "TxContext".toList type.toList

/-- Neither a recipient nor a context. -/
def isObject (type : String) : Bool :=
  type != "address" && !isContext type

def contextOf (f : Plan.Function) : String :=
  (f.paramOfType? isContext).getD "ctx"

def ofPlan (f : Plan.Function) (placeholder : String) : Body :=
  match f.intent with
  | .mintCoin =>
    .mintCoin ((f.paramOfType? isCapability).getD "cap")
      ((f.paramOfType? (· = "u64")).getD "amount") (contextOf f)
  | .mintNft =>
    .mintNft (f.paramOfType? isCapability) (((f.param? "name").map (·.name)).getD "name")
      (((f.param? "url").map (·.name)).getD "url") (contextOf f)
  | .transfer =>
    .transfer ((f.paramOfType? isObject).getD "obj")
      ((f.paramOfType? (· = "address")).getD "recipient")
  | .unrecognized => .placeholder placeholder

def lines : Body → List String
  | .mintCoin capability amount context =>
    ["let coin = coin::mint(" ++ capability ++ ", " ++ amount ++ ", " ++ context ++ ");",
      "transfer::public_transfer(coin, tx_context::sender(" ++ context ++ "));"]
  | .mintNft capability name url context =>
    (match capability with
      | some capability => ["let _ = " ++ capability ++ ";"]
      | none => []) ++
    ["let nft = " ++ Plan.nftName ++ " \x7b",
      indent 1 ("id: object::new(" ++ context ++ "),"),
      indent 1 ("name: string::utf8(" ++ name ++ "),"),
      indent 1 ("url: url::new_unsafe_from_bytes(" ++ url ++ ")"),
      "\x7d;",
      "transfer::public_transfer(nft, tx_context::sender(" ++ context ++ "));"]
  | .transfer object recipient =>
    ["transfer::public_transfer(" ++ object ++ ", " ++ recipient ++ ");"]
  | .placeholder text => [text]

end Body

structure FunctionDecl where
  name : String
  params : List Plan.Param
  body : Body
deriving DecidableEq, Repr

namespace FunctionDecl

def ofPlan (f : Plan.Function) (placeholder : String) : FunctionDecl :=
  ⟨f.name, f.params, .ofPlan f placeholder⟩

def signature (f : FunctionDecl) : String :=
  "public entry fun " ++ f.name ++ "(" ++
    commaSeparated (f.params.map fun p => p.name ++ ": " ++ p.resolved) ++ ")"

def lines (f : FunctionDecl) : List String :=
  indent 1 (f.signature ++ " \x7b") :: f.body.lines.map (indent 2) ++ [indent 1 "\x7d"]

def text (f : FunctionDecl) : String :=
  unlines f.lines

end FunctionDecl

def functionsOf (plan : Plan) (defaults : Defaults) : List FunctionDecl :=
  plan.functions.map (.ofPlan · defaults.placeholderBody)

end MoveCanvas.Move
