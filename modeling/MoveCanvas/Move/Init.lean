import MoveCanvas.Move.Layout
import MoveCanvas.Plan.Basic

/-! # The initializer

It creates the currency, freezes its metadata and hands the capability to the publisher. Symbol,
name and description stand in byte strings exactly as they are. -/

namespace MoveCanvas.Move

def byteString (s : String) : String :=
  "b\"" ++ s ++ "\""

/-- The lines of an argument list, with a comma after each argument but the last. -/
def argumentLines (depth : Nat) : List String → List String
  | [] => []
  | [argument] => [indent depth argument]
  | argument :: arguments => indent depth (argument ++ ",") :: argumentLines depth arguments

def currencyArguments (init : Plan.Init) : List String :=
  ["witness", toString init.decimals.toNat, byteString init.symbol, byteString init.name,
    byteString init.description, "option::none()", "ctx"]

def initLines (init : Plan.Init) : List String :=
  [indent 1 ("fun init(witness: " ++ init.witness ++ ", ctx: &mut TxContext) \x7b"),
    indent 2 "let (treasury, metadata) = coin::create_currency("] ++
  argumentLines 3 (currencyArguments init) ++
  [indent 2 ");",
    indent 2 "transfer::public_freeze_object(metadata);",
    indent 2 "transfer::public_transfer(treasury, tx_context::sender(ctx));",
    indent 1 "\x7d"]

def initText (init : Plan.Init) : String :=
  unlines (initLines init)

end MoveCanvas.Move
