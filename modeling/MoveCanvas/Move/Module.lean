import MoveCanvas.Move.Function
import MoveCanvas.Move.Init
import MoveCanvas.Move.Struct

/-! # Modules

The text of a module: a header with the imports, then the structs, the initializer and the
functions with an empty line after each, then the closing bracket. -/

namespace MoveCanvas.Move

def imports : List String := [
  "sui::object::\x7bSelf, UID\x7d",
  "sui::transfer",
  "sui::tx_context::\x7bSelf, TxContext\x7d",
  "sui::coin::\x7bSelf, TreasuryCap, Coin\x7d",
  "sui::url::\x7bSelf, Url\x7d",
  "std::option",
  "std::string::\x7bSelf, String\x7d"]

inductive Declaration
  | struct (decl : StructDecl)
  | init (planned : Plan.Init)
  | function (decl : FunctionDecl)
deriving DecidableEq, Repr

def Declaration.lines : Declaration → List String
  | .struct decl => decl.lines
  | .init planned => initLines planned
  | .function decl => decl.lines

structure Module where
  name : String
  declarations : List Declaration
deriving DecidableEq, Repr

namespace Module

def ofPlan (plan : Plan) (defaults : Defaults) : Module :=
  { name := plan.moduleName
    declarations := (structsOf plan).map .struct ++ plan.init.toList.map .init ++
      (functionsOf plan defaults).map .function }

def header (name : String) : List String :=
  ("module " ++ name ++ "::" ++ name ++ " \x7b") ::
    imports.map (fun path => indent 1 ("use " ++ path ++ ";")) ++ [""]

def lines (m : Module) : List String :=
  header m.name ++ m.declarations.flatMap fun decl => decl.lines ++ [""]

def text (m : Module) : String :=
  unlines m.lines ++ "\x7d"

end Module

end MoveCanvas.Move
