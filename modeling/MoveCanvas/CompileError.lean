import MoveCanvas.Canvas.Conversion

/-! # Compile errors

Why a graph gives no module. -/

namespace MoveCanvas

inductive CompileError
  | malformedGraph (cause : Json.DecodeError)
  | severalInits (first second : String)
  | ambiguousWitness (init : String) (sources : List String)
  | invalidGraph (cause : ConversionError)
deriving DecidableEq

def CompileError.message : CompileError → String
  | .malformedGraph cause => "Failed to parse graph JSON: " ++ cause.message
  | .severalInits first second =>
    "Graph contains more than one init node ('" ++ first ++ "' and '" ++ second ++
      "'); a module has a single initializer"
  | .ambiguousWitness init sources =>
    "Init node '" ++ init ++ "' has " ++ toString sources.length ++ " witness connections (" ++
      String.intercalate ", " sources ++ "); connect exactly one struct"
  | .invalidGraph cause => "Invalid graph: " ++ cause.message

end MoveCanvas
