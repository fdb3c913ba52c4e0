import MoveCanvas.Canvas.Conversion
import MoveCanvas.Canvas.Format
import MoveCanvas.Import.Wiring
import MoveCanvas.Text.Search

/-! # Import responses

An oracle answers a source text with a canvas in JSON, perhaps inside a code fence. A response is
accepted as a whole or not at all: it must carry arrays of nodes and of edges, the former not
empty, and convert to a graph once the automatic wiring is added. -/

namespace MoveCanvas

inductive ImportError
  | oracleFailed (reason : String)
  | malformedResponse (cause : Json.DecodeError)
  | missingArray (key : String)
  | emptyGraph
  | conversion (cause : ConversionError)
deriving DecidableEq

def ImportError.message : ImportError → String
  | .oracleFailed reason => "Import oracle failed: " ++ reason
  | .malformedResponse cause => "Import response is not a usable graph: " ++ cause.message
  | .missingArray key => "Import response is not a usable graph: missing '" ++ key ++ "' array"
  | .emptyGraph => "Import response contained no nodes"
  | .conversion cause => cause.message

/-- An accepted response: the canvas with its wiring, its graph, and how many edges the wiring
added at the end. -/
structure Imported where
  canvas : Canvas
  graph : Graph
  inferred : Nat
deriving DecidableEq

namespace Response

def fence : List Char := "```".toList

/-- The text inside a code fence, whose closing marks may be absent. -/
def withoutFence (response : List Char) : List Char :=
  match Text.after? fence (Text.trim response) with
  | none => Text.trim response
  | some rest =>
    let body := (Text.after? "json".toList rest).getD rest
    Text.trim ((Text.before? fence body).getD body)

def requiredArray (key : String) (value : Json) : Except ImportError (List Json) :=
  match (value.get? key).bind Json.items? with
  | some items => .ok items
  | none => .error (.missingArray key)

def parse (response : String) : Except ImportError Canvas := do
  let value ← (Json.ofText (String.ofList (withoutFence response.toList))).mapError
    .malformedResponse
  let nodes ← requiredArray "nodes" value
  let _ ← requiredArray "edges" value
  if nodes = [] then .error .emptyGraph
  else (Canvas.ofValue value).mapError .malformedResponse

/-- A canvas with the inferred edges after its own. -/
def wired (canvas : Canvas) : Canvas :=
  { canvas with edges := canvas.edges ++ Wiring.inferred canvas.nodes }

def accept (response : String) : Except ImportError Imported := do
  let canvas ← parse response
  let graph ← (wired canvas).toGraph.mapError .conversion
  .ok { canvas := wired canvas, graph, inferred := (Wiring.inferred canvas.nodes).length }

def consult (oracle : String → Except ImportError String) (source : String) :
    Except ImportError Imported := do
  accept (← oracle source)

end Response

end MoveCanvas
