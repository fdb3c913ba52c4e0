import MoveCanvas.Canvas.Format
import MoveCanvas.Move.Manifest
import MoveCanvas.Move.Module

/-! # Packages

A package is one module with its manifest. Compiling a graph plans the module and writes both. -/

namespace MoveCanvas

structure Package where
  moduleName : String
  source : String
  manifest : String
deriving DecidableEq, Repr

namespace Package

def ofPlan (plan : Plan) (defaults : Defaults) : Package :=
  { moduleName := plan.moduleName
    source := (Move.Module.ofPlan plan defaults).text
    manifest := Move.manifest plan.moduleName defaults }

def ofGraph (name : String) (graph : Graph) (defaults : Defaults) (intents : Intent.Table) :
    Except CompileError Package := do
  let plan ← Plan.ofGraph name graph defaults intents
  .ok (ofPlan plan defaults)

end Package

def Graph.ofText (text : String) : Except CompileError Graph := do
  let canvas ← (Canvas.ofText text).mapError .malformedGraph
  canvas.toGraph.mapError .invalidGraph

end MoveCanvas
