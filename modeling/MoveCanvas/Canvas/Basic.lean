import MoveCanvas.Graph
import MoveCanvas.Json.Value

/-! # Canvases

What the editor keeps of one module: nodes with a type, a position and a payload, and edges
between named handles. A payload has room for the data of every type of node; which parts count is
decided by the node's type. Positions and the number of decimals are kept as raw values. -/

namespace MoveCanvas

@[ext]
structure Canvas.Data where
  label : String
  title : Option String
  fields : Option (List Member)
  params : Option (List Member)
  abilities : Option Abilities
  imported : Bool
  coinName : Option String
  coinSymbol : Option String
  coinDecimals : Option Json
  coinDescription : Option String
deriving DecidableEq

@[ext]
structure Canvas.Node where
  id : String
  type : Option String
  position : Json
  data : Canvas.Data
  hidden : Bool
deriving DecidableEq

structure Canvas.Edge where
  id : Option String
  source : String
  sourceHandle : Option String
  target : String
  targetHandle : Option String
deriving DecidableEq

@[ext]
structure Canvas where
  nodes : List Canvas.Node
  edges : List Canvas.Edge
deriving DecidableEq

namespace Canvas

def structType : String := "structNode"

def functionType : String := "functionNode"

def initType : String := "initNode"

/-- The type of a node that states none. -/
def plainType : String := "default"

def Data.ofLabel (label : String) : Data :=
  ⟨label, none, none, none, none, false, none, none, none, none⟩

end Canvas

end MoveCanvas
