import MoveCanvas.Canvas.Basic
import MoveCanvas.Json.DecodeError
import MoveCanvas.Json.Printer
import MoveCanvas.Text.Blank

/-! # From canvases to module graphs

The type of a node decides which part of its payload becomes part of the graph. The conversion
fails only for an initializer whose number of decimals is no byte, and for a node id that occurs
twice; the former is reported first. -/

namespace MoveCanvas

inductive ConversionError
  | malformedCanvas (cause : Json.DecodeError)
  | malformedModule (name : String) (cause : Json.DecodeError)
  | badDecimals (node : String) (shown : String)
  | repeatedId (id : String)
  /-- A refusal stated by another format in its own words. -/
  | other (reason : String)
deriving DecidableEq

def ConversionError.reason : ConversionError → String
  | .malformedCanvas cause => "malformed graph JSON: " ++ cause.message
  | .malformedModule name cause => "module '" ++ name ++ "': " ++ cause.message
  | .badDecimals node shown =>
    "init node '" ++ node ++ "' has invalid coinDecimals '" ++ shown ++ "'"
  | .repeatedId id => "duplicate node id '" ++ id ++ "'"
  | .other reason => reason

def ConversionError.message (error : ConversionError) : String :=
  "Invalid graph data: " ++ error.reason

/-- A graph in which every id stands for one node. -/
def Graph.withUniqueIds (graph : Graph) : Except ConversionError Graph :=
  match graph.repeatedId? with
  | none => .ok graph
  | some id => .error (.repeatedId id)

theorem Graph.withUniqueIds_eq_ok_iff {graph result : Graph} :
    graph.withUniqueIds = .ok result ↔ (graph.nodes.map (·.id)).Nodup ∧ result = graph := by
  rw [← repeatedId?_eq_none_iff, withUniqueIds]
  cases graph.repeatedId? <;> simp [eq_comm]

namespace Canvas

/-- The byte that a number denotes; a whole number may be written with a point. -/
def byte? : Json.Number → Option UInt8
  | .int n => if 0 ≤ n ∧ n < 256 then some (UInt8.ofNat n.toNat) else none
  | .real x => if x.floor == x && 0.0 ≤ x && x ≤ 255.0 then some x.toUInt8 else none

/-- The number of decimals that the initializer `node` states, as a number or as a numeral. A
blank text states none. -/
def decimals (node : String) : Option Json → Except ConversionError (Option UInt8)
  | none | some .null => .ok none
  | some (.num n) =>
    match byte? n with
    | some d => .ok (some d)
    | none => .error (.badDecimals node n.text)
  | some (.str s) =>
    if Text.trim s.toList = [] then .ok none
    else match Text.unsigned? 256 (Text.trim s.toList) with
      | some d => .ok (some (UInt8.ofNat d))
      | none => .error (.badDecimals node s)
  | some value => .error (.badDecimals node value.compact)

def Data.structSpec (data : Data) : StructSpec :=
  { fields := data.fields.getD []
    abilities := data.abilities.getD .keyStore
    imported := data.imported }

def Node.kind (node : Node) : Except ConversionError Graph.Kind :=
  if node.type = some structType then .ok (.struct node.data.structSpec)
  else if node.type = some functionType then .ok (.function (node.data.params.getD []))
  else if node.type = some initType then do
    let decimals ← decimals node.id node.data.coinDecimals
    .ok (.init
      { name := node.data.coinName.getD ""
        symbol := node.data.coinSymbol.getD ""
        decimals
        description := node.data.coinDescription.getD "" })
  else .ok (.other (node.type.getD plainType))

def Node.toGraph (node : Node) : Except ConversionError Graph.Node := do
  let kind ← node.kind
  .ok { id := node.id, label := node.data.label, title := node.data.title, kind }

def Edge.toGraph (edge : Edge) : Graph.Edge :=
  { source := edge.source
    sourceHandle := .ofWire edge.sourceHandle
    target := edge.target
    targetHandle := .ofWire edge.targetHandle }

def toGraph (canvas : Canvas) : Except ConversionError Graph := do
  let nodes ← canvas.nodes.mapM Node.toGraph
  Graph.withUniqueIds { nodes, edges := canvas.edges.map Edge.toGraph }

end Canvas

end MoveCanvas
