import MoveCanvas.Proofs.Json.Pruning
import MoveCanvas.Proofs.Plan.Renaming
import MoveCanvas.Proofs.Project.Installing

/-! # Presentation

Part of a canvas only serves its looks: where a node stands, whether it shows, its custom title, the
id of an edge and the handle it leaves by, and whatever members the format does not know. A module
from which all this is deleted is still a canvas, and exports as the same package, or with the same
error. -/

namespace MoveCanvas

namespace Graph

def Node.withoutPresentation (node : Node) : Node :=
  { node with title := none }

def Edge.withoutPresentation (edge : Edge) : Edge :=
  { edge with sourceHandle := .unspecified }

def withoutPresentation (graph : Graph) : Graph :=
  graph.map Node.withoutPresentation Edge.withoutPresentation

theorem renames_withoutPresentation :
    Renames id Node.withoutPresentation Edge.withoutPresentation := by
  constructor
  all_goals exact fun _ => rfl

theorem withUniqueIds_withoutPresentation (graph : Graph) :
    graph.withoutPresentation.withUniqueIds = graph.withUniqueIds.map withoutPresentation := by
  have hids : graph.withoutPresentation.repeatedId? = graph.repeatedId? :=
    congrArg (firstRepeat []) (List.map_map ..)
  unfold withUniqueIds
  rw [hids]
  cases graph.repeatedId? <;> rfl

end Graph

theorem CompileError.renameIds_id (error : CompileError) : error.renameIds id = error := by
  cases error with
  | malformedGraph cause => rfl
  | severalInits first second => rfl
  | ambiguousWitness init sources => exact congrArg _ (List.map_id sources)
  | invalidGraph cause => cases cause <;> rfl

theorem Package.ofGraph_withoutPresentation (name : String) (graph : Graph) (defaults : Defaults)
    (intents : Intent.Table) :
    ofGraph name graph.withoutPresentation defaults intents =
      ofGraph name graph defaults intents := by
  rw [Graph.withoutPresentation,
    ofGraph_map Graph.renames_withoutPresentation Function.injective_id]
  cases ofGraph name graph defaults intents with
  | error error => exact congrArg Except.error error.renameIds_id
  | ok package => rfl

/-- The fields of a canvas that only serve its looks, each with the title of its record. -/
def Canvas.presentation : List (String × String) :=
  [("UiNode", "position"), ("UiNode", "hidden"), ("UiNodeData", "customTitle"), ("UiEdge", "id"),
    ("UiEdge", "sourceHandle")]

theorem Member.ofRecord_blank (record : Member.shape.Val) :
    ofRecord (Member.shape.blank Canvas.presentation record) = ofRecord record := by
  obtain ⟨name, type, ⟨⟩⟩ := record
  cases name <;> cases type <;> rfl

theorem Abilities.ofRecord_blank (record : Abilities.shape.Val) :
    ofRecord (Abilities.shape.blank Canvas.presentation record) = ofRecord record := by
  obtain ⟨key, store, copy, drop, ⟨⟩⟩ := record
  cases key <;> cases store <;> cases copy <;> cases drop <;> rfl

namespace Canvas

def Data.withoutPresentation (data : Data) : Data :=
  { data with title := none }

def Node.withoutPresentation (node : Node) : Node :=
  { node with position := .null, data := node.data.withoutPresentation, hidden := false }

def Edge.withoutPresentation (edge : Edge) : Edge :=
  { edge with id := none, sourceHandle := none }

def withoutPresentation (canvas : Canvas) : Canvas :=
  ⟨canvas.nodes.map Node.withoutPresentation, canvas.edges.map Edge.withoutPresentation⟩

theorem members_blank (members : Option (List Member.shape.Val)) :
    (members.map (List.map (Member.shape.blank presentation))).map (List.map Member.ofRecord) =
      members.map (List.map Member.ofRecord) := by
  rw [Option.map_map]
  congr 1
  funext records
  rw [Function.comp_apply, List.map_map]
  exact List.map_congr_left fun record _ => Member.ofRecord_blank record

theorem Data.ofRecord_blank (record : Data.shape.Val) :
    ofRecord (Data.shape.blank presentation record) = (ofRecord record).withoutPresentation := by
  obtain ⟨label, title, fields, params, abilities, imported, coinName, coinSymbol, coinDecimals,
    coinDescription, ⟨⟩⟩ := record
  apply Data.ext
  case label => cases label <;> rfl
  case title => rfl
  case fields => exact members_blank fields
  case params => exact members_blank params
  case abilities =>
    cases abilities with
    | none => rfl
    | some abilities => exact congrArg some (Abilities.ofRecord_blank abilities)
  case imported => cases imported <;> rfl
  case coinName => cases coinName <;> rfl
  case coinSymbol => cases coinSymbol <;> rfl
  case coinDecimals => cases coinDecimals <;> rfl
  case coinDescription => cases coinDescription <;> rfl

theorem Node.ofRecord_blank (record : Node.shape.Val) :
    ofRecord (Node.shape.blank presentation record) = (ofRecord record).withoutPresentation := by
  obtain ⟨id, type, position, data, hidden, ⟨⟩⟩ := record
  apply Node.ext
  case id => rfl
  case type => cases type <;> rfl
  case position => rfl
  case data =>
    cases data with
    | none => rfl
    | some data => exact Data.ofRecord_blank data
  case hidden => rfl

theorem Edge.ofRecord_blank (record : Edge.shape.Val) :
    ofRecord (Edge.shape.blank presentation record) = (ofRecord record).withoutPresentation := by
  obtain ⟨id, source, sourceHandle, target, targetHandle, ⟨⟩⟩ := record
  cases targetHandle <;> rfl

theorem ofRecord_blank (record : shape.Val) :
    ofRecord (shape.blank presentation record) = (ofRecord record).withoutPresentation := by
  obtain ⟨nodes, edges, ⟨⟩⟩ := record
  apply Canvas.ext
  case nodes =>
    cases nodes with
    | none => rfl
    | some nodes =>
        show (nodes.map _).map Node.ofRecord = (nodes.map Node.ofRecord).map _
        rw [List.map_map, List.map_map]
        exact List.map_congr_left fun node _ => Node.ofRecord_blank node
  case edges =>
    cases edges with
    | none => rfl
    | some edges =>
        show (edges.map _).map Edge.ofRecord = (edges.map Edge.ofRecord).map _
        rw [List.map_map, List.map_map]
        exact List.map_congr_left fun edge _ => Edge.ofRecord_blank edge

theorem Node.toGraph_withoutPresentation (node : Node) :
    node.withoutPresentation.toGraph = node.toGraph.map Graph.Node.withoutPresentation := by
  unfold toGraph
  show (node.kind >>= _) = Except.map _ (node.kind >>= _)
  cases node.kind <;> rfl

theorem toGraph_withoutPresentation (canvas : Canvas) :
    canvas.withoutPresentation.toGraph = canvas.toGraph.map Graph.withoutPresentation := by
  have hnodes : (canvas.nodes.map Node.withoutPresentation).mapM Node.toGraph =
      (canvas.nodes.mapM Node.toGraph).map (List.map Graph.Node.withoutPresentation) :=
    mapM_map_of_step Node.toGraph_withoutPresentation _
  have hedges : (canvas.edges.map Edge.withoutPresentation).map Edge.toGraph =
      (canvas.edges.map Edge.toGraph).map Graph.Edge.withoutPresentation := by
    rw [List.map_map, List.map_map]
    rfl
  unfold toGraph withoutPresentation
  rw [hnodes, hedges]
  cases canvas.nodes.mapM Node.toGraph with
  | error error => rfl
  | ok nodes => exact Graph.withUniqueIds_withoutPresentation ⟨nodes, canvas.edges.map Edge.toGraph⟩

theorem package_eq_withoutPresentation (canvas : Canvas) (name : String) (defaults : Defaults) :
    canvas.package name defaults = canvas.withoutPresentation.package name defaults := by
  rw [package, package, toGraph_withoutPresentation]
  cases canvas.toGraph with
  | error error => rfl
  | ok graph => exact (Package.ofGraph_withoutPresentation name graph defaults .empty).symm

end Canvas

namespace Project

def Tab.withoutPresentation (tab : Tab) : Tab :=
  { tab with
    nodes := tab.nodes.map (Canvas.Node.shape.prune Canvas.presentation)
    edges := tab.edges.map (Canvas.Edge.shape.prune Canvas.presentation) }

theorem Tab.canvasValue_withoutPresentation (tab : Tab) :
    tab.withoutPresentation.canvasValue = Canvas.shape.prune Canvas.presentation tab.canvasValue :=
  rfl

theorem Tab.canvas_withoutPresentation {tab : Tab} {canvas : Canvas} (h : tab.canvas = .ok canvas) :
    ∃ canvas', tab.withoutPresentation.canvas = .ok canvas' ∧
      canvas'.withoutPresentation = canvas.withoutPresentation := by
  obtain ⟨record, hrecord, rfl⟩ := map_eq_ok_iff.mp (mapError_eq_ok_iff.mp h)
  obtain ⟨record', hrecord', hsame⟩ := Canvas.shape.decode_prune Canvas.presentation hrecord
  refine ⟨Canvas.ofRecord record', ?_, ?_⟩
  · rw [Tab.canvas, canvasValue_withoutPresentation]
    exact mapError_eq_ok_iff.mpr (map_eq_ok_iff.mpr ⟨record', hrecord', rfl⟩)
  · rw [← Canvas.ofRecord_blank, hsame, Canvas.ofRecord_blank]

/-- A module whose canvas can be read exports as if it had no presentation. -/
theorem Tab.package_withoutPresentation {tab : Tab} {canvas : Canvas} (h : tab.canvas = .ok canvas)
    (defaults : Defaults) : tab.withoutPresentation.package defaults = tab.package defaults := by
  obtain ⟨canvas', hcanvas', hsame⟩ := tab.canvas_withoutPresentation h
  rw [Tab.package_of_canvas hcanvas', Tab.package_of_canvas h,
    canvas'.package_eq_withoutPresentation, canvas.package_eq_withoutPresentation, hsame]
  rfl

theorem Tab.package_withoutPresentation_gem :
    let tab : Tab := ⟨"mod-1", "gem", [
      .obj [
        ("data", .obj [
          ("abilities", .obj [("color", .str "red"), ("key", .bool true), ("store", .bool true)]),
          ("customTitle", .str "My gem"),
          ("fields", .arr [.obj [("icon", .null), ("name", .str "id"), ("type", .str "UID")]]),
          ("folded", .bool true),
          ("label", .str "Gem")]),
        ("id", .str "s-1"), ("position", .obj [("x", .num (.int 40))]),
        ("type", .str "structNode")],
      .obj [
        ("data", .obj [("custom_title", .str "Start"), ("label", .str "CoinInit")]),
        ("hidden", .bool false), ("id", .str "i-1"), ("node_type", .str "initNode"),
        ("selected", .bool true)]],
      [.obj [("animated", .bool true), ("id", .str "e-1"), ("source", .str "s-1"),
        ("source_handle", .str "obj-main"), ("target", .str "i-1"),
        ("targetHandle", .str "witness-input")]]⟩
    let rest : Tab := ⟨"mod-1", "gem", [
      .obj [
        ("data", .obj [
          ("abilities", .obj [("key", .bool true), ("store", .bool true)]),
          ("fields", .arr [.obj [("name", .str "id"), ("type", .str "UID")]]),
          ("label", .str "Gem")]),
        ("id", .str "s-1"), ("type", .str "structNode")],
      .obj [
        ("data", .obj [("label", .str "CoinInit")]),
        ("id", .str "i-1"), ("node_type", .str "initNode")]],
      [.obj [("source", .str "s-1"), ("target", .str "i-1"),
        ("targetHandle", .str "witness-input")]]⟩
    (∃ canvas, tab.canvas = .ok canvas) ∧ tab.withoutPresentation = rest ∧
      rest.package .builtIn = tab.package .builtIn := by
  intro tab rest
  obtain ⟨canvas, hcanvas⟩ : ∃ canvas, tab.canvas = .ok canvas := ⟨_, rfl⟩
  have hrest : tab.withoutPresentation = rest := rfl
  exact ⟨⟨canvas, hcanvas⟩, hrest, hrest ▸ package_withoutPresentation hcanvas .builtIn⟩

end Project

end MoveCanvas
