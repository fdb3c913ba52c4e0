import MoveCanvas.Import.Response
import MoveCanvas.Proofs.Except

/-! # What is accepted

A response carries a canvas if its text is a value with the two arrays and some node. It is
accepted if the canvas is a graph; the edges of a canvas play no part in that, so that the wiring
never decides it. -/

namespace MoveCanvas

/-- Whether a canvas is a graph is decided by its nodes. Its edges only come along. -/
theorem Canvas.toGraph_eq_map (canvas : Canvas) : canvas.toGraph =
    (Canvas.toGraph ⟨canvas.nodes, []⟩).map fun graph =>
      { graph with edges := canvas.edges.map Edge.toGraph } := by
  unfold toGraph
  show (canvas.nodes.mapM Node.toGraph >>= _) =
    Except.map _ (canvas.nodes.mapM Node.toGraph >>= _)
  cases canvas.nodes.mapM Node.toGraph with
  | error error => rfl
  | ok nodes =>
      show Graph.withUniqueIds ⟨nodes, canvas.edges.map Edge.toGraph⟩ =
        (Graph.withUniqueIds ⟨nodes, []⟩).map _
      unfold Graph.withUniqueIds Graph.repeatedId?
      cases Graph.firstRepeat [] (nodes.map (·.id)) <;> rfl

namespace Response

theorem requiredArray_eq_ok_iff {key : String} {value : Json} {items : List Json} :
    requiredArray key value = .ok items ↔ value.get? key = some (.arr items) := by
  unfold requiredArray
  cases h : value.get? key with
  | none => simp
  | some found => cases found <;> simp [Json.items?]

theorem parse_eq_ok_iff {response : String} {canvas : Canvas} : parse response = .ok canvas ↔
    ∃ value nodes edges,
      Json.ofText (String.ofList (withoutFence response.toList)) = .ok value ∧
      value.get? "nodes" = some (.arr nodes) ∧ value.get? "edges" = some (.arr edges) ∧
      nodes ≠ [] ∧ Canvas.ofValue value = .ok canvas := by
  constructor
  · intro h
    obtain ⟨value, hvalue, h⟩ := bind_eq_ok_iff.mp h
    obtain ⟨nodes, hnodes, h⟩ := bind_eq_ok_iff.mp h
    obtain ⟨edges, hedges, h⟩ := bind_eq_ok_iff.mp h
    split at h
    · cases h
    · next hne =>
      exact ⟨value, nodes, edges, mapError_eq_ok_iff.mp hvalue, requiredArray_eq_ok_iff.mp hnodes,
        requiredArray_eq_ok_iff.mp hedges, hne, mapError_eq_ok_iff.mp h⟩
  · rintro ⟨value, nodes, edges, hvalue, hnodes, hedges, hne, hcanvas⟩
    refine bind_eq_ok_iff.mpr ⟨value, mapError_eq_ok_iff.mpr hvalue, ?_⟩
    refine bind_eq_ok_iff.mpr ⟨nodes, requiredArray_eq_ok_iff.mpr hnodes, ?_⟩
    refine bind_eq_ok_iff.mpr ⟨edges, requiredArray_eq_ok_iff.mpr hedges, ?_⟩
    rw [if_neg hne]
    exact mapError_eq_ok_iff.mpr hcanvas

theorem toGraph_wired (canvas : Canvas) : (wired canvas).toGraph = canvas.toGraph.map fun graph =>
    { graph with edges := graph.edges ++ (Wiring.inferred canvas.nodes).map Canvas.Edge.toGraph } := by
  rw [(wired canvas).toGraph_eq_map, canvas.toGraph_eq_map]
  show (Canvas.toGraph ⟨canvas.nodes, []⟩).map _ = _
  cases Canvas.toGraph ⟨canvas.nodes, []⟩ with
  | error error => rfl
  | ok graph =>
      have hedges : (wired canvas).edges.map Canvas.Edge.toGraph =
          canvas.edges.map Canvas.Edge.toGraph ++
            (Wiring.inferred canvas.nodes).map Canvas.Edge.toGraph := List.map_append
      exact congrArg (fun edges => Except.ok (Graph.mk graph.nodes edges)) hedges

theorem accept_of_parse {response : String} {canvas : Canvas} (h : parse response = .ok canvas) :
    accept response = (canvas.toGraph.mapError .conversion).map fun graph =>
      { canvas := wired canvas
        graph := { graph with
          edges := graph.edges ++ (Wiring.inferred canvas.nodes).map Canvas.Edge.toGraph }
        inferred := (Wiring.inferred canvas.nodes).length } := by
  rw [accept, h]
  show (wired canvas).toGraph.mapError ImportError.conversion >>= _ = _
  rw [toGraph_wired]
  cases canvas.toGraph <;> rfl

theorem parse_of_accept {response : String} {imported : Imported}
    (h : accept response = .ok imported) : ∃ canvas graph, parse response = .ok canvas ∧
      canvas.toGraph = .ok graph ∧ imported.canvas = wired canvas ∧
      imported.inferred = (Wiring.inferred canvas.nodes).length := by
  obtain ⟨canvas, hcanvas, hrest⟩ := bind_eq_ok_iff.mp h
  rw [accept_of_parse hcanvas] at h
  cases hgraph : canvas.toGraph with
  | error error =>
      rw [hgraph] at h
      cases h
  | ok graph =>
      rw [hgraph] at h
      cases h
      exact ⟨canvas, graph, hcanvas, hgraph, rfl, rfl⟩

end Response

end MoveCanvas
