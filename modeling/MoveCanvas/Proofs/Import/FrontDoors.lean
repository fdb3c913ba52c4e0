import MoveCanvas.Package
import MoveCanvas.Proofs.Import.WrittenCanvas
import MoveCanvas.Proofs.Json.Detour
import MoveCanvas.Proofs.Json.Trimming

/-! # The ways in

A text may be read as a canvas at once, as a response of an oracle that goes through a value, or as
the graph of a compiler. They agree: no two of them bring different canvases out of one text, and
the compiler has the graph of the canvas or tells which of its two steps failed. -/

namespace MoveCanvas

namespace Response

/-- Inside a fence there is no text that shows a document: its first mark is a fault. -/
theorem withoutFence_of_clean {text : String} (h : (Json.Document.ofText text).2 = true) :
    withoutFence text.toList = Text.trim text.toList := by
  unfold withoutFence
  cases hfence : Text.after? fence (Text.trim text.toList) with
  | none => rfl
  | some rest =>
      have hclean := Json.Document.not_fault_of_clean h
      have hscan := Json.Token.scan_trim hclean
      have hfault : Json.Token.scan (Text.trim text.toList) = [.fault] := by
        rw [Text.after?_eq_some_iff.mp hfence]
        exact Json.Token.scan_of_next?_eq_none (by decide) rfl
      rw [← hscan, hfault] at hclean
      exact absurd List.mem_cons_self hclean

end Response

theorem Canvas.eq_of_parse {text : String} {canvas canvas' : Canvas}
    (h : Canvas.ofText text = .ok canvas) (h' : Response.parse text = .ok canvas') :
    canvas = canvas' := by
  obtain ⟨record, hrecord, rfl⟩ := map_eq_ok_iff.mp h
  obtain ⟨hclean, hread⟩ := Json.Shape.ofText_eq_ok_iff.mp hrecord
  obtain ⟨value, nodes, edges, hvalue, -, -, -, hcanvas⟩ := Response.parse_eq_ok_iff.mp h'
  obtain ⟨record', hread', rfl⟩ := map_eq_ok_iff.mp hcanvas
  rw [Response.withoutFence_of_clean hclean, Json.ofText, Json.Shape.ofText_eq_ok_iff,
    Json.Document.ofText_trim hclean] at hvalue
  rw [shape.eq_of_decode hvalue.2 hread hread']

theorem Graph.ofText_eq_ok_iff {text : String} {graph : Graph} :
    Graph.ofText text = .ok graph ↔
      ∃ canvas, Canvas.ofText text = .ok canvas ∧ canvas.toGraph = .ok graph := by
  simp only [Graph.ofText, bind_eq_ok_iff, mapError_eq_ok_iff]

theorem Graph.ofText_eq_error_iff {text : String} {error : CompileError} :
    Graph.ofText text = .error error ↔
      (∃ cause, error = .malformedGraph cause ∧ Canvas.ofText text = .error cause) ∨
        ∃ cause canvas, error = .invalidGraph cause ∧ Canvas.ofText text = .ok canvas ∧
          canvas.toGraph = .error cause := by
  unfold Graph.ofText
  cases hcanvas : Canvas.ofText text with
  | error cause => simp [Except.mapError, bind, Except.bind, eq_comm]
  | ok canvas =>
      cases hgraph : canvas.toGraph with
      | error cause => simp [hgraph, Except.mapError, bind, Except.bind, eq_comm]
      | ok graph => simp [hgraph, Except.mapError, bind, Except.bind]

/-- A canvas and a response that are read from one text are the same canvas. The compiler takes the
graph of this canvas, and reports the error of the step that fails. -/
theorem ofText_agrees (text : String) :
    (∀ canvas canvas', Canvas.ofText text = .ok canvas → Response.parse text = .ok canvas' →
        canvas = canvas') ∧
      (∀ graph, Graph.ofText text = .ok graph ↔
        ∃ canvas, Canvas.ofText text = .ok canvas ∧ canvas.toGraph = .ok graph) ∧
      (∀ cause, Graph.ofText text = .error (.malformedGraph cause) ↔
        Canvas.ofText text = .error cause) ∧
      (∀ cause, Graph.ofText text = .error (.invalidGraph cause) ↔
        ∃ canvas, Canvas.ofText text = .ok canvas ∧ canvas.toGraph = .error cause) ∧
      ∀ error, Graph.ofText text = .error error →
        (∃ cause, error = .malformedGraph cause) ∨ ∃ cause, error = .invalidGraph cause := by
  refine ⟨fun _ _ => Canvas.eq_of_parse, fun _ => Graph.ofText_eq_ok_iff, ?_, ?_, ?_⟩
  · intro cause
    rw [Graph.ofText_eq_error_iff]
    constructor
    · rintro (⟨_, heq, h⟩ | ⟨_, _, heq, -⟩)
      · cases heq
        exact h
      · cases heq
    · exact fun h => .inl ⟨cause, rfl, h⟩
  · intro cause
    rw [Graph.ofText_eq_error_iff]
    constructor
    · rintro (⟨_, heq, -⟩ | ⟨_, canvas, heq, h⟩)
      · cases heq
      · cases heq
        exact ⟨canvas, h⟩
    · rintro ⟨canvas, h⟩
      exact .inr ⟨cause, canvas, rfl, h⟩
  · intro error h
    rcases Graph.ofText_eq_error_iff.mp h with ⟨cause, heq, -⟩ | ⟨cause, canvas, heq, -⟩
    · exact .inl ⟨cause, heq⟩
    · exact .inr ⟨cause, heq⟩

theorem ofText_agrees_outOfOrder :
    let value : Json := .obj [
      ("nodes", .arr [.obj [("node_type", .str "structNode"), ("id", .str "s"),
        ("data", .arr [.str "GOLD"])]]),
      ("edges", .arr [])]
    let canvas : Canvas := ⟨[⟨"s", some "structNode", .null, .ofLabel "GOLD", false⟩], []⟩
    Canvas.ofText value.pretty = .ok canvas ∧ Response.parse value.pretty = .ok canvas ∧
      Graph.ofText value.pretty =
        .ok ⟨[⟨"s", "GOLD", none, .struct ⟨[], .keyStore, false⟩⟩], []⟩ := by
  intro value canvas
  have hwords : value.Everywhere Json.Number.IsWord Json.AnyKeys :=
    ⟨trivial, ⟨⟨trivial, trivial, trivial, ⟨trivial, trivial⟩, trivial⟩, trivial⟩, trivial, trivial⟩
  have hdocument : Json.Document.ofText value.pretty = (.ofValue value, true) :=
    Json.Document.ofText_pretty hwords
  have hcanvas : Canvas.ofText value.pretty = .ok canvas := by
    rw [Canvas.ofText, Json.Shape.ofText, hdocument]
    rfl
  have hparse : ∃ canvas', Response.parse value.pretty = .ok canvas' := by
    refine ⟨canvas, Response.parse_eq_ok_iff.mpr
      ⟨value.sorted, _, [], ?_, rfl, rfl, List.cons_ne_nil _ _, rfl⟩⟩
    have hbare : Response.withoutFence value.pretty.toList = value.pretty.toList := by
      rw [Json.pretty, String.toList_ofList]
      exact Response.withoutFence_braces _
    rw [hbare, String.ofList_toList, Json.ofText, Json.Shape.ofText, hdocument]
    rfl
  obtain ⟨canvas', hcanvas'⟩ := hparse
  obtain ⟨hsame, hgraph, -⟩ := ofText_agrees value.pretty
  rw [← hsame canvas canvas' hcanvas hcanvas'] at hcanvas'
  exact ⟨hcanvas, hcanvas', (hgraph _).mpr ⟨canvas, hcanvas, rfl⟩⟩

end MoveCanvas
