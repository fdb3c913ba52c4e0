import MoveCanvas.Canvas.Format
import MoveCanvas.Proofs.Json.Spellings

/-! # Spellings of the keys of a canvas

Nine keys of a canvas have another spelling, and the type of a node has another one than the type
of a member. Whichever spellings stand in a value, the canvas that is read is the same. -/

namespace MoveCanvas.Canvas

open Json (Shape Fields isNamed)

/-- A value is read as the canvas that its respelled value is read as, and the canvas is written
with the first spelling of every key. -/
theorem ofValue_respelled {v v' : Json} (h : shape.Respells v v') :
    (∀ canvas, ofValue v' = .ok canvas ↔ ofValue v = .ok canvas) ∧
      ∀ canvas, ofValue v' = .ok canvas → shape.Canonical canvas.toValue := by
  refine ⟨fun canvas => ?_, fun canvas _ => shape.canonical_encode canvas.toRecord⟩
  unfold ofValue
  rw [map_eq_ok_iff, map_eq_ok_iff]
  simp only [Shape.ofValue_eq_ok_iff_of_respells h]

/-- All keys with another spelling are respelled, and the members stand in the order of their keys
before and after. -/
theorem ofValue_respelled_coin :
    let edge : Json := .obj [("source", .str "s-1"), ("sourceHandle", .str "obj-main"),
      ("target", .str "i-1"), ("targetHandle", .str "witness-input")]
    let edge' : Json := .obj [("source", .str "s-1"), ("source_handle", .str "obj-main"),
      ("target", .str "i-1"), ("target_handle", .str "witness-input")]
    let data : Json := .obj [("coinDecimals", .str "9"), ("coinDescription", .str "A coin"),
      ("coinName", .str "Gold"), ("coinSymbol", .str "GLD"), ("customTitle", .str "Start"),
      ("fields", .arr [.obj [("name", .str "id"), ("type", .str "UID")]]),
      ("isImported", .bool true), ("label", .str "CoinInit")]
    let data' : Json := .obj [("coin_decimals", .str "9"), ("coin_description", .str "A coin"),
      ("coin_name", .str "Gold"), ("coin_symbol", .str "GLD"), ("custom_title", .str "Start"),
      ("fields", .arr [.obj [("name", .str "id"), ("type_name", .str "UID")]]),
      ("is_imported", .bool true), ("label", .str "CoinInit")]
    let v : Json := .obj [("edges", .arr [edge]), ("nodes", .arr [.obj [("data", data),
      ("id", .str "i-1"), ("position", .null), ("type", .str "initNode")]])]
    let v' : Json := .obj [("edges", .arr [edge']), ("nodes", .arr [.obj [("data", data'),
      ("id", .str "i-1"), ("node_type", .str "initNode"), ("position", .null)]])]
    shape.Respells v v' ∧ ∃ canvas, ofValue v = .ok canvas ∧ ofValue v' = .ok canvas ∧
      shape.Canonical canvas.toValue := by
  intro edge edge' data data' v v'
  have hedge : Edge.shape.Respells edge edge' := by
    refine ⟨_, ?_, .rfl⟩
    simp [Fields.RespellsMember, isNamed, Shape.Respells]
  have hmember : Member.shape.Respells (.obj [("name", .str "id"), ("type", .str "UID")])
      (.obj [("name", .str "id"), ("type_name", .str "UID")]) := by
    refine ⟨_, ?_, .rfl⟩
    simp [Fields.RespellsMember, isNamed, Shape.Respells]
  have hdata : Data.shape.Respells data data' := by
    refine ⟨_, ?_, .rfl⟩
    simp [Fields.RespellsMember, isNamed, Shape.Respells, hmember]
  have hnode : Node.shape.Respells
      (.obj [("data", data), ("id", .str "i-1"), ("position", .null), ("type", .str "initNode")])
      (.obj [("data", data'), ("id", .str "i-1"), ("node_type", .str "initNode"),
        ("position", .null)]) := by
    -- the type now stands in front of the position, which keeps its key
    refine ⟨_, ?_, .cons _ (.cons _ (.swap _ _ _))⟩
    simp [Fields.RespellsMember, isNamed, Shape.Respells, hdata]
  have h : shape.Respells v v' := by
    refine ⟨_, ?_, .rfl⟩
    simp [Fields.RespellsMember, isNamed, Shape.Respells, hedge, hnode]
  obtain ⟨canvas, hcanvas⟩ : ∃ canvas, ofValue v = .ok canvas := ⟨_, rfl⟩
  obtain ⟨hsame, hcanonical⟩ := ofValue_respelled h
  have hcanvas' : ofValue v' = .ok canvas := (hsame canvas).mpr hcanvas
  exact ⟨h, canvas, hcanvas, hcanvas', hcanonical canvas hcanvas'⟩

end MoveCanvas.Canvas
