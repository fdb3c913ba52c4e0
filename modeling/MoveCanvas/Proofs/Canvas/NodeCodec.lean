import MoveCanvas.Proofs.Import.WrittenCanvas

/-! # A node by itself

A node is stored as a value and may be written as a text. A value gives the node back whatever its
position is. A text does so if it has room for the position and if the texts of the position's
numbers denote them. -/

namespace MoveCanvas

open Json (Shape Number Ascending AnyKeys Layout DecodeError)

theorem Json.Shape.ofText_write {shape : Shape} (hdistinct : shape.isDistinct = true)
    {value : shape.Val} (hvalue : shape.Holds (·.Everywhere Number.ReadsBack Ascending) value)
    (hdepth : (shape.encode value).depth ≤ nestingLimit) {layout : Layout} (hlayout : layout.IsBlank) :
    shape.ofText (String.ofList (Json.write layout 0 (shape.encode value))) = .ok value := by
  have hreads : (shape.encode value).Everywhere Number.ReadsBack AnyKeys :=
    shape.everywhere_encode (fun n => Number.IsWord.readsBack _ (Number.isWord_byte n)) hvalue
  have hroom : (Source.text nestingLimit).Admits (shape.encode value).depth := hdepth
  rw [Shape.ofText_eq_ok_iff, Document.ofText_write hlayout hreads]
  exact ⟨rfl, shape.decode_encode hdistinct hvalue hroom⟩

namespace Canvas.Node

def ofValue (value : Json) : Except DecodeError Node :=
  ofRecord <$> Node.shape.ofValue value

def ofText (text : String) : Except DecodeError Node :=
  ofRecord <$> Node.shape.ofText text

def text (layout : Layout) (n : Node) : String :=
  String.ofList (Json.write layout 0 (Node.shape.encode n.toRecord))

variable {n : Node}

theorem ofValue_toValue {number : Number → Prop}
    (hraws : ∀ v ∈ n.raws, v.Everywhere number Ascending)
    (hnull : n.data.coinDecimals ≠ some .null) : ofValue n.toValue = .ok n := by
  have hdistinct : Node.shape.isDistinct = true := by decide
  refine map_eq_ok_iff.mpr ⟨n.toRecord, ?_, n.ofRecord_toRecord⟩
  exact Shape.ofValue_sorted Node.shape hdistinct (holds_toRecord hraws hnull)

theorem ofText_text (hraws : ∀ v ∈ n.raws, v.Everywhere Number.ReadsBack Ascending)
    (hnull : n.data.coinDecimals ≠ some .null)
    (hdepth : (Node.shape.encode n.toRecord).depth ≤ Json.nestingLimit) {layout : Layout}
    (hlayout : layout.IsBlank) : ofText (n.text layout) = .ok n := by
  have hdistinct : Node.shape.isDistinct = true := by decide
  refine map_eq_ok_iff.mpr ⟨n.toRecord, ?_, n.ofRecord_toRecord⟩
  exact Shape.ofText_write hdistinct (holds_toRecord hraws hnull) hdepth hlayout

end Canvas.Node

end MoveCanvas
