import MoveCanvas.Canvas.Basic
import MoveCanvas.Json.Decode

/-! # The canvas as JSON

The shapes of canvases and their parts. Several keys have a second spelling for reading. Absent
parts take their plain values; parts that are absent or plain are left out in writing, except the
label, the type of a node, the ends of an edge and the ability flags. -/

namespace MoveCanvas

open Json (Shape Fields Presence DecodeError)

/-- A flag is written only if it is set. -/
def flagSlot (flag : Bool) : Option Bool :=
  if flag then some true else none

theorem flagSlot_getD (flag : Bool) : (flagSlot flag).getD false = flag := by
  cases flag <;> rfl

/-! ## Members and abilities -/

def Member.shape : Shape :=
  .record "UiField"
    (.cons "name" [] .optional .text
    (.cons "type" ["type_name"] .optional .text .nil))

def Member.ofRecord : Member.shape.Val → Member
  | (name, type, ()) => ⟨name.getD "", type.getD ""⟩

def Member.toRecord (m : Member) : Member.shape.Val :=
  (some m.name, some m.type, ())

theorem Member.ofRecord_toRecord (m : Member) : ofRecord m.toRecord = m := rfl

def Abilities.shape : Shape :=
  .record "UiAbilities"
    (.cons "key" [] .optional .flag
    (.cons "store" [] .optional .flag
    (.cons "copy" [] .optional .flag
    (.cons "drop" [] .optional .flag .nil))))

def Abilities.ofRecord : Abilities.shape.Val → Abilities
  | (key, store, copy, drop, ()) =>
    ⟨key.getD false, store.getD false, copy.getD false, drop.getD false⟩

def Abilities.toRecord (a : Abilities) : Abilities.shape.Val :=
  (some a.key, some a.store, some a.copy, some a.drop, ())

theorem Abilities.ofRecord_toRecord (a : Abilities) : ofRecord a.toRecord = a := rfl

namespace Canvas

/-! ## Nodes -/

def Data.shape : Shape :=
  .record "UiNodeData"
    (.cons "label" [] .optional .text
    (.cons "customTitle" ["custom_title"] (.nullable false) .text
    (.cons "fields" [] (.nullable false) (.list Member.shape)
    (.cons "params" [] (.nullable false) (.list Member.shape)
    (.cons "abilities" [] (.nullable false) Abilities.shape
    (.cons "isImported" ["is_imported"] .optional .flag
    (.cons "coinName" ["coin_name"] (.nullable false) .text
    (.cons "coinSymbol" ["coin_symbol"] (.nullable false) .text
    (.cons "coinDecimals" ["coin_decimals"] (.nullable false) .raw
    (.cons "coinDescription" ["coin_description"] (.nullable false) .text .nil))))))))))

def Data.ofRecord : Data.shape.Val → Data
  | (label, title, fields, params, abilities, imported, coinName, coinSymbol, coinDecimals,
      coinDescription, ()) =>
    { label := label.getD ""
      title
      fields := fields.map (List.map Member.ofRecord)
      params := params.map (List.map Member.ofRecord)
      abilities := abilities.map Abilities.ofRecord
      imported := imported.getD false
      coinName
      coinSymbol
      coinDecimals
      coinDescription }

def Data.toRecord (d : Data) : Data.shape.Val :=
  (some d.label, d.title, d.fields.map (List.map Member.toRecord),
    d.params.map (List.map Member.toRecord), d.abilities.map Abilities.toRecord,
    flagSlot d.imported, d.coinName, d.coinSymbol, d.coinDecimals, d.coinDescription, ())

def Node.shape : Shape :=
  .record "UiNode"
    (.cons "id" [] .required .text
    (.cons "type" ["node_type"] (.nullable true) .text
    (.cons "position" [] .optional .raw
    (.cons "data" [] .optional Data.shape
    (.cons "hidden" [] .optional .flag .nil)))))

def Node.ofRecord : Node.shape.Val → Node
  | (id, type, position, data, hidden, ()) =>
    { id
      type
      position := position.getD .null
      data := (data.map Data.ofRecord).getD (.ofLabel "")
      hidden := hidden.getD false }

def Node.toRecord (n : Node) : Node.shape.Val :=
  (n.id, n.type, if n.position = .null then none else some n.position, some n.data.toRecord,
    flagSlot n.hidden, ())

/-! ## Edges -/

def Edge.shape : Shape :=
  .record "UiEdge"
    (.cons "id" [] (.nullable false) .text
    (.cons "source" [] .required .text
    (.cons "sourceHandle" ["source_handle"] (.nullable true) .text
    (.cons "target" [] .required .text
    (.cons "targetHandle" ["target_handle"] (.nullable true) .text .nil)))))

def Edge.ofRecord : Edge.shape.Val → Edge
  | (id, source, sourceHandle, target, targetHandle, ()) =>
    { id, source, sourceHandle, target, targetHandle }

def Edge.toRecord (e : Edge) : Edge.shape.Val :=
  (e.id, e.source, e.sourceHandle, e.target, e.targetHandle, ())

/-! ## Canvases -/

def shape : Shape :=
  .record "UiGraph"
    (.cons "nodes" [] .optional (.list Node.shape)
    (.cons "edges" [] .optional (.list Edge.shape) .nil))

def ofRecord : shape.Val → Canvas
  | (nodes, edges, ()) => ⟨(nodes.getD []).map Node.ofRecord, (edges.getD []).map Edge.ofRecord⟩

def toRecord (c : Canvas) : shape.Val :=
  (some (c.nodes.map Node.toRecord), some (c.edges.map Edge.toRecord), ())

def ofText (text : String) : Except DecodeError Canvas :=
  ofRecord <$> shape.ofText text

def ofValue (value : Json) : Except DecodeError Canvas :=
  ofRecord <$> shape.ofValue value

def Node.toValue (n : Node) : Json :=
  (Node.shape.encode n.toRecord).sorted

def Edge.toValue (e : Edge) : Json :=
  (Edge.shape.encode e.toRecord).sorted

def toValue (c : Canvas) : Json :=
  shape.encode c.toRecord

/-! ## Records hold all there is -/

theorem map_ofRecord_toRecord (members : Option (List Member)) :
    (members.map (List.map Member.toRecord)).map (List.map Member.ofRecord) = members := by
  cases members with
  | none => rfl
  | some members => exact congrArg some ((List.map_map ..).trans (List.map_id members))

theorem Data.ofRecord_toRecord (d : Data) : ofRecord d.toRecord = d := by
  apply Data.ext
  case fields => exact map_ofRecord_toRecord d.fields
  case params => exact map_ofRecord_toRecord d.params
  case abilities => cases h : d.abilities <;> simp only [toRecord, ofRecord, h] <;> rfl
  case imported => exact flagSlot_getD d.imported
  all_goals rfl

theorem Node.ofRecord_toRecord (n : Node) : ofRecord n.toRecord = n := by
  apply Node.ext
  case position =>
    show (if n.position = .null then none else some n.position).getD .null = n.position
    split
    · next h => exact h.symm
    · rfl
  case data => exact n.data.ofRecord_toRecord
  case hidden => exact flagSlot_getD n.hidden
  all_goals rfl

theorem Edge.ofRecord_toRecord (e : Edge) : ofRecord e.toRecord = e := rfl

theorem ofRecord_toRecord (c : Canvas) : ofRecord c.toRecord = c := by
  apply Canvas.ext
  case nodes =>
    show (c.nodes.map Node.toRecord).map Node.ofRecord = c.nodes
    rw [List.map_map]
    exact (List.map_congr_left fun n _ => n.ofRecord_toRecord).trans (List.map_id _)
  case edges =>
    show (c.edges.map Edge.toRecord).map Edge.ofRecord = c.edges
    rw [List.map_map]
    exact (List.map_congr_left fun e _ => e.ofRecord_toRecord).trans (List.map_id _)

end Canvas

end MoveCanvas
