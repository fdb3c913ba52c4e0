import MoveCanvas.Canvas.Format
import MoveCanvas.Proofs.Import.Acceptance
import MoveCanvas.Proofs.Json.RoundTrip

/-! # Raw values of a canvas

A canvas keeps positions and numbers of decimals as the reader delivered them. However a canvas was
accepted, from a text or from a response, its raw values have ascending keys and integers that fit
64 bits, and what a project stores of it has ascending keys again. -/

namespace MoveCanvas.Canvas

open Json (Shape Number Ascending AnyKeys)

def Node.raws (n : Node) : List Json :=
  n.position :: n.data.coinDecimals.toList

def Accepted (canvas : Canvas) : Prop :=
  (∃ text, ofText text = .ok canvas) ∨
    ∃ response imported, Response.accept response = .ok imported ∧ imported.canvas = canvas

/-- The canvas has been read from a text or from a response, whose automatic wiring it lacks. -/
def Read (canvas : Canvas) : Prop :=
  (∃ text, ofText text = .ok canvas) ∨ ∃ response, Response.parse response = .ok canvas

section Records

variable {p : Json → Prop}

theorem Node.raws_ofRecord (hnull : p .null) {record : Node.shape.Val}
    (h : Node.shape.Holds p record) :
    (∀ v ∈ (Node.ofRecord record).raws, p v) ∧
      (Node.ofRecord record).data.coinDecimals ≠ some .null := by
  obtain ⟨id, type, position, data, hidden, ⟨⟩⟩ := record
  obtain ⟨-, -, hposition, hdata, -, -⟩ := h
  have hposition' : p (position.getD .null) := by
    cases position with
    | none => exact hnull
    | some v => exact (hposition v rfl).1
  have hdecimals : ∀ v, (Node.ofRecord (id, type, position, data, hidden, ())).data.coinDecimals =
      some v → p v ∧ v ≠ .null := by
    intro v hv
    cases data with
    | none => cases hv
    | some data =>
        obtain ⟨-, -, -, -, -, -, -, -, hdecimals, -⟩ := (hdata data rfl).1
        obtain ⟨hp, hne⟩ := hdecimals v hv
        exact ⟨hp, hne rfl⟩
  refine ⟨List.forall_mem_cons.mpr ⟨hposition', fun v hv => ?_⟩, fun he => (hdecimals _ he).2 rfl⟩
  exact (hdecimals v (Option.mem_toList.mp hv)).1

theorem raws_ofRecord (hnull : p .null) {record : shape.Val} (h : shape.Holds p record) :
    ∀ n ∈ (ofRecord record).nodes, (∀ v ∈ n.raws, p v) ∧ n.data.coinDecimals ≠ some .null := by
  obtain ⟨nodes, edges, ⟨⟩⟩ := record
  obtain ⟨hnodes, -, -⟩ := h
  intro n hn
  obtain ⟨record, hrecord, rfl⟩ := List.mem_map.mp hn
  cases nodes with
  | none => cases hrecord
  | some nodes => exact Node.raws_ofRecord hnull ((hnodes nodes rfl).1 record hrecord)

theorem holds_text (text : Option String) : ∀ s, text = some s →
    Shape.text.Holds p s ∧ (true = true → Shape.text.encode s ≠ .null) :=
  fun _ _ => ⟨trivial, fun _ => nofun⟩

theorem holds_members (members : List Member) :
    (Shape.list Member.shape).Holds p (members.map Member.toRecord) := by
  intro record hrecord
  obtain ⟨member, -, rfl⟩ := List.mem_map.mp hrecord
  exact ⟨fun _ _ => ⟨trivial, nofun⟩, fun _ _ => ⟨trivial, nofun⟩, trivial⟩

theorem Data.holds_toRecord {d : Data} (h : ∀ v, d.coinDecimals = some v → p v)
    (hnull : d.coinDecimals ≠ some .null) : Data.shape.Holds p d.toRecord := by
  have hmembers (members : Option (List Member)) : ∀ records,
      members.map (List.map Member.toRecord) = some records →
        (Shape.list Member.shape).Holds p records ∧
          (true = true → (Shape.list Member.shape).encode records ≠ .null) := by
    intro records hrecords
    obtain ⟨list, -, rfl⟩ := Option.map_eq_some_iff.mp hrecords
    exact ⟨holds_members list, fun _ => nofun⟩
  refine ⟨fun _ _ => ⟨trivial, nofun⟩, holds_text d.title, hmembers d.fields, hmembers d.params, ?_,
    fun _ _ => ⟨trivial, nofun⟩, holds_text d.coinName, holds_text d.coinSymbol, ?_, holds_text d.coinDescription,
    trivial⟩
  · intro record hrecord
    obtain ⟨abilities, -, rfl⟩ := Option.map_eq_some_iff.mp hrecord
    have hflag (flag : Bool) : ∀ b, some flag = some b →
        Shape.flag.Holds p b ∧ (false = true → Shape.flag.encode b ≠ .null) :=
      fun _ _ => ⟨trivial, nofun⟩
    exact ⟨⟨hflag _, hflag _, hflag _, hflag _, trivial⟩, fun _ => nofun⟩
  · intro v hv
    exact ⟨h v hv, fun _ he => hnull (he ▸ hv)⟩

theorem Node.holds_toRecord {n : Node} (h : ∀ v ∈ n.raws, p v)
    (hnull : n.data.coinDecimals ≠ some .null) : Node.shape.Holds p n.toRecord := by
  obtain ⟨hposition, hdecimals⟩ := List.forall_mem_cons.mp h
  refine ⟨⟨trivial, nofun⟩, fun _ _ => ⟨trivial, fun _ => nofun⟩, ?_, ?_, fun _ _ => ⟨trivial, nofun⟩,
    trivial⟩
  · intro v hv
    split at hv
    · cases hv
    · cases hv
      exact ⟨hposition, nofun⟩
  · rintro _ ⟨⟩
    refine ⟨Data.holds_toRecord (fun v hv => ?_) hnull, nofun⟩
    exact hdecimals v (Option.mem_toList.mpr hv)

theorem Edge.holds_toRecord (e : Edge) : Edge.shape.Holds p e.toRecord :=
  ⟨holds_text e.id, ⟨trivial, nofun⟩, holds_text e.sourceHandle, ⟨trivial, nofun⟩,
    holds_text e.targetHandle, trivial⟩

theorem holds_toRecord {canvas : Canvas}
    (h : ∀ n ∈ canvas.nodes, (∀ v ∈ n.raws, p v) ∧ n.data.coinDecimals ≠ some .null) :
    shape.Holds p canvas.toRecord := by
  refine ⟨?_, ?_, trivial⟩
  · rintro _ ⟨⟩
    refine ⟨fun record hrecord => ?_, nofun⟩
    obtain ⟨n, hn, rfl⟩ := List.mem_map.mp hrecord
    exact Node.holds_toRecord (h n hn).1 (h n hn).2
  · rintro _ ⟨⟩
    refine ⟨fun record hrecord => ?_, nofun⟩
    obtain ⟨e, -, rfl⟩ := List.mem_map.mp hrecord
    exact Edge.holds_toRecord e

end Records

theorem raws_of_document {source : Json.Source} {document : Json.Document} {record : shape.Val}
    (hnumbers : document.Numbers Number.FitsWord) (h : shape.decode source document = .ok record) :
    ∀ n ∈ (ofRecord record).nodes, (∀ v ∈ n.raws, v.Everywhere Number.FitsWord Ascending) ∧
      n.data.coinDecimals ≠ some .null :=
  raws_ofRecord (p := (·.Everywhere Number.FitsWord Ascending)) trivial
    (shape.holds_decode hnumbers h)

theorem fitsWord_ofText {text : String} {value : Json} (h : Json.ofText text = .ok value) :
    value.Everywhere Number.FitsWord Ascending := by
  obtain ⟨-, hread⟩ := Shape.ofText_eq_ok_iff.mp h
  exact Json.Document.everywhere_toValue _ (Json.Document.fitsWord_ofText text) hread

theorem Read.raws {canvas : Canvas} (h : canvas.Read) :
    ∀ n ∈ canvas.nodes, (∀ v ∈ n.raws, v.Everywhere Number.FitsWord Ascending) ∧
      n.data.coinDecimals ≠ some .null := by
  rcases h with ⟨text, h⟩ | ⟨response, h⟩
  · obtain ⟨record, hrecord, rfl⟩ := map_eq_ok_iff.mp h
    obtain ⟨-, hread⟩ := Shape.ofText_eq_ok_iff.mp hrecord
    exact raws_of_document (Json.Document.fitsWord_ofText text) hread
  -- A response is read as a value before the value is read as a canvas.
  · obtain ⟨value, nodes, edges, hvalue, -, -, -, h⟩ := Response.parse_eq_ok_iff.mp h
    obtain ⟨record, hrecord, rfl⟩ := map_eq_ok_iff.mp h
    have hnumbers := Json.Document.numbers_ofValue value (fitsWord_ofText hvalue)
    exact raws_of_document hnumbers hrecord

theorem Accepted.raws {canvas : Canvas} (h : canvas.Accepted) :
    ∀ n ∈ canvas.nodes, (∀ v ∈ n.raws, v.Everywhere Number.FitsWord Ascending) ∧
      n.data.coinDecimals ≠ some .null := by
  rcases h with h | ⟨response, imported, h, rfl⟩
  · exact Read.raws (Or.inl h)
  -- The wiring adds edges to what was read, and no node.
  · obtain ⟨own, graph, hown, -, hcanvas, -⟩ := Response.parse_of_accept h
    have hread : own.Read := Or.inr ⟨response, hown⟩
    rw [hcanvas]
    exact hread.raws

def IsIntegral (canvas : Canvas) : Prop :=
  ∀ n ∈ canvas.nodes, ∀ v ∈ n.raws, v.Everywhere Number.IsInteger AnyKeys

theorem Accepted.isWord_raws {canvas : Canvas} (h : canvas.Accepted) (hint : canvas.IsIntegral) :
    ∀ n ∈ canvas.nodes, (∀ v ∈ n.raws, v.Everywhere Number.IsWord Ascending) ∧
      n.data.coinDecimals ≠ some .null := by
  intro n hn
  obtain ⟨hraws, hnull⟩ := h.raws n hn
  refine ⟨fun v hv => ?_, hnull⟩
  have hboth := Json.Everywhere.and v (hraws v hv) (hint n hn v hv)
  refine Json.Everywhere.mono (fun number hnumber => ?_) (fun _ hkeys => hkeys) v hboth
  exact Number.isWord_iff.mpr hnumber

theorem Node.everywhere_toValue {n : Node} (h : ∀ v ∈ n.raws, v.Everywhere Number.IsWord Ascending)
    (hnull : n.data.coinDecimals ≠ some .null) :
    n.toValue.Everywhere Number.IsWord Ascending :=
  Json.everywhere_sorted _ (Node.shape.everywhere_encode Number.isWord_byte
    (Node.holds_toRecord h hnull))

theorem Edge.everywhere_toValue (e : Edge) : e.toValue.Everywhere Number.IsWord Ascending := by
  have hholds : Edge.shape.Holds (·.Everywhere Number.IsWord Ascending) e.toRecord := e.holds_toRecord
  exact Json.everywhere_sorted _ (Edge.shape.everywhere_encode Number.isWord_byte hholds)

theorem Edge.depth_encode_le (e : Edge) : (Edge.shape.encode e.toRecord).depth ≤ 1 := by
  obtain ⟨id, source, sourceHandle, target, targetHandle⟩ := e
  cases id <;> cases sourceHandle <;> cases targetHandle
  all_goals exact Nat.le_refl 1

theorem Edge.depth_toValue_le (e : Edge) : e.toValue.depth ≤ 1 :=
  le_trans (Json.depth_sorted_le _) e.depth_encode_le

theorem ofText_pretty {canvas : Canvas}
    (h : ∀ n ∈ canvas.nodes, (∀ v ∈ n.raws, v.Everywhere Number.IsWord Ascending) ∧
      n.data.coinDecimals ≠ some .null) (hdepth : canvas.toValue.depth ≤ Json.nestingLimit) :
    ofText canvas.toValue.pretty = .ok canvas := by
  have hdistinct : shape.isDistinct = true := by decide
  refine map_eq_ok_iff.mpr ⟨canvas.toRecord, ?_, canvas.ofRecord_toRecord⟩
  exact Shape.ofText_pretty hdistinct (holds_toRecord h) hdepth

theorem sorted_toValue (canvas : Canvas) : canvas.toValue.sorted = .obj [
    ("edges", .arr (canvas.edges.map Edge.toValue)),
    ("nodes", .arr (canvas.nodes.map Node.toValue))] := by
  have hnodes : Json.sortedItems ((canvas.nodes.map Node.toRecord).map Node.shape.encode) =
      canvas.nodes.map Node.toValue := by
    rw [Json.sortedItems_eq_map, List.map_map, List.map_map]
    rfl
  have hedges : Json.sortedItems ((canvas.edges.map Edge.toRecord).map Edge.shape.encode) =
      canvas.edges.map Edge.toValue := by
    rw [Json.sortedItems_eq_map, List.map_map, List.map_map]
    rfl
  rw [← hnodes, ← hedges]
  rfl

theorem ofValue_sorted {number : Number → Prop} {canvas : Canvas}
    (h : ∀ n ∈ canvas.nodes, (∀ v ∈ n.raws, v.Everywhere number Ascending) ∧
      n.data.coinDecimals ≠ some .null) : ofValue canvas.toValue.sorted = .ok canvas := by
  have hdistinct : shape.isDistinct = true := by decide
  refine map_eq_ok_iff.mpr ⟨canvas.toRecord, ?_, canvas.ofRecord_toRecord⟩
  exact Shape.ofValue_sorted shape hdistinct (holds_toRecord h)

end MoveCanvas.Canvas
