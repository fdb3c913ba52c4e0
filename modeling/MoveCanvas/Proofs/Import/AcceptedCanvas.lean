import MoveCanvas.Proofs.Canvas.Conversion
import MoveCanvas.Proofs.Canvas.NodeCodec
import MoveCanvas.Proofs.Import.InferredEdges
import MoveCanvas.Proofs.Json.Members

/-! # What acceptance returns

A response that is accepted is an object whose array of nodes and array of edges are read element by
element. The canvas has the nodes in this order, then come the edges in theirs and after them the
edges of the wiring; its graph is the canvas converted. -/

namespace MoveCanvas

namespace Json

theorem Presence.Takes.decode_of_mem {read : Document → Except DecodeError α} {presence : Presence}
    {members : List (String × Document)} {slot : presence.Slot α} {member : String × Document}
    (h : presence.Takes read members slot) (hmem : member ∈ members) :
    presence.decode read member.2 = .ok slot := by
  rcases members with _ | ⟨only, _ | ⟨second, others⟩⟩
  · cases hmem
  · rw [List.mem_singleton.mp hmem]
    exact h
  · exact h.elim

theorem Shape.forall₂_of_takes {item : Shape} {name : String} {values : List Json}
    {members : List (String × Document)} {slot : Option (List item.Val)}
    (h : Presence.optional.Takes ((Shape.list item).decode .value) members slot)
    (hmem : (name, Document.ofValue (.arr values)) ∈ members) :
    ∃ records, slot = some records ∧
      List.Forall₂ (fun value record => item.ofValue value = .ok record) values records := by
  obtain ⟨records, hrecords, rfl⟩ := map_eq_ok_iff.mp (h.decode_of_mem hmem)
  obtain ⟨inner, henter, hread⟩ := Shape.decode_items hrecords
  cases henter
  rw [Document.ofItems_eq_map, mapM_eq_ok_iff, List.forall₂_map_left_iff] at hread
  exact ⟨records, rfl, hread⟩

end Json

namespace Canvas

def Edge.ofValue (value : Json) : Except Json.DecodeError Edge :=
  ofRecord <$> Edge.shape.ofValue value

theorem forall₂_of_ofValue {members : List (String × Json)} {nodes edges : List Json}
    {canvas : Canvas} (h : ofValue (.obj members) = .ok canvas)
    (hnodes : members.lookup "nodes" = some (.arr nodes))
    (hedges : members.lookup "edges" = some (.arr edges)) :
    List.Forall₂ (fun value node => Node.ofValue value = .ok node) nodes canvas.nodes ∧
      List.Forall₂ (fun value edge => Edge.ofValue value = .ok edge) edges canvas.edges := by
  obtain ⟨⟨nodeSlot, edgeSlot, ⟨⟩⟩, hrecord, rfl⟩ := map_eq_ok_iff.mp h
  have hmem {key : String} {value : Json} (hlookup : members.lookup key = some value) :
      (key, Json.Document.ofValue value) ∈ Json.documents members := by
    obtain ⟨front, back, rfl, -⟩ := List.lookup_eq_some_iff.mp hlookup
    exact List.mem_map_of_mem (List.mem_append_right front List.mem_cons_self)
  rw [Json.Shape.ofValue, Json.Document.ofValue, Json.Document.ofMembers_eq_keyed] at hrecord
  obtain ⟨inner, henter, hnodeSlot, hedgeSlot, -⟩ :=
    (Json.Shape.decode_object_iff (Json.isWhole_documents members)).mp hrecord
  cases henter
  obtain ⟨nodeRecords, rfl, hnodeRecords⟩ := Json.Shape.forall₂_of_takes hnodeSlot
    (List.mem_filter.mpr ⟨hmem hnodes, rfl⟩)
  obtain ⟨edgeRecords, rfl, hedgeRecords⟩ := Json.Shape.forall₂_of_takes hedgeSlot
    (List.mem_filter.mpr ⟨List.mem_filter.mpr ⟨hmem hedges, rfl⟩, rfl⟩)
  constructor
  · refine List.forall₂_map_right_iff.mpr (hnodeRecords.imp fun _ _ hread => ?_)
    exact map_eq_ok_iff.mpr ⟨_, hread, rfl⟩
  · refine List.forall₂_map_right_iff.mpr (hedgeRecords.imp fun _ _ hread => ?_)
    exact map_eq_ok_iff.mpr ⟨_, hread, rfl⟩

end Canvas

namespace Response

/-- The text in the response is an object. It has an array of nodes, which is not empty, and one of
edges; each node and each edge of the canvas is read from the element at its place. -/
structure Carries (response : String) (members : List (String × Json)) (nodes edges : List Json)
    (canvas : Canvas) : Prop where
  text : Json.ofText (String.ofList (withoutFence response.toList)) = .ok (.obj members)
  nodeArray : members.lookup "nodes" = some (.arr nodes)
  edgeArray : members.lookup "edges" = some (.arr edges)
  hasNode : nodes ≠ []
  readNodes : List.Forall₂ (fun value node => Canvas.Node.ofValue value = .ok node) nodes canvas.nodes
  readEdges : List.Forall₂ (fun value edge => Canvas.Edge.ofValue value = .ok edge) edges canvas.edges

theorem exists_carries_of_parse {response : String} {canvas : Canvas}
    (h : parse response = .ok canvas) :
    ∃ members nodes edges, Carries response members nodes edges canvas := by
  obtain ⟨value, nodes, edges, htext, hnodes, hedges, hsome, hcanvas⟩ := parse_eq_ok_iff.mp h
  cases value with
  | obj members =>
      obtain ⟨hreadNodes, hreadEdges⟩ := Canvas.forall₂_of_ofValue hcanvas hnodes hedges
      exact ⟨members, nodes, edges, htext, hnodes, hedges, hsome, hreadNodes, hreadEdges⟩
  | _ => cases hnodes

/-- An accepted response is an object with the two arrays. The canvas has one node an element, with
distinct ids, then the edges of the response and after them as many as are reported to be inferred:
those that wire the nodes. The graph is the canvas converted. -/
theorem carries_and_wires_of_accept {response : String} {imported : Imported}
    (h : accept response = .ok imported) :
    ∃ members nodes edges own inferred,
      Carries response members nodes edges ⟨imported.canvas.nodes, own⟩ ∧
      (imported.canvas.nodes.map (·.id)).Nodup ∧
      imported.canvas.edges = own ++ inferred ∧ inferred.length = imported.inferred ∧
      Wiring.Wires imported.canvas.nodes inferred ∧
      imported.canvas.toGraph = .ok imported.graph := by
  obtain ⟨canvas, hparse, h⟩ := bind_eq_ok_iff.mp h
  obtain ⟨graph, hgraph, h⟩ := bind_eq_ok_iff.mp h
  cases h
  have hgraph : (wired canvas).toGraph = .ok graph := mapError_eq_ok_iff.mp hgraph
  have hids : (canvas.nodes.map (·.id)).Nodup := (Canvas.convertsTo_of_toGraph hgraph).2
  obtain ⟨members, nodes, edges, hcarries⟩ := exists_carries_of_parse hparse
  exact ⟨members, nodes, edges, canvas.edges, Wiring.inferred canvas.nodes, hcarries, hids, rfl, rfl,
    Wiring.wires_inferred hids, hgraph⟩

theorem carries_and_wires_of_accept_gold :
    let canvas : Canvas := ⟨[("s-1", Canvas.structType, "TreasuryCap"),
        ("s-2", Canvas.structType, "TreasuryCap"), ("f-1", Canvas.functionType, "coin::mint"),
        ("f-2", Canvas.functionType, "transfer::transfer"),
        ("f-3", Canvas.functionType, "transfer::transfer")].map fun (id, type, label) =>
          ⟨id, some type, .null, .ofLabel label, false⟩, [⟨none, "s-2", none, "f-1", none⟩]⟩
    ∃ imported own inferred, accept canvas.toValue.pretty = .ok imported ∧
      imported.canvas.edges = own ++ inferred ∧ inferred.length = 3 ∧
      Wiring.Wires imported.canvas.nodes inferred ∧
      imported.canvas.toGraph = .ok imported.graph := by
  intro canvas
  have hparse : parse canvas.toValue.pretty = .ok canvas :=
    parse_write_of_bare (List.cons_ne_nil _ _) (List.forall_mem_map.mpr fun _ _ => ⟨rfl, rfl⟩)
      Json.Layout.isBlank_indented
  obtain ⟨imported, haccept, hcount⟩ : ∃ imported,
      accept canvas.toValue.pretty = .ok imported ∧ imported.inferred = 3 :=
    ⟨_, (accept_of_parse hparse).trans rfl, rfl⟩
  obtain ⟨-, -, -, own, inferred, -, -, hedges, hlength, hwires, hgraph⟩ :=
    carries_and_wires_of_accept haccept
  exact ⟨imported, own, inferred, haccept, hedges, hlength.trans hcount, hwires, hgraph⟩

end Response

end MoveCanvas
