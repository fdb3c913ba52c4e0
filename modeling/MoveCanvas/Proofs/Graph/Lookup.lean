import Mathlib.Data.List.Nodup
import MoveCanvas.Canvas.Conversion

/-! # Lookups by id

The index of the nodes by their ids and the search through their list find the same node at the same
position, also where ids occur again: it is the first that has the id. A graph passes the check for
unique ids exactly if the lookup of the id of each node stops at the node itself, and then both ways
of lookup reach every node. -/

namespace MoveCanvas

section

variable {α : Type u} {key : α → String} {values : List α} {a : α}

theorem find?_key_of_nodup (h : (values.map key).Nodup) (ha : a ∈ values) :
    values.find? (key · = key a) = some a := by
  have hsome : (values.find? (key · = key a)).isSome = true :=
    List.find?_isSome.mpr ⟨a, ha, decide_eq_true rfl⟩
  obtain ⟨found, hfound⟩ := Option.isSome_iff_exists.mp hsome
  have hkey : key found = key a := by simpa using List.find?_some hfound
  rw [hfound, List.inj_on_of_nodup_map h (List.mem_of_find?_eq_some hfound) ha hkey]

theorem nodup_keys_iff_find? (hvalues : values.Nodup) :
    (values.map key).Nodup ↔ ∀ a ∈ values, values.find? (key · = key a) = some a := by
  refine ⟨fun h a ha => find?_key_of_nodup h ha, fun h => hvalues.map_on fun a ha b hb hkey => ?_⟩
  apply Option.some.inj
  rw [← h a ha, ← h b hb, hkey]

end

namespace Graph

theorem node?_id_of_mem {graph : Graph} {node : Graph.Node}
    (hids : (graph.nodes.map (·.id)).Nodup) (hmem : node ∈ graph.nodes) :
    graph.node? node.id = some node :=
  find?_key_of_nodup hids hmem

/-- The nodes with their positions, which tell equal nodes apart. -/
def places (graph : Graph) : List (Node × Nat) :=
  graph.nodes.zipIdx

def place? (graph : Graph) (id : String) : Option (Node × Nat) :=
  graph.places.find? (·.1.id = id)

def placesById (graph : Graph) : Index (Node × Nat) :=
  .ofList (·.1.id) graph.places

variable {graph : Graph}

theorem map_fst_places (graph : Graph) : graph.places.map Prod.fst = graph.nodes :=
  List.zipIdx_map_fst 0 graph.nodes

theorem map_id_places (graph : Graph) : graph.places.map (·.1.id) = graph.nodes.map (·.id) := by
  rw [← map_fst_places, List.map_map]
  rfl

theorem nodup_places (graph : Graph) : graph.places.Nodup := by
  apply List.Nodup.of_map Prod.snd
  rw [places, List.zipIdx_map_snd]
  exact List.nodup_range'

theorem map_place? (graph : Graph) (id : String) :
    (graph.place? id).map Prod.fst = graph.node? id := by
  rw [node?, ← map_fst_places, List.find?_map]
  rfl

theorem get?_placesById (graph : Graph) (id : String) :
    graph.placesById.get? id = graph.place? id :=
  Index.get?_ofList (fun place : Node × Nat => place.1.id) graph.places id

theorem withUniqueIds_iff_place? :
    graph.withUniqueIds = .ok graph ↔
      ∀ place ∈ graph.places, graph.place? place.1.id = some place := by
  rw [withUniqueIds_eq_ok_iff, and_iff_left rfl, ← map_id_places,
    nodup_keys_iff_find? (nodup_places graph)]
  rfl

/-- The index and the search agree on every id. The check for unique ids passes exactly if the
search for the id of each node stops at its own position, and then both reach every node. -/
theorem lookups_agree_and_reach (graph : Graph) :
    (∀ id, graph.nodesById.get? id = graph.node? id ∧
      graph.placesById.get? id = graph.place? id ∧
      (graph.place? id).map Prod.fst = graph.node? id) ∧
    (graph.withUniqueIds = .ok graph ↔
      ∀ place ∈ graph.places, graph.place? place.1.id = some place) ∧
    (graph.withUniqueIds = .ok graph → ∀ place ∈ graph.places,
      (graph.place? place.1.id = some place ∧ graph.placesById.get? place.1.id = some place) ∧
      graph.node? place.1.id = some place.1 ∧ graph.nodesById.get? place.1.id = some place.1) := by
  refine ⟨fun id => ⟨get?_nodesById graph id, get?_placesById graph id, map_place? graph id⟩,
    withUniqueIds_iff_place?, fun hunique place hplace => ?_⟩
  have hself := withUniqueIds_iff_place?.mp hunique place hplace
  have hnode : graph.node? place.1.id = some place.1 := by
    rw [← map_place?, hself, Option.map_some]
  exact ⟨⟨hself, (get?_placesById graph _).trans hself⟩, hnode,
    (get?_nodesById graph _).trans hnode⟩

theorem lookups_agree_and_reach_twins :
    let graph : Graph :=
      ⟨[⟨"o-1", "note", none, .other "note"⟩, ⟨"o-2", "note", none, .other "note"⟩], []⟩
    graph.withUniqueIds = .ok graph ∧
      ∀ place ∈ graph.places, graph.placesById.get? place.1.id = some place := by
  intro graph
  have hunique : graph.withUniqueIds = .ok graph := by decide
  obtain ⟨-, -, hreach⟩ := lookups_agree_and_reach graph
  exact ⟨hunique, fun place hplace => (hreach hunique place hplace).1.2⟩

/-- Of two nodes with one id the first is found, be the second equal to it or not. -/
example :
    let graph : Graph := ⟨[⟨"o-1", "note", none, .other "note"⟩,
      ⟨"o-1", "todo", none, .other "note"⟩, ⟨"o-1", "note", none, .other "note"⟩], []⟩
    graph.placesById.get? "o-1" = some (⟨"o-1", "note", none, .other "note"⟩, 0) ∧
      graph.withUniqueIds = .error (.repeatedId "o-1") := by decide

end Graph

end MoveCanvas
