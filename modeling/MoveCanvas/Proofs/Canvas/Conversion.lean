import MoveCanvas.Proofs.Canvas.Decimals
import MoveCanvas.Proofs.Except

/-! # Converting a canvas

A canvas is converted node by node and edge by edge, with nothing lost and nothing moved, unless an
initializer has decimals that are not acceptable or an id occurs twice. Of the two the decimals are
reported first, those of the first such initializer; otherwise it is the first id that occurs again. -/

namespace MoveCanvas

theorem Graph.exists_of_firstRepeat {seen ids : List String} {id : String}
    (h : firstRepeat seen ids = some id) : ∃ front back, ids = front ++ id :: back ∧
      firstRepeat seen front = none ∧ (id ∈ front ∨ id ∈ seen) := by
  induction ids generalizing seen with
  | nil => cases h
  | cons first rest ih =>
      simp only [firstRepeat] at h
      split at h
      · next hseen =>
        cases h
        exact ⟨[], rest, rfl, rfl, Or.inr hseen⟩
      · next hnew =>
        obtain ⟨front, back, rfl, hfront, hid⟩ := ih h
        refine ⟨first :: front, back, rfl, ?_, ?_⟩
        · rw [firstRepeat, if_neg hnew, hfront]
        · rw [List.mem_cons] at hid ⊢
          rcases hid with hid | rfl | hid
          · exact Or.inl (Or.inr hid)
          · exact Or.inl (Or.inl rfl)
          · exact Or.inr hid

namespace Canvas

def Node.HasAcceptableDecimals (node : Node) : Prop :=
  node.type = some initType → ∃ d, StatesDecimals node.data.coinDecimals d

/-- The kind that the type of a node asks for, with the part of the payload that belongs to it. -/
inductive Node.HasKind (node : Node) : Graph.Kind → Prop
  | struct (htype : node.type = some structType) :
      HasKind node (.struct
        { fields := node.data.fields.getD []
          abilities := node.data.abilities.getD .keyStore
          imported := node.data.imported })
  | function (htype : node.type = some functionType) :
      HasKind node (.function (node.data.params.getD []))
  | init {d : Option UInt8} (htype : node.type = some initType)
      (hdecimals : StatesDecimals node.data.coinDecimals d) :
      HasKind node (.init
        { name := node.data.coinName.getD ""
          symbol := node.data.coinSymbol.getD ""
          decimals := d
          description := node.data.coinDescription.getD "" })
  | other (hstruct : node.type ≠ some structType) (hfunction : node.type ≠ some functionType)
      (hinit : node.type ≠ some initType) : HasKind node (.other (node.type.getD plainType))

structure Node.ConvertsTo (node : Node) (converted : Graph.Node) : Prop where
  id : converted.id = node.id
  label : converted.label = node.data.label
  title : converted.title = node.data.title
  kind : node.HasKind converted.kind

section

variable {node : Node} {kind : Graph.Kind} {converted : Graph.Node} {error : ConversionError}

theorem Node.HasKind.hasAcceptableDecimals (h : node.HasKind kind) : node.HasAcceptableDecimals := by
  intro hinit
  cases h with
  | struct htype =>
      rw [htype] at hinit
      exact absurd hinit (by decide)
  | function htype =>
      rw [htype] at hinit
      exact absurd hinit (by decide)
  | init _ hdecimals => exact ⟨_, hdecimals⟩
  | other _ _ hother => exact absurd hinit hother

theorem Node.hasKind_of_kind (h : node.kind = .ok kind) : node.HasKind kind := by
  unfold Node.kind at h
  split at h
  · next htype =>
    cases h
    exact .struct htype
  · next hstruct =>
    split at h
    · next htype =>
      cases h
      exact .function htype
    · next hfunction =>
      split at h
      · next htype =>
        obtain ⟨d, hd, h⟩ := bind_eq_ok_iff.mp h
        cases h
        exact .init htype (decimals_eq_ok_iff.mp hd)
      · next hinit =>
        cases h
        exact .other hstruct hfunction hinit

theorem Node.decimals_of_kind_eq_error (h : node.kind = .error error) :
    node.type = some initType ∧ decimals node.id node.data.coinDecimals = .error error := by
  unfold Node.kind at h
  split at h
  · cases h
  · split at h
    · cases h
    · split at h
      · next htype =>
        rcases bind_eq_error_iff.mp h with h | ⟨d, -, h⟩
        · exact ⟨htype, h⟩
        · cases h
      · cases h

theorem Node.convertsTo_of_toGraph (h : node.toGraph = .ok converted) : node.ConvertsTo converted := by
  obtain ⟨kind, hkind, h⟩ := bind_eq_ok_iff.mp h
  cases h
  exact ⟨rfl, rfl, rfl, hasKind_of_kind hkind⟩

theorem Node.exists_of_toGraph_eq_error (h : node.toGraph = .error error) :
    ¬ node.HasAcceptableDecimals ∧ ∃ raw, node.data.coinDecimals = some raw ∧
      error = .badDecimals node.id (shown raw) := by
  rcases bind_eq_error_iff.mp h with h | ⟨kind, -, h⟩
  · obtain ⟨htype, hdecimals⟩ := decimals_of_kind_eq_error h
    obtain ⟨raw, hraw, hnone, rfl⟩ := decimals_eq_error_iff.mp hdecimals
    refine ⟨fun hacceptable => ?_, raw, hraw, rfl⟩
    obtain ⟨d, hd⟩ := hacceptable htype
    exact hnone d hd
  · cases h

end

structure Edge.ConvertsTo (edge : Edge) (converted : Graph.Edge) : Prop where
  source : converted.source = edge.source
  sourceHandle : converted.sourceHandle = .ofWire edge.sourceHandle
  target : converted.target = edge.target
  targetHandle : converted.targetHandle = .ofWire edge.targetHandle

/-- The graph has a node for each node and an edge for each edge, in the same order. -/
structure ConvertsTo (canvas : Canvas) (graph : Graph) : Prop where
  nodes : List.Forall₂ Node.ConvertsTo canvas.nodes graph.nodes
  edges : List.Forall₂ Edge.ConvertsTo canvas.edges graph.edges

inductive IsRefusedWith (canvas : Canvas) : ConversionError → Prop
  | badDecimals {front node back raw} (hnodes : canvas.nodes = front ++ node :: back)
      (hfront : ∀ earlier ∈ front, earlier.HasAcceptableDecimals)
      (hbad : ¬ node.HasAcceptableDecimals) (hraw : node.data.coinDecimals = some raw) :
      IsRefusedWith canvas (.badDecimals node.id (shown raw))
  | repeatedId {front node back} (hgood : ∀ node ∈ canvas.nodes, node.HasAcceptableDecimals)
      (hnodes : canvas.nodes = front ++ node :: back) (hfront : (front.map (·.id)).Nodup)
      (hrepeat : node.id ∈ front.map (·.id)) : IsRefusedWith canvas (.repeatedId node.id)

variable {canvas : Canvas} {graph : Graph} {error : ConversionError} {nodes : List Node}
  {converted : List Graph.Node}

theorem ids_eq_of_convertsTo (h : List.Forall₂ Node.ConvertsTo nodes converted) :
    converted.map (·.id) = nodes.map (·.id) := by
  induction h with
  | nil => rfl
  | cons hhead _ ih => rw [List.map_cons, List.map_cons, hhead.id, ih]

theorem forall_hasAcceptableDecimals (h : List.Forall₂ Node.ConvertsTo nodes converted) :
    ∀ node ∈ nodes, node.HasAcceptableDecimals := by
  induction h with
  | nil => exact fun _ hmem => absurd hmem List.not_mem_nil
  | cons hhead _ ih => exact List.forall_mem_cons.mpr ⟨hhead.kind.hasAcceptableDecimals, ih⟩

theorem forall₂_convertsTo (h : nodes.mapM Node.toGraph = .ok converted) :
    List.Forall₂ Node.ConvertsTo nodes converted :=
  (mapM_eq_ok_iff.mp h).imp fun _ _ => Node.convertsTo_of_toGraph

theorem convertsTo_of_toGraph (h : canvas.toGraph = .ok graph) :
    canvas.ConvertsTo graph ∧ (canvas.nodes.map (·.id)).Nodup := by
  obtain ⟨converted, hconverted, h⟩ := bind_eq_ok_iff.mp h
  obtain ⟨hnodup, rfl⟩ := Graph.withUniqueIds_eq_ok_iff.mp h
  have hnodes := forall₂_convertsTo hconverted
  refine ⟨⟨hnodes, ?_⟩, ids_eq_of_convertsTo hnodes ▸ hnodup⟩
  rw [List.forall₂_map_right_iff, List.forall₂_same]
  exact fun _ _ => ⟨rfl, rfl, rfl, rfl⟩

theorem isRefusedWith_of_nodes (h : canvas.nodes.mapM Node.toGraph = .error error) :
    canvas.IsRefusedWith error := by
  obtain ⟨front, node, back, hnodes, hfront, hnode⟩ := exists_of_mapM_eq_error h
  obtain ⟨hbad, raw, hraw, rfl⟩ := Node.exists_of_toGraph_eq_error hnode
  refine .badDecimals hnodes (fun earlier hmem => ?_) hbad hraw
  obtain ⟨converted, hconverted⟩ := hfront earlier hmem
  exact (Node.convertsTo_of_toGraph hconverted).kind.hasAcceptableDecimals

theorem isRefusedWith_of_withUniqueIds {edges : List Graph.Edge}
    (hnodes : List.Forall₂ Node.ConvertsTo canvas.nodes converted)
    (h : Graph.withUniqueIds ⟨converted, edges⟩ = .error error) : canvas.IsRefusedWith error := by
  unfold Graph.withUniqueIds Graph.repeatedId? at h
  rw [ids_eq_of_convertsTo hnodes] at h
  split at h
  · cases h
  · next id hrepeat =>
    cases h
    obtain ⟨ids, rest, hids, hnone, hmem⟩ := Graph.exists_of_firstRepeat hrepeat
    obtain ⟨front, tail, hcanvas, rfl, htail⟩ := List.map_eq_append_iff.mp hids
    obtain ⟨node, back, rfl, rfl, rfl⟩ := List.map_eq_cons_iff.mp htail
    exact .repeatedId (forall_hasAcceptableDecimals hnodes) hcanvas
      (Graph.firstRepeat_eq_none_iff.mp hnone).1 (hmem.resolve_right List.not_mem_nil)

theorem isRefusedWith_of_toGraph (h : canvas.toGraph = .error error) :
    canvas.IsRefusedWith error := by
  rcases bind_eq_error_iff.mp h with h | ⟨converted, hconverted, h⟩
  · exact isRefusedWith_of_nodes h
  · exact isRefusedWith_of_withUniqueIds (forall₂_convertsTo hconverted) h

theorem IsRefusedWith.not_good (h : canvas.IsRefusedWith error) :
    ¬ ((∀ node ∈ canvas.nodes, node.HasAcceptableDecimals) ∧ (canvas.nodes.map (·.id)).Nodup) := by
  rintro ⟨hdecimals, hids⟩
  cases h with
  | badDecimals hnodes _ hbad =>
      rw [hnodes, List.forall_mem_append, List.forall_mem_cons] at hdecimals
      exact hbad hdecimals.2.1
  | repeatedId _ hnodes _ hrepeat =>
      rw [hnodes, List.map_append, List.map_cons] at hids
      exact (List.nodup_append.mp hids).2.2 _ hrepeat _ List.mem_cons_self rfl

/-- A canvas is converted exactly if the decimals of every initializer are acceptable and the ids are
distinct. Then the graph is the conversion of the canvas, and otherwise the error is its refusal. -/
theorem toGraph_converts_or_refuses (canvas : Canvas) :
    ((∃ graph, canvas.toGraph = .ok graph) ↔
      (∀ node ∈ canvas.nodes, node.HasAcceptableDecimals) ∧ (canvas.nodes.map (·.id)).Nodup) ∧
    (∀ graph, canvas.toGraph = .ok graph → canvas.ConvertsTo graph) ∧
    (∀ error, canvas.toGraph = .error error → canvas.IsRefusedWith error) := by
  refine ⟨⟨?_, fun hgood => ?_⟩, fun _ h => (convertsTo_of_toGraph h).1,
    fun _ => isRefusedWith_of_toGraph⟩
  · rintro ⟨graph, h⟩
    obtain ⟨hconverts, hnodup⟩ := convertsTo_of_toGraph h
    exact ⟨forall_hasAcceptableDecimals hconverts.nodes, hnodup⟩
  · cases h : canvas.toGraph with
    | ok graph => exact ⟨graph, rfl⟩
    | error error => exact absurd hgood (isRefusedWith_of_toGraph h).not_good

end Canvas

end MoveCanvas
