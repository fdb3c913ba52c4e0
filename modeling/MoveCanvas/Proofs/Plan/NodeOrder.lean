import MoveCanvas.Proofs.Plan.Dependence
import MoveCanvas.Proofs.Plan.WitnessSource

/-! # The order of nodes

The order of nodes matters within each kind alone. How structs, functions, initializers and
decorations are mixed changes no module. Decorations may come and go as well, except one that is
wired into an initializer: its name could be the witness. -/

namespace MoveCanvas

namespace Graph

def FeedsInit (graph : Graph) (id : String) : Prop :=
  ∃ edge ∈ graph.edges, edge.source = id ∧ edge.target ∈ graph.inits.map (·.1.id)

/-- The same edges, the same nodes of each kind in the same order, and among the decorations the
same that are wired into an initializer. -/
structure SameByKind (graph graph' : Graph) : Prop where
  edges : graph.edges = graph'.edges
  structs : graph.structs = graph'.structs
  functions : graph.functions = graph'.functions
  inits : graph.inits = graph'.inits
  others : ∀ node type, node.kind = .other type → graph.FeedsInit node.id →
    (node ∈ graph.nodes ↔ node ∈ graph'.nodes)

variable {graph graph' : Graph} {node : Node} {id : String}

theorem node?_eq_some_iff (hids : (graph.nodes.map (·.id)).Nodup) :
    graph.node? id = some node ↔ node ∈ graph.nodes ∧ node.id = id := by
  constructor
  · intro h
    exact ⟨List.mem_of_find?_eq_some h, id_of_node? h⟩
  · rintro ⟨hmem, rfl⟩
    exact node?_id_of_mem hids hmem

theorem feedsInit_of_mem_witnessSources {init : Node × Currency} (hinits : graph.inits = [init])
    (h : id ∈ graph.witnessSources init.1.id) : graph.FeedsInit id := by
  rw [witnessSources_eq_map_slotEdges] at h
  obtain ⟨edge, hedge, rfl⟩ := List.mem_map.mp h
  obtain ⟨hmem, hslot⟩ := List.mem_filter.mp hedge
  have htarget : edge.target = init.1.id := (of_decide_eq_true hslot).1
  refine ⟨edge, hmem, rfl, ?_⟩
  rw [hinits, htarget]
  exact List.mem_singleton_self _

theorem mem_nodes_iff_of_pick {pick : Kind → Option α} {a : α} (hpick : pick node.kind = some a)
    (h : graph.nodes.filterMap (fun node => (pick node.kind).map (node, ·)) =
      graph'.nodes.filterMap fun node => (pick node.kind).map (node, ·)) :
    node ∈ graph.nodes ↔ node ∈ graph'.nodes := by
  have hmem (g : Graph) : (node, a) ∈ g.nodes.filterMap (fun node => (pick node.kind).map (node, ·)) ↔
      node ∈ g.nodes := mem_filterMap_kind_iff.trans (and_iff_left hpick)
  rw [← hmem graph, ← hmem graph', h]

namespace SameByKind

theorem mem_nodes_iff (h : graph.SameByKind graph') (hfeeds : graph.FeedsInit node.id) :
    node ∈ graph.nodes ↔ node ∈ graph'.nodes := by
  cases hkind : node.kind with
  | struct spec =>
      have hpick : Kind.struct? node.kind = some spec := by rw [hkind]; rfl
      exact mem_nodes_iff_of_pick hpick h.structs
  | function params =>
      have hpick : Kind.params? node.kind = some params := by rw [hkind]; rfl
      exact mem_nodes_iff_of_pick hpick h.functions
  | init currency =>
      have hpick : Kind.currency? node.kind = some currency := by rw [hkind]; rfl
      exact mem_nodes_iff_of_pick hpick h.inits
  | other type => exact h.others node type hkind hfeeds

/-- Distinct ids make the lookup a matter of membership, so that the order plays no part. -/
theorem node?_eq (h : graph.SameByKind graph') (hids : (graph.nodes.map (·.id)).Nodup)
    (hids' : (graph'.nodes.map (·.id)).Nodup) (hfeeds : graph.FeedsInit id) :
    graph.node? id = graph'.node? id := by
  apply Option.ext
  intro node
  rw [node?_eq_some_iff hids, node?_eq_some_iff hids']
  apply and_congr_left
  rintro rfl
  exact h.mem_nodes_iff hfeeds

theorem plansAlike (h : graph.SameByKind graph') (hids : (graph.nodes.map (·.id)).Nodup)
    (hids' : (graph'.nodes.map (·.id)).Nodup) : graph.PlansAlike graph' where
  structs := h.structs
  functions := h.functions
  inits := h.inits
  connected init hinits := by
    apply connectedWitness_congr
    · simp only [witnessSources, incoming, h.edges]
    · intro source hsource
      exact h.node?_eq hids hids' (feedsInit_of_mem_witnessSources hinits hsource)

end SameByKind

end Graph

namespace Package

variable {graph graph' : Graph}

/-- Graphs that differ in how their kinds of nodes are mixed, and in decorations that are not wired
into an initializer, give the same package or the same error. -/
theorem ofGraph_eq_of_sameByKind (name : String) (defaults : Defaults) (intents : Intent.Table)
    (h : graph.SameByKind graph') (hids : (graph.nodes.map (·.id)).Nodup)
    (hids' : (graph'.nodes.map (·.id)).Nodup) :
    ofGraph name graph defaults intents = ofGraph name graph' defaults intents := by
  have halike := h.plansAlike hids hids'
  exact halike.package_eq name defaults intents

theorem ofGraph_eq_shuffled :
    let gem : Graph.Node := ⟨"o-1", "Gem", none, .other "note"⟩
    let gold : Graph.Node := ⟨"s-1", "GOLD", none, .struct ⟨[⟨"id", "UID"⟩], .keyStore, false⟩⟩
    let silver : Graph.Node := ⟨"s-2", "SILVER", none, .struct ⟨[], .keyStore, true⟩⟩
    let mint : Graph.Node := ⟨"f-1", "coin::mint", none, .function [⟨"cap", "TreasuryCap"⟩]⟩
    let init : Graph.Node := ⟨"i-1", "CoinInit", none, .init ⟨"", "", none, ""⟩⟩
    let edges : List Graph.Edge := [⟨"o-1", .other "", "i-1", .unspecified⟩,
      ⟨"f-1", .returnValue, "o-2", .unspecified⟩]
    let graph : Graph :=
      ⟨[gold, silver, gem, mint, init, ⟨"o-2", "todo", none, .other "note"⟩], edges⟩
    let graph' : Graph :=
      ⟨[⟨"o-2", "transfer", none, .other "note"⟩, init, mint, gold, gem, silver], edges⟩
    graph.SameByKind graph' ∧ (graph.nodes.map (·.id)).Nodup ∧ (graph'.nodes.map (·.id)).Nodup ∧
      ofGraph "m" graph .builtIn .empty = ofGraph "m" graph' .builtIn .empty := by
  intro gem gold silver mint init edges graph graph'
  have hkept : ∀ node ∈ graph.nodes, node.id = "o-1" → node ∈ graph'.nodes := by decide
  have hkept' : ∀ node ∈ graph'.nodes, node.id = "o-1" → node ∈ graph.nodes := by decide
  have hsources : ∀ edge ∈ edges, edge.target ∈ graph.inits.map (·.1.id) → edge.source = "o-1" := by
    decide
  have h : graph.SameByKind graph' :=
    { edges := rfl
      structs := rfl
      functions := rfl
      inits := rfl
      others := by
        rintro node type - ⟨edge, hedge, hsource, htarget⟩
        have hid : node.id = "o-1" := hsource.symm.trans (hsources edge hedge htarget)
        exact ⟨fun hmem => hkept node hmem hid, fun hmem => hkept' node hmem hid⟩ }
  have hids : (graph.nodes.map (·.id)).Nodup := by decide
  have hids' : (graph'.nodes.map (·.id)).Nodup := by decide
  exact ⟨h, hids, hids', ofGraph_eq_of_sameByKind "m" .builtIn .empty h hids hids'⟩

end Package

end MoveCanvas
