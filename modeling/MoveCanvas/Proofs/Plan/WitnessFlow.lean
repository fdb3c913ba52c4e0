import MoveCanvas.Proofs.Plan.Dependence

/-! # What a module takes from the edges of its graph

Of all edges only those into the witness slot of an initializer reach the text of a module, and of
those only their sources. The other edges show in a plan in one place alone: whether a function
feeds a transfer. -/

namespace MoveCanvas

namespace Graph

/-- The sources, in edge order, of the edges into the witness slot of any initializer. -/
def witnessFlow (graph : Graph) : List String :=
  (graph.edges.filter fun edge =>
    edge.target ∈ graph.inits.map (·.1.id) ∧ edge.targetHandle.entersWitness).map (·.source)

theorem witnessSources_eq_witnessFlow {graph : Graph} {init : Node × Currency}
    (h : graph.inits = [init]) : graph.witnessSources init.1.id = graph.witnessFlow := by
  unfold witnessSources incoming witnessFlow
  rw [List.filter_filter, h]
  congr 2
  funext edge
  simp [Bool.and_comm]

theorem witnessFlow_append {nodes : List Node} (edges : List Edge) {others : List Edge}
    (h : ∀ edge ∈ others, edge.targetHandle.entersWitness = false) :
    witnessFlow ⟨nodes, edges ++ others⟩ = witnessFlow ⟨nodes, edges⟩ := by
  have hnone : others.filter (fun edge =>
      edge.target ∈ (inits ⟨nodes, edges ++ others⟩).map (·.1.id) ∧
        edge.targetHandle.entersWitness) = [] := by
    rw [List.filter_eq_nil_iff]
    intro edge hedge
    simp [h edge hedge]
  unfold witnessFlow
  rw [List.filter_append, hnone, List.append_nil]
  rfl

end Graph

variable {nodes : List Graph.Node} {edges edges' : List Graph.Edge}

theorem Graph.plansAlike_of_witnessFlow_eq
    (h : Graph.witnessFlow ⟨nodes, edges⟩ = Graph.witnessFlow ⟨nodes, edges'⟩) :
    Graph.PlansAlike ⟨nodes, edges⟩ ⟨nodes, edges'⟩ where
  structs := rfl
  functions := rfl
  inits := rfl
  connected init hinits := by
    have hinits' : Graph.inits ⟨nodes, edges'⟩ = [init] := hinits
    apply connectedWitness_congr
    · rw [witnessSources_eq_witnessFlow hinits, h, witnessSources_eq_witnessFlow hinits']
    · exact fun _ _ => rfl

theorem Plan.ofGraph_map_withoutTransfers (name : String) (defaults : Defaults) (intents : Intent.Table)
    (h : Graph.witnessFlow ⟨nodes, edges⟩ = Graph.witnessFlow ⟨nodes, edges'⟩) :
    (ofGraph name ⟨nodes, edges⟩ defaults intents).map withoutTransfers =
      (ofGraph name ⟨nodes, edges'⟩ defaults intents).map withoutTransfers :=
  (Graph.plansAlike_of_witnessFlow_eq h).map_withoutTransfers name defaults intents

namespace Package

/-- Two graphs over the same nodes whose edges bring the same sources into the witness slot give
the same package or the same error, and plans that differ at most in the functions that feed a
transfer. -/
theorem ofGraph_eq_of_witnessFlow_eq (name : String) (nodes : List Graph.Node)
    (edges edges' : List Graph.Edge) (defaults : Defaults) (intents : Intent.Table)
    (h : Graph.witnessFlow ⟨nodes, edges⟩ = Graph.witnessFlow ⟨nodes, edges'⟩) :
    ofGraph name ⟨nodes, edges⟩ defaults intents = ofGraph name ⟨nodes, edges'⟩ defaults intents ∧
      (Plan.ofGraph name ⟨nodes, edges⟩ defaults intents).map Plan.withoutTransfers =
        (Plan.ofGraph name ⟨nodes, edges'⟩ defaults intents).map Plan.withoutTransfers := by
  have hplans := Plan.ofGraph_map_withoutTransfers name defaults intents h
  refine ⟨?_, hplans⟩
  calc ofGraph name ⟨nodes, edges⟩ defaults intents
    _ = ((Plan.ofGraph name ⟨nodes, edges⟩ defaults intents).map Plan.withoutTransfers).map
          (ofPlan · defaults) := ofGraph_eq_map_withoutTransfers ..
    _ = ((Plan.ofGraph name ⟨nodes, edges'⟩ defaults intents).map Plan.withoutTransfers).map
          (ofPlan · defaults) := by rw [hplans]
    _ = ofGraph name ⟨nodes, edges'⟩ defaults intents := (ofGraph_eq_map_withoutTransfers ..).symm

theorem ofGraph_eq_rewired :
    let nodes : List Graph.Node := [⟨"s-1", "GOLD", none, .struct ⟨[], .keyStore, false⟩⟩,
      ⟨"i-1", "CoinInit", none, .init ⟨"", "", none, ""⟩⟩,
      ⟨"f-1", "coin::mint", none, .function [⟨"cap", "TreasuryCap"⟩]⟩,
      ⟨"f-2", "transfer::transfer", none, .function [⟨"obj", "T"⟩]⟩]
    let edges : List Graph.Edge := [⟨"s-1", .objectMain, "i-1", .witnessInput⟩]
    let edges' : List Graph.Edge := [⟨"i-1", .objectMain, "i-1", .param 0⟩,
      ⟨"f-1", .returnValue, "f-2", .param 0⟩, ⟨"s-1", .field 3, "i-1", .unspecified⟩,
      ⟨"gone", .objectMain, "f-1", .witnessInput⟩]
    Graph.witnessFlow ⟨nodes, edges⟩ = Graph.witnessFlow ⟨nodes, edges'⟩ ∧
      ofGraph "gold" ⟨nodes, edges⟩ .builtIn .empty = ofGraph "gold" ⟨nodes, edges'⟩ .builtIn .empty :=
  ⟨by decide, (ofGraph_eq_of_witnessFlow_eq _ _ _ _ _ _ (by decide)).1⟩

end Package

end MoveCanvas
