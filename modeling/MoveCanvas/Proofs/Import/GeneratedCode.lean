import MoveCanvas.Proofs.Import.WrittenCanvas
import MoveCanvas.Proofs.Plan.WitnessFlow

/-! # Automatic wiring and generated code

Every edge of the wiring ends in the first parameter of a function, so that none enters the witness
slot of an initializer, whatever ids the nodes have. Of an accepted response the wiring therefore
shows in the graph and in no text. -/

namespace MoveCanvas

theorem Wiring.targetHandle_of_mem {nodes : List Canvas.Node} {edge : Canvas.Edge}
    (h : edge ∈ inferred nodes) : edge.targetHandle = some "param-0" := by
  have hjoin {tag handle : String} {sources targets : List Canvas.Node}
      (h : edge ∈ join tag handle sources targets) : edge.targetHandle = some "param-0" := by
    obtain ⟨source, -, h⟩ := List.mem_flatMap.mp h
    obtain ⟨target, -, rfl⟩ := List.mem_map.mp h
    rfl
  rcases List.mem_append.mp h with h | h
  · rcases List.mem_append.mp h with h | h
    · exact hjoin h
    · exact hjoin h
  · exact hjoin h

theorem Wiring.entersWitness_of_mem {nodes : List Canvas.Node} {edge : Graph.Edge}
    (h : edge ∈ (inferred nodes).map Canvas.Edge.toGraph) :
    edge.targetHandle.entersWitness = false := by
  have hparam : (Handle.ofWire (some "param-0")).entersWitness = false := by decide
  obtain ⟨edge, hedge, rfl⟩ := List.mem_map.mp h
  rw [Canvas.Edge.toGraph, targetHandle_of_mem hedge]
  exact hparam

namespace Response

theorem ofGraph_wired (nodes : List Canvas.Node) (graph : Graph) (name : String)
    (defaults : Defaults) (intents : Intent.Table) :
    Package.ofGraph name { graph with
      edges := graph.edges ++ (Wiring.inferred nodes).map Canvas.Edge.toGraph } defaults intents =
        Package.ofGraph name graph defaults intents := by
  have hflow : Graph.witnessFlow ⟨graph.nodes,
      graph.edges ++ (Wiring.inferred nodes).map Canvas.Edge.toGraph⟩ =
        Graph.witnessFlow ⟨graph.nodes, graph.edges⟩ :=
    Graph.witnessFlow_append graph.edges fun _ hedge => Wiring.entersWitness_of_mem hedge
  exact (Graph.plansAlike_of_witnessFlow_eq hflow).package_eq name defaults intents

/-- A response that carries a canvas is accepted unless the canvas is no graph, and then refused for
the same reason. Its accepted graph compiles to what the graph of the canvas compiles to, be that a
package or an error, under every name, with all defaults and intents. -/
theorem ofGraph_accept {response : String} {canvas : Canvas} (h : parse response = .ok canvas) :
    (∀ error, accept response = .error error ↔
      ∃ cause, canvas.toGraph = .error cause ∧ error = .conversion cause) ∧
    ∀ graph, canvas.toGraph = .ok graph → ∃ imported, accept response = .ok imported ∧
      ∀ name defaults intents, Package.ofGraph name imported.graph defaults intents =
        Package.ofGraph name graph defaults intents := by
  have haccept := accept_of_parse h
  cases hgraph : canvas.toGraph with
  | error cause =>
      rw [hgraph] at haccept
      refine ⟨fun error => ?_, nofun⟩
      rw [haccept]
      constructor
      · rintro ⟨⟩
        exact ⟨cause, rfl, rfl⟩
      · rintro ⟨_, ⟨⟩, rfl⟩
        rfl
  | ok graph =>
      rw [hgraph] at haccept
      refine ⟨fun error => ?_, ?_⟩
      · rw [haccept]
        exact ⟨nofun, nofun⟩
      · rintro _ ⟨⟩
        exact ⟨_, haccept, fun name defaults intents => ofGraph_wired ..⟩

theorem ofGraph_accept_gold :
    let canvas : Canvas := ⟨[("s-1", Canvas.structType, "GOLD"),
        ("s-2", Canvas.structType, "TreasuryCap"), ("i-1", Canvas.initType, "CoinInit"),
        ("f-1", Canvas.functionType, "coin::mint"),
        ("f-2", Canvas.functionType, "transfer::transfer")].map fun (id, type, label) =>
          ⟨id, some type, .null, .ofLabel label, false⟩,
      [⟨none, "s-1", none, "i-1", some "witness-input"⟩]⟩
    let response := canvas.toValue.pretty
    parse response = .ok canvas ∧ ∃ graph imported package, canvas.toGraph = .ok graph ∧
      accept response = .ok imported ∧ imported.graph.edges.length = 3 ∧
      Package.ofGraph "gold" graph .builtIn .empty = .ok package ∧
      Package.ofGraph "gold" imported.graph .builtIn .empty = .ok package := by
  intro canvas response
  have hparse : parse response = .ok canvas :=
    parse_write_of_bare (List.cons_ne_nil _ _) (List.forall_mem_map.mpr fun _ _ => ⟨rfl, rfl⟩)
      Json.Layout.isBlank_indented
  obtain ⟨graph, hgraph⟩ : ∃ graph, canvas.toGraph = .ok graph := ⟨_, rfl⟩
  obtain ⟨imported, haccept, hsame⟩ := (ofGraph_accept hparse).2 graph hgraph
  have hwired : imported.graph.edges.length = 3 := by
    rw [accept_of_parse hparse, hgraph] at haccept
    cases haccept
    cases hgraph
    rfl
  obtain ⟨package, hpackage⟩ : ∃ package,
      Package.ofGraph "gold" graph .builtIn .empty = .ok package := by
    cases hgraph
    exact ⟨_, rfl⟩
  exact ⟨hparse, graph, imported, package, hgraph, haccept, hwired, hpackage,
    (hsame "gold" .builtIn .empty).trans hpackage⟩

end Response

end MoveCanvas
