import MoveCanvas.Proofs.Plan.Refusals

/-! # What a module takes from its graph

The text of a module depends on the nodes of each kind, in their order, and on which node is wired
into the one initializer. All else in a graph shows in a plan in one place alone: whether a function
feeds a transfer, which no text depends on. -/

namespace MoveCanvas

/-- Two graphs that agree on all that the text of a module depends on. -/
structure Graph.PlansAlike (graph graph' : Graph) : Prop where
  structs : graph.structs = graph'.structs
  functions : graph.functions = graph'.functions
  inits : graph.inits = graph'.inits
  connected : ∀ init, graph.inits = [init] →
    graph.connectedWitness init.1.id = graph'.connectedWitness init.1.id

variable {graph graph' : Graph}

theorem Graph.connectedWitness_congr {id : String}
    (hsources : graph.witnessSources id = graph'.witnessSources id)
    (hnodes : ∀ source ∈ graph.witnessSources id, graph.node? source = graph'.node? source) :
    graph.connectedWitness id = graph'.connectedWitness id := by
  unfold connectedWitness
  rw [← hsources]
  rcases hcase : graph.witnessSources id with _ | ⟨source, _ | ⟨second, others⟩⟩
  · rfl
  · have hmem : source ∈ graph.witnessSources id := hcase ▸ List.mem_cons_self
    simp only [hnodes source hmem]
  · rfl

theorem Witness.fallback_congr (defaults : Defaults) (h : graph.structs = graph'.structs) :
    fallback graph defaults = fallback graph' defaults := by
  unfold fallback
  rw [Graph.firstEligibleStruct?_eq, Graph.firstEligibleStruct?_eq, h]

/-- Function nodes and decorations play no part unless they are wired in. With several initializers
the wiring is not even read: they are refused before. -/
theorem Witness.resolve_congr (defaults : Defaults) (hstructs : graph.structs = graph'.structs)
    (hinits : graph.inits = graph'.inits)
    (hconnected : ∀ init, graph.inits = [init] →
      graph.connectedWitness init.1.id = graph'.connectedWitness init.1.id) :
    resolve graph defaults = resolve graph' defaults := by
  rcases hcase : graph.inits with _ | ⟨init, _ | ⟨second, others⟩⟩
  · rw [resolve_of_no_init defaults hcase, resolve_of_no_init defaults (hinits.symm.trans hcase),
      fallback_congr defaults hstructs]
  · rw [resolve_of_init defaults hcase, resolve_of_init defaults (hinits.symm.trans hcase),
      hconnected init hcase, fallback_congr defaults hstructs]
  · rw [resolve_of_several_inits defaults hcase,
      resolve_of_several_inits defaults (hinits.symm.trans hcase)]

theorem Graph.PlansAlike.resolve_eq (h : graph.PlansAlike graph') (defaults : Defaults) :
    Witness.resolve graph defaults = Witness.resolve graph' defaults :=
  Witness.resolve_congr defaults h.structs h.inits h.connected

namespace Plan

def withoutTransfers (plan : Plan) : Plan :=
  { plan with functions := plan.functions.map fun f => { f with feedsTransfer := false } }

theorem map_functionsOf (graph : Graph) (intents : Intent.Table) (witness : String) :
    (functionsOf graph intents witness).map (fun f => { f with feedsTransfer := false }) =
      graph.functions.map fun entry =>
        { node := entry.1.id
          name := Identifier.callable entry.1.label
          intent := intents.classify entry.1.label
          params := entry.2.map (.ofMember witness)
          feedsTransfer := false } := by
  simp [functionsOf, Function.ofNode]

theorem any_functionsOf (graph : Graph) (intents : Intent.Table) (witness : String) :
    (functionsOf graph intents witness).any (·.intent = .mintNft) =
      graph.functions.any (intents.classify ·.1.label = .mintNft) := by
  simp [functionsOf, Function.ofNode, List.any_map, Function.comp_def]

theorem withoutTransfers_assemble (name : String) (defaults : Defaults) (intents : Intent.Table)
    (witness : Witness) (init : Option (Graph.Node × Currency)) (hstructs : graph.structs = graph'.structs)
    (hfunctions : graph.functions = graph'.functions) :
    (assemble name graph defaults intents witness init).withoutTransfers =
      (assemble name graph' defaults intents witness init).withoutTransfers := by
  simp only [withoutTransfers, assemble, map_functionsOf, any_functionsOf, structsOf, hasNftStruct,
    hstructs, hfunctions]

end Plan

theorem Graph.PlansAlike.map_withoutTransfers (h : graph.PlansAlike graph') (name : String)
    (defaults : Defaults) (intents : Intent.Table) :
    (Plan.ofGraph name graph defaults intents).map Plan.withoutTransfers =
      (Plan.ofGraph name graph' defaults intents).map Plan.withoutTransfers := by
  rw [Plan.ofGraph_eq_map, Plan.ofGraph_eq_map, h.resolve_eq defaults, h.inits]
  cases Witness.resolve graph' defaults with
  | error error => rfl
  | ok witness =>
      exact congrArg Except.ok (Plan.withoutTransfers_assemble _ _ _ _ _ h.structs h.functions)

namespace Package

theorem ofPlan_withoutTransfers (plan : Plan) (defaults : Defaults) :
    ofPlan plan.withoutTransfers defaults = ofPlan plan defaults := by
  have hfunctions : Move.functionsOf plan.withoutTransfers defaults = Move.functionsOf plan defaults := by
    unfold Move.functionsOf Plan.withoutTransfers
    rw [List.map_map]
    rfl
  unfold ofPlan Move.Module.ofPlan
  rw [hfunctions]
  rfl

theorem ofGraph_eq_map_withoutTransfers (name : String) (graph : Graph) (defaults : Defaults)
    (intents : Intent.Table) :
    ofGraph name graph defaults intents =
      ((Plan.ofGraph name graph defaults intents).map Plan.withoutTransfers).map
        (ofPlan · defaults) := by
  rw [ofGraph_eq_map]
  cases Plan.ofGraph name graph defaults intents with
  | error error => rfl
  | ok plan => exact congrArg Except.ok (ofPlan_withoutTransfers plan defaults).symm

end Package

theorem Graph.PlansAlike.package_eq (h : graph.PlansAlike graph') (name : String)
    (defaults : Defaults) (intents : Intent.Table) :
    Package.ofGraph name graph defaults intents = Package.ofGraph name graph' defaults intents := by
  rw [Package.ofGraph_eq_map_withoutTransfers, h.map_withoutTransfers,
    ← Package.ofGraph_eq_map_withoutTransfers]

end MoveCanvas
