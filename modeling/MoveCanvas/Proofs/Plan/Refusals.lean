import MoveCanvas.Package

/-! # When a graph gives no module

A plan asks for the witness first and for the initializer after it, and the second question never
fails where the first did not. Two reasons to refuse a graph are left: it has several initializers,
or it has one and several edges enter the witness slot of that one. Repeated ids, edges to or from
nowhere and empty labels are no reasons. -/

namespace MoveCanvas

theorem Handle.entersWitness_iff {handle : Handle} :
    handle.entersWitness = true ↔ handle = .witnessInput ∨ handle = .unspecified := by
  cases handle <;> simp [entersWitness]

namespace Graph

/-- The edges that end at the id with the witness handle or with no handle, in edge order. -/
def slotEdges (graph : Graph) (id : String) : List Edge :=
  graph.edges.filter fun edge =>
    edge.target = id ∧ (edge.targetHandle = .witnessInput ∨ edge.targetHandle = .unspecified)

/-- The reasons to refuse a graph. Several initializers are refused whatever the edges are, and
several edges whatever they lead from. -/
inductive Refuses (graph : Graph) : CompileError → Prop
  | severalInits {first second : Node × Currency} {others : List (Node × Currency)}
      (inits : graph.inits = first :: second :: others) :
      Refuses graph (.severalInits first.1.id second.1.id)
  | ambiguousWitness {init : Node × Currency} (inits : graph.inits = [init])
      (several : 2 ≤ (graph.slotEdges init.1.id).length) :
      Refuses graph (.ambiguousWitness init.1.id ((graph.slotEdges init.1.id).map (·.source)))

variable {graph : Graph} {error : CompileError}

theorem witnessSources_eq_map_slotEdges (graph : Graph) (id : String) :
    graph.witnessSources id = (graph.slotEdges id).map (·.source) := by
  rw [witnessSources, incoming, List.filter_filter, slotEdges]
  congr 2
  funext edge
  rw [Bool.eq_iff_iff]
  simp only [Bool.and_eq_true, decide_eq_true_eq, Handle.entersWitness_iff]
  exact and_comm

theorem connectedWitness_eq_error_iff {id : String} :
    graph.connectedWitness id = .error error ↔
      2 ≤ (graph.slotEdges id).length ∧
        error = .ambiguousWitness id ((graph.slotEdges id).map (·.source)) := by
  rw [← List.length_map (·.source), ← witnessSources_eq_map_slotEdges]
  unfold connectedWitness
  rcases graph.witnessSources id with _ | ⟨source, _ | ⟨second, others⟩⟩
  · simp
  · simp
  · simp [eq_comm]

theorem not_refuses_of_no_init (hinits : graph.inits = []) : ¬ graph.Refuses error := by
  rintro (⟨h⟩ | ⟨h, -⟩)
  all_goals
    rw [hinits] at h
    cases h

theorem refuses_iff_of_init {init : Node × Currency} (hinits : graph.inits = [init]) :
    graph.Refuses error ↔ graph.connectedWitness init.1.id = .error error := by
  rw [connectedWitness_eq_error_iff]
  constructor
  · rintro (⟨h⟩ | ⟨h, hseveral⟩)
    · rw [hinits] at h
      cases h
    · obtain rfl := List.head_eq_of_cons_eq (hinits.symm.trans h)
      exact ⟨hseveral, rfl⟩
  · rintro ⟨hseveral, rfl⟩
    exact .ambiguousWitness hinits hseveral

theorem refuses_iff_of_several_inits {first second : Node × Currency}
    {others : List (Node × Currency)} (hinits : graph.inits = first :: second :: others) :
    graph.Refuses error ↔ error = .severalInits first.1.id second.1.id := by
  constructor
  · rintro (⟨h⟩ | ⟨h, -⟩)
    · rw [hinits] at h
      cases h
      rfl
    · rw [hinits] at h
      cases h
  · rintro rfl
    exact .severalInits hinits

theorem refuses_iff_of_no_edges (hedges : graph.edges = []) :
    graph.Refuses error ↔ ∃ first second others, graph.inits = first :: second :: others ∧
      error = .severalInits first.1.id second.1.id := by
  constructor
  · rintro (⟨hinits⟩ | ⟨-, hseveral⟩)
    · exact ⟨_, _, _, hinits, rfl⟩
    · simp [slotEdges, hedges] at hseveral
  · rintro ⟨first, second, others, hinits, rfl⟩
    exact .severalInits hinits

end Graph

variable {graph : Graph} {defaults : Defaults}

theorem Witness.resolve_of_no_edges (defaults : Defaults) (hedges : graph.edges = [])
    (hinits : graph.inits.length < 2) :
    resolve graph defaults = .ok (fallback graph defaults) := by
  have hnone (id : String) : graph.connectedWitness id = .ok none := by
    simp [Graph.connectedWitness, Graph.witnessSources, Graph.incoming, hedges]
  rcases hgraph : graph.inits with _ | ⟨init, _ | ⟨second, others⟩⟩
  · exact resolve_of_no_init defaults hgraph
  · rw [resolve_of_init defaults hgraph, hnone]
    rfl
  · rw [hgraph] at hinits
    exact absurd hinits (by simp)

theorem Witness.resolve_eq_error_iff (defaults : Defaults) {error : CompileError} :
    resolve graph defaults = .error error ↔ graph.Refuses error := by
  rcases hinits : graph.inits with _ | ⟨init, _ | ⟨second, others⟩⟩
  · rw [resolve_of_no_init defaults hinits]
    exact iff_of_false (fun h => nomatch h) (Graph.not_refuses_of_no_init hinits)
  · rw [resolve_of_init defaults hinits, Graph.refuses_iff_of_init hinits]
    cases graph.connectedWitness init.1.id <;> simp [Except.map]
  · rw [resolve_of_several_inits defaults hinits, Graph.refuses_iff_of_several_inits hinits]
    simp [eq_comm]

theorem Witness.inits_of_resolve {witness : Witness} (h : resolve graph defaults = .ok witness) :
    graph.inits = [] ∨ ∃ init, graph.inits = [init] := by
  rcases hinits : graph.inits with _ | ⟨init, _ | ⟨second, others⟩⟩
  · exact .inl rfl
  · exact .inr ⟨init, rfl⟩
  · rw [resolve_of_several_inits defaults hinits] at h
    cases h

theorem Graph.singleInit_of_resolve {witness : Witness}
    (h : Witness.resolve graph defaults = .ok witness) :
    graph.singleInit = .ok graph.inits.head? := by
  rcases Witness.inits_of_resolve h with hinits | ⟨init, hinits⟩
  all_goals
    rw [singleInit, hinits]
    rfl

namespace Plan

variable {name : String} {intents : Intent.Table}

theorem ofGraph_eq_map (name : String) (graph : Graph) (defaults : Defaults)
    (intents : Intent.Table) :
    ofGraph name graph defaults intents = (Witness.resolve graph defaults).map
      fun witness => assemble name graph defaults intents witness graph.inits.head? := by
  unfold ofGraph
  cases hresolve : Witness.resolve graph defaults with
  | error error => rfl
  | ok witness =>
      rw [Graph.singleInit_of_resolve hresolve]
      rfl

theorem ofGraph_eq_error_iff {error : CompileError} :
    ofGraph name graph defaults intents = .error error ↔ graph.Refuses error := by
  rw [ofGraph_eq_map, ← Witness.resolve_eq_error_iff defaults]
  cases Witness.resolve graph defaults <;> simp [Except.map]

theorem isSome_init_of_ofGraph {plan : Plan} (h : ofGraph name graph defaults intents = .ok plan) :
    plan.init.isSome = true ↔ ∃ init, graph.inits = [init] := by
  rw [ofGraph_eq_map] at h
  cases hresolve : Witness.resolve graph defaults with
  | error error =>
      rw [hresolve] at h
      cases h
  | ok witness =>
      rw [hresolve] at h
      cases h
      rcases Witness.inits_of_resolve hresolve with hinits | ⟨init, hinits⟩
      · simp [assemble, hinits]
      · simp [assemble, hinits]

theorem witness_init_of_ofGraph {plan : Plan} {init : Plan.Init}
    (h : ofGraph name graph defaults intents = .ok plan) (hinit : plan.init = some init) :
    init.witness = plan.witness.name := by
  obtain ⟨witness, node?, -, -, rfl⟩ := ofGraph_eq_ok_iff.mp h
  obtain ⟨node, -, rfl⟩ := Option.map_eq_some_iff.mp hinit
  rfl

end Plan

namespace Package

theorem ofGraph_eq_map (name : String) (graph : Graph) (defaults : Defaults)
    (intents : Intent.Table) :
    ofGraph name graph defaults intents =
      (Plan.ofGraph name graph defaults intents).map (ofPlan · defaults) := by
  unfold ofGraph
  cases Plan.ofGraph name graph defaults intents <;> rfl

theorem ofGraph_eq_error_iff {name : String} {intents : Intent.Table} {error : CompileError} :
    ofGraph name graph defaults intents = .error error ↔ graph.Refuses error := by
  rw [ofGraph_eq_map, ← Plan.ofGraph_eq_error_iff]
  cases Plan.ofGraph name graph defaults intents <;> simp [Except.map]

/-- A graph is refused exactly for one of the two reasons, with that reason's error. Any other graph
gives a package, with an initializer if the graph has one and under the plan's witness. -/
theorem ofGraph_eq_error_iff_refuses (name : String) (graph : Graph) (defaults : Defaults)
    (intents : Intent.Table) :
    (∀ error, ofGraph name graph defaults intents = .error error ↔ graph.Refuses error) ∧
      ((∀ error, ¬ graph.Refuses error) ↔
        ∃ plan, Plan.ofGraph name graph defaults intents = .ok plan ∧
          ofGraph name graph defaults intents = .ok (ofPlan plan defaults) ∧
          (plan.init.isSome = true ↔ ∃ init, graph.inits = [init]) ∧
          ∀ init, plan.init = some init → init.witness = plan.witness.name) := by
  refine ⟨fun error => ofGraph_eq_error_iff, ?_⟩
  constructor
  · intro hnone
    cases hplan : Plan.ofGraph name graph defaults intents with
    | error cause => exact absurd (Plan.ofGraph_eq_error_iff.mp hplan) (hnone cause)
    | ok plan =>
        have hpackage : ofGraph name graph defaults intents = .ok (ofPlan plan defaults) := by
          rw [ofGraph_eq_map, hplan]
          rfl
        exact ⟨plan, rfl, hpackage, Plan.isSome_init_of_ofGraph hplan,
          fun _ hinit => Plan.witness_init_of_ofGraph hplan hinit⟩
  · rintro ⟨plan, hplan, -⟩ error hrefuses
    rw [Plan.ofGraph_eq_error_iff.mpr hrefuses] at hplan
    cases hplan

/-- An edge from nowhere counts, and counts as often as it is drawn. -/
example : ofGraph "m" ⟨[⟨"i-1", "CoinInit", none, .init ⟨"", "", none, ""⟩⟩],
    [⟨"gone", .objectMain, "i-1", .witnessInput⟩, ⟨"gone", .objectMain, "i-1", .unspecified⟩,
      ⟨"gone", .objectMain, "i-1", .param 0⟩]⟩ .builtIn .empty =
    .error (.ambiguousWitness "i-1" ["gone", "gone"]) := rfl

end Package

end MoveCanvas
