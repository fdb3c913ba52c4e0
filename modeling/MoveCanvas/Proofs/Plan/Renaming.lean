import Mathlib.Logic.Function.Basic
import MoveCanvas.Proofs.Plan.Refusals

/-! # Renaming the ids of nodes

Ids tell nodes apart and serve for nothing else: they are compared and looked up, shown in plans and
named in errors, but never written into a module. So a renaming that keeps different ids apart goes
through planning untouched, also where ids repeat or edges lead nowhere. The titles of nodes and the
handles that edges leave by may change with it: they are not read at all. -/

namespace MoveCanvas

namespace Graph

def Node.renameIds (r : String → String) (node : Node) : Node :=
  { node with id := r node.id }

def Edge.renameIds (r : String → String) (edge : Edge) : Edge :=
  { edge with source := r edge.source, target := r edge.target }

def renameIds (r : String → String) (graph : Graph) : Graph :=
  ⟨graph.nodes.map (Node.renameIds r), graph.edges.map (Edge.renameIds r)⟩

end Graph

def Witness.Source.renameIds (r : String → String) : Witness.Source → Witness.Source
  | .connected node => .connected (r node)
  | .firstStruct node => .firstStruct (r node)
  | .default => .default

def Witness.renameIds (r : String → String) (witness : Witness) : Witness :=
  { witness with source := witness.source.renameIds r }

namespace Plan

def Struct.renameIds (r : String → String) (s : Struct) : Struct :=
  { s with node := r s.node }

def Init.renameIds (r : String → String) (init : Init) : Init :=
  { init with node := r init.node }

def Function.renameIds (r : String → String) (f : Function) : Function :=
  { f with node := r f.node }

def renameIds (r : String → String) (plan : Plan) : Plan :=
  { plan with
    witness := plan.witness.renameIds r
    structs := plan.structs.map (Struct.renameIds r)
    init := plan.init.map (Init.renameIds r)
    functions := plan.functions.map (Function.renameIds r) }

end Plan

def ConversionError.renameIds (r : String → String) : ConversionError → ConversionError
  | .badDecimals node shown => .badDecimals (r node) shown
  | .repeatedId id => .repeatedId (r id)
  | error => error

def CompileError.renameIds (r : String → String) : CompileError → CompileError
  | .malformedGraph cause => .malformedGraph cause
  | .severalInits first second => .severalInits (r first) (r second)
  | .ambiguousWitness init sources => .ambiguousWitness (r init) (sources.map r)
  | .invalidGraph cause => .invalidGraph (cause.renameIds r)

namespace Graph

def map (onNode : Node → Node) (onEdge : Edge → Edge) (graph : Graph) : Graph :=
  ⟨graph.nodes.map onNode, graph.edges.map onEdge⟩

/-- Nodes and edges are changed in their ids alone, apart from the titles of the nodes and the
handles that edges leave by, which planning does not read. -/
structure Renames (r : String → String) (onNode : Node → Node) (onEdge : Edge → Edge) : Prop where
  id : ∀ node, (onNode node).id = r node.id
  label : ∀ node, (onNode node).label = node.label
  kind : ∀ node, (onNode node).kind = node.kind
  source : ∀ edge, (onEdge edge).source = r edge.source
  target : ∀ edge, (onEdge edge).target = r edge.target
  targetHandle : ∀ edge, (onEdge edge).targetHandle = edge.targetHandle

theorem renames_renameIds (r : String → String) :
    Renames r (Node.renameIds r) (Edge.renameIds r) := by
  constructor
  all_goals exact fun _ => rfl

end Graph

variable {r : String → String} {onNode : Graph.Node → Graph.Node} {onEdge : Graph.Edge → Graph.Edge}
  (h : Graph.Renames r onNode onEdge)

include h

namespace Graph

theorem filterMap_kind_map (pick : Kind → Option α) (nodes : List Node) :
    (nodes.map onNode).filterMap (fun node => (pick node.kind).map (node, ·)) =
      (nodes.filterMap fun node => (pick node.kind).map (node, ·)).map (Prod.map onNode id) := by
  rw [List.filterMap_map, List.map_filterMap]
  congr 1
  funext node
  rw [Function.comp_apply, h.kind]
  cases pick node.kind <;> rfl

variable (graph : Graph)

theorem structs_map :
    (graph.map onNode onEdge).structs = graph.structs.map (Prod.map onNode id) :=
  filterMap_kind_map h ..

theorem functions_map :
    (graph.map onNode onEdge).functions = graph.functions.map (Prod.map onNode id) :=
  filterMap_kind_map h ..

theorem inits_map :
    (graph.map onNode onEdge).inits = graph.inits.map (Prod.map onNode id) :=
  filterMap_kind_map h ..

theorem isEligible_map (node : Node) : (onNode node).isEligible = node.isEligible := by
  rw [Node.isEligible, h.kind, h.label, Node.isEligible]

theorem firstEligibleStruct?_map :
    (graph.map onNode onEdge).firstEligibleStruct? = graph.firstEligibleStruct?.map onNode := by
  simp only [firstEligibleStruct?, map, List.find?_map, Function.comp_def, h.kind,
    isEligible_map h]

variable (hr : Function.Injective r) (id : String)

include hr

theorem node?_map :
    (graph.map onNode onEdge).node? (r id) = (graph.node? id).map onNode := by
  simp only [node?, map, List.find?_map, Function.comp_def, h.id, hr.eq_iff]

theorem incoming_map :
    (graph.map onNode onEdge).incoming (r id) = (graph.incoming id).map onEdge := by
  simp only [incoming, map, List.filter_map, Function.comp_def, h.target, hr.eq_iff]

theorem outgoing_map :
    (graph.map onNode onEdge).outgoing (r id) = (graph.outgoing id).map onEdge := by
  simp only [outgoing, map, List.filter_map, Function.comp_def, h.source, hr.eq_iff]

theorem witnessSources_map :
    (graph.map onNode onEdge).witnessSources (r id) = (graph.witnessSources id).map r := by
  simp only [witnessSources, incoming_map h graph hr, List.filter_map, List.map_map,
    Function.comp_def, h.targetHandle, h.source]

theorem connectedWitness_map :
    (graph.map onNode onEdge).connectedWitness (r id) =
      ((graph.connectedWitness id).map (Option.map onNode)).mapError
        (CompileError.renameIds r) := by
  unfold connectedWitness
  rw [witnessSources_map h graph hr]
  rcases graph.witnessSources id with _ | ⟨source, _ | ⟨second, others⟩⟩
  · rfl
  · simp only [List.map_cons, List.map_nil, node?_map h graph hr, Option.filter_map,
      Function.comp_def, isEligible_map h]
    rfl
  · rfl

end Graph

namespace Witness

variable (graph : Graph) (defaults : Defaults)

theorem ofConnected_map (node : Graph.Node) :
    ofConnected (onNode node) = (ofConnected node).renameIds r := by
  rw [ofConnected, h.id, h.label]
  rfl

theorem fallback_map :
    fallback (graph.map onNode onEdge) defaults = (fallback graph defaults).renameIds r := by
  unfold fallback
  rw [Graph.firstEligibleStruct?_map h]
  cases graph.firstEligibleStruct? with
  | none => rfl
  | some node =>
      simp only [Option.map_some, h.id, h.label]
      rfl

theorem resolve_map (hr : Function.Injective r) :
    resolve (graph.map onNode onEdge) defaults =
      ((resolve graph defaults).map (renameIds r)).mapError (CompileError.renameIds r) := by
  -- both graphs have as many initializers, so they fall under the same case
  have hrenamed := Graph.inits_map h graph
  rcases hinits : graph.inits with _ | ⟨init, _ | ⟨second, others⟩⟩
  · rw [hinits] at hrenamed
    rw [resolve_of_no_init defaults hinits, resolve_of_no_init defaults hrenamed, fallback_map h]
    rfl
  · rw [hinits] at hrenamed
    rw [resolve_of_init defaults hinits, resolve_of_init defaults hrenamed, fallback_map h]
    simp only [Prod.map_fst, h.id]
    rw [Graph.connectedWitness_map h graph hr]
    rcases graph.connectedWitness init.1.id with error | _ | node
    · rfl
    · rfl
    · exact congrArg Except.ok (ofConnected_map h node)
  · rw [hinits] at hrenamed
    rw [resolve_of_several_inits defaults hinits, resolve_of_several_inits defaults hrenamed]
    simp only [Prod.map_fst, h.id]
    rfl

end Witness

namespace Plan

theorem Struct.ofNode_map (witness : String) (node : Graph.Node) (spec : StructSpec) :
    ofNode witness (onNode node) spec = (ofNode witness node spec).renameIds r := by
  unfold ofNode
  rw [apply_ite (renameIds r), h.id, h.label]
  rfl

/-- The names that are taken are names of types, so the renaming leaves them alone. -/
theorem structsAfter_map (witness : String) (declared : List String)
    (nodes : List (Graph.Node × StructSpec)) :
    structsAfter witness declared (nodes.map (Prod.map onNode id)) =
      (structsAfter witness declared nodes).map (Struct.renameIds r) := by
  induction nodes generalizing declared with
  | nil => rfl
  | cons head rest ih =>
      obtain ⟨node, spec⟩ := head
      simp only [List.map_cons, Prod.map_apply, id_eq, structsAfter, Struct.ofNode_map h,
        apply_ite (List.map (Struct.renameIds r)), ih, h.label]

theorem reachesTransfer_map (graph : Graph) (hr : Function.Injective r) (node : String) :
    reachesTransfer (graph.map onNode onEdge) (r node) = reachesTransfer graph node := by
  rw [reachesTransfer_eq_any, reachesTransfer_eq_any, Graph.outgoing_map h graph hr, List.any_map]
  congr 1
  funext edge
  simp only [Function.comp_apply, h.target, Graph.node?_map h graph hr, Option.any_map,
    h.label]

theorem functionsOf_map (graph : Graph) (hr : Function.Injective r) (intents : Intent.Table)
    (witness : String) :
    functionsOf (graph.map onNode onEdge) intents witness =
      (functionsOf graph intents witness).map (Function.renameIds r) := by
  unfold functionsOf
  rw [Graph.functions_map h, List.map_map, List.map_map]
  congr 1
  funext entry
  simp only [Function.comp_apply, Prod.map, Function.ofNode, Function.renameIds, id_eq, h.id,
    h.label, reachesTransfer_map h graph hr]

theorem hasNftStruct_map (graph : Graph) :
    hasNftStruct (graph.map onNode onEdge) = hasNftStruct graph := by
  unfold hasNftStruct
  simp only [Graph.structs_map h, List.any_map, Function.comp_def, Prod.map_fst, h.label]

theorem Init.ofNode_map (defaults : Defaults) (witness : String) (node : Graph.Node)
    (currency : Currency) :
    Init.ofNode defaults witness (onNode node) currency =
      (Init.ofNode defaults witness node currency).renameIds r := by
  rw [Init.ofNode, h.id]
  rfl

theorem assemble_map (name : String) (graph : Graph) (hr : Function.Injective r)
    (defaults : Defaults) (intents : Intent.Table) (witness : Witness)
    (init : Option (Graph.Node × Currency)) :
    assemble name (graph.map onNode onEdge) defaults intents (witness.renameIds r)
        (init.map (Prod.map onNode id)) =
      (assemble name graph defaults intents witness init).renameIds r := by
  simp only [assemble, renameIds, Witness.renameIds, structsOf, Graph.structs_map h,
    structsAfter_map h, functionsOf_map h graph hr, hasNftStruct_map h, List.any_map,
    Option.map_map, Function.comp_def, Prod.map_fst, Prod.map_snd, id_eq, Init.ofNode_map h]
  rfl

theorem ofGraph_map (name : String) (graph : Graph) (hr : Function.Injective r)
    (defaults : Defaults) (intents : Intent.Table) :
    ofGraph name (graph.map onNode onEdge) defaults intents =
      ((ofGraph name graph defaults intents).map (renameIds r)).mapError
        (CompileError.renameIds r) := by
  rw [ofGraph_eq_map, ofGraph_eq_map, Witness.resolve_map h graph defaults hr,
    Graph.inits_map h, List.head?_map]
  cases Witness.resolve graph defaults with
  | error error => rfl
  | ok witness => exact congrArg Except.ok (assemble_map h name graph hr ..)

end Plan

namespace Package

omit h in
theorem ofPlan_renameIds (plan : Plan) (defaults : Defaults) :
    ofPlan (plan.renameIds r) defaults = ofPlan plan defaults := by
  have hstructs : Move.structsOf (plan.renameIds r) = Move.structsOf plan := by
    simp only [Move.structsOf, Plan.renameIds, List.map_map]
    rfl
  have hfunctions : Move.functionsOf (plan.renameIds r) defaults = Move.functionsOf plan defaults := by
    simp only [Move.functionsOf, Plan.renameIds, List.map_map]
    rfl
  have hlines : (Move.Module.ofPlan (plan.renameIds r) defaults).lines =
      (Move.Module.ofPlan plan defaults).lines := by
    simp only [Move.Module.lines, Move.Module.ofPlan, hstructs, hfunctions, List.flatMap_append,
      List.flatMap_map]
    unfold Plan.renameIds
    cases plan.init <;> rfl
  unfold ofPlan Move.Module.text
  rw [hlines]
  rfl

theorem ofGraph_map (hr : Function.Injective r) (name : String) (graph : Graph)
    (defaults : Defaults) (intents : Intent.Table) :
    ofGraph name (graph.map onNode onEdge) defaults intents =
      (ofGraph name graph defaults intents).mapError (CompileError.renameIds r) := by
  rw [ofGraph_eq_map, ofGraph_eq_map, Plan.ofGraph_map h name graph hr]
  cases Plan.ofGraph name graph defaults intents with
  | error error => rfl
  | ok plan => exact congrArg Except.ok (ofPlan_renameIds plan defaults)

omit h

/-- Planning and compiling a graph with renamed ids gives the plan with these ids renamed, the same
package, or the same error with its ids renamed. -/
theorem ofGraph_equivariant (hr : Function.Injective r) (name : String) (graph : Graph)
    (defaults : Defaults) (intents : Intent.Table) :
    Plan.ofGraph name (graph.renameIds r) defaults intents =
        ((Plan.ofGraph name graph defaults intents).map (Plan.renameIds r)).mapError
          (CompileError.renameIds r) ∧
      ofGraph name (graph.renameIds r) defaults intents =
        (ofGraph name graph defaults intents).mapError (CompileError.renameIds r) := by
  have hids := Graph.renames_renameIds r
  exact ⟨Plan.ofGraph_map hids name graph hr .., ofGraph_map hids hr name graph ..⟩

theorem ofGraph_equivariant_repeated :
    let r : String → String := ("left/" ++ ·)
    let graph : Graph := ⟨[⟨"s-1", "GOLD", none, .struct ⟨[⟨"id", "UID"⟩], .keyStore, false⟩⟩,
      ⟨"s-1", "transfer", none, .struct ⟨[], .dropOnly, false⟩⟩,
      ⟨"i-1", "CoinInit", none, .init ⟨"", "", none, ""⟩⟩,
      ⟨"f-1", "coin::mint", none, .function [⟨"cap", "TreasuryCap"⟩]⟩],
      [⟨"s-1", .objectMain, "i-1", .witnessInput⟩, ⟨"f-1", .returnValue, "s-1", .unspecified⟩,
        ⟨"gone", .objectMain, "f-1", .param 0⟩]⟩
    Function.Injective r ∧ ∃ plan, Plan.ofGraph "m" graph .builtIn .empty = .ok plan ∧
      Plan.ofGraph "m" (graph.renameIds r) .builtIn .empty = .ok (plan.renameIds r) ∧
      (plan.renameIds r).structs.map (·.node) = ["left/s-1", "left/s-1"] ∧
      ofGraph "m" (graph.renameIds r) .builtIn .empty = ofGraph "m" graph .builtIn .empty := by
  intro r graph
  have hr : Function.Injective r := by
    intro id id' hsame
    exact (String.append_right_inj "left/").mp hsame
  obtain ⟨plan, hplan, hnodes⟩ : ∃ plan, Plan.ofGraph "m" graph .builtIn .empty = .ok plan ∧
      (plan.renameIds r).structs.map (·.node) = ["left/s-1", "left/s-1"] := ⟨_, rfl, by decide⟩
  have hok : ofGraph "m" graph .builtIn .empty = .ok (ofPlan plan .builtIn) := by
    rw [ofGraph_eq_map, hplan]
    rfl
  obtain ⟨hrenamed, hpackage⟩ := ofGraph_equivariant hr "m" graph .builtIn .empty
  rw [hplan] at hrenamed
  rw [hok] at hpackage
  exact ⟨hr, plan, hplan, hrenamed, hnodes, hpackage.trans hok.symm⟩

end Package

end MoveCanvas
