import MoveCanvas.Proofs.Plan.Dependence

/-! # Functions added to a module

A node that no edge touches is found from no edge, so that a graph with such a node at its end keeps
its witness and what was planned before. A function of this kind is planned last, and its text
stands before the closing bracket of the module. The one thing that a further function can bring
along is the struct of NFTs, where the function is the first that mints them. -/

namespace MoveCanvas

namespace Graph

def withNode (graph : Graph) (node : Node) : Graph :=
  { graph with nodes := graph.nodes ++ [node] }

def IsUntouched (graph : Graph) (id : String) : Prop :=
  ∀ edge ∈ graph.edges, edge.source ≠ id ∧ edge.target ≠ id

variable {graph : Graph} {node : Node} {params : List Member}

theorem node?_withNode {id : String} (h : id ≠ node.id) :
    (graph.withNode node).node? id = graph.node? id := by
  have hnone : [node].find? (·.id = id) = none := by simp [h.symm]
  rw [node?, withNode, List.find?_append, hnone, Option.or_none]
  rfl

section Function

variable (hkind : node.kind = .function params)
include hkind

theorem structs_withNode : (graph.withNode node).structs = graph.structs := by
  simp [structs, withNode, List.filterMap_append, hkind, Kind.struct?]

theorem inits_withNode : (graph.withNode node).inits = graph.inits := by
  simp [inits, withNode, List.filterMap_append, hkind, Kind.currency?]

theorem functions_withNode :
    (graph.withNode node).functions = graph.functions ++ [(node, params)] := by
  simp [functions, withNode, List.filterMap_append, hkind, Kind.params?]

end Function

namespace IsUntouched

variable (h : graph.IsUntouched node.id)
include h

theorem connectedWitness_eq (init : String) :
    (graph.withNode node).connectedWitness init = graph.connectedWitness init := by
  apply connectedWitness_congr
  · rfl
  · intro source hsource
    rw [witnessSources_eq_map_slotEdges] at hsource
    obtain ⟨edge, hedge, rfl⟩ := List.mem_map.mp hsource
    exact node?_withNode (h edge (List.mem_filter.mp hedge).1).1

theorem resolve_eq (hkind : node.kind = .function params) (defaults : Defaults) :
    Witness.resolve (graph.withNode node) defaults = Witness.resolve graph defaults :=
  Witness.resolve_congr defaults (structs_withNode hkind) (inits_withNode hkind)
    fun init _ => h.connectedWitness_eq init.1.id

theorem reachesTransfer_eq (id : String) :
    Plan.reachesTransfer (graph.withNode node) id = Plan.reachesTransfer graph id := by
  have hsame : ∀ edge ∈ graph.outgoing id,
      (graph.withNode node).node? edge.target = graph.node? edge.target := by
    intro edge hedge
    exact node?_withNode (h edge (List.mem_filter.mp hedge).1).2
  rw [Plan.reachesTransfer_eq_any, Plan.reachesTransfer_eq_any, Bool.eq_iff_iff, List.any_eq_true,
    List.any_eq_true]
  constructor
  · rintro ⟨edge, hedge, htarget⟩
    exact ⟨edge, hedge, hsame edge hedge ▸ htarget⟩
  · rintro ⟨edge, hedge, htarget⟩
    exact ⟨edge, hedge, (hsame edge hedge).symm ▸ htarget⟩

end IsUntouched

end Graph

namespace Plan

def withFunction (plan : Plan) (f : Function) : Plan :=
  { plan with functions := plan.functions ++ [f] }

variable {name : String} {graph : Graph} {defaults : Defaults} {intents : Intent.Table}
  {node : Graph.Node} {params : List Member}

/-- The function of the node mints no NFTs, or others did before, or the struct stands on the canvas. -/
def BringsNoStruct (graph : Graph) (intents : Intent.Table) (label : String) : Prop :=
  intents.classify label ≠ .mintNft ∨
    (∃ f ∈ graph.functions, intents.classify f.1.label = .mintNft) ∨
    ∃ s ∈ graph.structs, Identifier.declaration s.1.label = nftName

theorem functionsOf_withNode (hkind : node.kind = .function params)
    (huntouched : graph.IsUntouched node.id) (witness : String) :
    functionsOf (graph.withNode node) intents witness = functionsOf graph intents witness ++
      [.ofNode (graph.withNode node) intents witness node params] := by
  have hsame : ∀ entry : Graph.Node × List Member,
      Function.ofNode (graph.withNode node) intents witness entry.1 entry.2 =
        Function.ofNode graph intents witness entry.1 entry.2 := by
    intro entry
    unfold Function.ofNode
    rw [huntouched.reachesTransfer_eq]
  unfold functionsOf
  rw [Graph.functions_withNode hkind, List.map_append, List.map_congr_left fun entry _ => hsame entry]
  rfl

theorem BringsNoStruct.synthesizesNft_eq (h : BringsNoStruct graph intents node.label)
    (hkind : node.kind = .function params) (witness : String) :
    ((functionsOf (graph.withNode node) intents witness).any (·.intent = .mintNft) &&
        !hasNftStruct (graph.withNode node)) =
      ((functionsOf graph intents witness).any (·.intent = .mintNft) && !hasNftStruct graph) := by
  have hstructs : hasNftStruct (graph.withNode node) = hasNftStruct graph := by
    unfold hasNftStruct
    rw [Graph.structs_withNode hkind]
  rw [hstructs, any_functionsOf, any_functionsOf, Graph.functions_withNode hkind, List.any_append]
  rcases h with hintent | ⟨f, hmem, hmints⟩ | ⟨s, hmem, hname⟩
  · simp [hintent]
  · have hany : graph.functions.any (intents.classify ·.1.label = .mintNft) = true :=
      List.any_eq_true.mpr ⟨f, hmem, decide_eq_true hmints⟩
    rw [hany, Bool.true_or]
  · have hhas : hasNftStruct graph = true := List.any_eq_true.mpr ⟨s, hmem, decide_eq_true hname⟩
    rw [hhas, Bool.not_true, Bool.and_false, Bool.and_false]

theorem assemble_withNode (hkind : node.kind = .function params)
    (huntouched : graph.IsUntouched node.id) (hstruct : BringsNoStruct graph intents node.label)
    (witness : Witness) (init : Option (Graph.Node × Currency)) :
    assemble name (graph.withNode node) defaults intents witness init =
      (assemble name graph defaults intents witness init).withFunction
        (.ofNode (graph.withNode node) intents witness.name node params) := by
  have hstructs : structsOf (graph.withNode node) witness.name = structsOf graph witness.name := by
    rw [structsOf, Graph.structs_withNode hkind, structsOf]
  have hnft := hstruct.synthesizesNft_eq hkind witness.name
  rw [functionsOf_withNode hkind huntouched] at hnft
  simp only [assemble, withFunction, hstructs, functionsOf_withNode hkind huntouched, hnft]

theorem ofGraph_eq_withFunction (hkind : node.kind = .function params)
    (huntouched : graph.IsUntouched node.id) (hstruct : BringsNoStruct graph intents node.label)
    {plan : Plan} (h : ofGraph name graph defaults intents = .ok plan) :
    ofGraph name (graph.withNode node) defaults intents = .ok (plan.withFunction
      (.ofNode (graph.withNode node) intents plan.witness.name node params)) := by
  rw [ofGraph_eq_map] at h ⊢
  rw [huntouched.resolve_eq hkind, Graph.inits_withNode hkind]
  cases hresolve : Witness.resolve graph defaults with
  | error error =>
      rw [hresolve] at h
      cases h
  | ok witness =>
      rw [hresolve] at h
      cases h
      exact congrArg Except.ok (assemble_withNode hkind huntouched hstruct _ _)

end Plan

namespace Move.Module

theorem lines_withFunction (plan : Plan) (f : Plan.Function) (defaults : Defaults) :
    (ofPlan (plan.withFunction f) defaults).lines = (ofPlan plan defaults).lines ++
      ((FunctionDecl.ofPlan f defaults.placeholderBody).lines ++ [""]) := by
  have hdeclarations : (ofPlan (plan.withFunction f) defaults).declarations =
      (ofPlan plan defaults).declarations ++
        [.function (FunctionDecl.ofPlan f defaults.placeholderBody)] := by
    simp only [ofPlan, functionsOf, Plan.withFunction, List.map_append, List.append_assoc]
    rfl
  unfold lines
  rw [hdeclarations, List.flatMap_append, List.append_assoc]
  simp only [List.flatMap_singleton]
  rfl

end Move.Module

namespace Package

variable {name : String} {graph : Graph} {defaults : Defaults} {intents : Intent.Table}
  {node : Graph.Node} {params : List Member}

/-- A function node at the end of a graph, which no edge touches and which is not the first to need
the struct of NFTs, adds its own text before the closing bracket and changes nothing else. Its id
may even occur before. -/
theorem ofGraph_withNode (hkind : node.kind = .function params)
    (huntouched : graph.IsUntouched node.id) (hstruct : Plan.BringsNoStruct graph intents node.label)
    {package : Package} (h : ofGraph name graph defaults intents = .ok package) :
    ∃ plan f front, Plan.ofGraph name graph defaults intents = .ok plan ∧
      f = .ofNode (graph.withNode node) intents plan.witness.name node params ∧
      Plan.ofGraph name (graph.withNode node) defaults intents = .ok (plan.withFunction f) ∧
      package.source = front ++ "\x7d" ∧
      ofGraph name (graph.withNode node) defaults intents = .ok { package with
        source := front ++
          (Move.FunctionDecl.ofPlan f defaults.placeholderBody).text ++ "\n" ++ "\x7d" } := by
  rw [ofGraph_eq_map] at h
  cases hplan : Plan.ofGraph name graph defaults intents with
  | error error =>
      rw [hplan] at h
      cases h
  | ok plan =>
      rw [hplan] at h
      cases h
      have hnext := Plan.ofGraph_eq_withFunction hkind huntouched hstruct hplan
      refine ⟨plan, _, Move.unlines (Move.Module.ofPlan plan defaults).lines, rfl, rfl, hnext, rfl, ?_⟩
      have htext (f : Plan.Function) : (Move.Module.ofPlan (plan.withFunction f) defaults).text =
          Move.unlines (Move.Module.ofPlan plan defaults).lines ++
            (Move.FunctionDecl.ofPlan f defaults.placeholderBody).text ++ "\n" ++ "\x7d" := by
        rw [Move.Module.text, Move.Module.lines_withFunction, Move.unlines_append,
          Move.unlines_append, Move.unlines_cons, Move.unlines_nil]
        simp only [String.append_assoc, String.empty_append]
        rfl
      rw [ofGraph_eq_map, hnext]
      show Except.ok (ofPlan (plan.withFunction _) defaults) = _
      rw [ofPlan, htext]
      rfl

theorem ofGraph_withNode_imported_nft :
    let graph : Graph := ⟨[⟨"s-1", "GOLD", none, .struct ⟨[], .keyStore, false⟩⟩,
      ⟨"s-2", "SimpleNFT", none, .struct ⟨[], .keyStore, true⟩⟩,
      ⟨"i-1", "CoinInit", none, .init ⟨"", "", none, ""⟩⟩,
      ⟨"f-1", "transfer::transfer", none, .function [⟨"obj", "T"⟩]⟩],
      [⟨"s-1", .objectMain, "i-1", .witnessInput⟩, ⟨"f-1", .returnValue, "gone", .param 0⟩]⟩
    let mint : Graph.Node := ⟨"f-2", "nft::mint", none, .function [⟨"cap", "TreasuryCap"⟩]⟩
    graph.IsUntouched mint.id ∧ Plan.BringsNoStruct graph .empty mint.label ∧
      ∃ package f front, f.intent = .mintNft ∧
        f.params = [⟨"cap", "TreasuryCap", "&mut TreasuryCap<GOLD>"⟩] ∧
        ofGraph "gold" graph .builtIn .empty = .ok package ∧ package.source = front ++ "\x7d" ∧
        ofGraph "gold" (graph.withNode mint) .builtIn .empty = .ok { package with
          source := front ++ (Move.FunctionDecl.ofPlan f Defaults.builtIn.placeholderBody).text ++
            "\n" ++ "\x7d" } := by
  intro graph mint
  have huntouched : graph.IsUntouched mint.id := by
    unfold Graph.IsUntouched
    decide
  have hstruct : Plan.BringsNoStruct graph .empty mint.label :=
    .inr (.inr ⟨_, List.mem_cons_of_mem _ List.mem_cons_self, by decide⟩)
  obtain ⟨package, hpackage⟩ : ∃ package, ofGraph "gold" graph .builtIn .empty = .ok package := ⟨_, rfl⟩
  obtain ⟨plan, f, front, hplan, hf, -, hsource, hnext⟩ :=
    ofGraph_withNode rfl huntouched hstruct hpackage
  have hwitness : plan.witness.name = "GOLD" := by
    cases hplan
    rfl
  rw [hwitness] at hf
  refine ⟨huntouched, hstruct, package, f, front, ?_, ?_, hpackage, hsource, hnext⟩
  all_goals
    rw [hf]
    decide

end Package

end MoveCanvas
