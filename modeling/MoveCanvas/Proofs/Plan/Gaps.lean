import MoveCanvas.Proofs.Plan.Refusals

/-! # What the defaults fill

A default takes the place of a value that the graph does not state. Where the graph states it, the
default is not read: the name of the witness where a node supplies one, each value of the currency
where the initializer has it, the placeholder body where every function is recognized. The values of
the manifest have no other source and are always read. -/

namespace MoveCanvas

def Graph.HasWiredWitness (graph : Graph) : Prop :=
  ∃ init, graph.inits = [init] ∧
    ∃ source ∈ graph.witnessSources init.1.id,
      ∃ node, graph.node? source = some node ∧ node.isEligible = true

def Graph.HasOwnStruct (graph : Graph) : Prop :=
  ∃ entry ∈ graph.structs, entry.2.imported = false ∧
    Identifier.declaration entry.1.label ∉ Palette.frameworkTypes

/-- Two choices of defaults are equal wherever the graph leaves a gap. -/
structure Defaults.AgreeOnGaps (graph : Graph) (intents : Intent.Table) (d d' : Defaults) :
    Prop where
  packageVersion : d.packageVersion = d'.packageVersion
  frameworkGit : d.frameworkGit = d'.frameworkGit
  frameworkSubdir : d.frameworkSubdir = d'.frameworkSubdir
  frameworkRev : d.frameworkRev = d'.frameworkRev
  packageAddress : d.packageAddress = d'.packageAddress
  witnessName : graph.HasWiredWitness ∨ graph.HasOwnStruct ∨ d.witnessName = d'.witnessName
  coinDecimals : ∀ init, graph.inits = [init] →
    init.2.decimals.isSome = true ∨ d.coinDecimals = d'.coinDecimals
  coinSymbol : ∀ init, graph.inits = [init] → init.2.symbol ≠ "" ∨ d.coinSymbol = d'.coinSymbol
  coinName : ∀ init, graph.inits = [init] → init.2.name ≠ "" ∨ d.coinName = d'.coinName
  coinDescription : ∀ init, graph.inits = [init] →
    init.2.description ≠ "" ∨ d.coinDescription = d'.coinDescription
  placeholderBody : (∀ entry ∈ graph.functions, intents.classify entry.1.label ≠ .unrecognized) ∨
    d.placeholderBody = d'.placeholderBody

variable {graph : Graph} {d d' : Defaults} {intents : Intent.Table}

/-- Several edges in the slot are refused, so a wired node is the witness or nothing is. -/
theorem Graph.HasWiredWitness.resolve_eq (h : graph.HasWiredWitness) (d d' : Defaults) :
    Witness.resolve graph d = Witness.resolve graph d' := by
  obtain ⟨init, hinits, source, hmem, node, hnode, heligible⟩ := h
  rw [Witness.resolve_of_init d hinits, Witness.resolve_of_init d' hinits]
  unfold connectedWitness
  rcases hsources : graph.witnessSources init.1.id with _ | ⟨first, _ | ⟨second, others⟩⟩
  · rw [hsources] at hmem
    cases hmem
  · rw [hsources, List.mem_singleton] at hmem
    subst hmem
    have hfilter : (graph.node? source).filter Node.isEligible = some node :=
      Option.filter_eq_some_iff.mpr ⟨hnode, heligible⟩
    simp only [hfilter]
    rfl
  · rfl

theorem Graph.HasOwnStruct.fallback_eq (h : graph.HasOwnStruct) (d d' : Defaults) :
    Witness.fallback graph d = Witness.fallback graph d' := by
  obtain ⟨⟨node, spec⟩, hmem, hown, hname⟩ := h
  obtain ⟨hnode, hspec⟩ := mem_filterMap_kind_iff.mp hmem
  have hframework : Palette.isFrameworkType (Identifier.declaration node.label) = false :=
    Bool.eq_false_iff.mpr (mt Palette.isFrameworkType_iff.mp hname)
  have hfirst : graph.firstEligibleStruct?.isSome = true := by
    rw [firstEligibleStruct?, List.find?_isSome]
    refine ⟨node, hnode, ?_⟩
    simpa [Node.isEligible, hspec, hframework] using hown
  obtain ⟨first, hfirst⟩ := Option.isSome_iff_exists.mp hfirst
  simp only [Witness.fallback, hfirst]

theorem Witness.resolve_of_fallback_eq (h : fallback graph d = fallback graph d') :
    resolve graph d = resolve graph d' := by
  unfold resolve
  rw [h]

theorem Defaults.AgreeOnGaps.resolve_eq (h : AgreeOnGaps graph intents d d') :
    Witness.resolve graph d = Witness.resolve graph d' := by
  rcases h.witnessName with hwired | hstruct | hname
  · exact hwired.resolve_eq d d'
  · exact Witness.resolve_of_fallback_eq (hstruct.fallback_eq d d')
  · apply Witness.resolve_of_fallback_eq
    unfold Witness.fallback
    rw [hname]

theorem Plan.orDefault_congr {value fallback fallback' : String}
    (h : value ≠ "" ∨ fallback = fallback') :
    orDefault value fallback = orDefault value fallback' := by
  rcases h with hvalue | rfl
  · simp [orDefault, hvalue]
  · rfl

theorem Defaults.AgreeOnGaps.init_eq (h : AgreeOnGaps graph intents d d')
    {init : Graph.Node × Currency} (hinits : graph.inits = [init]) (witness : String) :
    Plan.Init.ofNode d witness init.1 init.2 = Plan.Init.ofNode d' witness init.1 init.2 := by
  have hdecimals : init.2.decimals.getD d.coinDecimals = init.2.decimals.getD d'.coinDecimals := by
    rcases h.coinDecimals init hinits with hsome | heq
    · obtain ⟨decimals, hdecimals⟩ := Option.isSome_iff_exists.mp hsome
      rw [hdecimals]
      rfl
    · rw [heq]
  simp only [Plan.Init.ofNode, hdecimals, Plan.orDefault_congr (h.coinSymbol init hinits),
    Plan.orDefault_congr (h.coinName init hinits),
    Plan.orDefault_congr (h.coinDescription init hinits)]

theorem Defaults.AgreeOnGaps.plan_eq (h : AgreeOnGaps graph intents d d') (name : String) :
    Plan.ofGraph name graph d intents = Plan.ofGraph name graph d' intents := by
  rw [Plan.ofGraph_eq_map, Plan.ofGraph_eq_map, h.resolve_eq]
  cases hresolve : Witness.resolve graph d' with
  | error error => rfl
  | ok witness =>
      refine congrArg Except.ok ?_
      rcases Witness.inits_of_resolve hresolve with hinits | ⟨init, hinits⟩
      · simp only [Plan.assemble, hinits, List.head?_nil, Option.map_none]
      · simp only [Plan.assemble, hinits, List.head?_cons, Option.map_some, h.init_eq hinits]

theorem Move.Body.ofPlan_of_recognized {f : Plan.Function} (h : f.intent ≠ .unrecognized)
    (text text' : String) : ofPlan f text = ofPlan f text' := by
  unfold ofPlan
  cases hintent : f.intent with
  | unrecognized => exact absurd hintent h
  | mintCoin => rfl
  | mintNft => rfl
  | transfer => rfl

theorem Defaults.AgreeOnGaps.functions_eq (h : AgreeOnGaps graph intents d d') {name : String}
    {plan : Plan} (hplan : Plan.ofGraph name graph d' intents = .ok plan) :
    Move.functionsOf plan d = Move.functionsOf plan d' := by
  unfold Move.functionsOf
  rcases h.placeholderBody with hrecognized | heq
  · obtain ⟨witness, init, -, -, rfl⟩ := Plan.ofGraph_eq_ok_iff.mp hplan
    apply List.map_congr_left
    intro f hf
    have hintent : f.intent ≠ .unrecognized := by
      obtain ⟨entry, hentry, rfl⟩ := List.mem_map.mp hf
      exact hrecognized entry hentry
    simp only [Move.FunctionDecl.ofPlan,
      Move.Body.ofPlan_of_recognized hintent d.placeholderBody d'.placeholderBody]
  · rw [heq]

theorem Defaults.AgreeOnGaps.manifest_eq (h : AgreeOnGaps graph intents d d') (name : String) :
    Move.manifest name d = Move.manifest name d' := by
  simp only [Move.manifest, Move.frameworkSource, h.packageVersion, h.frameworkGit,
    h.frameworkSubdir, h.frameworkRev, h.packageAddress]

namespace Package

/-- Defaults that agree on the gaps of a graph give the same package or the same error. -/
theorem ofGraph_eq_of_agreeOnGaps (name : String) (graph : Graph) (intents : Intent.Table)
    (d d' : Defaults) (h : Defaults.AgreeOnGaps graph intents d d') :
    ofGraph name graph d intents = ofGraph name graph d' intents := by
  rw [ofGraph_eq_map, ofGraph_eq_map, h.plan_eq]
  cases hplan : Plan.ofGraph name graph d' intents with
  | error error => rfl
  | ok plan =>
      refine congrArg Except.ok ?_
      simp only [ofPlan, Move.Module.ofPlan, h.functions_eq hplan, h.manifest_eq]

theorem ofGraph_eq_filled :
    let graph : Graph := ⟨[⟨"s-1", "GOLD", none, .struct ⟨[], .keyStore, false⟩⟩,
      ⟨"i-1", "CoinInit", none, .init ⟨"Gold", "", some 0, ""⟩⟩,
      ⟨"f-1", "burn", none, .function [⟨"cap", "TreasuryCap"⟩]⟩], []⟩
    let intents := Intent.Table.ofList [("burn", .transfer)]
    let d' : Defaults := { witnessName := "COIN", coinDecimals := 6, coinName := "Coin",
                           placeholderBody := "abort 0" }
    Defaults.AgreeOnGaps graph intents .builtIn d' ∧
      ofGraph "gold" graph .builtIn intents = ofGraph "gold" graph d' intents := by
  intro graph intents d'
  have hinits : ∀ init, graph.inits = [init] → init.2 = ⟨"Gold", "", some 0, ""⟩ :=
    fun _ hinit => congrArg Prod.snd (List.head_eq_of_cons_eq hinit).symm
  have hagree : Defaults.AgreeOnGaps graph intents .builtIn d' := by
    refine ⟨rfl, rfl, rfl, rfl, rfl, .inr (.inl ?_), ?_, ?_, ?_, ?_, .inl (by decide)⟩
    · exact ⟨_, List.mem_cons_self, rfl, by decide⟩
    all_goals
      intro init hinit
      rw [hinits init hinit]
      decide
  exact ⟨hagree, ofGraph_eq_of_agreeOnGaps _ _ _ _ _ hagree⟩

end Package

end MoveCanvas
