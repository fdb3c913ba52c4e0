import Mathlib.Data.List.Nodup
import MoveCanvas.Proofs.Plan.PlannedStructs

/-! # The witness among the planned structs

The choice of a witness and the planning of structs filter the nodes separately, by the same tests.
So a witness that is taken from a struct node is planned, as the first struct of its name, and it is
the very first planned struct where nothing eligible is wired in. A witness of the default name
stands alone. -/

namespace MoveCanvas

namespace Witness

variable {graph : Graph} {defaults : Defaults} {witness : Witness} {id : String}

theorem fallback_cases (graph : Graph) (defaults : Defaults) :
    (∃ s, graph.structs.find? (·.1.isEligible) = some s ∧
        fallback graph defaults = ⟨Identifier.declaration s.1.label, .firstStruct s.1.id⟩) ∨
      graph.structs.find? (·.1.isEligible) = none ∧
        fallback graph defaults = ⟨defaults.witnessName, .default⟩ := by
  unfold fallback
  rw [Graph.firstEligibleStruct?_eq]
  cases graph.structs.find? (·.1.isEligible) with
  | some s => exact .inl ⟨s, rfl, rfl⟩
  | none => exact .inr ⟨rfl, rfl⟩

theorem exists_of_source_firstStruct (h : resolve graph defaults = .ok witness)
    (hsource : witness.source = .firstStruct id) :
    ∃ s, graph.structs.find? (·.1.isEligible) = some s ∧ s.1.id = id ∧
      witness.name = Identifier.declaration s.1.label := by
  rcases resolve_eq_ok_cases h with ⟨node, -, rfl⟩ | ⟨-, rfl⟩
  · cases hsource
  · rcases fallback_cases graph defaults with ⟨s, hfound, heq⟩ | ⟨-, heq⟩
    · rw [heq] at hsource ⊢
      exact ⟨s, hfound, Source.firstStruct.inj hsource, rfl⟩
    · rw [heq] at hsource
      cases hsource

theorem no_eligible_of_source_default (h : resolve graph defaults = .ok witness)
    (hsource : witness.source = .default) : graph.structs.find? (·.1.isEligible) = none := by
  rcases resolve_eq_ok_cases h with ⟨node, -, rfl⟩ | ⟨-, rfl⟩
  · cases hsource
  · rcases fallback_cases graph defaults with ⟨s, -, heq⟩ | ⟨hnone, -⟩
    · rw [heq] at hsource
      cases hsource
    · exact hnone

theorem exists_of_source_connected (h : resolve graph defaults = .ok witness)
    (hsource : witness.source = .connected id) :
    ∃ node, graph.node? id = some node ∧ node.isEligible = true ∧
      witness.name = Identifier.declaration node.label := by
  rcases resolve_eq_ok_cases h with ⟨node, ⟨init, -, hconnected⟩, rfl⟩ | ⟨-, rfl⟩
  · obtain rfl : node.id = id := Source.connected.inj hsource
    obtain ⟨-, hnode, heligible⟩ := Graph.connectedWitness_eq_some_iff.mp hconnected
    exact ⟨node, hnode, heligible, rfl⟩
  · rcases fallback_cases graph defaults with ⟨s, -, heq⟩ | ⟨-, heq⟩
    all_goals
      rw [heq] at hsource
      cases hsource

end Witness

namespace Plan

theorem filter_isWitness_structsOf (graph : Graph) (witness : String) :
    (structsOf graph witness).filter (·.isWitness) =
      (structsOf graph witness).filter (·.name = witness) := by
  apply List.filter_congr
  intro s hs
  rw [Bool.eq_iff_iff, isWitness_iff_of_mem_structsOf hs, decide_eq_true_iff]

theorem length_filter_isWitness_le_one (graph : Graph) (witness : String) :
    ((structsOf graph witness).filter (·.isWitness)).length ≤ 1 := by
  have hdistinct : ((structsOf graph witness).map (·.name)).Nodup :=
    nodup_structsAfter witness [] graph.structs
  calc ((structsOf graph witness).filter (·.isWitness)).length
    _ = ((structsOf graph witness).map (·.name)).count witness := by
        rw [filter_isWitness_structsOf, ← List.countP_eq_length_filter, List.count, List.countP_map]
        rfl
    _ ≤ 1 := List.nodup_iff_count_le_one.mp hdistinct witness

theorem filter_isWitness_of_isEligible {graph : Graph} {node : Graph.Node} {spec : StructSpec}
    (hmem : (node, spec) ∈ graph.structs) (heligible : node.isEligible = true) :
    ∃ s, graph.firstOwn? (Identifier.declaration node.label) = some s ∧
      (structsOf graph (Identifier.declaration node.label)).filter (·.isWitness) =
        [.ofNode (Identifier.declaration node.label) s.1 s.2] := by
  have hown : spec.imported = false :=
    node.imported_of_isEligible (Graph.kind_of_mem_structs hmem) heligible
  have hframework := node.isFrameworkType_of_isEligible heligible
  obtain ⟨s, hs⟩ := Graph.exists_firstOwn? hmem hown
  refine ⟨s, hs, ?_⟩
  rw [filter_isWitness_structsOf, filter_name_structsOf graph _ hframework, hs]
  rfl

/-- How the source of the witness shows in the planned structs. The node that is wired in need not
be the planned one: an earlier struct of its name takes its place. -/
structure SeatsWitness (graph : Graph) (plan : Plan) : Prop where
  once : (plan.structs.filter (·.isWitness)).length ≤ 1
  added : plan.synthesizesWitness = true ↔ ∀ s ∈ plan.structs, s.isWitness = false
  first : ∀ id, plan.witness.source = .firstStruct id →
    ∃ s, plan.structs.head? = some s ∧ s.node = id ∧ s.isWitness = true
  alone : plan.witness.source = .default → plan.structs = [] ∧ plan.synthesizesWitness = true
  connected : ∀ id node spec, plan.witness.source = .connected id → graph.node? id = some node →
    node.kind = .struct spec → plan.synthesizesWitness = false ∧
      ∃ s, graph.firstOwn? plan.witness.name = some s ∧
        plan.structs.filter (·.isWitness) = [.ofNode plan.witness.name s.1 s.2]

/-- The structs of every plan agree with the source of its witness. -/
theorem seatsWitness_of_ofGraph {name : String} {graph : Graph} {defaults : Defaults}
    {intents : Intent.Table} {plan : Plan} (h : ofGraph name graph defaults intents = .ok plan) :
    SeatsWitness graph plan := by
  obtain ⟨witness, init, hresolve, -, rfl⟩ := ofGraph_eq_ok_iff.mp h
  have hadded : (assemble name graph defaults intents witness init).synthesizesWitness = true ↔
      ∀ s ∈ structsOf graph witness.name, s.isWitness = false := by
    simp [assemble]
  constructor
  case once => exact length_filter_isWitness_le_one graph witness.name
  case added => exact hadded
  case first =>
    intro id hsource
    obtain ⟨s, hfound, hid, hname⟩ := Witness.exists_of_source_firstStruct hresolve hsource
    have hhead : (structsOf graph witness.name).head? = some (.ofNode witness.name s.1 s.2) := by
      rw [head?_structsOf, hfound]
      rfl
    exact ⟨_, hhead, (Struct.node_ofNode ..).trans hid, Struct.isWitness_ofNode.mpr hname.symm⟩
  case alone =>
    intro hsource
    have hnone : structsOf graph witness.name = [] := by
      rw [← List.head?_eq_none_iff, head?_structsOf,
        Witness.no_eligible_of_source_default hresolve hsource]
      rfl
    refine ⟨hnone, hadded.mpr ?_⟩
    rw [hnone]
    exact fun s hs => absurd hs List.not_mem_nil
  case connected =>
    intro id node spec hsource hnode hkind
    obtain ⟨found, hfound, heligible, hname⟩ := Witness.exists_of_source_connected hresolve hsource
    obtain rfl : found = node := Option.some.inj (hfound.symm.trans hnode)
    have hmem : (found, spec) ∈ graph.structs :=
      Graph.mem_filterMap_kind_iff.mpr ⟨List.mem_of_find?_eq_some hnode, by rw [hkind]; rfl⟩
    -- the name of this node is planned, though maybe for an earlier node
    obtain ⟨s, hs, hfilter⟩ := filter_isWitness_of_isEligible hmem heligible
    rw [← hname] at hs hfilter
    refine ⟨Bool.eq_false_iff.mpr fun hadd => ?_, s, hs, hfilter⟩
    have hnone : (structsOf graph witness.name).filter (·.isWitness) = [] := by
      rw [List.filter_eq_nil_iff]
      intro s hs
      rw [hadded.mp hadd s hs]
      exact Bool.false_ne_true
    rw [hnone] at hfilter
    cases hfilter

theorem seatsWitness_of_ofGraph_second :
    let graph : Graph := ⟨[⟨"s-1", "GOLD", none, .struct ⟨[], .keyStore, true⟩⟩,
      ⟨"s-2", "Silver", none, .struct ⟨[⟨"id", "UID"⟩], .keyStore, false⟩⟩,
      ⟨"s-3", "GOLD", none, .struct ⟨[⟨"id", "UID"⟩], .keyStore, false⟩⟩,
      ⟨"s-4", "GOLD", none, .struct ⟨[⟨"grade", "u8"⟩], .keyStore, false⟩⟩,
      ⟨"i-1", "CoinInit", none, .init ⟨"", "", none, ""⟩⟩],
      [⟨"s-4", .objectMain, "i-1", .witnessInput⟩]⟩
    ∃ plan, Plan.ofGraph "m" graph .builtIn .empty = .ok plan ∧ SeatsWitness graph plan ∧
      plan.witness = ⟨"GOLD", .connected "s-4"⟩ ∧
      plan.structs.filter (·.isWitness) = [⟨"s-3", "GOLD", .dropOnly, [], true⟩] := by
  intro graph
  obtain ⟨plan, h, hwitness⟩ : ∃ plan, Plan.ofGraph "m" graph .builtIn .empty = .ok plan ∧
      plan.witness = ⟨"GOLD", .connected "s-4"⟩ := ⟨_, rfl, by decide⟩
  have hseats := seatsWitness_of_ofGraph h
  obtain ⟨-, s, hs, hfilter⟩ := hseats.connected "s-4" _ _ (by rw [hwitness]) rfl rfl
  refine ⟨plan, h, hseats, hwitness, hfilter.trans ?_⟩
  rw [hwitness] at hs ⊢
  cases hs
  decide

end Plan

end MoveCanvas
