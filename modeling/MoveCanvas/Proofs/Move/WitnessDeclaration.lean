import Mathlib.Data.List.Nodup
import MoveCanvas.Move.Struct
import MoveCanvas.Proofs.Plan.PlannedStructs

/-! # How often a module declares its witness

The planned structs have distinct names, and the witness is added where none of them has its name.
The struct of NFTs is added by a test of its own, which does not ask whether the witness has that
name already. The two additions clash exactly when the witness is named like the struct of NFTs
although no struct on the canvas is: by a default name, or by a node that is no struct. -/

namespace MoveCanvas

namespace Plan

/-- The witness is named like the struct of NFTs, a function mints one, and no struct on the
canvas has that name. -/
structure NftClash (graph : Graph) (intents : Intent.Table) (witness : Witness) : Prop where
  named : witness.name = nftName
  mints : ∃ f ∈ graph.functions, intents.classify f.1.label = .mintNft
  absent : ∀ s ∈ graph.structs, Identifier.declaration s.1.label ≠ nftName

variable {name : String} {graph : Graph} {defaults : Defaults} {intents : Intent.Table}
  {witness : Witness} {init : Option (Graph.Node × Currency)}

theorem synthesizesWitness_assemble_iff :
    (assemble name graph defaults intents witness init).synthesizesWitness = true ↔
      ∀ s ∈ structsOf graph witness.name, s.name ≠ witness.name := by
  simp only [assemble, Bool.not_eq_true', List.any_eq_false]
  constructor
  · intro h s hs hname
    exact h s hs ((isWitness_iff_of_mem_structsOf hs).mpr hname)
  · intro h s hs hwitness
    exact h s hs ((isWitness_iff_of_mem_structsOf hs).mp hwitness)

theorem synthesizesNft_assemble_iff :
    (assemble name graph defaults intents witness init).synthesizesNft = true ↔
      (∃ f ∈ graph.functions, intents.classify f.1.label = .mintNft) ∧
        ∀ s ∈ graph.structs, Identifier.declaration s.1.label ≠ nftName := by
  simp [assemble, functionsOf, Function.ofNode, hasNftStruct]

end Plan

namespace Move

/-- Declarations of distinct names, of which exactly one has the name of the witness. That one can
only be dropped. -/
structure Exclusive (decls : List StructDecl) (witness : String) : Prop where
  distinct : (decls.map (·.name)).Nodup
  once : ∃ decl, decls.filter (·.name = witness) = [decl] ∧ decl.abilities = .dropOnly

theorem filter_name_eq_singleton {decls : List StructDecl} {decl : StructDecl}
    (hdistinct : (decls.map (·.name)).Nodup) (hmem : decl ∈ decls) :
    decls.filter (·.name = decl.name) = [decl] := by
  induction decls with
  | nil => cases hmem
  | cons head rest ih =>
      obtain ⟨hhead, hrest⟩ := List.nodup_cons.mp hdistinct
      rcases List.mem_cons.mp hmem with rfl | hmem
      · have hnone : rest.filter (·.name = decl.name) = [] := by
          rw [List.filter_eq_nil_iff]
          intro other hother hname
          exact hhead (List.mem_map.mpr ⟨other, hother, by simpa using hname⟩)
        simp [hnone]
      · have hne : head.name ≠ decl.name := by
          intro hname
          exact hhead (List.mem_map.mpr ⟨decl, hmem, hname.symm⟩)
        rw [List.filter_cons_of_neg (by simpa using hne)]
        exact ih hrest hmem

theorem Exclusive.of_mem {decls : List StructDecl} {decl : StructDecl} {witness : String}
    (hdistinct : (decls.map (·.name)).Nodup) (hmem : decl ∈ decls) (hname : decl.name = witness)
    (habilities : decl.abilities = .dropOnly) : Exclusive decls witness where
  distinct := hdistinct
  once := ⟨decl, hname ▸ filter_name_eq_singleton hdistinct hmem, habilities⟩

theorem Exclusive.exists_mem {decls : List StructDecl} {witness : String}
    (h : Exclusive decls witness) :
    ∃ decl ∈ decls, decl.name = witness ∧ decl.abilities = .dropOnly := by
  obtain ⟨decl, hfilter, habilities⟩ := h.once
  have hmem : decl ∈ decls.filter (·.name = witness) := hfilter ▸ List.mem_singleton_self decl
  obtain ⟨hmem, hname⟩ := List.mem_filter.mp hmem
  exact ⟨decl, hmem, by simpa using hname, habilities⟩

theorem exclusive_append_iff {decls : List StructDecl} {witness : String} {extra : StructDecl}
    (h : Exclusive decls witness) :
    Exclusive (decls ++ [extra]) witness ↔ extra.name ∉ decls.map (·.name) := by
  have hdistinct : ((decls ++ [extra]).map (·.name)).Nodup ↔ extra.name ∉ decls.map (·.name) := by
    rw [List.map_append, List.nodup_append]
    simp only [h.distinct, List.map_cons, List.map_nil, List.mem_singleton, forall_eq,
      List.nodup_singleton, true_and]
    exact ⟨fun hne hmem => hne _ hmem rfl, fun hnew other hmem he => hnew (he ▸ hmem)⟩
  constructor
  · exact fun hexclusive => hdistinct.mp hexclusive.distinct
  · intro hnew
    obtain ⟨decl, hmem, hname, habilities⟩ := h.exists_mem
    exact .of_mem (hdistinct.mpr hnew) (List.mem_append_left _ hmem) hname habilities

variable {name : String} {graph : Graph} {defaults : Defaults} {intents : Intent.Table}

def ownStructs (plan : Plan) : List StructDecl :=
  plan.structs.map .ofPlan ++ if plan.synthesizesWitness then [.witness plan.witness.name] else []

theorem structsOf_eq (plan : Plan) :
    structsOf plan = ownStructs plan ++ if plan.synthesizesNft then [.nft] else [] := rfl

section Assembled

variable {witness : Witness} {init : Option (Graph.Node × Currency)}

theorem names_planned (graph : Graph) (witness : String) :
    (((Plan.structsOf graph witness).map StructDecl.ofPlan).map (·.name)) =
      (Plan.structsOf graph witness).map (·.name) := by
  rw [List.map_map]
  rfl

theorem exclusive_ownStructs :
    Exclusive (ownStructs (Plan.assemble name graph defaults intents witness init)) witness.name := by
  have hplanned := Plan.nodup_structsAfter witness.name [] graph.structs
  by_cases hadd : ∀ s ∈ Plan.structsOf graph witness.name, s.name ≠ witness.name
  · have hown : ownStructs (Plan.assemble name graph defaults intents witness init) =
        (Plan.structsOf graph witness.name).map .ofPlan ++ [.witness witness.name] := by
      unfold ownStructs
      rw [if_pos (Plan.synthesizesWitness_assemble_iff.mpr hadd)]
      rfl
    rw [hown]
    refine .of_mem ?_ (List.mem_append_right _ (List.mem_singleton_self _)) rfl rfl
    rw [List.map_append, names_planned, List.nodup_append]
    refine ⟨hplanned, List.nodup_singleton _, ?_⟩
    intro other hother _ hwitness
    obtain ⟨s, hs, rfl⟩ := List.mem_map.mp hother
    rw [List.mem_singleton.mp hwitness]
    exact hadd s hs
  · have hown : ownStructs (Plan.assemble name graph defaults intents witness init) =
        (Plan.structsOf graph witness.name).map .ofPlan := by
      unfold ownStructs
      rw [if_neg (mt Plan.synthesizesWitness_assemble_iff.mp hadd), List.append_nil]
      rfl
    obtain ⟨s, hs, hname⟩ : ∃ s ∈ Plan.structsOf graph witness.name, s.name = witness.name := by
      simpa using hadd
    rw [hown]
    refine .of_mem ?_ (List.mem_map_of_mem hs) hname (Plan.abilities_of_mem_structsOf hs hname)
    rw [names_planned]
    exact hplanned

/-- Among the declarations of the module's own, the witness alone can be named like no struct node. -/
theorem mem_names_ownStructs_iff
    (habsent : ∀ s ∈ graph.structs, Identifier.declaration s.1.label ≠ Plan.nftName) :
    Plan.nftName ∈ (ownStructs (Plan.assemble name graph defaults intents witness init)).map (·.name) ↔
      witness.name = Plan.nftName := by
  constructor
  · intro hmem
    obtain ⟨decl, hdecl, hname⟩ := List.mem_map.mp hmem
    rcases List.mem_append.mp hdecl with hplanned | hadded
    · obtain ⟨s, hs, rfl⟩ := List.mem_map.mp hplanned
      obtain ⟨node, spec, hnode, rfl, -⟩ := Plan.mem_structsAfter hs
      exact absurd ((Plan.Struct.name_ofNode ..).symm.trans hname) (habsent _ hnode)
    · split at hadded
      · rw [List.mem_singleton.mp hadded] at hname
        exact hname
      · cases hadded
  · intro hname
    have hexclusive : Exclusive
        (ownStructs (Plan.assemble name graph defaults intents witness init)) witness.name :=
      exclusive_ownStructs
    obtain ⟨decl, hmem, hdecl, -⟩ := hexclusive.exists_mem
    exact List.mem_map.mpr ⟨decl, hmem, hdecl.trans hname⟩

end Assembled

/-- A module declares its witness once, with the ability drop alone and under a name of its own,
unless the witness takes the name of the struct of NFTs that the module has to add. -/
theorem exclusive_structsOf_iff {plan : Plan}
    (h : Plan.ofGraph name graph defaults intents = .ok plan) :
    Exclusive (structsOf plan) plan.witness.name ↔ ¬ Plan.NftClash graph intents plan.witness := by
  obtain ⟨witness, init, -, -, rfl⟩ := Plan.ofGraph_eq_ok_iff.mp h
  show Exclusive _ witness.name ↔ ¬ Plan.NftClash graph intents witness
  rw [structsOf_eq]
  by_cases hnft : (Plan.assemble name graph defaults intents witness init).synthesizesNft = true
  · obtain ⟨hmints, habsent⟩ := Plan.synthesizesNft_assemble_iff.mp hnft
    rw [if_pos hnft, exclusive_append_iff exclusive_ownStructs]
    refine not_congr ((mem_names_ownStructs_iff habsent).trans ?_)
    exact ⟨fun hname => ⟨hname, hmints, habsent⟩, Plan.NftClash.named⟩
  · rw [if_neg hnft, List.append_nil]
    refine iff_of_true exclusive_ownStructs fun hclash => hnft ?_
    exact Plan.synthesizesNft_assemble_iff.mpr ⟨hclash.mints, hclash.absent⟩

theorem exclusive_structsOf_nft_struct :
    let graph : Graph := ⟨[⟨"s-1", "SimpleNFT", none, .struct ⟨[⟨"id", "UID"⟩], .keyStore, false⟩⟩,
      ⟨"i-1", "CoinInit", none, .init ⟨"", "", none, ""⟩⟩,
      ⟨"f-1", "nft::mint", none, .function [⟨"ctx", "&mut TxContext"⟩]⟩],
      [⟨"s-1", .objectMain, "i-1", .witnessInput⟩]⟩
    ∃ plan, Plan.ofGraph "gallery" graph .builtIn .empty = .ok plan ∧
      Exclusive (structsOf plan) plan.witness.name := by
  intro graph
  obtain ⟨plan, h⟩ : ∃ plan, Plan.ofGraph "gallery" graph .builtIn .empty = .ok plan := ⟨_, rfl⟩
  refine ⟨plan, h, (exclusive_structsOf_iff h).mpr fun hclash => ?_⟩
  exact absurd hclash.absent (by decide)

/-- Where the default name of the witness is that of the struct of NFTs, both are declared. -/
theorem not_exclusive_structsOf_nft_default :
    ∃ plan, Plan.ofGraph "gallery"
        ⟨[⟨"f-1", "nft::mint", none, .function [⟨"name", "vector<u8>"⟩, ⟨"url", "vector<u8>"⟩,
          ⟨"ctx", "&mut TxContext"⟩]⟩], []⟩ { witnessName := "SimpleNFT" } .empty = .ok plan ∧
      structsOf plan = [.witness "SimpleNFT", .nft] ∧
      ¬ Exclusive (structsOf plan) plan.witness.name := by
  refine ⟨_, rfl, rfl, fun h => ?_⟩
  exact absurd h.distinct (by decide)

end Move

end MoveCanvas
