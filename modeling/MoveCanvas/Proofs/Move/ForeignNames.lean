import MoveCanvas.Move.Module
import MoveCanvas.Proofs.Move.WitnessDeclaration

/-! # Names of types from elsewhere

No declaration of a module has the name of a framework type, so none has the name of a type that the
module imports. The names of imported struct nodes are kept out of the planned structs, and the
struct of NFTs is not added beside a node of its name. The witness is added without a look at them:
a default name, or a node that is no struct, may give it the name of an imported struct. -/

namespace MoveCanvas

theorem Witness.isFrameworkType_of_resolve {graph : Graph} {defaults : Defaults}
    {witness : Witness} (hdefault : Palette.isFrameworkType defaults.witnessName = false)
    (h : resolve graph defaults = .ok witness) : Palette.isFrameworkType witness.name = false := by
  rcases connected_or_fallback_of_resolve h with ⟨node, -, heligible, rfl⟩ | rfl
  · exact node.isFrameworkType_of_isEligible heligible
  · unfold fallback
    split
    · next node hnode =>
      exact node.isFrameworkType_of_isEligible (eligible_of_firstEligibleStruct? hnode).2.2
    · exact hdefault

namespace Graph

def HasImported (graph : Graph) (name : String) : Prop :=
  ∃ s ∈ graph.structs, s.2.imported = true ∧ Identifier.declaration s.1.label = name

def HasOwn (graph : Graph) (name : String) : Prop :=
  ∃ s ∈ graph.structs, s.2.imported = false ∧ Identifier.declaration s.1.label = name

instance (graph : Graph) (name : String) : Decidable (graph.HasImported name) :=
  inferInstanceAs (Decidable (∃ s ∈ graph.structs, _))

instance (graph : Graph) (name : String) : Decidable (graph.HasOwn name) :=
  inferInstanceAs (Decidable (∃ s ∈ graph.structs, _))

end Graph

/-- The witness has a name that only imported struct nodes have. -/
structure Plan.BorrowedWitness (graph : Graph) (witness : Witness) : Prop where
  imported : graph.HasImported witness.name
  unowned : ¬ graph.HasOwn witness.name

theorem Graph.hasOwn_of_isEligible {graph : Graph} {node : Graph.Node} (hmem : node ∈ graph.nodes)
    (hstruct : node.kind.struct?.isSome = true) (heligible : node.isEligible = true) :
    graph.HasOwn (Identifier.declaration node.label) := by
  obtain ⟨spec, hspec⟩ := Option.isSome_iff_exists.mp hstruct
  refine ⟨(node, spec), mem_filterMap_kind_iff.mpr ⟨hmem, hspec⟩, ?_, rfl⟩
  exact node.imported_of_isEligible hspec heligible

theorem Plan.BorrowedWitness.source {graph : Graph} {defaults : Defaults} {witness : Witness}
    (h : BorrowedWitness graph witness) (hresolve : Witness.resolve graph defaults = .ok witness) :
    witness.source = .default ∨
      ∃ node ∈ graph.nodes, node.kind.struct? = none ∧ witness = .ofConnected node := by
  rcases Witness.connected_or_fallback_of_resolve hresolve with ⟨node, hmem, heligible, rfl⟩ | rfl
  · refine Or.inr ⟨node, hmem, Option.not_isSome_iff_eq_none.mp fun hstruct => ?_, rfl⟩
    exact h.unowned (Graph.hasOwn_of_isEligible hmem hstruct heligible)
  · cases hfirst : graph.firstEligibleStruct? with
    | none => exact Or.inl (by simp [Witness.fallback, hfirst])
    | some node =>
        obtain ⟨hmem, hstruct, heligible⟩ := Witness.eligible_of_firstEligibleStruct? hfirst
        have hown := Graph.hasOwn_of_isEligible hmem hstruct heligible
        exact absurd hown (by simpa [Witness.fallback, hfirst] using h.unowned)

namespace Move

/-- The names in the list at the end of a path. A path without a list brings in a module. -/
def importedNames (path : String) : List String :=
  match Text.cutFirst? '\x7b' path.toList with
  | some (_, rest) =>
    (((Text.before? ['\x7d'] rest).getD rest).splitOn ',').map (String.ofList <| Text.trim ·)
  | none => []

def importedTypes : List String :=
  (imports.flatMap importedNames).filter (· ≠ "Self")

theorem importedTypes_eq :
    importedTypes = ["UID", "TxContext", "TreasuryCap", "Coin", "Url", "String"] := by
  decide

theorem isFrameworkType_of_mem_importedTypes {name : String} (h : name ∈ importedTypes) :
    Palette.isFrameworkType name = true := by
  rw [importedTypes_eq] at h
  have hall : ∀ name ∈ ["UID", "TxContext", "TreasuryCap", "Coin", "Url", "String"],
      Palette.isFrameworkType name = true := by decide
  exact hall name h

/-- No declaration has the name of an imported struct node, unless a struct node that is not
imported has that name too. -/
def KeepsImported (graph : Graph) (decls : List StructDecl) : Prop :=
  ∀ decl ∈ decls, graph.HasImported decl.name → graph.HasOwn decl.name

variable {name : String} {graph : Graph} {defaults : Defaults} {intents : Intent.Table}
  {witness : Witness} {init : Option (Graph.Node × Currency)}

theorem mem_structsOf_assemble {decl : StructDecl}
    (h : decl ∈ structsOf (Plan.assemble name graph defaults intents witness init)) :
    (graph.HasOwn decl.name ∧ Palette.isFrameworkType decl.name = false) ∨
      decl = .witness witness.name ∨
      (decl = .nft ∧ ∀ s ∈ graph.structs, Identifier.declaration s.1.label ≠ Plan.nftName) := by
  rcases List.mem_append.mp h with h | hnft
  · rcases List.mem_append.mp h with hplanned | hwitness
    · obtain ⟨s, hs, rfl⟩ := List.mem_map.mp hplanned
      obtain ⟨node, spec, hmem, rfl, hown, hframework⟩ := Plan.mem_structsAfter hs
      have hname : (StructDecl.ofPlan (.ofNode witness.name node spec)).name =
          Identifier.declaration node.label := Plan.Struct.name_ofNode ..
      rw [hname]
      exact Or.inl ⟨⟨(node, spec), hmem, hown, rfl⟩, hframework⟩
    · split at hwitness
      · exact Or.inr (Or.inl (List.mem_singleton.mp hwitness))
      · cases hwitness
  · split at hnft
    · next hadded =>
      obtain ⟨-, habsent⟩ := Plan.synthesizesNft_assemble_iff.mp hadded
      exact Or.inr (Or.inr ⟨List.mem_singleton.mp hnft, habsent⟩)
    · cases hnft

theorem isFrameworkType_of_mem_structsOf {decl : StructDecl}
    (hwitness : Palette.isFrameworkType witness.name = false)
    (h : decl ∈ structsOf (Plan.assemble name graph defaults intents witness init)) :
    Palette.isFrameworkType decl.name = false := by
  rcases mem_structsOf_assemble h with ⟨-, hown⟩ | rfl | ⟨rfl, -⟩
  · exact hown
  · exact hwitness
  · decide

theorem exists_name_eq_witness (name : String) (graph : Graph) (defaults : Defaults)
    (intents : Intent.Table) (witness : Witness) (init : Option (Graph.Node × Currency)) :
    ∃ decl ∈ structsOf (Plan.assemble name graph defaults intents witness init),
      decl.name = witness.name := by
  have hexclusive : Exclusive
      (ownStructs (Plan.assemble name graph defaults intents witness init)) witness.name :=
    exclusive_ownStructs
  obtain ⟨decl, hmem, hname, -⟩ := hexclusive.exists_mem
  exact ⟨decl, List.mem_append_left _ hmem, hname⟩

theorem keepsImported_assemble_iff :
    KeepsImported graph (structsOf (Plan.assemble name graph defaults intents witness init)) ↔
      ¬ Plan.BorrowedWitness graph witness := by
  constructor
  · intro hkeeps hborrowed
    obtain ⟨decl, hmem, hname⟩ := exists_name_eq_witness name graph defaults intents witness init
    have hown := hkeeps decl hmem
    rw [hname] at hown
    exact hborrowed.unowned (hown hborrowed.imported)
  · intro hborrowed decl hmem himported
    rcases mem_structsOf_assemble hmem with ⟨hown, -⟩ | rfl | ⟨rfl, habsent⟩
    · exact hown
    · by_contra hunowned
      exact hborrowed ⟨himported, hunowned⟩
    · obtain ⟨s, hs, -, hname⟩ := himported
      exact absurd hname (habsent s hs)

/-- A module declares no framework type and no type that it imports. It declares a name that only
imported struct nodes have exactly if its witness has one, and then the witness is the default or a
node that is no struct. -/
theorem keepsImported_structsOf_iff {plan : Plan}
    (h : Plan.ofGraph name graph .builtIn intents = .ok plan) :
    (∀ decl ∈ structsOf plan, decl.name ∉ Palette.frameworkTypes ∧ decl.name ∉ importedTypes) ∧
      (KeepsImported graph (structsOf plan) ↔ ¬ Plan.BorrowedWitness graph plan.witness) ∧
      (Plan.BorrowedWitness graph plan.witness → plan.witness.source = .default ∨
        ∃ node ∈ graph.nodes, node.kind.struct? = none ∧ plan.witness = .ofConnected node) := by
  obtain ⟨witness, init, hresolve, -, rfl⟩ := Plan.ofGraph_eq_ok_iff.mp h
  refine ⟨fun decl hmem => ?_, keepsImported_assemble_iff, fun hborrowed => hborrowed.source hresolve⟩
  have hdefault : Palette.isFrameworkType Defaults.builtIn.witnessName = false := by decide
  have hframework := isFrameworkType_of_mem_structsOf
    (Witness.isFrameworkType_of_resolve hdefault hresolve) hmem
  constructor
  · intro hname
    rw [Palette.isFrameworkType_iff.mpr hname] at hframework
    cases hframework
  · intro hname
    rw [isFrameworkType_of_mem_importedTypes hname] at hframework
    cases hframework

theorem keepsImported_structsOf_gallery :
    let graph : Graph := ⟨[⟨"s-1", "Gem", none, .struct ⟨[], .keyStore, true⟩⟩,
      ⟨"s-2", "Gem", none, .struct ⟨[⟨"id", "UID"⟩], .keyStore, false⟩⟩,
      ⟨"s-3", "Coin", none, .struct ⟨[], .keyStore, false⟩⟩,
      ⟨"i-1", "CoinInit", none, .init ⟨"", "", none, ""⟩⟩,
      ⟨"f-1", "nft::mint", none, .function [⟨"ctx", "&mut TxContext"⟩]⟩],
      [⟨"f-1", .returnValue, "i-1", .witnessInput⟩]⟩
    ∃ plan, Plan.ofGraph "gallery" graph .builtIn .empty = .ok plan ∧
      (structsOf plan).map (·.name) = ["Gem", "nft_mint", "SimpleNFT"] ∧
      KeepsImported graph (structsOf plan) := by
  intro graph
  obtain ⟨plan, h, hnames, hwitness⟩ : ∃ plan, Plan.ofGraph "gallery" graph .builtIn .empty = .ok plan ∧
      (structsOf plan).map (·.name) = ["Gem", "nft_mint", "SimpleNFT"] ∧
      plan.witness.name = "nft_mint" := ⟨_, rfl, by decide, by decide⟩
  refine ⟨plan, h, hnames, (keepsImported_structsOf_iff h).2.1.mpr fun hborrowed => ?_⟩
  have himported := hborrowed.imported
  rw [hwitness] at himported
  exact absurd himported (by decide)

theorem not_keepsImported_default_name :
    let graph : Graph := ⟨[⟨"s-1", "MY_COIN", none, .struct ⟨[], .keyStore, true⟩⟩], []⟩
    ∃ plan, Plan.ofGraph "m" graph .builtIn .empty = .ok plan ∧
      structsOf plan = [.witness "MY_COIN"] ∧ ¬ KeepsImported graph (structsOf plan) := by
  refine ⟨_, rfl, rfl, fun hkeeps => ?_⟩
  exact absurd (hkeeps (.witness "MY_COIN") (List.mem_singleton_self _) (by decide)) (by decide)

end Move

end MoveCanvas
