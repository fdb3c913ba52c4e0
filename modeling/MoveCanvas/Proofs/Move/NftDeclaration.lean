import MoveCanvas.Move.Module
import MoveCanvas.Proofs.Move.ForeignNames
import MoveCanvas.Proofs.Plan.WitnessSource

/-! # The struct that NFT bodies build

A body that mints an NFT writes a value of one fixed shape. The module declares a struct of that
shape and name exactly once, from a node of the palette's shape or by adding it, as long as its
witness has another name. A struct node of that name which is chosen as the witness is still
declared once, but as a witness: it can only be dropped and has lost its identity field. -/

namespace MoveCanvas

namespace Plan

theorem exists_mem_structsOf {graph : Graph} {name : String} (witness : String)
    (hown : graph.HasOwn name) (hframework : Palette.isFrameworkType name = false) :
    ∃ s ∈ structsOf graph witness, s.name = name := by
  obtain ⟨node, hmem, himported, rfl⟩ := hown
  obtain ⟨first, hfirst⟩ := Graph.exists_firstOwn? hmem himported
  have hkept : Struct.ofNode witness first.1 first.2 ∈
      (structsOf graph witness).filter (·.name = Identifier.declaration node.1.label) := by
    rw [filter_name_structsOf graph witness hframework, hfirst]
    exact List.mem_singleton_self _
  obtain ⟨hs, hname⟩ := List.mem_filter.mp hkept
  exact ⟨_, hs, of_decide_eq_true hname⟩

end Plan

namespace Move

/-- The lines of a value: a line for each field in the order of the declaration, with a comma after
each but the last. -/
def valueLines (decl : StructDecl) (values : List String) : List String :=
  ("let nft = " ++ decl.name ++ " \x7b") ::
    argumentLines 1 (List.zipWith (fun field value => field.name ++ ": " ++ value) decl.fields values) ++
    ["\x7d;"]

/-- The body builds a value of the declared struct, with one text for each field. -/
def Body.Builds (body : Body) (decl : StructDecl) : Prop :=
  ∃ before values after, values.length = decl.fields.length ∧
    body.lines = before ++ valueLines decl values ++ after

theorem valueLines_nft (name url context : String) :
    valueLines .nft ["object::new(" ++ context ++ ")", "string::utf8(" ++ name ++ ")",
        "url::new_unsafe_from_bytes(" ++ url ++ ")"] =
      ["let nft = " ++ Plan.nftName ++ " \x7b",
        indent 1 ("id: object::new(" ++ context ++ "),"),
        indent 1 ("name: string::utf8(" ++ name ++ "),"),
        indent 1 ("url: url::new_unsafe_from_bytes(" ++ url ++ ")"), "\x7d;"] := by
  have hid : "id: object::new(" = "id" ++ ": " ++ "object::new(" := by decide
  have hname : "name: string::utf8(" = "name" ++ ": " ++ "string::utf8(" := by decide
  have hurl : "url: url::new_unsafe_from_bytes(" =
      "url" ++ ": " ++ "url::new_unsafe_from_bytes(" := by decide
  have hended : ")," = ")" ++ "," := by decide
  rw [hid, hname, hurl, hended]
  simp only [valueLines, StructDecl.nft, List.zipWith, argumentLines, String.append_assoc,
    List.cons_append, List.nil_append]

theorem Body.builds_nft (capability : Option String) (name url context : String) :
    (Body.mintNft capability name url context).Builds .nft := by
  refine ⟨(capability.map fun capability => "let _ = " ++ capability ++ ";").toList,
    ["object::new(" ++ context ++ ")", "string::utf8(" ++ name ++ ")",
      "url::new_unsafe_from_bytes(" ++ url ++ ")"],
    ["transfer::public_transfer(nft, tx_context::sender(" ++ context ++ "));"], rfl, ?_⟩
  rw [valueLines_nft]
  cases capability with
  | none => rfl
  | some capability => rfl

theorem Body.builds_of_mintNft {f : Plan.Function} (h : f.intent = .mintNft) (placeholder : String) :
    (ofPlan f placeholder).Builds .nft := by
  rw [ofPlan, h]
  exact builds_nft ..

/-- Struct nodes with the name of the struct of NFTs are the user's own, and have its fields and
abilities. -/
structure PaletteNfts (graph : Graph) : Prop where
  own : ¬ graph.HasImported Plan.nftName
  shape : ∀ s ∈ graph.structs, s.2.imported = false →
    Identifier.declaration s.1.label = Plan.nftName →
      s.2.fields = StructDecl.nft.fields ∧ s.2.abilities = StructDecl.nft.abilities

example : (Palette.find? Plan.nftName).map (fun t => (t.members, t.abilities)) =
    some (StructDecl.nft.fields, some StructDecl.nft.abilities) := by decide

def nftWitness : StructDecl :=
  ⟨Plan.nftName, .dropOnly, [⟨"name", "String"⟩, ⟨"url", "Url"⟩]⟩

section Assembled

variable {name : String} {graph : Graph} {defaults : Defaults} {intents : Intent.Table}
  {witness : Witness} {init : Option (Graph.Node × Currency)}

theorem PaletteNfts.ofPlan_of_mem {s : Plan.Struct} (h : PaletteNfts graph)
    (hs : s ∈ Plan.structsOf graph witness.name) (hname : s.name = Plan.nftName) :
    StructDecl.ofPlan s = if witness.name = Plan.nftName then nftWitness else .nft := by
  obtain ⟨node, spec, hmem, rfl, hown, -⟩ := Plan.mem_structsAfter hs
  rw [Plan.Struct.name_ofNode] at hname
  obtain ⟨hfields, habilities⟩ := h.shape (node, spec) hmem hown hname
  split
  · next hwitness =>
    have hlost : StructDecl.nft.fields.eraseP Plan.isIdentityField = nftWitness.fields := by decide
    rw [Plan.Struct.ofNode, if_pos (hname.trans hwitness.symm), hfields, hlost, hname]
    rfl
  · next hwitness =>
    rw [Plan.Struct.ofNode, if_neg (fun he => hwitness (he.symm.trans hname)), hfields, habilities,
      hname]
    rfl

theorem PaletteNfts.filter_structsOf_of_hasOwn (h : PaletteNfts graph)
    (hown : graph.HasOwn Plan.nftName) :
    (structsOf (Plan.assemble name graph defaults intents witness init)).filter
        (·.name = Plan.nftName) =
      [if witness.name = Plan.nftName then nftWitness else .nft] := by
  obtain ⟨s, hs, hname⟩ := Plan.exists_mem_structsOf witness.name hown (by decide)
  have hnone : (Plan.assemble name graph defaults intents witness init).synthesizesNft ≠ true := by
    intro hadded
    obtain ⟨node, hmem, -, hnode⟩ := hown
    exact (Plan.synthesizesNft_assemble_iff.mp hadded).2 node hmem hnode
  have hdeclared : StructDecl.ofPlan s ∈
      ownStructs (Plan.assemble name graph defaults intents witness init) :=
    List.mem_append_left _ (List.mem_map_of_mem hs)
  have hdistinct : ((ownStructs (Plan.assemble name graph defaults intents witness init)).map
      (·.name)).Nodup := exclusive_ownStructs.distinct
  have hfilter := filter_name_eq_singleton hdistinct hdeclared
  have hdecl : (StructDecl.ofPlan s).name = Plan.nftName := hname
  rw [hdecl, h.ofPlan_of_mem hs hname] at hfilter
  rw [structsOf_eq, if_neg hnone, List.append_nil]
  exact hfilter

theorem filter_structsOf_of_absent
    (habsent : ∀ s ∈ graph.structs, Identifier.declaration s.1.label ≠ Plan.nftName)
    (hmints : ∃ f ∈ graph.functions, intents.classify f.1.label = .mintNft)
    (hwitness : witness.name ≠ Plan.nftName) :
    (structsOf (Plan.assemble name graph defaults intents witness init)).filter
        (·.name = Plan.nftName) = [.nft] := by
  have hnone : (ownStructs (Plan.assemble name graph defaults intents witness init)).filter
      (·.name = Plan.nftName) = [] := by
    rw [List.filter_eq_nil_iff]
    intro decl hdecl hname
    have hmem : Plan.nftName ∈
        (ownStructs (Plan.assemble name graph defaults intents witness init)).map (·.name) :=
      List.mem_map.mpr ⟨decl, hdecl, by simpa using hname⟩
    exact hwitness ((mem_names_ownStructs_iff habsent).mp hmem)
  rw [structsOf_eq, if_pos (Plan.synthesizesNft_assemble_iff.mpr ⟨hmints, habsent⟩),
    List.filter_append, hnone]
  rfl

end Assembled

variable {name : String} {graph : Graph} {defaults : Defaults} {intents : Intent.Table}

/-- Where a function mints an NFT, its struct is declared once and in the shape that bodies build,
under a witness of another name. A struct node of that name which is the witness is declared once
too, but without its identity and with the ability drop alone. -/
theorem filter_structsOf_nft {plan : Plan} (hnodes : PaletteNfts graph)
    (h : Plan.ofGraph name graph defaults intents = .ok plan)
    (hmints : ∃ f ∈ plan.functions, f.intent = .mintNft) :
    (plan.witness.name ≠ Plan.nftName →
      (structsOf plan).filter (·.name = Plan.nftName) = [.nft] ∧
        ∀ f ∈ plan.functions, f.intent = .mintNft →
          (FunctionDecl.ofPlan f defaults.placeholderBody).body.Builds .nft) ∧
      ∀ id node spec, plan.witness.source.node? = some id → graph.node? id = some node →
        plan.witness.IsNamedBy node spec → plan.witness.name = Plan.nftName →
          (structsOf plan).filter (·.name = Plan.nftName) = [nftWitness] := by
  obtain ⟨witness, init, -, -, rfl⟩ := Plan.ofGraph_eq_ok_iff.mp h
  constructor
  · intro hname
    have hwitness : witness.name ≠ Plan.nftName := hname
    refine ⟨?_, fun f _ hf => Body.builds_of_mintNft hf _⟩
    by_cases hown : graph.HasOwn Plan.nftName
    · rw [hnodes.filter_structsOf_of_hasOwn hown, if_neg hwitness]
    · have habsent : ∀ s ∈ graph.structs, Identifier.declaration s.1.label ≠ Plan.nftName := by
        intro s hs hname
        cases himported : s.2.imported with
        | true => exact hnodes.own ⟨s, hs, himported, hname⟩
        | false => exact hown ⟨s, hs, himported, hname⟩
      have hfunctions : ∃ f ∈ graph.functions, intents.classify f.1.label = .mintNft := by
        obtain ⟨f, hf, hintent⟩ := hmints
        obtain ⟨node, hnode, rfl⟩ := List.mem_map.mp hf
        exact ⟨node, hnode, hintent⟩
      exact filter_structsOf_of_absent habsent hfunctions hwitness
  · intro id node spec _ hnode hnamed hwitness
    have hmem : (node, spec) ∈ graph.structs :=
      List.mem_filterMap.mpr ⟨node, List.mem_of_find?_eq_some hnode, by rw [hnamed.kind]; rfl⟩
    have hown : graph.HasOwn Plan.nftName :=
      ⟨(node, spec), hmem, hnamed.own, hnamed.name.symm.trans hwitness⟩
    rw [hnodes.filter_structsOf_of_hasOwn hown]
    exact congrArg (fun decl => [decl]) (if_pos hwitness)

theorem filter_structsOf_nft_gallery :
    let graph : Graph := ⟨[⟨"s-1", "GALLERY", none, .struct ⟨[⟨"id", "UID"⟩], .keyStore, false⟩⟩,
      ⟨"s-2", "SimpleNFT", none, .struct ⟨StructDecl.nft.fields, .keyStore, false⟩⟩,
      ⟨"s-3", "SimpleNFT", none, .struct ⟨StructDecl.nft.fields, .keyStore, false⟩⟩,
      ⟨"f-1", "issue", none, .function [⟨"cap", "TreasuryCap"⟩, ⟨"ctx", "TxContext"⟩]⟩], []⟩
    ∃ plan, Plan.ofGraph "gallery" graph .builtIn (Intent.Table.empty.insert "issue" .mintNft) =
        .ok plan ∧ PaletteNfts graph ∧ (∃ f ∈ plan.functions, f.intent = .mintNft) ∧
      (structsOf plan).filter (·.name = Plan.nftName) = [.nft] := by
  intro graph
  obtain ⟨plan, h, hmints, hwitness⟩ : ∃ plan,
      Plan.ofGraph "gallery" graph .builtIn (Intent.Table.empty.insert "issue" .mintNft) =
        .ok plan ∧ (∃ f ∈ plan.functions, f.intent = .mintNft) ∧
      plan.witness.name ≠ Plan.nftName := ⟨_, rfl, by decide, by decide⟩
  have hnodes : PaletteNfts graph := ⟨by decide, by decide⟩
  exact ⟨plan, h, hnodes, hmints, ((filter_structsOf_nft hnodes h hmints).1 hwitness).1⟩

/-- The one struct of the user's own is the struct of NFTs, and so it is the witness. -/
theorem not_filter_structsOf_nft_witness :
    let graph : Graph := ⟨[
      ⟨"s-1", "SimpleNFT", none, .struct ⟨StructDecl.nft.fields, .keyStore, false⟩⟩,
      ⟨"f-1", "nft::mint", none, .function [⟨"name", "vector<u8>"⟩, ⟨"url", "vector<u8>"⟩,
        ⟨"ctx", "&mut TxContext"⟩]⟩], []⟩
    PaletteNfts graph ∧ ∃ plan, Plan.ofGraph "gallery" graph .builtIn .empty = .ok plan ∧
      (∃ f ∈ plan.functions, f.intent = .mintNft) ∧
      (structsOf plan).filter (·.name = Plan.nftName) = [nftWitness] ∧ nftWitness ≠ .nft := by
  intro graph
  exact ⟨⟨by decide, by decide⟩, _, rfl, by decide, by decide, by decide⟩

end Move

end MoveCanvas
