import MoveCanvas.Palette
import MoveCanvas.Plan.OfGraph
import MoveCanvas.Proofs.Canvas.NodeCodec
import MoveCanvas.Proofs.Text.LetterCase

/-! # Templates as nodes

A template becomes a node that the conversion accepts under any id and at any position, and that is
read back from what it is written as. What a compiler makes of the node depends on the label and the
members of the template alone. In the whole table one struct may be declared, one function mints an
NFT and one template stands for the initializer. -/

namespace MoveCanvas

open Json (Number Ascending AnyKeys Layout)

namespace Template

variable (t : Template) (id : String) {position : Json}

def structSpec : StructSpec :=
  ⟨t.members, t.abilities.getD .keyStore, t.imported⟩

def currency : Currency :=
  ⟨"", "", some 9, ""⟩

def graphKind : Graph.Kind :=
  match t.kind with
  | .struct => .struct t.structSpec
  | .function => .function t.members
  | .init => .init currency

def graphNode : Graph.Node :=
  ⟨id, t.label, none, t.graphKind⟩

theorem struct?_graphKind :
    t.graphKind.struct? = if t.kind = .struct then some t.structSpec else none := by
  unfold graphKind
  cases t.kind <;> rfl

theorem params?_graphKind :
    t.graphKind.params? = if t.kind = .function then some t.members else none := by
  unfold graphKind
  cases t.kind <;> rfl

theorem currency?_graphKind :
    t.graphKind.currency? = if t.kind = .init then some currency else none := by
  unfold graphKind
  cases t.kind <;> rfl

theorem toGraph_instantiate (position : Json) :
    (t.instantiate id position).toGraph = .ok (t.graphNode id) := by
  obtain ⟨tool, category, kind, label, description, imported, members, abilities⟩ := t
  cases kind <;> rfl

theorem coinDecimals_data :
    t.data.coinDecimals = none ∨ t.data.coinDecimals = some (.num (.int 9)) := by
  obtain ⟨tool, category, kind, label, description, imported, members, abilities⟩ := t
  cases kind with
  | struct => exact .inl rfl
  | function => exact .inl rfl
  | init => exact .inr rfl

theorem coinDecimals_ne_null : t.data.coinDecimals ≠ some .null := by
  intro hnull
  rcases t.coinDecimals_data with h | h
  all_goals
    rw [h] at hnull
    cases hnull

theorem forall_raws_instantiate {p : Json → Prop} (hposition : p position)
    (hnine : p (.num (.int 9))) : ∀ v ∈ (t.instantiate id position).raws, p v := by
  refine List.forall_mem_cons.mpr ⟨hposition, fun v hv => ?_⟩
  have hdecimals : t.data.coinDecimals = some v := Option.mem_toList.mp hv
  rcases t.coinDecimals_data with h | h
  all_goals
    rw [h] at hdecimals
    cases hdecimals
  exact hnine

theorem ofValue_instantiate (hkeys : position.Everywhere (fun _ => True) Ascending) :
    Canvas.Node.ofValue (t.instantiate id position).toValue = .ok (t.instantiate id position) := by
  have hraws : ∀ v ∈ (t.instantiate id position).raws, v.Everywhere (fun _ => True) Ascending :=
    t.forall_raws_instantiate id hkeys trivial
  exact Canvas.Node.ofValue_toValue hraws t.coinDecimals_ne_null

theorem depth_instantiate_le (hdepth : position.depth < Json.nestingLimit) :
    (Canvas.Node.shape.encode (t.instantiate id position).toRecord).depth ≤ Json.nestingLimit := by
  refine Canvas.Node.depth_encode_le (k := 125) (by decide) (Nat.le_of_lt_succ hdepth) ?_
  intro v hv
  rcases t.coinDecimals_data with h | h
  all_goals
    rw [Template.instantiate, h] at hv
    cases hv
  exact Nat.zero_le 125

theorem ofText_instantiate (hkeys : position.Everywhere Number.ReadsBack Ascending)
    (hdepth : position.depth < Json.nestingLimit) {layout : Layout} (hlayout : layout.IsBlank) :
    Canvas.Node.ofText ((t.instantiate id position).text layout) =
      .ok (t.instantiate id position) := by
  have hnine : Number.ReadsBack (.int 9) := Number.IsWord.readsBack _ (Number.isWord_byte 9)
  exact Canvas.Node.ofText_text (t.forall_raws_instantiate id hkeys hnine) t.coinDecimals_ne_null
    (t.depth_instantiate_le id hdepth) hlayout

end Template

namespace Palette

variable {t : Template}

theorem kind_eq_init_iff (h : t ∈ templates) : t.kind = .init ↔ t.label = "CoinInit" := by
  revert t
  decide

theorem label_eq_nftName_iff (h : t ∈ templates) :
    t.label = Plan.nftName ↔ t.kind = .struct ∧ t.imported = false := by
  revert t
  decide

theorem declaration_eq_nftName_iff (h : t ∈ templates) :
    Identifier.declaration t.label = Plan.nftName ↔ t.label = Plan.nftName := by
  revert t
  decide

theorem label_of_imported (h : t ∈ templates) (himported : t.imported = true) :
    t.label ≠ Plan.nftName ∧ t.label ≠ Defaults.builtIn.witnessName := by
  revert t
  decide

theorem isEligible_graphNode (h : t ∈ templates) (id : String) :
    ((t.graphNode id).kind.struct?.isSome && (t.graphNode id).isEligible) =
      decide (t.label = Plan.nftName) := by
  have hplain : ∀ t ∈ templates,
      ((t.graphNode "").kind.struct?.isSome && (t.graphNode "").isEligible) =
        decide (t.label = Plan.nftName) := by decide
  exact hplain t h

theorem lowercase_label (h : t ∈ templates) :
    Text.lowercase t.label.toList = t.label.toList.map Char.toLower := by
  have hascii : ∀ t ∈ templates, t.label.toList.all (·.toNat < 128) = true := by decide
  refine Text.lowerAfter_of_ascii fun c hc => ?_
  exact of_decide_eq_true (List.all_eq_true.mp (hascii t h) c hc)

theorem ofLabel_eq_mintNft_iff {label : String} :
    Intent.ofLabel label = .mintNft ↔
      (Intent.rules.find? (·.applies (Text.lowercase label.toList))).map (·.intent) =
        some .mintNft := by
  unfold Intent.ofLabel
  split
  · next rule hrule => simp [hrule]
  · next hnone =>
    rw [hnone]
    split <;> simp

theorem label_eq_nftMint_iff (h : t ∈ templates) :
    t.label = "nft::mint" ↔ t.kind = .function ∧ Intent.ofLabel t.label = .mintNft := by
  rw [ofLabel_eq_mintNft_iff, lowercase_label h]
  revert t
  decide

end Palette

end MoveCanvas
