import Mathlib.Data.List.Nodup
import Mathlib.Data.List.ProdSigma
import MoveCanvas.Palette
import MoveCanvas.Proofs.Import.Reacceptance
import MoveCanvas.Proofs.Text.Numerals

/-! # Inferred edges

Between nodes of distinct ids the wiring draws each of its edges once: two of its edges have not
both ends in common. The id of an edge is made of the ids of its ends and the tag of its kind, joined
by dashes. The tag can be read off it, but where a dash stands in the id of a node, the ends
cannot: two edges of one kind get the same id if a dash can be taken for the joint in two places.
Among nodes from the palette that never happens, as their ids have equally many dashes. -/

namespace MoveCanvas

def Canvas.Node.Bears (type label : String) (node : Canvas.Node) : Prop :=
  node.type = some type ∧ node.data.label = label

instance (type label : String) (node : Canvas.Node) : Decidable (node.Bears type label) :=
  inferInstanceAs (Decidable (_ ∧ _))

namespace Palette

/-- The id of a node that has been placed: the stem of its kind, the milliseconds of the time and
five random digits or small letters. -/
def IsFresh (id : String) : Prop :=
  ∃ (kind : Template.Kind) (millis : Nat) (random : String), random.length = 5 ∧
    (∀ c ∈ random.toList, c.isDigit = true ∨ c.isLower = true) ∧
    id = freshId kind.idStem (toString millis) random

theorem IsFresh.count_dash {id : String} (h : IsFresh id) : id.toList.count '-' = 2 := by
  obtain ⟨kind, millis, random, -, hrandom, rfl⟩ := h
  have hstem : '-' ∉ kind.idStem.toList := by cases kind <;> decide
  have hmillis : '-' ∉ (toString millis).toList := by
    rw [Nat.toString_eq_ofList_toDigits, String.toList_ofList]
    exact (Text.denotes_toDigits millis).minus_not_mem
  have hplain : '-' ∉ random.toList := fun hmem => absurd (hrandom '-' hmem) (by decide)
  have hid : (freshId kind.idStem (toString millis) random).toList =
      kind.idStem.toList ++ '-' :: ((toString millis).toList ++ '-' :: random.toList) := by
    simp [freshId]
  rw [hid, List.count_append, List.count_cons_self, List.count_append, List.count_cons_self,
    List.count_eq_zero_of_not_mem hstem, List.count_eq_zero_of_not_mem hmillis,
    List.count_eq_zero_of_not_mem hplain]

end Palette

namespace Wiring

open Canvas (structType functionType)

variable {nodes sources targets : List Canvas.Node} {tag tag' handle handle' : String}
  {source target source' target' : Canvas.Node}

theorem select_eq_filter (nodes : List Canvas.Node) (type label : String) :
    select nodes type label = nodes.filter (·.Bears type label) := by
  refine List.filter_congr fun node _ => ?_
  rw [← Bool.decide_and]
  rfl

theorem nodup_ids_select (hids : (nodes.map (·.id)).Nodup) (type label : String) :
    ((select nodes type label).map (·.id)).Nodup :=
  hids.sublist (List.filter_sublist.map _)

theorem nodup_ids_first (hids : (nodes.map (·.id)).Nodup) :
    (((capabilities nodes).take 1).map (·.id)).Nodup :=
  (nodup_ids_select hids ..).sublist ((List.take_sublist 1 _).map _)

theorem join_eq_map (tag handle : String) (sources targets : List Canvas.Node) :
    join tag handle sources targets =
      (sources ×ˢ targets).map fun ends => edge tag handle ends.1 ends.2 := by
  have hpairs : sources ×ˢ targets = sources.flatMap fun source => targets.map (Prod.mk source) := rfl
  rw [join, hpairs, List.map_flatMap]
  simp only [List.map_map]
  rfl

theorem nodup_map_join_iff {part : Canvas.Edge → α} (hsources : (sources.map (·.id)).Nodup)
    (htargets : (targets.map (·.id)).Nodup) :
    ((join tag handle sources targets).map part).Nodup ↔
      ∀ source ∈ sources, ∀ target ∈ targets, ∀ source' ∈ sources, ∀ target' ∈ targets,
        part (edge tag handle source target) = part (edge tag handle source' target') →
          source = source' ∧ target = target' := by
  have hpairs : (sources ×ˢ targets).Nodup := (hsources.of_map _).product (htargets.of_map _)
  rw [join_eq_map, List.map_map, List.nodup_map_iff_inj_on hpairs]
  simp only [Prod.forall, List.mem_product, Prod.mk.injEq, Function.comp_apply, and_imp]
  exact ⟨fun h s hs t ht s' hs' t' ht' => h s t hs ht s' t' hs' ht',
    fun h s t hs ht s' t' hs' ht' => h s hs t ht s' hs' t' ht'⟩

/-! ## Ids -/

/-- Joined by a dash, the first two texts give the same as the other two: a dash inside is taken for
the joint. -/
def Overlaps (first second first' second' : String) : Prop :=
  ∃ middle, first' = first ++ "-" ++ middle ∧ second = middle ++ "-" ++ second'

theorem toList_dashed (first second : String) :
    (first ++ "-" ++ second).toList = first.toList ++ '-' :: second.toList := by
  simp

theorem eq_or_overlaps {first second first' second' : String} {gap : List Char}
    (hfirst : first'.toList = first.toList ++ gap)
    (hsecond : '-' :: second.toList = gap ++ '-' :: second'.toList) :
    (first = first' ∧ second = second') ∨ Overlaps first second first' second' := by
  cases gap with
  | nil =>
      rw [List.append_nil, String.toList_inj] at hfirst
      exact .inl ⟨hfirst.symm, String.toList_inj.mp (List.cons.inj hsecond).2⟩
  | cons c gap =>
      obtain ⟨rfl, htail⟩ := List.cons.inj hsecond
      refine .inr ⟨String.ofList gap, ?_, ?_⟩
      · rw [← String.toList_inj, toList_dashed, hfirst, String.toList_ofList]
      · rw [← String.toList_inj, toList_dashed, String.toList_ofList]
        exact htail

theorem Overlaps.dashed_eq {first second first' second' : String}
    (h : Overlaps first second first' second') : first ++ "-" ++ second = first' ++ "-" ++ second' := by
  obtain ⟨middle, rfl, rfl⟩ := h
  simp only [String.append_assoc]

theorem dashed_eq_iff {first second first' second' : String} :
    first ++ "-" ++ second = first' ++ "-" ++ second' ↔
      (first = first' ∧ second = second') ∨ Overlaps first second first' second' ∨
        Overlaps first' second' first second := by
  constructor
  · intro h
    rw [← String.toList_inj, toList_dashed, toList_dashed, List.append_eq_append_iff] at h
    rcases h with ⟨gap, hfirst, hsecond⟩ | ⟨gap, hfirst, hsecond⟩
    · exact (eq_or_overlaps hfirst hsecond).imp_right .inl
    · exact (eq_or_overlaps hfirst hsecond).imp (.imp .symm .symm) .inr
  · rintro (⟨rfl, rfl⟩ | h | h)
    · rfl
    · exact h.dashed_eq
    · exact h.dashed_eq.symm

theorem Overlaps.first_ne {first second first' second' : String}
    (h : Overlaps first second first' second') : first ≠ first' := by
  rintro rfl
  obtain ⟨middle, hfirst, -⟩ := h
  have hlength := congrArg (·.toList.length) hfirst
  simp at hlength

theorem Overlaps.dash_mem {first second first' second' : String}
    (h : Overlaps first second first' second') : '-' ∈ second.toList := by
  obtain ⟨middle, -, rfl⟩ := h
  simp

/-- The tag and the joined ends can be read off an id, since no tag has a dash. -/
theorem id_edge_eq_iff (htag : '-' ∉ tag.toList) (htag' : '-' ∉ tag'.toList) :
    (edge tag handle source target).id = (edge tag' handle' source' target').id ↔
      tag = tag' ∧ source.id ++ "-" ++ target.id = source'.id ++ "-" ++ target'.id := by
  have hid {tag handle : String} {source target : Canvas.Node} :
      (edge tag handle source target).id =
        some ("e-" ++ (source.id ++ "-" ++ target.id) ++ "-" ++ tag) := by
    simp only [edge, String.append_assoc]
  rw [hid, hid, Option.some.injEq, dashed_eq_iff, String.append_right_inj]
  constructor
  · rintro (⟨hends, hsame⟩ | h | h)
    · exact ⟨hsame, hends⟩
    · exact absurd h.dash_mem htag
    · exact absurd h.dash_mem htag'
  · rintro ⟨hsame, hends⟩
    exact .inl ⟨hends, hsame⟩

/-- Two edges from some of the sources to some of the targets get one id. -/
def Clash (sources targets : List Canvas.Node) : Prop :=
  ∃ source ∈ sources, ∃ target ∈ targets, ∃ source' ∈ sources, ∃ target' ∈ targets,
    Overlaps source.id target.id source'.id target'.id

theorem nodup_ids_join_iff (htag : '-' ∉ tag.toList) (hsources : (sources.map (·.id)).Nodup)
    (htargets : (targets.map (·.id)).Nodup) :
    ((join tag handle sources targets).map (·.id)).Nodup ↔ ¬ Clash sources targets := by
  rw [nodup_map_join_iff hsources htargets]
  constructor
  · rintro h ⟨source, hsource, target, htarget, source', hsource', target', htarget', hoverlaps⟩
    have hid : (edge tag handle source target).id = (edge tag handle source' target').id :=
      (id_edge_eq_iff htag htag).mpr ⟨rfl, hoverlaps.dashed_eq⟩
    obtain ⟨rfl, -⟩ := h source hsource target htarget source' hsource' target' htarget' hid
    exact hoverlaps.first_ne rfl
  · intro h source hsource target htarget source' hsource' target' htarget' hid
    rcases dashed_eq_iff.mp ((id_edge_eq_iff htag htag).mp hid).2 with ⟨hs, ht⟩ | hoverlaps | hoverlaps
    · exact ⟨List.inj_on_of_nodup_map hsources hsource hsource' hs,
        List.inj_on_of_nodup_map htargets htarget htarget' ht⟩
    · exact absurd ⟨_, hsource, _, htarget, _, hsource', _, htarget', hoverlaps⟩ h
    · exact absurd ⟨_, hsource', _, htarget', _, hsource, _, htarget, hoverlaps⟩ h

theorem not_clash_take_one (sources targets : List Canvas.Node) : ¬ Clash (sources.take 1) targets := by
  rintro ⟨source, hsource, target, -, source', hsource', target', -, hoverlaps⟩
  rw [mem_take_one_iff] at hsource hsource'
  have hsame : source = source' := Option.some.inj (hsource.symm.trans hsource')
  exact hoverlaps.first_ne (congrArg Canvas.Node.id hsame)

theorem id_ne_of_mem_join {sources' targets' : List Canvas.Node} (htag : '-' ∉ tag.toList)
    (htag' : '-' ∉ tag'.toList) (hne : tag ≠ tag') :
    ∀ id ∈ (join tag handle sources targets).map (·.id),
      ∀ id' ∈ (join tag' handle' sources' targets').map (·.id), id ≠ id' := by
  rw [join_eq_map, join_eq_map, List.map_map, List.map_map]
  refine List.forall_mem_map.mpr fun ends _ => List.forall_mem_map.mpr fun ends' _ hid => ?_
  exact hne ((id_edge_eq_iff htag htag').mp hid).1

/-- The capability that is wired is a single one, so that the ids of its edges differ anyway. -/
theorem nodup_ids_inferred_iff_flows (hids : (nodes.map (·.id)).Nodup) :
    ((inferred nodes).map (·.id)).Nodup ↔
      ((join "flow" "return-val" (coinMints nodes) (transfers nodes)).map (·.id)).Nodup ∧
        ((join "nftflow" "return-val" (nftMints nodes) (transfers nodes)).map (·.id)).Nodup := by
  have hcap : '-' ∉ "cap".toList := by decide
  have hflow : '-' ∉ "flow".toList := by decide
  have hnft : '-' ∉ "nftflow".toList := by decide
  have hcoins : ((coinMints nodes).map (·.id)).Nodup := nodup_ids_select hids ..
  rw [inferred, List.map_append, List.map_append, List.nodup_append, List.nodup_append,
    nodup_ids_join_iff hcap (nodup_ids_first hids) hcoins]
  constructor
  · rintro ⟨⟨-, hflows, -⟩, hnftflows, -⟩
    exact ⟨hflows, hnftflows⟩
  · rintro ⟨hflows, hnftflows⟩
    refine ⟨⟨not_clash_take_one _ _, hflows, id_ne_of_mem_join hcap hflow (by decide)⟩, hnftflows, ?_⟩
    rw [List.forall_mem_append]
    exact ⟨id_ne_of_mem_join hcap hnft (by decide), id_ne_of_mem_join hflow hnft (by decide)⟩

theorem nodup_ids_flows_iff (htag : '-' ∉ tag.toList) (hids : (nodes.map (·.id)).Nodup)
    (label : String) :
    ((join tag handle (select nodes functionType label) (transfers nodes)).map (·.id)).Nodup ↔
      ¬ Clash (select nodes functionType label) (transfers nodes) :=
  nodup_ids_join_iff htag (nodup_ids_select hids ..) (nodup_ids_select hids ..)

/-- Of nodes with distinct ids the inferred edges have distinct ids as well, unless two of the mints
of one kind, and two transfers, have ids in which a dash can be taken for the joint. -/
theorem nodup_ids_inferred_iff (hids : (nodes.map (·.id)).Nodup) :
    ((inferred nodes).map (·.id)).Nodup ↔
      ¬ Clash (coinMints nodes) (transfers nodes) ∧ ¬ Clash (nftMints nodes) (transfers nodes) := by
  rw [nodup_ids_inferred_iff_flows hids]
  exact and_congr (nodup_ids_flows_iff (by decide) hids "coin::mint")
    (nodup_ids_flows_iff (by decide) hids "nft::mint")

/-- A dash in the id of a coin mint, as in ids of the kind f-1, is no trouble by itself. -/
theorem nodup_ids_inferred_iff_numbered :
    let nodes := [("s-1", structType, "TreasuryCap"), ("f-1", functionType, "coin::mint"),
        ("f-10", functionType, "coin::mint"), ("f-2", functionType, "nft::mint"),
        ("f-1-2", functionType, "transfer::transfer")].map
      fun (id, type, label) => Canvas.Node.mk id (some type) .null (.ofLabel label) false
    (nodes.map (·.id)).Nodup ∧ (inferred nodes).length = 5 ∧
      ((inferred nodes).map (·.id)).Nodup ∧
      ¬ Clash (coinMints nodes) (transfers nodes) ∧ ¬ Clash (nftMints nodes) (transfers nodes) := by
  intro nodes
  have hids : (nodes.map (·.id)).Nodup := by decide
  have hinferred : ((inferred nodes).map (·.id)).Nodup := by decide
  exact ⟨hids, by decide, hinferred, (nodup_ids_inferred_iff hids).mp hinferred⟩

/-- From mint to gold-out and from mint-gold to out: both edges have the id e-mint-gold-out-flow. -/
theorem not_nodup_ids_inferred_dashes :
    let nodes := [("mint", "coin::mint"), ("mint-gold", "coin::mint"),
        ("gold-out", "transfer::transfer"), ("out", "transfer::transfer")].map
      fun (id, label) => Canvas.Node.mk id (some functionType) .null (.ofLabel label) false
    (nodes.map (·.id)).Nodup ∧ ¬ ((inferred nodes).map (·.id)).Nodup := by
  decide

/-- Where two ids clash, one source goes on behind the other with a dash, so that it has more of
them. -/
theorem not_clash_of_count {dashes : Nat}
    (h : ∀ source ∈ sources, source.id.toList.count '-' = dashes) : ¬ Clash sources targets := by
  rintro ⟨source, hsource, target, -, source', hsource', target', -, middle, hid, -⟩
  have hcount := h source' hsource'
  rw [hid, toList_dashed, List.count_append, List.count_cons_self, h source hsource] at hcount
  omega

theorem nodup_ids_inferred_of_fresh (hids : (nodes.map (·.id)).Nodup)
    (hfresh : ∀ node ∈ nodes, Palette.IsFresh node.id) : ((inferred nodes).map (·.id)).Nodup := by
  have hclash (label : String) : ¬ Clash (select nodes functionType label) (transfers nodes) :=
    not_clash_of_count fun source hsource =>
      (hfresh source (mem_select_iff.mp hsource).1).count_dash
  exact (nodup_ids_inferred_iff_flows hids).mpr
    ⟨(nodup_ids_flows_iff (by decide) hids "coin::mint").mpr (hclash _),
      (nodup_ids_flows_iff (by decide) hids "nft::mint").mpr (hclash _)⟩

/-! ## Ends -/

theorem nodup_ends_join (hsources : (sources.map (·.id)).Nodup)
    (htargets : (targets.map (·.id)).Nodup) :
    ((join tag handle sources targets).map fun edge => (edge.source, edge.target)).Nodup := by
  rw [nodup_map_join_iff hsources htargets]
  intro source hsource target htarget source' hsource' target' htarget' hends
  obtain ⟨hs, ht⟩ := Prod.mk.inj hends
  exact ⟨List.inj_on_of_nodup_map hsources hsource hsource' hs,
    List.inj_on_of_nodup_map htargets htarget htarget' ht⟩

theorem ends_ne_of_mem_join {sources' targets' : List Canvas.Node}
    (hne : ∀ source ∈ sources, ∀ source' ∈ sources', source.id ≠ source'.id) :
    ∀ ends ∈ (join tag handle sources targets).map fun edge => (edge.source, edge.target),
      ∀ ends' ∈ (join tag' handle' sources' targets').map fun edge => (edge.source, edge.target),
        ends ≠ ends' := by
  rw [join_eq_map, join_eq_map, List.map_map, List.map_map]
  refine List.forall_mem_map.mpr fun pair hpair => List.forall_mem_map.mpr fun pair' hpair' hends => ?_
  exact hne _ (List.mem_product.mp hpair).1 _ (List.mem_product.mp hpair').1 (Prod.mk.inj hends).1

theorem id_ne_of_mem_select (hids : (nodes.map (·.id)).Nodup) {type label type' label' : String}
    (hne : (type, label) ≠ (type', label')) (hsource : source ∈ select nodes type label)
    (hsource' : source' ∈ select nodes type' label') : source.id ≠ source'.id := by
  intro hid
  obtain ⟨hmem, htype, hlabel⟩ := mem_select_iff.mp hsource
  obtain ⟨hmem', htype', hlabel'⟩ := mem_select_iff.mp hsource'
  obtain rfl := List.inj_on_of_nodup_map hids hmem hmem' hid
  refine hne (Prod.ext ?_ (hlabel.symm.trans hlabel'))
  exact Option.some.inj (htype.symm.trans htype')

theorem nodup_ends_inferred (hids : (nodes.map (·.id)).Nodup) :
    ((inferred nodes).map fun edge => (edge.source, edge.target)).Nodup := by
  have hcoins : ((coinMints nodes).map (·.id)).Nodup := nodup_ids_select hids ..
  have hnfts : ((nftMints nodes).map (·.id)).Nodup := nodup_ids_select hids ..
  have htargets : ((transfers nodes).map (·.id)).Nodup := nodup_ids_select hids ..
  have hcap {type label : String} (hne : (structType, "TreasuryCap") ≠ (type, label)) :
      ∀ source ∈ (capabilities nodes).take 1, ∀ source' ∈ select nodes type label,
        source.id ≠ source'.id :=
    fun _ hsource _ => id_ne_of_mem_select hids hne (List.mem_of_mem_take hsource)
  rw [inferred, List.map_append, List.map_append, List.nodup_append, List.nodup_append]
  refine ⟨⟨nodup_ends_join (nodup_ids_first hids) hcoins, nodup_ends_join hcoins htargets, ?_⟩,
    nodup_ends_join hnfts htargets, ?_⟩
  · exact ends_ne_of_mem_join (hcap (by decide))
  · rw [List.forall_mem_append]
    refine ⟨ends_ne_of_mem_join (hcap (by decide)), ends_ne_of_mem_join ?_⟩
    exact fun _ hsource _ => id_ne_of_mem_select hids (by decide) hsource

end Wiring

/-! ## What is wired -/

namespace Canvas.Node

abbrev IsCapability (node : Canvas.Node) : Prop := node.Bears structType "TreasuryCap"

abbrev IsCoinMint (node : Canvas.Node) : Prop := node.Bears functionType "coin::mint"

abbrev IsNftMint (node : Canvas.Node) : Prop := node.Bears functionType "nft::mint"

abbrev IsTransfer (node : Canvas.Node) : Prop := node.Bears functionType "transfer::transfer"

end Canvas.Node

namespace Wiring

def Joins (nodes : List Canvas.Node) (source target : Canvas.Node)
    (sourceHandle targetHandle : Option String) : Prop :=
  (nodes.find? (·.IsCapability) = some source ∧ target.IsCoinMint ∧
    sourceHandle = some "obj-main" ∧ targetHandle = some "param-0") ∨
  ((source.IsCoinMint ∨ source.IsNftMint) ∧ target.IsTransfer ∧
    sourceHandle = some "return-val" ∧ targetHandle = some "param-0")

/-- The edges wire the nodes: from the first treasury capability to each coin mint, from each mint to
each transfer, nowhere else, and nowhere twice. -/
structure Wires (nodes : List Canvas.Node) (edges : List Canvas.Edge) : Prop where
  length : edges.length =
    (if ∃ node ∈ nodes, node.IsCapability then 1 else 0) * nodes.countP (·.IsCoinMint) +
      (nodes.countP (·.IsCoinMint) + nodes.countP (·.IsNftMint)) * nodes.countP (·.IsTransfer)
  between : ∀ edge ∈ edges, ∃ source ∈ nodes, ∃ target ∈ nodes,
    edge.source = source.id ∧ edge.target = target.id
  drawn : ∀ source ∈ nodes, ∀ target ∈ nodes, ∀ sourceHandle targetHandle,
    (source.id, sourceHandle, target.id, targetHandle) ∈ edges.map Canvas.Edge.ends ↔
      Joins nodes source target sourceHandle targetHandle
  once : (edges.map fun edge => (edge.source, edge.target)).Nodup

theorem length_select (nodes : List Canvas.Node) (type label : String) :
    (select nodes type label).length = nodes.countP (·.Bears type label) := by
  rw [select_eq_filter, List.countP_eq_length_filter]

theorem head?_capabilities (nodes : List Canvas.Node) :
    (capabilities nodes).head? = nodes.find? (·.IsCapability) := by
  rw [capabilities, select_eq_filter, List.head?_filter]

theorem length_take_capabilities (nodes : List Canvas.Node) :
    ((capabilities nodes).take 1).length = if ∃ node ∈ nodes, node.IsCapability then 1 else 0 := by
  have hsome : (∃ node ∈ nodes, node.IsCapability) ↔ 0 < (capabilities nodes).length := by
    rw [capabilities, length_select, List.countP_pos_iff]
    simp only [decide_eq_true_eq]
  rw [List.length_take]
  split
  · next h => exact Nat.min_eq_left (hsome.mp h)
  · next h =>
    have hnone : (capabilities nodes).length = 0 := Nat.eq_zero_of_not_pos (mt hsome.mpr h)
    rw [hnone, Nat.min_zero]

theorem length_inferred (nodes : List Canvas.Node) : (inferred nodes).length =
    (if ∃ node ∈ nodes, node.IsCapability then 1 else 0) * nodes.countP (·.IsCoinMint) +
      (nodes.countP (·.IsCoinMint) + nodes.countP (·.IsNftMint)) * nodes.countP (·.IsTransfer) := by
  rw [inferred, List.length_append, List.length_append, length_join, length_join, length_join,
    length_take_capabilities, coinMints, nftMints, transfers, length_select, length_select,
    length_select, Nat.add_mul, Nat.add_assoc]

theorem draws_iff_joins {sourceId targetId : String} {sourceHandle targetHandle : Option String} :
    Draws nodes (sourceId, sourceHandle, targetId, targetHandle) ↔
      ∃ source ∈ nodes, ∃ target ∈ nodes, source.id = sourceId ∧ target.id = targetId ∧
        Joins nodes source target sourceHandle targetHandle := by
  constructor
  · intro h
    cases h with
    | @capability source target hsource htarget =>
        obtain ⟨hmint, hlabel⟩ := mem_select_iff.mp htarget
        rw [head?_capabilities] at hsource
        exact ⟨source, List.mem_of_find?_eq_some hsource, target, hmint, rfl, rfl,
          .inl ⟨hsource, hlabel, rfl, rfl⟩⟩
    | @flow source target hsource htarget =>
        obtain ⟨htransfer, hlabel⟩ := mem_select_iff.mp htarget
        have hmint : source ∈ nodes ∧ (source.IsCoinMint ∨ source.IsNftMint) :=
          hsource.elim (fun h => (mem_select_iff.mp h).imp_right .inl)
            fun h => (mem_select_iff.mp h).imp_right .inr
        exact ⟨source, hmint.1, target, htransfer, rfl, rfl, .inr ⟨hmint.2, hlabel, rfl, rfl⟩⟩
  · rintro ⟨source, hsource, target, htarget, rfl, rfl, ⟨hfirst, hmint, rfl, rfl⟩ |
      ⟨hmint, htransfer, rfl, rfl⟩⟩
    · rw [← head?_capabilities] at hfirst
      exact .capability hfirst (mem_select_iff.mpr ⟨htarget, hmint⟩)
    · refine .flow (hmint.imp ?_ ?_) (mem_select_iff.mpr ⟨htarget, htransfer⟩)
      · exact fun h => mem_select_iff.mpr ⟨hsource, h⟩
      · exact fun h => mem_select_iff.mpr ⟨hsource, h⟩

theorem wires_inferred (hids : (nodes.map (·.id)).Nodup) : Wires nodes (inferred nodes) where
  length := length_inferred nodes
  between edge hedge := by
    obtain ⟨source, hsource, target, htarget, hs, ht, -⟩ :=
      draws_iff_joins.mp (draws_iff.mpr (List.mem_map_of_mem hedge))
    exact ⟨source, hsource, target, htarget, hs.symm, ht.symm⟩
  drawn source hsource target htarget sourceHandle targetHandle := by
    rw [← draws_iff, draws_iff_joins]
    constructor
    · rintro ⟨source', hsource', target', htarget', hs, ht, hjoins⟩
      obtain rfl := List.inj_on_of_nodup_map hids hsource' hsource hs
      obtain rfl := List.inj_on_of_nodup_map hids htarget' htarget ht
      exact hjoins
    · exact fun hjoins => ⟨source, hsource, target, htarget, rfl, rfl, hjoins⟩
  once := nodup_ends_inferred hids

end Wiring

end MoveCanvas
