import Mathlib.Data.List.Find
import MoveCanvas.Move.Module
import MoveCanvas.Proofs.Move.NftDeclaration
import MoveCanvas.Proofs.Palette.Templates
import MoveCanvas.Proofs.Plan.Refusals

/-! # Rows of placed templates

Any row of templates with distinct ids, in any order and with repetitions, is a canvas that converts.
Unless it has several initializers it compiles under the built-in defaults, and the module declares
what the one own struct and the functions ask for. The imported structs leave no trace. -/

namespace MoveCanvas.Palette

open Json (Number Ascending AnyKeys Layout)

/-- A template of the table on a canvas. Its position is any value; the keys of a value's objects
are in ascending order. -/
structure Placement where
  template : Template
  known : template ∈ templates
  id : String
  position : Json
  keyed : position.Everywhere (fun _ => True) Ascending

namespace Placement

def node (p : Placement) : Canvas.Node :=
  p.template.instantiate p.id p.position

def graphNode (p : Placement) : Graph.Node :=
  p.template.graphNode p.id

theorem ofText_node (p : Placement) (hreads : p.position.Everywhere Number.ReadsBack AnyKeys)
    (hdepth : p.position.depth < Json.nestingLimit) {layout : Layout} (hlayout : layout.IsBlank) :
    Canvas.Node.ofText (p.node.text layout) = .ok p.node := by
  have hboth := Json.Everywhere.and p.position p.keyed hreads
  have hkeys : p.position.Everywhere Number.ReadsBack Ascending :=
    Json.Everywhere.mono (fun _ hn => hn.2) (fun _ hkeys => hkeys) p.position hboth
  exact p.template.ofText_instantiate p.id hkeys hdepth hlayout

end Placement

def placed (label : String) (row : List Placement) : List Placement :=
  row.filter (·.template.label = label)

def canvasOf (row : List Placement) : Canvas :=
  ⟨row.map Placement.node, []⟩

def graphOf (row : List Placement) : Graph :=
  ⟨row.map Placement.graphNode, []⟩

variable {row : List Placement} {label : String}

theorem placed_eq_nil_iff : placed label row = [] ↔ ∀ p ∈ row, p.template.label ≠ label := by
  simp [placed]

theorem placed_ne_nil_iff : placed label row ≠ [] ↔ ∃ p ∈ row, p.template.label = label := by
  simp [placed]

theorem toGraph_canvasOf (hids : (row.map (·.id)).Nodup) :
    (canvasOf row).toGraph = .ok (graphOf row) := by
  refine bind_eq_ok_iff.mpr ⟨row.map Placement.graphNode, ?_, ?_⟩
  · refine mapM_eq_ok_iff.mpr (List.forall₂_map_left_iff.mpr (List.forall₂_map_right_iff.mpr ?_))
    exact List.forall₂_same.mpr fun p _ => p.template.toGraph_instantiate p.id p.position
  · refine Graph.withUniqueIds_eq_ok_iff.mpr ⟨?_, rfl⟩
    rw [List.map_map]
    exact hids

theorem filterMap_kind_graphOf {pick : Graph.Kind → Option α} {q : Placement → Prop}
    [DecidablePred q] {carried : Placement → α}
    (hpick : ∀ p ∈ row, pick p.graphNode.kind = if q p then some (carried p) else none) :
    (graphOf row).nodes.filterMap (fun node => (pick node.kind).map (node, ·)) =
      (row.filter q).map fun p => (p.graphNode, carried p) := by
  unfold graphOf
  induction row with
  | nil => rfl
  | cons p rest ih =>
      obtain ⟨hp, hrest⟩ := List.forall_mem_cons.mp hpick
      rw [List.map_cons]
      by_cases hq : q p
      · rw [if_pos hq] at hp
        rw [List.filterMap_cons_some (by rw [hp]; rfl), ih hrest, List.filter_cons_of_pos (by simpa),
          List.map_cons]
      · rw [if_neg hq] at hp
        rw [List.filterMap_cons_none (by rw [hp]; rfl), ih hrest, List.filter_cons_of_neg (by simpa)]

theorem structs_graphOf (row : List Placement) :
    (graphOf row).structs = (row.filter (·.template.kind = .struct)).map
      fun p => (p.graphNode, p.template.structSpec) :=
  filterMap_kind_graphOf fun p _ => p.template.struct?_graphKind

theorem functions_graphOf (row : List Placement) :
    (graphOf row).functions = (row.filter (·.template.kind = .function)).map
      fun p => (p.graphNode, p.template.members) :=
  filterMap_kind_graphOf fun p _ => p.template.params?_graphKind

theorem inits_graphOf (row : List Placement) :
    (graphOf row).inits = (placed "CoinInit" row).map fun p => (p.graphNode, Template.currency) :=
  filterMap_kind_graphOf fun p _ =>
    p.template.currency?_graphKind.trans (if_congr (kind_eq_init_iff p.known) rfl rfl)

theorem mem_structs_graphOf {s : Graph.Node × StructSpec} : s ∈ (graphOf row).structs ↔
    ∃ p ∈ row, p.template.kind = .struct ∧ (p.graphNode, p.template.structSpec) = s := by
  simp only [structs_graphOf, List.mem_map, List.mem_filter, decide_eq_true_eq, and_assoc]

theorem mem_functions_graphOf {f : Graph.Node × List Member} : f ∈ (graphOf row).functions ↔
    ∃ p ∈ row, p.template.kind = .function ∧ (p.graphNode, p.template.members) = f := by
  simp only [functions_graphOf, List.mem_map, List.mem_filter, decide_eq_true_eq, and_assoc]

theorem firstEligibleStruct?_graphOf (row : List Placement) :
    (graphOf row).firstEligibleStruct? =
      (placed Plan.nftName row).head?.map Placement.graphNode := by
  unfold Graph.firstEligibleStruct? graphOf placed
  rw [List.find?_map, List.head?_filter]
  congr 1
  exact List.find?_congr fun p _ => isEligible_graphNode p.known p.id

theorem fallback_graphOf (row : List Placement) :
    Witness.fallback (graphOf row) .builtIn = match placed Plan.nftName row with
      | first :: _ => ⟨Plan.nftName, .firstStruct first.id⟩
      | [] => ⟨Defaults.builtIn.witnessName, .default⟩ := by
  rw [Witness.fallback, firstEligibleStruct?_graphOf]
  cases hplaced : placed Plan.nftName row with
  | nil => rfl
  | cons first rest =>
      have hfirst : first ∈ placed Plan.nftName row := hplaced ▸ List.mem_cons_self
      have hlabel : first.template.label = Plan.nftName := of_decide_eq_true (List.mem_filter.mp hfirst).2
      have hname := (declaration_eq_nftName_iff first.known).mpr hlabel
      exact congrArg (Witness.mk · (.firstStruct first.id)) hname

theorem name_of_mem_structsOf {witness : String} {s : Plan.Struct}
    (h : s ∈ Plan.structsOf (graphOf row) witness) :
    s.name = Plan.nftName ∧ placed Plan.nftName row ≠ [] := by
  obtain ⟨node, spec, hmem, rfl, hown, -⟩ := Plan.mem_structsAfter h
  obtain ⟨p, hrow, hkind, hnode⟩ := mem_structs_graphOf.mp hmem
  cases hnode
  have hlabel : p.template.label = Plan.nftName :=
    (label_eq_nftName_iff p.known).mpr ⟨hkind, hown⟩
  rw [Plan.Struct.name_ofNode]
  exact ⟨(declaration_eq_nftName_iff p.known).mpr hlabel, placed_ne_nil_iff.mpr ⟨p, hrow, hlabel⟩⟩

theorem hasOwn_graphOf (h : placed Plan.nftName row ≠ []) :
    (graphOf row).HasOwn Plan.nftName := by
  obtain ⟨p, hrow, hlabel⟩ := placed_ne_nil_iff.mp h
  obtain ⟨hkind, hown⟩ := (label_eq_nftName_iff p.known).mp hlabel
  exact ⟨_, mem_structs_graphOf.mpr ⟨p, hrow, hkind, rfl⟩, hown,
    (declaration_eq_nftName_iff p.known).mpr hlabel⟩

theorem names_structsOf (row : List Placement) (witness : String) :
    (Plan.structsOf (graphOf row) witness).map (·.name) =
      if placed Plan.nftName row = [] then [] else [Plan.nftName] := by
  have hdistinct : ((Plan.structsOf (graphOf row) witness).map (·.name)).Nodup :=
    Plan.nodup_structsAfter witness [] _
  split
  · next hnone =>
    refine List.map_eq_nil_iff.mpr (List.eq_nil_iff_forall_not_mem.mpr fun s hs => ?_)
    exact (name_of_mem_structsOf hs).2 hnone
  · next hsome =>
    obtain ⟨s, hs, hname⟩ := Plan.exists_mem_structsOf witness (hasOwn_graphOf hsome) (by decide)
    have hsame : ∀ name ∈ (Plan.structsOf (graphOf row) witness).map (·.name), name = Plan.nftName :=
      List.forall_mem_map.mpr fun s hs => (name_of_mem_structsOf hs).1
    refine List.perm_singleton.mp ((List.perm_ext_iff_of_nodup hdistinct (List.nodup_singleton _)).mpr ?_)
    intro name
    rw [List.mem_singleton]
    refine ⟨hsame name, ?_⟩
    rintro rfl
    exact List.mem_map.mpr ⟨s, hs, hname⟩

theorem mints_graphOf_iff :
    (∃ f ∈ (graphOf row).functions, Intent.Table.empty.classify f.1.label = .mintNft) ↔
      placed "nft::mint" row ≠ [] := by
  rw [placed_ne_nil_iff]
  constructor
  · rintro ⟨f, hf, hintent⟩
    obtain ⟨p, hrow, hkind, rfl⟩ := mem_functions_graphOf.mp hf
    exact ⟨p, hrow, (label_eq_nftMint_iff p.known).mpr ⟨hkind, hintent⟩⟩
  · rintro ⟨p, hrow, hlabel⟩
    obtain ⟨hkind, hintent⟩ := (label_eq_nftMint_iff p.known).mp hlabel
    exact ⟨_, mem_functions_graphOf.mpr ⟨p, hrow, hkind, rfl⟩, hintent⟩

theorem not_named_graphOf_iff :
    (∀ s ∈ (graphOf row).structs, Identifier.declaration s.1.label ≠ Plan.nftName) ↔
      placed Plan.nftName row = [] := by
  constructor
  · intro h
    by_contra hplaced
    obtain ⟨s, hs, -, hname⟩ := hasOwn_graphOf hplaced
    exact h s hs hname
  · intro h s hs hname
    obtain ⟨p, hrow, -, rfl⟩ := mem_structs_graphOf.mp hs
    exact placed_eq_nil_iff.mp h p hrow ((declaration_eq_nftName_iff p.known).mp hname)

def planOf (name : String) (row : List Placement) : Plan :=
  Plan.assemble name (graphOf row) .builtIn .empty (Witness.fallback (graphOf row) .builtIn)
    (graphOf row).inits.head?

variable {name : String}

theorem synthesizesWitness_planOf :
    (planOf name row).synthesizesWitness = true ↔ placed Plan.nftName row = [] := by
  rw [planOf, Plan.synthesizesWitness_assemble_iff, fallback_graphOf]
  cases hplaced : placed Plan.nftName row with
  | nil => exact iff_of_true (fun s hs => absurd hplaced (name_of_mem_structsOf hs).2) rfl
  | cons first rest =>
      refine iff_of_false (fun hnone => ?_) (List.cons_ne_nil _ _)
      have hown : (graphOf row).HasOwn Plan.nftName :=
        hasOwn_graphOf (hplaced ▸ List.cons_ne_nil _ _)
      obtain ⟨s, hs, hname⟩ := Plan.exists_mem_structsOf Plan.nftName hown (by decide)
      exact hnone s hs hname

theorem synthesizesNft_planOf :
    (planOf name row).synthesizesNft = true ↔
      placed "nft::mint" row ≠ [] ∧ placed Plan.nftName row = [] := by
  rw [planOf, Plan.synthesizesNft_assemble_iff, mints_graphOf_iff, not_named_graphOf_iff]

theorem names_declared (name : String) (row : List Placement) :
    (Move.structsOf (planOf name row)).map (·.name) =
      if placed Plan.nftName row = [] then
        Defaults.builtIn.witnessName :: if placed "nft::mint" row = [] then [] else [Plan.nftName]
      else [Plan.nftName] := by
  have hplanned : ((planOf name row).structs.map Move.StructDecl.ofPlan).map (·.name) =
      if placed Plan.nftName row = [] then [] else [Plan.nftName] :=
    (Move.names_planned _ _).trans (names_structsOf row _)
  rw [Move.structsOf, List.map_append, List.map_append, hplanned,
    if_congr synthesizesWitness_planOf rfl rfl, if_congr synthesizesNft_planOf rfl rfl]
  by_cases hplaced : placed Plan.nftName row = []
  · have hwitness : (planOf name row).witness.name = Defaults.builtIn.witnessName := by
      show (Witness.fallback (graphOf row) .builtIn).name = _
      rw [fallback_graphOf, hplaced]
    by_cases hmints : placed "nft::mint" row = []
    · simp [hplaced, hmints, Move.StructDecl.witness, hwitness]
    · simp [hplaced, hmints, Move.StructDecl.witness, Move.StructDecl.nft, hwitness]
  · simp [hplaced]

/-- What a row makes of its module. The members are left as they are, so that a function has the
names of the parameters that its template shows. -/
structure Plans (row : List Placement) (plan : Plan) : Prop where
  own : ∀ first rest, placed "SimpleNFT" row = first :: rest →
    plan.witness = ⟨"SimpleNFT", .firstStruct first.id⟩
  default : placed "SimpleNFT" row = [] → plan.witness = ⟨"MY_COIN", .default⟩
  imported : ∀ t ∈ templates, t.imported = true →
    t.label ∉ (Move.structsOf plan).map (·.name)
  nft : "SimpleNFT" ∈ (Move.structsOf plan).map (·.name) ↔
    placed "SimpleNFT" row ≠ [] ∨ placed "nft::mint" row ≠ []
  functions : plan.functions.map (fun f => (f.node, f.name, f.params.map (·.name))) =
    (row.filter (·.template.kind = .function)).map fun p =>
      (p.id, Identifier.callable p.template.label, p.template.members.map (·.name))

theorem plans_planOf (name : String) (row : List Placement) : Plans row (planOf name row) where
  own first rest h := by
    show Witness.fallback (graphOf row) .builtIn = _
    rw [fallback_graphOf, Plan.nftName, h]
  default h := by
    show Witness.fallback (graphOf row) .builtIn = _
    rw [fallback_graphOf, Plan.nftName, h]
    rfl
  imported t ht himported := by
    obtain ⟨hnft, hdefault⟩ := label_of_imported ht himported
    rw [names_declared]
    split
    · split
      · simpa using hdefault
      · simpa using ⟨hdefault, hnft⟩
    · simpa using hnft
  nft := by
    have hnames : Plan.nftName ≠ Defaults.builtIn.witnessName := by decide
    show Plan.nftName ∈ _ ↔ placed Plan.nftName row ≠ [] ∨ _
    rw [names_declared]
    by_cases hplaced : placed Plan.nftName row = []
    · by_cases hmints : placed "nft::mint" row = [] <;> simp [hplaced, hmints, hnames]
    · simp [hplaced]
  functions := by
    show (Plan.functionsOf _ _ _).map _ = _
    rw [Plan.functionsOf, functions_graphOf, List.map_map, List.map_map]
    refine List.map_congr_left fun p _ => ?_
    have hparams (witness : String) : (p.template.members.map (Plan.Param.ofMember witness)).map
        (·.name) = p.template.members.map (·.name) := List.map_map
    exact congrArg (fun names => (p.id, Identifier.callable p.template.label, names)) (hparams _)

theorem ofGraph_graphOf (name : String) (h : (placed "CoinInit" row).length < 2) :
    Plan.ofGraph name (graphOf row) .builtIn .empty = .ok (planOf name row) := by
  have hinits : (graphOf row).inits.length < 2 := by
    rw [inits_graphOf, List.length_map]
    exact h
  rw [Plan.ofGraph_eq_map, Witness.resolve_of_no_edges .builtIn rfl hinits]
  rfl

theorem refuses_graphOf_iff {error : CompileError} :
    (graphOf row).Refuses error ↔ ∃ first second rest,
      placed "CoinInit" row = first :: second :: rest ∧
        error = .severalInits first.id second.id := by
  rw [Graph.refuses_iff_of_no_edges rfl, inits_graphOf]
  constructor
  · rintro ⟨_, _, _, hinits, rfl⟩
    obtain ⟨first, others, hrow, rfl, hothers⟩ := List.map_eq_cons_iff.mp hinits
    obtain ⟨second, rest, rfl, rfl, -⟩ := List.map_eq_cons_iff.mp hothers
    exact ⟨first, second, rest, hrow, rfl⟩
  · rintro ⟨first, second, rest, hrow, rfl⟩
    rw [hrow]
    exact ⟨_, _, _, rfl, rfl⟩

/-- Every row of placed templates with distinct ids converts. It is refused exactly if the
initializer is placed several times, with the first two ids, and otherwise gives the package of a
plan that the row determines. Each node is read back from the value that it is stored as, and from
every text of it that has room for its position and whose numbers denote what they were written
from. -/
theorem compile_canvasOf (name : String) (row : List Placement) (hids : (row.map (·.id)).Nodup) :
    ∃ graph, (canvasOf row).toGraph = .ok graph ∧
      (∀ error, Package.ofGraph name graph .builtIn .empty = .error error ↔
        ∃ first second rest, placed "CoinInit" row = first :: second :: rest ∧
          error = .severalInits first.id second.id) ∧
      ((placed "CoinInit" row).length < 2 →
        ∃ plan, Plan.ofGraph name graph .builtIn .empty = .ok plan ∧ Plans row plan ∧
          Package.ofGraph name graph .builtIn .empty = .ok (.ofPlan plan .builtIn)) ∧
      ∀ p ∈ row, Canvas.Node.ofValue p.node.toValue = .ok p.node ∧
        (p.position.Everywhere Number.ReadsBack AnyKeys → p.position.depth < Json.nestingLimit →
          ∀ layout : Layout, layout.IsBlank → Canvas.Node.ofText (p.node.text layout) = .ok p.node) := by
  refine ⟨graphOf row, toGraph_canvasOf hids, fun error => ?_, fun hfew => ?_, fun p _ => ?_⟩
  · exact Package.ofGraph_eq_error_iff.trans refuses_graphOf_iff
  · have hplan := ofGraph_graphOf name hfew
    refine ⟨planOf name row, hplan, plans_planOf name row, ?_⟩
    rw [Package.ofGraph_eq_map, hplan]
    rfl
  · exact ⟨p.template.ofValue_instantiate p.id p.keyed,
      fun hreads hdepth _ hlayout => p.ofText_node hreads hdepth hlayout⟩

theorem compile_canvasOf_gallery :
    let row : List Placement := [
      ⟨templates[0], List.getElem_mem _, "i-1", .null, trivial⟩,
      ⟨templates[12], List.getElem_mem _, "s-1", .obj [("x", .num (.int 4)), ("y", .num (.int 2))],
        by decide, trivial, trivial, trivial⟩,
      ⟨templates[13], List.getElem_mem _, "f-1", .null, trivial⟩,
      ⟨templates[12], List.getElem_mem _, "s-2", .null, trivial⟩]
    ∃ graph plan, (canvasOf row).toGraph = .ok graph ∧
      Package.ofGraph "gallery" graph .builtIn .empty = .ok (.ofPlan plan .builtIn) ∧
      plan.witness = ⟨"SimpleNFT", .firstStruct "s-1"⟩ ∧
      ∀ p ∈ row, Canvas.Node.ofValue p.node.toValue = .ok p.node := by
  intro row
  obtain ⟨graph, hgraph, -, hplan, hread⟩ := compile_canvasOf "gallery" row (by decide)
  obtain ⟨plan, -, hplans, hpackage⟩ := hplan (by decide)
  exact ⟨graph, plan, hgraph, hpackage, hplans.own _ _ rfl, fun p hp => (hread p hp).1⟩

end MoveCanvas.Palette
