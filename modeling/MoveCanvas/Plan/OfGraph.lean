import MoveCanvas.ParamType
import MoveCanvas.Plan.Basic
import MoveCanvas.Text.Search

/-! # Planning a module

The plan of a graph. Structs that are imported, named like a framework type or named like an
earlier struct are left out; the struct named like the witness loses its identity field and keeps
no ability but drop. Functions are planned in graph order, each by itself. -/

namespace MoveCanvas.Plan

/-- The name of the struct that NFT bodies build. -/
def nftName : String := "SimpleNFT"

/-! ## Structs -/

def isIdentityField (field : Member) : Bool :=
  Text.trim field.type.toList = "UID".toList

/-- The planned struct of a node: a witness carries no identity and can only be dropped. -/
def Struct.ofNode (witness : String) (node : Graph.Node) (spec : StructSpec) : Struct :=
  if Identifier.declaration node.label = witness then
    { node := node.id
      name := Identifier.declaration node.label
      abilities := .dropOnly
      fields := spec.fields.eraseP isIdentityField
      isWitness := true }
  else
    { node := node.id
      name := Identifier.declaration node.label
      abilities := spec.abilities
      fields := spec.fields
      isWitness := false }

/-- The planned structs of the nodes, where the names of `declared` are taken. -/
def structsAfter (witness : String) (declared : List String) :
    List (Graph.Node × StructSpec) → List Struct
  | [] => []
  | (node, spec) :: rest =>
    if spec.imported ∨ Palette.isFrameworkType (Identifier.declaration node.label) ∨
        Identifier.declaration node.label ∈ declared then
      structsAfter witness declared rest
    else
      .ofNode witness node spec ::
        structsAfter witness (Identifier.declaration node.label :: declared) rest

def structsOf (graph : Graph) (witness : String) : List Struct :=
  structsAfter witness [] graph.structs

/-! ## Initializer -/

/-- The first text unless it is empty. -/
def orDefault (value fallback : String) : String :=
  if value = "" then fallback else value

def Init.ofNode (defaults : Defaults) (witness : String) (node : Graph.Node)
    (currency : Currency) : Init :=
  { node := node.id
    witness
    decimals := currency.decimals.getD defaults.coinDecimals
    symbol := orDefault currency.symbol defaults.coinSymbol
    name := orDefault currency.name defaults.coinName
    description := orDefault currency.description defaults.coinDescription }

/-! ## Functions -/

def Param.ofMember (witness : String) (member : Member) : Param :=
  ⟨member.name, member.type, ParamType.resolve member.type witness⟩

def reachesTransfer (graph : Graph) (node : String) : Bool :=
  let index := graph.nodesById
  (graph.outgoing node).any fun edge =>
    (index.get? edge.target).any fun target =>
      Text.occursIn "transfer".toList target.label.toList

theorem reachesTransfer_eq_any (graph : Graph) (node : String) :
    reachesTransfer graph node = (graph.outgoing node).any fun edge =>
      (graph.node? edge.target).any fun target =>
        Text.occursIn "transfer".toList target.label.toList := by
  simp only [reachesTransfer, Graph.get?_nodesById]

def Function.ofNode (graph : Graph) (intents : Intent.Table) (witness : String)
    (node : Graph.Node) (params : List Member) : Function :=
  { node := node.id
    name := Identifier.callable node.label
    intent := intents.classify node.label
    params := params.map (.ofMember witness)
    feedsTransfer := reachesTransfer graph node.id }

def functionsOf (graph : Graph) (intents : Intent.Table) (witness : String) : List Function :=
  graph.functions.map fun (node, params) => .ofNode graph intents witness node params

/-! ## The whole module -/

/-- Whether a struct node, imported or not, has the name of the NFT struct. -/
def hasNftStruct (graph : Graph) : Bool :=
  graph.structs.any fun (node, _) => Identifier.declaration node.label = nftName

/-- The plan of a graph whose witness and initializer are settled. -/
def assemble (name : String) (graph : Graph) (defaults : Defaults) (intents : Intent.Table)
    (witness : Witness) (init : Option (Graph.Node × Currency)) : Plan :=
  let structs := structsOf graph witness.name
  let functions := functionsOf graph intents witness.name
  { moduleName := Identifier.moduleName name
    witness
    structs
    synthesizesWitness := !structs.any (·.isWitness)
    synthesizesNft := functions.any (·.intent = .mintNft) && !hasNftStruct graph
    init := init.map fun (node, currency) => .ofNode defaults witness.name node currency
    functions }

def ofGraph (name : String) (graph : Graph) (defaults : Defaults) (intents : Intent.Table) :
    Except CompileError Plan := do
  let witness ← Witness.resolve graph defaults
  let init ← graph.singleInit
  .ok (assemble name graph defaults intents witness init)

theorem ofGraph_eq_ok_iff {name : String} {graph : Graph} {defaults : Defaults}
    {intents : Intent.Table} {plan : Plan} :
    ofGraph name graph defaults intents = .ok plan ↔
      ∃ witness init, Witness.resolve graph defaults = .ok witness ∧
        graph.singleInit = .ok init ∧ plan = assemble name graph defaults intents witness init := by
  unfold ofGraph
  cases Witness.resolve graph defaults with
  | error e => simp [bind, Except.bind]
  | ok witness =>
      cases graph.singleInit with
      | error e => simp [bind, Except.bind]
      | ok init => simp [bind, Except.bind, eq_comm]

theorem Struct.name_ofNode (witness : String) (node : Graph.Node) (spec : StructSpec) :
    (ofNode witness node spec).name = Identifier.declaration node.label := by
  unfold ofNode
  split <;> rfl

theorem Struct.node_ofNode (witness : String) (node : Graph.Node) (spec : StructSpec) :
    (ofNode witness node spec).node = node.id := by
  unfold ofNode
  split <;> rfl

theorem Struct.isWitness_ofNode {witness : String} {node : Graph.Node} {spec : StructSpec} :
    (ofNode witness node spec).isWitness = true ↔ Identifier.declaration node.label = witness := by
  unfold ofNode
  split <;> simp [*]

theorem not_mem_declared_of_mem_structsAfter {witness : String} {declared : List String}
    {nodes : List (Graph.Node × StructSpec)} {s : Struct}
    (h : s ∈ structsAfter witness declared nodes) : s.name ∉ declared := by
  induction nodes generalizing declared with
  | nil => cases h
  | cons head rest ih =>
      simp only [structsAfter] at h
      split at h
      · exact ih h
      · next hnew =>
        rcases List.mem_cons.mp h with rfl | h
        · rw [Struct.name_ofNode]
          exact fun hmem => hnew (Or.inr (Or.inr hmem))
        · exact fun hmem => ih h (List.mem_cons_of_mem _ hmem)

theorem nodup_structsAfter (witness : String) (declared : List String)
    (nodes : List (Graph.Node × StructSpec)) :
    ((structsAfter witness declared nodes).map (·.name)).Nodup := by
  induction nodes generalizing declared with
  | nil => exact List.nodup_nil
  | cons head rest ih =>
      simp only [structsAfter]
      split
      · exact ih declared
      · simp only [List.map_cons, List.nodup_cons]
        refine ⟨fun hmem => ?_, ih _⟩
        obtain ⟨s, hs, hname⟩ := List.mem_map.mp hmem
        rw [Struct.name_ofNode] at hname
        exact not_mem_declared_of_mem_structsAfter hs (hname ▸ List.mem_cons_self ..)

end MoveCanvas.Plan
