import MoveCanvas.Canvas.Basic

/-! # Automatic wiring

The edges that are added to an imported canvas. The first treasury capability feeds every coin
mint, and every mint, of coins or of NFTs, feeds every transfer. -/

namespace MoveCanvas.Wiring

/-- The nodes of a type that have exactly this label. -/
def select (nodes : List Canvas.Node) (type label : String) : List Canvas.Node :=
  nodes.filter fun node => node.type = some type && node.data.label = label

def capabilities (nodes : List Canvas.Node) : List Canvas.Node :=
  select nodes Canvas.structType "TreasuryCap"

def coinMints (nodes : List Canvas.Node) : List Canvas.Node :=
  select nodes Canvas.functionType "coin::mint"

def nftMints (nodes : List Canvas.Node) : List Canvas.Node :=
  select nodes Canvas.functionType "nft::mint"

def transfers (nodes : List Canvas.Node) : List Canvas.Node :=
  select nodes Canvas.functionType "transfer::transfer"

/-- An edge into the first parameter, with an id made of its ends and a tag. -/
def edge (tag sourceHandle : String) (source target : Canvas.Node) : Canvas.Edge :=
  { id := some ("e-" ++ source.id ++ "-" ++ target.id ++ "-" ++ tag)
    source := source.id
    sourceHandle := some sourceHandle
    target := target.id
    targetHandle := some "param-0" }

def join (tag sourceHandle : String) (sources targets : List Canvas.Node) : List Canvas.Edge :=
  sources.flatMap fun source => targets.map (edge tag sourceHandle source)

def inferred (nodes : List Canvas.Node) : List Canvas.Edge :=
  join "cap" "obj-main" ((capabilities nodes).take 1) (coinMints nodes) ++
    join "flow" "return-val" (coinMints nodes) (transfers nodes) ++
    join "nftflow" "return-val" (nftMints nodes) (transfers nodes)

theorem length_join (tag sourceHandle : String) (sources targets : List Canvas.Node) :
    (join tag sourceHandle sources targets).length = sources.length * targets.length := by
  induction sources with
  | nil => simp [join]
  | cons source sources ih =>
      simp only [join, List.flatMap_cons, List.length_append, List.length_map,
        List.length_cons] at ih ⊢
      rw [ih, Nat.succ_mul, Nat.add_comm]

theorem mem_select_iff {nodes : List Canvas.Node} {type label : String} {node : Canvas.Node} :
    node ∈ select nodes type label ↔
      node ∈ nodes ∧ node.type = some type ∧ node.data.label = label := by
  simp [select]

end MoveCanvas.Wiring
