import MoveCanvas.Graph.Abilities
import MoveCanvas.Graph.Handle
import MoveCanvas.Index

/-! # Module graphs

The canonical graph of one module: nodes that stand for structs, functions and the initializer,
and directed edges between their handles. Node ids need not be distinct here; a lookup by id finds
the first node that has it, be it in the list of nodes or in an index of them. -/

namespace MoveCanvas

/-- A name with a type: a field of a struct or a parameter of a function. -/
structure Member where
  name : String
  type : String
deriving DecidableEq, Repr

structure StructSpec where
  fields : List Member
  abilities : Abilities
  imported : Bool
deriving DecidableEq, Repr

/-- What the initializer says about the currency. Empty texts and an absent number of decimals
are filled by the defaults. -/
structure Currency where
  name : String
  symbol : String
  decimals : Option UInt8
  description : String
deriving DecidableEq, Repr

inductive Graph.Kind
  | struct (spec : StructSpec)
  | function (params : List Member)
  | init (currency : Currency)
  /-- A node that only decorates the canvas. -/
  | other (type : String)
deriving DecidableEq, Repr

structure Graph.Node where
  id : String
  label : String
  title : Option String
  kind : Graph.Kind
deriving DecidableEq, Repr

structure Graph.Edge where
  source : String
  sourceHandle : Handle
  target : String
  targetHandle : Handle
deriving DecidableEq, Repr

structure Graph where
  nodes : List Graph.Node
  edges : List Graph.Edge
deriving DecidableEq, Repr

namespace Graph

def Kind.struct? : Kind → Option StructSpec
  | .struct spec => some spec
  | _ => none

def Kind.params? : Kind → Option (List Member)
  | .function params => some params
  | _ => none

def Kind.currency? : Kind → Option Currency
  | .init currency => some currency
  | _ => none

def node? (graph : Graph) (id : String) : Option Node :=
  graph.nodes.find? (·.id = id)

def nodesById (graph : Graph) : Index Node :=
  .ofList Node.id graph.nodes

theorem get?_nodesById (graph : Graph) (id : String) : graph.nodesById.get? id = graph.node? id :=
  Index.get?_ofList Node.id graph.nodes id

def structs (graph : Graph) : List (Node × StructSpec) :=
  graph.nodes.filterMap fun node => node.kind.struct?.map (node, ·)

def functions (graph : Graph) : List (Node × List Member) :=
  graph.nodes.filterMap fun node => node.kind.params?.map (node, ·)

def inits (graph : Graph) : List (Node × Currency) :=
  graph.nodes.filterMap fun node => node.kind.currency?.map (node, ·)

/-- Picking the nodes of one kind, each with what its kind carries. -/
theorem mem_filterMap_kind_iff {pick : Kind → Option α} {nodes : List Node} {node : Node} {a : α} :
    (node, a) ∈ nodes.filterMap (fun node => (pick node.kind).map (node, ·)) ↔
      node ∈ nodes ∧ pick node.kind = some a := by
  simp only [List.mem_filterMap, Option.map_eq_some_iff, Prod.mk.injEq]
  constructor
  · rintro ⟨_, hmem, _, hpick, rfl, rfl⟩
    exact ⟨hmem, hpick⟩
  · rintro ⟨hmem, hpick⟩
    exact ⟨node, hmem, a, hpick, rfl, rfl⟩

def incoming (graph : Graph) (id : String) : List Edge :=
  graph.edges.filter (·.target = id)

def outgoing (graph : Graph) (id : String) : List Edge :=
  graph.edges.filter (·.source = id)

/-- The first element that is in `seen` or occurs earlier in the list. -/
def firstRepeat (seen : List String) : List String → Option String
  | [] => none
  | id :: ids => if id ∈ seen then some id else firstRepeat (id :: seen) ids

theorem firstRepeat_eq_none_iff {seen ids : List String} :
    firstRepeat seen ids = none ↔ ids.Nodup ∧ ∀ id ∈ ids, id ∉ seen := by
  induction ids generalizing seen with
  | nil => simp [firstRepeat]
  | cons id ids ih =>
      by_cases h : id ∈ seen
      · simp [firstRepeat, h]
      · simp only [firstRepeat, h, ↓reduceIte, ih, List.mem_cons, not_or, List.nodup_cons,
          forall_eq_or_imp, not_false_eq_true, true_and]
        constructor
        · rintro ⟨hnodup, hids⟩
          exact ⟨⟨fun hid => (hids id hid).1 rfl, hnodup⟩, fun x hx => (hids x hx).2⟩
        · rintro ⟨⟨hid, hnodup⟩, hids⟩
          exact ⟨hnodup, fun x hx => ⟨fun he => hid (he ▸ hx), hids x hx⟩⟩

def repeatedId? (graph : Graph) : Option String :=
  firstRepeat [] (graph.nodes.map (·.id))

theorem repeatedId?_eq_none_iff {graph : Graph} :
    graph.repeatedId? = none ↔ (graph.nodes.map (·.id)).Nodup := by
  simp [repeatedId?, firstRepeat_eq_none_iff]

end Graph

end MoveCanvas
