import MoveCanvas.CompileError
import MoveCanvas.Defaults
import MoveCanvas.Identifier
import MoveCanvas.Palette

/-! # The witness

The witness is the one type by which the coins of a module are told apart. It is the node wired
into the initializer, else the first struct that the module declares itself, else a default name.
Several initializers, or several edges into the witness slot, are refused. -/

namespace MoveCanvas

inductive Witness.Source
  | connected (node : String)
  | firstStruct (node : String)
  | default
deriving DecidableEq, Repr

structure Witness where
  name : String
  source : Witness.Source
deriving DecidableEq, Repr

namespace Graph

def singleInit (graph : Graph) : Except CompileError (Option (Node × Currency)) :=
  match graph.inits with
  | [] => .ok none
  | [init] => .ok (some init)
  | first :: second :: _ => .error (.severalInits first.1.id second.1.id)

/-- The sources of the edges into the witness slot of the node `init`, in edge order. -/
def witnessSources (graph : Graph) (init : String) : List String :=
  ((graph.incoming init).filter (·.targetHandle.entersWitness)).map (·.source)

/-- Imported structs, and nodes named like a framework type, cannot be the witness. -/
def Node.isEligible (node : Node) : Bool :=
  !(node.kind.struct?.any (·.imported)) &&
    !Palette.isFrameworkType (Identifier.declaration node.label)

/-- The eligible node wired into the witness slot of `init`. -/
def connectedWitness (graph : Graph) (init : String) : Except CompileError (Option Node) :=
  match graph.witnessSources init with
  | [] => .ok none
  | [source] => .ok ((graph.node? source).filter Node.isEligible)
  | sources => .error (.ambiguousWitness init sources)

def firstEligibleStruct? (graph : Graph) : Option Node :=
  graph.nodes.find? fun node => node.kind.struct?.isSome && node.isEligible

variable {graph : Graph} {node : Node}

theorem id_of_node? {id : String} (h : graph.node? id = some node) : node.id = id := by
  simpa using List.find?_some h

theorem Node.isFrameworkType_of_isEligible (h : node.isEligible = true) :
    Palette.isFrameworkType (Identifier.declaration node.label) = false := by
  simp only [isEligible, Bool.and_eq_true, Bool.not_eq_true'] at h
  exact h.2

theorem Node.imported_of_isEligible {spec : StructSpec} (hspec : node.kind.struct? = some spec)
    (h : node.isEligible = true) : spec.imported = false := by
  simp only [isEligible, hspec, Option.any_some, Bool.and_eq_true, Bool.not_eq_true'] at h
  exact h.1

/-- The other kinds of nodes between the structs make no difference. -/
theorem firstEligibleStruct?_eq (graph : Graph) :
    graph.firstEligibleStruct? = (graph.structs.find? (·.1.isEligible)).map (·.1) := by
  unfold firstEligibleStruct? structs
  induction graph.nodes with
  | nil => rfl
  | cons node rest ih =>
      cases hstruct : node.kind.struct? with
      | none => simpa [hstruct] using ih
      | some spec =>
          cases heligible : node.isEligible with
          | true => simp [hstruct, heligible]
          | false => simpa [hstruct, heligible] using ih

/-- A node is wired into the slot of an initializer if the only edge there leads from it. -/
theorem connectedWitness_eq_some_iff {init : String} :
    graph.connectedWitness init = .ok (some node) ↔
      graph.witnessSources init = [node.id] ∧ graph.node? node.id = some node ∧
        node.isEligible = true := by
  unfold connectedWitness
  constructor
  · intro h
    split at h
    · cases h
    · next source hsources =>
      obtain ⟨hnode, heligible⟩ := Option.filter_eq_some_iff.mp (Except.ok.inj h)
      obtain rfl := id_of_node? hnode
      exact ⟨hsources, hnode, heligible⟩
    · cases h
  · rintro ⟨hsources, hnode, heligible⟩
    rw [hsources]
    exact congrArg Except.ok (Option.filter_eq_some_iff.mpr ⟨hnode, heligible⟩)

/-- The node is wired into the slot of the one initializer, and may be the witness. -/
def IsConnected (graph : Graph) (node : Node) : Prop :=
  ∃ init, graph.inits = [init] ∧ graph.connectedWitness init.1.id = .ok (some node)

theorem IsConnected.unique {other : Node} (h : graph.IsConnected node)
    (h' : graph.IsConnected other) : node = other := by
  obtain ⟨init, hinits, hconnected⟩ := h
  obtain ⟨init', hinits', hconnected'⟩ := h'
  obtain rfl : init = init' := List.head_eq_of_cons_eq (hinits.symm.trans hinits')
  exact Option.some.inj (Except.ok.inj (hconnected.symm.trans hconnected'))

end Graph

namespace Witness

def ofConnected (node : Graph.Node) : Witness :=
  ⟨Identifier.declaration node.label, .connected node.id⟩

/-- The witness of a graph in which no eligible node is wired into the initializer. -/
def fallback (graph : Graph) (defaults : Defaults) : Witness :=
  match graph.firstEligibleStruct? with
  | some node => ⟨Identifier.declaration node.label, .firstStruct node.id⟩
  | none => ⟨defaults.witnessName, .default⟩

def resolve (graph : Graph) (defaults : Defaults) : Except CompileError Witness := do
  match ← graph.singleInit with
  | none => .ok (fallback graph defaults)
  | some (init, _) =>
    match ← graph.connectedWitness init.id with
    | some node => .ok (ofConnected node)
    | none => .ok (fallback graph defaults)

variable {graph : Graph}

theorem resolve_of_no_init (defaults : Defaults) (h : graph.inits = []) :
    resolve graph defaults = .ok (fallback graph defaults) := by
  simp only [resolve, Graph.singleInit, h]
  rfl

theorem resolve_of_init {init : Graph.Node × Currency} (defaults : Defaults)
    (h : graph.inits = [init]) :
    resolve graph defaults = (graph.connectedWitness init.1.id).map
      fun node? => node?.elim (fallback graph defaults) ofConnected := by
  simp only [resolve, Graph.singleInit, h]
  show (graph.connectedWitness init.1.id).bind _ = _
  cases graph.connectedWitness init.1.id with
  | error e => rfl
  | ok node? => cases node? <;> rfl

theorem resolve_of_several_inits {first second : Graph.Node × Currency}
    {others : List (Graph.Node × Currency)} (defaults : Defaults)
    (h : graph.inits = first :: second :: others) :
    resolve graph defaults = .error (.severalInits first.1.id second.1.id) := by
  simp only [resolve, Graph.singleInit, h]
  rfl

theorem eligible_of_firstEligibleStruct? {node : Graph.Node}
    (h : graph.firstEligibleStruct? = some node) :
    node ∈ graph.nodes ∧ node.kind.struct?.isSome = true ∧ node.isEligible = true := by
  have hfound := List.find?_some h
  rw [Bool.and_eq_true] at hfound
  exact ⟨List.mem_of_find?_eq_some h, hfound⟩

/-- A node that is wired in comes first; the fallback is for the graphs without one. -/
theorem resolve_eq_ok_cases {defaults : Defaults} {witness : Witness}
    (h : resolve graph defaults = .ok witness) :
    (∃ node, graph.IsConnected node ∧ witness = ofConnected node) ∨
      (∀ node, ¬ graph.IsConnected node) ∧ witness = fallback graph defaults := by
  rcases hinits : graph.inits with _ | ⟨init, _ | ⟨second, others⟩⟩
  · rw [resolve_of_no_init defaults hinits] at h
    refine Or.inr ⟨?_, (Except.ok.inj h).symm⟩
    rintro node ⟨init, hinit, -⟩
    rw [hinits] at hinit
    cases hinit
  · rw [resolve_of_init defaults hinits] at h
    cases hnode : graph.connectedWitness init.1.id with
    | error e => simp [hnode, Except.map] at h
    | ok node? =>
        rw [hnode] at h
        cases node? with
        | some node => exact Or.inl ⟨node, ⟨init, hinits, hnode⟩, (Except.ok.inj h).symm⟩
        | none =>
            refine Or.inr ⟨?_, (Except.ok.inj h).symm⟩
            rintro node ⟨other, hother, hconnected⟩
            obtain rfl : init = other := List.head_eq_of_cons_eq (hinits.symm.trans hother)
            rw [hnode] at hconnected
            cases hconnected
  · rw [resolve_of_several_inits defaults hinits] at h
    cases h

/-- The witness is an eligible node of the graph, wired into the initializer, or the fallback. -/
theorem connected_or_fallback_of_resolve {defaults : Defaults} {witness : Witness}
    (h : resolve graph defaults = .ok witness) :
    (∃ node ∈ graph.nodes, node.isEligible = true ∧ witness = ofConnected node) ∨
      witness = fallback graph defaults := by
  rcases resolve_eq_ok_cases h with ⟨node, ⟨init, -, hconnected⟩, hwitness⟩ | ⟨-, hwitness⟩
  · obtain ⟨-, hnode, heligible⟩ := Graph.connectedWitness_eq_some_iff.mp hconnected
    exact Or.inl ⟨node, List.mem_of_find?_eq_some hnode, heligible, hwitness⟩
  · exact Or.inr hwitness

end Witness

end MoveCanvas
