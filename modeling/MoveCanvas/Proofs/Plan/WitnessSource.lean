import MoveCanvas.Proofs.Graph.Lookup
import MoveCanvas.Witness

/-! # Where the witness comes from

A witness that is taken from a node has the declaration name of that node, and this name is no
framework type. The fallback looks at struct nodes alone. The initializer's slot takes whatever node
is wired into it, so that a function, an initializer or a mere decoration may become the witness.
This is the one way to a witness that is no struct of the user's own. -/

namespace MoveCanvas

namespace Witness

def Source.node? : Source → Option String
  | .connected node => some node
  | .firstStruct node => some node
  | .default => none

/-- A struct that is neither imported nor named like a framework type, and the witness has its
name. -/
structure IsNamedBy (witness : Witness) (node : Graph.Node) (spec : StructSpec) : Prop where
  kind : node.kind = .struct spec
  own : spec.imported = false
  unreserved : Identifier.declaration node.label ∉ Palette.frameworkTypes
  name : witness.name = Identifier.declaration node.label

/-- If the witness was taken from a node, then the node of that id is a struct of the user's own
and gives the witness its name. -/
def IsUserOwned (graph : Graph) (witness : Witness) : Prop :=
  ∀ id, witness.source.node? = some id →
    ∃ node spec, graph.node? id = some node ∧ witness.IsNamedBy node spec

variable {graph : Graph} {defaults : Defaults} {witness : Witness} {node : Graph.Node}

theorem unreserved_of_isEligible (h : node.isEligible = true) :
    Identifier.declaration node.label ∉ Palette.frameworkTypes := by
  intro hmem
  have hframework := node.isFrameworkType_of_isEligible h
  rw [Palette.isFrameworkType_iff.mpr hmem] at hframework
  cases hframework

theorem isNamedBy_of_isEligible {spec : StructSpec} (hkind : node.kind = .struct spec)
    (heligible : node.isEligible = true)
    (hname : witness.name = Identifier.declaration node.label) : witness.IsNamedBy node spec where
  kind := hkind
  own := node.imported_of_isEligible (by rw [hkind]; rfl) heligible
  unreserved := unreserved_of_isEligible heligible
  name := hname

theorem exists_kind_eq_struct (h : node.kind.struct?.isSome = true) :
    ∃ spec, node.kind = .struct spec := by
  cases hkind : node.kind with
  | struct spec => exact ⟨spec, rfl⟩
  | function params => simp [hkind, Graph.Kind.struct?] at h
  | init currency => simp [hkind, Graph.Kind.struct?] at h
  | other type => simp [hkind, Graph.Kind.struct?] at h

theorem isUserOwned_ofConnected_iff (h : graph.IsConnected node) :
    IsUserOwned graph (ofConnected node) ↔ node.kind.struct?.isSome = true := by
  obtain ⟨init, -, hconnected⟩ := h
  obtain ⟨-, hnode, heligible⟩ := Graph.connectedWitness_eq_some_iff.mp hconnected
  constructor
  · intro howned
    obtain ⟨found, spec, hfound, hnamed⟩ := howned node.id rfl
    obtain rfl : node = found := Option.some.inj (hnode.symm.trans hfound)
    rw [hnamed.kind]
    rfl
  · intro hstruct id hid
    obtain rfl : node.id = id := Option.some.inj hid
    obtain ⟨spec, hkind⟩ := exists_kind_eq_struct hstruct
    exact ⟨node, spec, hnode, isNamedBy_of_isEligible hkind heligible rfl⟩

theorem isUserOwned_fallback (hids : (graph.nodes.map (·.id)).Nodup) :
    IsUserOwned graph (fallback graph defaults) := by
  unfold fallback
  split
  · next node hfirst =>
    intro id hid
    obtain ⟨hmem, hstruct, heligible⟩ := eligible_of_firstEligibleStruct? hfirst
    obtain rfl : node.id = id := Option.some.inj hid
    obtain ⟨spec, hkind⟩ := exists_kind_eq_struct hstruct
    exact ⟨node, spec, Graph.node?_id_of_mem hids hmem,
      isNamedBy_of_isEligible hkind heligible rfl⟩
  · intro id hid
    cases hid

/-- The one edge into the slot of the one initializer leads from a node that is no struct, and the
name of that node is no framework type. -/
structure StrayConnection (graph : Graph) (node : Graph.Node) : Prop where
  slot : ∃ init, graph.inits = [init] ∧ graph.witnessSources init.1.id = [node.id]
  found : graph.node? node.id = some node
  noStruct : node.kind.struct? = none
  unreserved : Identifier.declaration node.label ∉ Palette.frameworkTypes

theorem strayConnection_iff :
    StrayConnection graph node ↔ graph.IsConnected node ∧ node.kind.struct? = none := by
  constructor
  · rintro ⟨⟨init, hinits, hsources⟩, hnode, hother, hunreserved⟩
    have hframework : Palette.isFrameworkType (Identifier.declaration node.label) = false :=
      Bool.eq_false_iff.mpr (mt Palette.isFrameworkType_iff.mp hunreserved)
    have heligible : node.isEligible = true := by
      simp [Graph.Node.isEligible, hother, hframework]
    exact ⟨⟨init, hinits, Graph.connectedWitness_eq_some_iff.mpr ⟨hsources, hnode, heligible⟩⟩,
      hother⟩
  · rintro ⟨⟨init, hinits, hconnected⟩, hother⟩
    obtain ⟨hsources, hnode, heligible⟩ := Graph.connectedWitness_eq_some_iff.mp hconnected
    exact ⟨⟨init, hinits, hsources⟩, hnode, hother, unreserved_of_isEligible heligible⟩

/-- A witness that is taken from a node is a struct of the user's own, unless a node that is no
struct is wired into the initializer. Then that node is the witness. -/
theorem isUserOwned_resolve_iff (hids : (graph.nodes.map (·.id)).Nodup)
    (h : resolve graph defaults = .ok witness) :
    (IsUserOwned graph witness ↔ ∀ node, ¬ StrayConnection graph node) ∧
      ∀ node, StrayConnection graph node → witness = ofConnected node := by
  rcases resolve_eq_ok_cases h with ⟨node, hconnected, rfl⟩ | ⟨hnone, rfl⟩
  · constructor
    · rw [isUserOwned_ofConnected_iff hconnected, Option.isSome_iff_ne_none]
      constructor
      · intro hstruct other hstray
        obtain ⟨hother, hkind⟩ := strayConnection_iff.mp hstray
        obtain rfl := hconnected.unique hother
        exact hstruct hkind
      · intro hall hkind
        exact hall node (strayConnection_iff.mpr ⟨hconnected, hkind⟩)
    · intro other hstray
      rw [hconnected.unique (strayConnection_iff.mp hstray).1]
  · have hstraight : ∀ node, ¬ StrayConnection graph node := by
      intro node hstray
      exact hnone node (strayConnection_iff.mp hstray).1
    constructor
    · exact iff_of_true (isUserOwned_fallback hids) hstraight
    · intro node hstray
      exact absurd hstray (hstraight node)

theorem isUserOwned_resolve_second_struct :
    let graph : Graph := ⟨[⟨"s-1", "Gem", none, .struct ⟨[], .keyStore, true⟩⟩,
      ⟨"s-2", "Coin", none, .struct ⟨[⟨"value", "u64"⟩], .keyStore, false⟩⟩,
      ⟨"f-1", "gem::Cut", none, .function []⟩,
      ⟨"i-1", "CoinInit", none, .init ⟨"", "", none, ""⟩⟩,
      ⟨"s-3", "gem::Cut", none, .struct ⟨[⟨"id", "UID"⟩], .keyStore, false⟩⟩],
      [⟨"f-1", .returnValue, "i-1", .param 0⟩, ⟨"s-1", .objectMain, "i-1", .witnessInput⟩]⟩
    resolve graph .builtIn = .ok ⟨"gem_Cut", .firstStruct "s-3"⟩ ∧
      IsUserOwned graph ⟨"gem_Cut", .firstStruct "s-3"⟩ := by
  intro graph
  have h : resolve graph .builtIn = .ok ⟨"gem_Cut", .firstStruct "s-3"⟩ := rfl
  refine ⟨h, (isUserOwned_resolve_iff (by decide) h).1.mpr ?_⟩
  rintro node ⟨⟨init, hinits, hsources⟩, hnode, hother, -⟩
  obtain rfl := List.head_eq_of_cons_eq hinits
  obtain hid : "s-1" = node.id := List.head_eq_of_cons_eq hsources
  rw [← hid] at hnode
  obtain rfl := Option.some.inj hnode
  cases hother

/-- A function that is wired into the initializer becomes the witness beside a struct. -/
theorem not_isUserOwned_connected_function :
    let graph : Graph := ⟨[⟨"f-1", "coin::mint", none, .function []⟩,
      ⟨"s-1", "GOLD", none, .struct ⟨[], .dropOnly, false⟩⟩,
      ⟨"i-1", "CoinInit", none, .init ⟨"", "", none, ""⟩⟩],
      [⟨"f-1", .returnValue, "i-1", .witnessInput⟩]⟩
    (graph.nodes.map (·.id)).Nodup ∧
      resolve graph .builtIn = .ok ⟨"coin_mint", .connected "f-1"⟩ ∧
      ¬ IsUserOwned graph ⟨"coin_mint", .connected "f-1"⟩ := by
  intro graph
  refine ⟨by decide, rfl, ?_⟩
  intro howned
  obtain ⟨node, spec, hnode, hnamed⟩ := howned "f-1" rfl
  obtain rfl := Option.some.inj hnode
  cases hnamed.kind

end Witness

end MoveCanvas
