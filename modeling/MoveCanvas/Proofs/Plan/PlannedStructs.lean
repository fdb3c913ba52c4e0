import MoveCanvas.Plan.OfGraph

/-! # Which structs are planned

A struct node is planned if it is the user's own, is not named like a framework type and is the first
such node of its name. So the first planned struct comes from the first node that may be the witness,
and of the nodes of one name at most one is planned, whatever stands between them. -/

namespace MoveCanvas

def Graph.firstOwn? (graph : Graph) (name : String) : Option (Node × StructSpec) :=
  graph.structs.find? fun s => s.2.imported = false ∧ Identifier.declaration s.1.label = name

theorem Graph.exists_firstOwn? {graph : Graph} {s : Node × StructSpec} (hmem : s ∈ graph.structs)
    (hown : s.2.imported = false) :
    ∃ first, graph.firstOwn? (Identifier.declaration s.1.label) = some first := by
  apply Option.isSome_iff_exists.mp
  rw [firstOwn?, List.find?_isSome]
  exact ⟨s, hmem, decide_eq_true ⟨hown, rfl⟩⟩

theorem Graph.kind_of_mem_structs {graph : Graph} {s : Node × StructSpec} (h : s ∈ graph.structs) :
    s.1.kind.struct? = some s.2 :=
  (mem_filterMap_kind_iff.mp h).2

namespace Plan

theorem mem_structsAfter {witness : String} {declared : List String}
    {nodes : List (Graph.Node × StructSpec)} {s : Struct}
    (h : s ∈ structsAfter witness declared nodes) :
    ∃ node spec, (node, spec) ∈ nodes ∧ s = .ofNode witness node spec ∧ spec.imported = false ∧
      Palette.isFrameworkType (Identifier.declaration node.label) = false := by
  induction nodes generalizing declared with
  | nil => cases h
  | cons head rest ih =>
      have hrest {declared' : List String} (h : s ∈ structsAfter witness declared' rest) :
          ∃ node spec, (node, spec) ∈ head :: rest ∧ s = .ofNode witness node spec ∧
            spec.imported = false ∧
              Palette.isFrameworkType (Identifier.declaration node.label) = false := by
        obtain ⟨node, spec, hmem, hs⟩ := ih h
        exact ⟨node, spec, List.mem_cons_of_mem _ hmem, hs⟩
      simp only [structsAfter] at h
      split at h
      · exact hrest h
      · next hnew =>
        rcases List.mem_cons.mp h with rfl | h
        · simp only [not_or, Bool.not_eq_true] at hnew
          exact ⟨head.1, head.2, List.mem_cons_self, rfl, hnew.1, hnew.2.1⟩
        · exact hrest h

theorem isWitness_iff_of_mem_structsOf {graph : Graph} {witness : String} {s : Struct}
    (h : s ∈ structsOf graph witness) : s.isWitness = true ↔ s.name = witness := by
  obtain ⟨node, spec, -, rfl, -⟩ := mem_structsAfter h
  rw [Struct.isWitness_ofNode, Struct.name_ofNode]

theorem abilities_of_mem_structsOf {graph : Graph} {witness : String} {s : Struct}
    (h : s ∈ structsOf graph witness) (hname : s.name = witness) : s.abilities = .dropOnly := by
  obtain ⟨node, spec, -, rfl, -⟩ := mem_structsAfter h
  rw [Struct.name_ofNode] at hname
  simp [Struct.ofNode, hname]

theorem filter_name_structsAfter (witness : String) {name : String} {declared : List String}
    (hframework : Palette.isFrameworkType name = false) (hnew : name ∉ declared)
    (nodes : List (Graph.Node × StructSpec)) :
    (structsAfter witness declared nodes).filter (·.name = name) =
      ((nodes.find? fun s => s.2.imported = false ∧ Identifier.declaration s.1.label = name).map
        fun s => Struct.ofNode witness s.1 s.2).toList := by
  induction nodes generalizing declared with
  | nil => rfl
  | cons head rest ih =>
      simp only [structsAfter]
      by_cases hname : Identifier.declaration head.1.label = name
      · cases himported : head.2.imported with
        | true =>
            rw [if_pos (.inl rfl), List.find?_cons_of_neg (by simp [himported])]
            exact ih hnew
        | false =>
            -- this node takes the name, so the rest has none of it
            have hrest : (structsAfter witness (name :: declared) rest).filter (·.name = name) = [] := by
              rw [List.filter_eq_nil_iff]
              intro s hs hsname
              apply not_mem_declared_of_mem_structsAfter hs
              rw [of_decide_eq_true hsname]
              exact List.mem_cons_self
            rw [if_neg (by simp [hname, hframework, hnew]),
              List.find?_cons_of_pos (by simp [himported, hname]),
              List.filter_cons_of_pos (by simp [Struct.name_ofNode, hname]), hname, hrest]
            rfl
      · rw [List.find?_cons_of_neg (by simp [hname])]
        split
        · exact ih hnew
        · rw [List.filter_cons_of_neg (by simp [Struct.name_ofNode, hname])]
          apply ih
          rw [List.mem_cons, not_or]
          exact ⟨Ne.symm hname, hnew⟩

theorem filter_name_structsOf (graph : Graph) (witness : String) {name : String}
    (hframework : Palette.isFrameworkType name = false) :
    (structsOf graph witness).filter (·.name = name) =
      ((graph.firstOwn? name).map fun s => Struct.ofNode witness s.1 s.2).toList :=
  filter_name_structsAfter witness hframework List.not_mem_nil graph.structs

/-- The loop and the choice of a witness skip the same nodes until one is taken. -/
theorem head?_structsAfter (witness : String) {nodes : List (Graph.Node × StructSpec)}
    (hkinds : ∀ s ∈ nodes, s.1.kind.struct? = some s.2) :
    (structsAfter witness [] nodes).head? =
      (nodes.find? (·.1.isEligible)).map fun s => Struct.ofNode witness s.1 s.2 := by
  induction nodes with
  | nil => rfl
  | cons head rest ih =>
      obtain ⟨hhead, hrest⟩ := List.forall_mem_cons.mp hkinds
      have heligible : head.1.isEligible = true ↔ ¬ (head.2.imported = true ∨
          Palette.isFrameworkType (Identifier.declaration head.1.label) = true ∨
          Identifier.declaration head.1.label ∈ ([] : List String)) := by
        simp [Graph.Node.isEligible, hhead]
      simp only [structsAfter]
      split
      · next hskipped =>
        have hpassed : head.1.isEligible = false :=
          Bool.eq_false_iff.mpr fun h => heligible.mp h hskipped
        rw [List.find?_cons, hpassed]
        exact ih hrest
      · next hkept =>
        rw [List.find?_cons, heligible.mpr hkept]
        rfl

theorem head?_structsOf (graph : Graph) (witness : String) :
    (structsOf graph witness).head? =
      (graph.structs.find? (·.1.isEligible)).map fun s => Struct.ofNode witness s.1 s.2 :=
  head?_structsAfter witness fun _ => Graph.kind_of_mem_structs

end Plan

end MoveCanvas
