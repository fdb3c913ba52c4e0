import MoveCanvas.Plan.OfGraph
import Mathlib.Data.List.Forall2

/-! # Which structs are declared, and how

The loop over the struct nodes remembers the names it has declared. These are the names of the
declarable nodes it has passed, so what it declares can be said of the graph alone: the declarable
nodes whose name no earlier declarable node has, in graph order. Each is declared as its node has it,
but the struct named like the witness can only be dropped and loses its first identity field. -/

namespace MoveCanvas

namespace Graph

/-- A struct node of the user's own that is not named like a framework type. -/
def IsDeclarable (s : Node × StructSpec) : Prop :=
  s.2.imported = false ∧ Palette.isFrameworkType (Identifier.declaration s.1.label) = false

instance (s : Node × StructSpec) : Decidable (IsDeclarable s) :=
  inferInstanceAs (Decidable (_ ∧ _))

def IsNewAfter (earlier : List (Node × StructSpec)) (s : Node × StructSpec) : Prop :=
  ∀ e ∈ earlier, IsDeclarable e →
    Identifier.declaration e.1.label ≠ Identifier.declaration s.1.label

instance (earlier : List (Node × StructSpec)) (s : Node × StructSpec) :
    Decidable (IsNewAfter earlier s) :=
  inferInstanceAs (Decidable (∀ e ∈ earlier, _ → _))

/-- The nodes from the position `start` on that are declared, where `all` are the struct nodes. -/
def declaredFrom (all : List (Node × StructSpec)) (start : Nat)
    (nodes : List (Node × StructSpec)) : List (Node × StructSpec) :=
  ((nodes.zipIdx start).filter fun (s, i) => IsDeclarable s ∧ IsNewAfter (all.take i) s).map (·.1)

def declaredStructs (graph : Graph) : List (Node × StructSpec) :=
  declaredFrom graph.structs 0 graph.structs

end Graph

namespace Plan

open MoveCanvas.Graph

/-- The fields without the first identity among them; fields without an identity stay. -/
inductive DropsIdentity : List Member → List Member → Prop
  | absent {fields} (hnone : ∀ field ∈ fields, Text.trim field.type.toList ≠ "UID".toList) :
      DropsIdentity fields fields
  | first {front back} {field : Member}
      (hfront : ∀ earlier ∈ front, Text.trim earlier.type.toList ≠ "UID".toList)
      (hfield : Text.trim field.type.toList = "UID".toList) :
      DropsIdentity (front ++ field :: back) (front ++ back)

theorem isIdentityField_iff {field : Member} :
    isIdentityField field = true ↔ Text.trim field.type.toList = "UID".toList :=
  decide_eq_true_iff

theorem dropsIdentity_eraseP (fields : List Member) :
    DropsIdentity fields (fields.eraseP isIdentityField) := by
  rcases List.exists_or_eq_self_of_eraseP isIdentityField fields with
    hself | ⟨field, front, back, hfront, hfield, rfl, herased⟩
  · rw [hself]
    have hnone := List.eraseP_eq_self_iff.mp hself
    exact .absent fun field hmem => mt isIdentityField_iff.mpr (hnone field hmem)
  · rw [herased]
    exact .first (fun earlier hmem => mt isIdentityField_iff.mpr (hfront earlier hmem))
      (isIdentityField_iff.mp hfield)

structure Declares (witness : String) (s : Graph.Node × StructSpec) (struct : Struct) : Prop where
  node : struct.node = s.1.id
  name : struct.name = Identifier.declaration s.1.label
  plain : struct.name ≠ witness →
    struct.abilities = s.2.abilities ∧ struct.fields = s.2.fields ∧ struct.isWitness = false
  witness : struct.name = witness →
    struct.abilities = .dropOnly ∧ DropsIdentity s.2.fields struct.fields ∧ struct.isWitness = true

theorem declares_ofNode (witness : String) (s : Graph.Node × StructSpec) :
    Declares witness s (.ofNode witness s.1 s.2) where
  node := Struct.node_ofNode witness s.1 s.2
  name := Struct.name_ofNode witness s.1 s.2
  plain hname := by
    rw [Struct.name_ofNode] at hname
    rw [Struct.ofNode, if_neg hname]
    exact ⟨rfl, rfl, rfl⟩
  witness hname := by
    rw [Struct.name_ofNode] at hname
    rw [Struct.ofNode, if_pos hname]
    exact ⟨rfl, dropsIdentity_eraseP s.2.fields, rfl⟩

/-- The names that the loop has declared when it has passed the nodes `earlier`. -/
def AreDeclared (declared : List String) (earlier : List (Graph.Node × StructSpec)) : Prop :=
  ∀ name, name ∈ declared ↔
    ∃ e ∈ earlier, IsDeclarable e ∧ Identifier.declaration e.1.label = name

theorem areDeclared_nil : AreDeclared [] [] := by
  simp [AreDeclared]

section

variable {declared : List String} {earlier : List (Graph.Node × StructSpec)}
  {s : Graph.Node × StructSpec}

theorem AreDeclared.isNewAfter_iff (h : AreDeclared declared earlier) :
    IsNewAfter earlier s ↔ Identifier.declaration s.1.label ∉ declared := by
  rw [h]
  constructor
  · rintro hnew ⟨e, hmem, hown, hname⟩
    exact hnew e hmem hown hname
  · intro hnone e hmem hown hname
    exact hnone ⟨e, hmem, hown, hname⟩

theorem AreDeclared.skip (h : AreDeclared declared earlier)
    (hskip : ¬ (IsDeclarable s ∧ IsNewAfter earlier s)) : AreDeclared declared (earlier ++ [s]) := by
  intro name
  rw [h]
  constructor
  · rintro ⟨e, hmem, he⟩
    exact ⟨e, List.mem_append_left _ hmem, he⟩
  · rintro ⟨e, hmem, hown, hname⟩
    rcases List.mem_append.mp hmem with hmem | hmem
    · exact ⟨e, hmem, hown, hname⟩
    · obtain rfl := List.mem_singleton.mp hmem
      have hknown : Identifier.declaration e.1.label ∈ declared := by
        by_contra hnew
        exact hskip ⟨hown, h.isNewAfter_iff.mpr hnew⟩
      rw [hname] at hknown
      exact (h name).mp hknown

theorem AreDeclared.declare (h : AreDeclared declared earlier) (hown : IsDeclarable s) :
    AreDeclared (Identifier.declaration s.1.label :: declared) (earlier ++ [s]) := by
  intro name
  rw [List.mem_cons, h]
  constructor
  · rintro (rfl | ⟨e, hmem, he⟩)
    · exact ⟨s, List.mem_append_right _ List.mem_cons_self, hown, rfl⟩
    · exact ⟨e, List.mem_append_left _ hmem, he⟩
  · rintro ⟨e, hmem, he, rfl⟩
    rcases List.mem_append.mp hmem with hmem | hmem
    · exact Or.inr ⟨e, hmem, he, rfl⟩
    · obtain rfl := List.mem_singleton.mp hmem
      exact Or.inl rfl

end

theorem declaredFrom_cons (earlier : List (Graph.Node × StructSpec)) (s : Graph.Node × StructSpec)
    (rest : List (Graph.Node × StructSpec)) :
    declaredFrom (earlier ++ s :: rest) earlier.length (s :: rest) =
      (if IsDeclarable s ∧ IsNewAfter earlier s then [s] else []) ++
        declaredFrom (earlier ++ [s] ++ rest) (earlier ++ [s]).length rest := by
  rw [List.length_append, List.append_assoc, declaredFrom, List.zipIdx_cons, List.filter_cons]
  simp only [List.take_left]
  split
  · next h =>
    rw [if_pos (of_decide_eq_true h)]
    rfl
  · next h =>
    rw [if_neg (of_decide_eq_false (Bool.eq_false_iff.mpr h))]
    rfl

/-- The induction is on the nodes to come, with the names that the nodes passed have left. -/
theorem structsAfter_eq_map (witness : String) {declared : List String}
    {earlier : List (Graph.Node × StructSpec)} (h : AreDeclared declared earlier)
    (nodes : List (Graph.Node × StructSpec)) :
    structsAfter witness declared nodes =
      (declaredFrom (earlier ++ nodes) earlier.length nodes).map fun s => .ofNode witness s.1 s.2 := by
  induction nodes generalizing declared earlier with
  | nil => rfl
  | cons s rest ih =>
      have hkept : IsDeclarable s ∧ IsNewAfter earlier s ↔ ¬ (s.2.imported = true ∨
          Palette.isFrameworkType (Identifier.declaration s.1.label) = true ∨
          Identifier.declaration s.1.label ∈ declared) := by
        rw [h.isNewAfter_iff, IsDeclarable, not_or, not_or, Bool.not_eq_true, Bool.not_eq_true,
          and_assoc]
      rw [declaredFrom_cons, structsAfter]
      split
      · next hskipped =>
        have hskip := mt hkept.mp (not_not_intro hskipped)
        rw [if_neg hskip]
        exact ih (h.skip hskip)
      · next hnew =>
        have hdeclared := hkept.mpr hnew
        rw [if_pos hdeclared, List.singleton_append, List.map_cons, ih (h.declare hdeclared.1)]

theorem structsOf_eq_map (graph : Graph) (witness : String) :
    structsOf graph witness = graph.declaredStructs.map fun s => .ofNode witness s.1 s.2 :=
  structsAfter_eq_map witness areDeclared_nil graph.structs

/-- The planned structs are those of the declared nodes, one by one and in their order. -/
theorem declares_structsOf (graph : Graph) (witness : String) :
    List.Forall₂ (Declares witness) graph.declaredStructs (structsOf graph witness) := by
  rw [structsOf_eq_map, List.forall₂_map_right_iff, List.forall₂_same]
  exact fun s _ => declares_ofNode witness s

end Plan

end MoveCanvas
