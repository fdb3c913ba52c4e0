import MoveCanvas.Proofs.Json.RoundTrip

/-! # Data read from a value of bounded depth

Each container that is entered leaves its parts one container less. So a raw value that is read at
a place inside others nests less deeply than the value that all was read from, by the number of
containers around the place. -/

namespace MoveCanvas.Json

namespace Document

theorem mem_parts_ofValue {v : Json} {part : Document} (h : part ∈ (ofValue v).parts) :
    ∃ w, part = ofValue w ∧ w.depth < v.depth := by
  cases v with
  | arr items =>
      rw [ofValue, parts, ofItems_eq_map] at h
      obtain ⟨item, hitem, rfl⟩ := List.mem_map.mp h
      exact ⟨item, rfl, Nat.lt_succ_of_le (depthItems_le_iff.mp (Nat.le_refl _) item hitem)⟩
  | obj members =>
      rw [ofValue, parts, ofMembers_eq_map, List.map_map] at h
      obtain ⟨member, hmember, rfl⟩ := List.mem_map.mp h
      exact ⟨member.2, rfl, Nat.lt_succ_of_le (depthMembers_le_iff.mp (Nat.le_refl _) member hmember)⟩
  | _ => cases h

end Document

theorem depth_le_of_ofText {text : String} {v : Json} (h : Json.ofText text = .ok v) :
    v.depth ≤ nestingLimit := by
  obtain ⟨-, hread⟩ := Shape.ofText_eq_ok_iff.mp h
  exact Document.admits_depth_of_toValue _ hread

def Shape.ReadWithin (shape : Shape) (depth : Nat) (data : shape.Val) : Prop :=
  ∃ v : Json, v.depth ≤ depth ∧ shape.ofValue v = .ok data

section Reading

variable {n : Nat}

theorem Shape.ReadWithin.depth_le {v : Json} (h : Shape.raw.ReadWithin n v) : v.depth ≤ n := by
  obtain ⟨w, hdepth, hread⟩ := h
  have hsorted : (Document.ofValue w).toValue .value = .ok w.sorted :=
    Document.toValue_ofValue_eq_sorted w trivial
  obtain rfl : w.sorted = v := Except.ok.inj (hsorted.symm.trans hread)
  exact Nat.le_trans (depth_sorted_le w) hdepth

theorem Shape.ReadWithin.items {item : Shape} {values : List item.Val}
    (h : (Shape.list item).ReadWithin (n + 1) values) : ∀ value ∈ values, item.ReadWithin n value := by
  obtain ⟨v, hdepth, hread⟩ := h
  cases v with
  | arr items =>
      obtain ⟨inner, henter, hitems⟩ := Shape.decode_items hread
      cases henter
      refine forall_of_mapM (fun document hmem value hvalue => ?_) hitems
      rw [Document.ofItems_eq_map] at hmem
      obtain ⟨v, hv, rfl⟩ := List.mem_map.mp hmem
      exact ⟨v, depthItems_le_iff.mp (Nat.le_of_succ_le_succ hdepth) v hv, hvalue⟩
  | _ => cases hread

theorem Shape.ReadWithin.fields {title : String} {fields : Fields} {slots : fields.Val}
    (h : (Shape.record title fields).ReadWithin (n + 1) slots) :
    fields.Each (fun _ shape value => shape.ReadWithin n value) slots := by
  obtain ⟨v, hdepth, hread⟩ := h
  obtain ⟨inner, henter, heach⟩ := Shape.each_decode hread
  cases henter
  refine heach.mono ?_
  rintro presence shape value ⟨part, hpart, hvalue, -⟩
  obtain ⟨w, rfl, hlt⟩ := Document.mem_parts_ofValue hpart
  exact ⟨w, by omega, hvalue⟩

end Reading

theorem Fields.depth_encode_le {n : Nat} : (fields : Fields) → {slots : fields.Val} →
    fields.Each (fun _ shape value => (shape.encode value).depth ≤ n) slots →
      depthMembers (fields.encode slots) ≤ n
  | .nil, (), _ => Nat.zero_le n
  | .cons _ _ .required _ rest, (_, _), ⟨hvalue, hslots⟩ =>
    Nat.max_le.mpr ⟨hvalue, rest.depth_encode_le hslots⟩
  | .cons _ _ .optional _ rest, (some value, _), ⟨hvalue, hslots⟩
  | .cons _ _ (.nullable _) _ rest, (some value, _), ⟨hvalue, hslots⟩ =>
    Nat.max_le.mpr ⟨hvalue value rfl, rest.depth_encode_le hslots⟩
  | .cons _ _ .optional _ rest, (none, _), ⟨_, hslots⟩
  | .cons _ _ (.nullable false) _ rest, (none, _), ⟨_, hslots⟩ => rest.depth_encode_le hslots
  | .cons _ _ (.nullable true) _ rest, (none, _), ⟨_, hslots⟩ =>
    Nat.max_le.mpr ⟨Nat.zero_le n, rest.depth_encode_le hslots⟩

end MoveCanvas.Json
