import Mathlib.Data.List.Perm.Basic
import MoveCanvas.Proofs.Json.Members

/-! # Spellings of keys

A field may be read under several names and is written under one. A value in which some members of
its records have changed to another name of the same field, each by its own choice, is read as the
same data; that the names put the members in another order makes no difference either. What is
written has the written name of a field everywhere. -/

namespace MoveCanvas.Json

mutual

/-- The two values differ in the spelling of keys and in the order of members, in the records that
the shape knows: a member stays one of its field, and a member of no field stays as it is. -/
def Shape.Respells : Shape → Json → Json → Prop
  | .list item, .arr items, .arr items' => List.Forall₂ item.Respells items items'
  | .record _ fields, .obj members, .obj members' =>
    ∃ renamed, List.Forall₂ fields.RespellsMember members renamed ∧ renamed.Perm members'
  | _, value, value' => value = value'

def Fields.RespellsMember : Fields → String × Json → String × Json → Prop
  | .nil, member, member' => member = member'
  | .cons name aliases _ shape rest, member, member' =>
    isNamed name aliases member' = isNamed name aliases member ∧
      if isNamed name aliases member then shape.Respells member.2 member'.2
      else rest.RespellsMember member member'

end

mutual

/-- In the records that the shape knows, every member stands under the written name of a field. -/
def Shape.Canonical : Shape → Json → Prop
  | .list item, .arr items => ∀ v ∈ items, item.Canonical v
  | .record _ fields, .obj members => ∀ member ∈ members, fields.CanonicalMember member
  | .list _, _ | .record _ _, _ => False
  | _, _ => True

def Fields.CanonicalMember : Fields → String × Json → Prop
  | .nil, _ => False
  | .cons name _ _ shape rest, member =>
    (member.1 = name ∧ (member.2 = .null ∨ shape.Canonical member.2)) ∨
      rest.CanonicalMember member

end

theorem Shape.Respells.of_list {item : Shape} {v v' : Json}
    (h : (Shape.list item).Respells v v') :
    v = v' ∨ ∃ items items', v = .arr items ∧ v' = .arr items' ∧
      List.Forall₂ item.Respells items items' := by
  cases v <;> cases v'
  case arr.arr items items' => exact .inr ⟨items, items', rfl, rfl, h⟩
  all_goals exact .inl h

theorem Shape.Respells.of_record {title : String} {fields : Fields} {v v' : Json}
    (h : (Shape.record title fields).Respells v v') :
    v = v' ∨ ∃ members members', v = .obj members ∧ v' = .obj members' ∧
      ∃ renamed, List.Forall₂ fields.RespellsMember members renamed ∧ renamed.Perm members' := by
  cases v <;> cases v'
  case obj.obj members members' => exact .inr ⟨members, members', rfl, rfl, h⟩
  all_goals exact .inl h

mutual

theorem Shape.respells_symm : (shape : Shape) → {v v' : Json} → shape.Respells v v' →
    shape.Respells v' v
  | .text, _, _, h | .flag, _, _, h | .byte, _, _, h | .raw, _, _, h => Eq.symm h
  | .list item, v, v', h => by
    obtain rfl | ⟨items, items', rfl, rfl, hitems⟩ := h.of_list
    · exact h
    · exact List.Forall₂.flip (hitems.imp fun _ _ => item.respells_symm)
  | .record title fields, v, v', h => by
    obtain rfl | ⟨members, members', rfl, rfl, renamed, hrenamed, hperm⟩ := h.of_record
    · exact h
    · have hback : List.Forall₂ fields.RespellsMember renamed members :=
        List.Forall₂.flip (hrenamed.imp fun _ _ => fields.respellsMember_symm)
      exact List.perm_comp_forall₂ hperm.symm hback

theorem Fields.respellsMember_symm : (fields : Fields) → {member member' : String × Json} →
    fields.RespellsMember member member' → fields.RespellsMember member' member
  | .nil, _, _, h => Eq.symm h
  | .cons name aliases presence shape rest, member, member', ⟨hnamed, h⟩ => by
    refine ⟨hnamed.symm, ?_⟩
    rw [hnamed]
    split at h
    · next hown =>
      rw [if_pos hown]
      exact shape.respells_symm h
    · next hother =>
      rw [if_neg hother]
      exact rest.respellsMember_symm h

end

section

variable {name : String} {aliases : List String} {presence : Presence} {shape : Shape}
  {rest : Fields} {members members' : List (String × Json)}

theorem Fields.forall₂_filter_isNamed
    (h : List.Forall₂ (Fields.cons name aliases presence shape rest).RespellsMember
      members members') :
    List.Forall₂ (fun member member' => shape.Respells member.2 member'.2)
      (members.filter (isNamed name aliases)) (members'.filter (isNamed name aliases)) := by
  induction h with
  | nil => exact .nil
  | @cons member member' _ _ hmember _ ih =>
      obtain ⟨hnamed, hmember⟩ := hmember
      cases hcase : isNamed name aliases member with
      | true =>
          rw [List.filter_cons_of_pos hcase, List.filter_cons_of_pos (hnamed.trans hcase)]
          rw [if_pos hcase] at hmember
          exact .cons hmember ih
      | false =>
          rw [List.filter_cons_of_neg (by simp [hcase]),
            List.filter_cons_of_neg (by simp [hnamed, hcase])]
          exact ih

theorem Fields.forall₂_filter_not_isNamed
    (h : List.Forall₂ (Fields.cons name aliases presence shape rest).RespellsMember
      members members') :
    List.Forall₂ rest.RespellsMember (members.filter fun member => !isNamed name aliases member)
      (members'.filter fun member => !isNamed name aliases member) := by
  induction h with
  | nil => exact .nil
  | @cons member member' _ _ hmember _ ih =>
      obtain ⟨hnamed, hmember⟩ := hmember
      cases hcase : isNamed name aliases member with
      | true =>
          rw [List.filter_cons_of_neg (by simp [hcase]),
            List.filter_cons_of_neg (by simp [hnamed, hcase])]
          exact ih
      | false =>
          rw [List.filter_cons_of_pos (by simp [hcase]),
            List.filter_cons_of_pos (by simp [hnamed, hcase])]
          rw [if_neg (by simp [hcase])] at hmember
          exact .cons hmember ih

end

theorem Shape.Respells.null_iff {shape : Shape} {v v' : Json} (h : shape.Respells v v') :
    v' = .null ↔ v = .null := by
  constructor
  · rintro rfl
    cases shape <;> cases v <;> first | rfl | cases h
  · rintro rfl
    cases shape <;> cases v' <;> first | rfl | cases h

section

variable {read : Document → Except DecodeError α} {presence : Presence} {slot : presence.Slot α}

theorem Presence.decode_of_imp {document document' : Document}
    (hnull : document' = .null ↔ document = .null)
    (hread : ∀ a, read document = .ok a → read document' = .ok a)
    (h : presence.decode read document = .ok slot) : presence.decode read document' = .ok slot := by
  have hsome {slot : Option α} (h : some <$> read document = .ok slot) :
      some <$> read document' = .ok slot := by
    obtain ⟨a, ha, rfl⟩ := map_eq_ok_iff.mp h
    exact map_eq_ok_iff.mpr ⟨a, hread a ha, rfl⟩
  cases presence with
  | required => exact hread slot h
  | optional => exact hsome h
  | nullable written =>
      by_cases hcase : document = .null
      · rw [hnull.mpr hcase]
        rw [hcase] at h
        exact h
      · rw [decode_nullable (mt hnull.mp hcase)]
        rw [decode_nullable hcase] at h
        exact hsome h

theorem Presence.takes_of_forall₂ {r : Json → Json → Prop} {members members' : List (String × Json)}
    (hnull : ∀ v v', r v v' → (v' = .null ↔ v = .null))
    (hread : ∀ v v' a, r v v' → read (.ofValue v) = .ok a → read (.ofValue v') = .ok a)
    (hmembers : List.Forall₂ (fun member member' => r member.2 member'.2) members members')
    (h : presence.Takes read (documents members) slot) :
    presence.Takes read (documents members') slot := by
  rcases hmembers with _ | ⟨hmember, _ | ⟨_, _⟩⟩
  · exact h
  · refine decode_of_imp ?_ (fun a => hread _ _ a hmember) h
    rw [Document.ofValue_eq_null_iff, Document.ofValue_eq_null_iff]
    exact hnull _ _ hmember
  · exact h.elim

theorem Presence.takes_of_perm {members members' : List (String × Document)}
    (hperm : members.Perm members') (h : presence.Takes read members slot) :
    presence.Takes read members' slot := by
  rcases members with _ | ⟨member, _ | ⟨second, others⟩⟩
  · obtain rfl := hperm.nil_eq
    exact h
  · obtain rfl := hperm.singleton_eq
    exact h
  · exact h.elim

end

theorem Fields.gathers_of_perm {source : Source} : (fields : Fields) →
    {members members' : List (String × Document)} → {slots : fields.Val} →
      members.Perm members' → fields.Gathers source members slots →
        fields.Gathers source members' slots
  | .nil, _, _, (), _, _ => trivial
  | .cons _ _ _ _ rest, _, _, (_, _), hperm, ⟨hslot, hslots⟩ =>
    ⟨Presence.takes_of_perm (hperm.filter _) hslot, rest.gathers_of_perm (hperm.filter _) hslots⟩

theorem forall₂_of_respelled {r : α → α → Prop} {s : α → β → Prop} {as as' : List α} {bs : List β}
    (hstep : ∀ a a' b, r a a' → s a b → s a' b) (hr : List.Forall₂ r as as')
    (hs : List.Forall₂ s as bs) : List.Forall₂ s as' bs := by
  induction hr generalizing bs with
  | nil => exact hs
  | cons hhead _ ih =>
      cases hs with
      | cons hown hrest => exact .cons (hstep _ _ _ hhead hown) (ih hrest)

mutual

theorem Shape.decode_respelled : (shape : Shape) → {v v' : Json} → {a : shape.Val} →
    shape.Respells v v' → shape.decode .value (.ofValue v) = .ok a →
      shape.decode .value (.ofValue v') = .ok a
  | .text, v, v', _, h, hread | .flag, v, v', _, h, hread | .byte, v, v', _, h, hread
  | .raw, v, v', _, h, hread => by
    obtain rfl : v = v' := h
    exact hread
  | .list item, v, v', a, h, hread => by
    obtain rfl | ⟨items, items', rfl, rfl, hitems⟩ := h.of_list
    · exact hread
    · obtain ⟨inner, henter, hread⟩ := Shape.decode_items hread
      obtain rfl : Source.value = inner := Except.ok.inj henter
      rw [Document.ofItems_eq_map, mapM_eq_ok_iff, List.forall₂_map_left_iff] at hread
      refine bind_eq_ok_iff.mpr ⟨_, rfl, bind_eq_ok_iff.mpr ⟨a, ?_, rfl⟩⟩
      rw [Document.ofItems_eq_map, mapM_eq_ok_iff, List.forall₂_map_left_iff]
      exact forall₂_of_respelled (fun _ _ _ => item.decode_respelled) hitems hread
  | .record title fields, v, v', a, h, hread => by
    obtain rfl | ⟨members, members', rfl, rfl, renamed, hrenamed, hperm⟩ := h.of_record
    · exact hread
    · rw [Document.ofValue, Document.ofMembers_eq_keyed] at hread ⊢
      obtain ⟨inner, henter, hread⟩ :=
        (Shape.decode_object_iff (isWhole_documents members)).mp hread
      obtain rfl : Source.value = inner := Except.ok.inj henter
      refine (Shape.decode_object_iff (isWhole_documents members')).mpr ⟨_, rfl, ?_⟩
      exact fields.gathers_of_perm (hperm.map _) (fields.gathers_respelled hrenamed hread)

theorem Fields.gathers_respelled : (fields : Fields) → {members members' : List (String × Json)} →
    {slots : fields.Val} → List.Forall₂ fields.RespellsMember members members' →
      fields.Gathers .value (documents members) slots →
        fields.Gathers .value (documents members') slots
  | .nil, _, _, (), _, _ => trivial
  | .cons name aliases presence shape rest, members, members', (slot, slots), h,
      ⟨hslot, hslots⟩ => by
    rw [filter_isNamed_documents] at hslot
    rw [filter_not_isNamed_documents] at hslots
    refine ⟨?_, ?_⟩
    · rw [filter_isNamed_documents]
      exact Presence.takes_of_forall₂ (fun _ _ => Shape.Respells.null_iff)
        (fun _ _ _ => shape.decode_respelled) (Fields.forall₂_filter_isNamed h) hslot
    · rw [filter_not_isNamed_documents]
      exact rest.gathers_respelled (Fields.forall₂_filter_not_isNamed h) hslots

end

theorem Shape.ofValue_eq_ok_iff_of_respells {shape : Shape} {v v' : Json} (h : shape.Respells v v')
    {a : shape.Val} : shape.ofValue v' = .ok a ↔ shape.ofValue v = .ok a :=
  ⟨shape.decode_respelled (shape.respells_symm h), shape.decode_respelled h⟩

mutual

theorem Shape.canonical_encode : (shape : Shape) → (a : shape.Val) →
    shape.Canonical (shape.encode a)
  | .text, _ | .flag, _ | .byte, _ => trivial
  | .raw, _ => trivial
  | .list item, _ => List.forall_mem_map.mpr fun a _ => item.canonical_encode a
  | .record _ fields, slots => fields.canonicalMember_of_mem_encode slots

theorem Fields.canonicalMember_of_mem_encode : (fields : Fields) → (slots : fields.Val) →
    ∀ member ∈ fields.encode slots, fields.CanonicalMember member
  | .nil, () => List.forall_mem_nil _
  | .cons _ _ .required shape rest, (value, slots)
  | .cons _ _ .optional shape rest, (some value, slots)
  | .cons _ _ (.nullable _) shape rest, (some value, slots) =>
    List.forall_mem_cons.mpr ⟨.inl ⟨rfl, .inr (shape.canonical_encode value)⟩,
      fun member hmem => .inr (rest.canonicalMember_of_mem_encode slots member hmem)⟩
  | .cons _ _ .optional _ rest, (none, slots)
  | .cons _ _ (.nullable false) _ rest, (none, slots) =>
    fun member hmem => .inr (rest.canonicalMember_of_mem_encode slots member hmem)
  | .cons _ _ (.nullable true) _ rest, (none, slots) =>
    List.forall_mem_cons.mpr ⟨.inl ⟨rfl, .inl rfl⟩,
      fun member hmem => .inr (rest.canonicalMember_of_mem_encode slots member hmem)⟩

end

end MoveCanvas.Json
