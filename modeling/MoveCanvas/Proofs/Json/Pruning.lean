import MoveCanvas.Proofs.Json.Members

/-! # Pruned values

Members that no field takes can be deleted from a value, at every depth, and so can members of
fields that need not be there. What is read from the rest differs in these fields alone. -/

namespace MoveCanvas.Json

/-- Whether a field is among those to leave out, each given by the title of its record and its own
name. A required field never is. -/
def Presence.isLeftOut (out : List (String × String)) (title name : String) (presence : Presence) :
    Bool :=
  presence ≠ .required ∧ (title, name) ∈ out

theorem Presence.ne_required_of_isLeftOut {out : List (String × String)} {title name : String}
    {presence : Presence} (h : presence.isLeftOut out title name = true) : presence ≠ .required :=
  (of_decide_eq_true h).1

mutual

/-- A value without the members that the shape does not know and without the fields to leave out.
An array that stands for a record keeps its elements. -/
def Shape.prune (out : List (String × String)) : Shape → Json → Json
  | .list item, .arr items => .arr (items.map (item.prune out))
  | .record title fields, .arr items => .arr (fields.pruneElements out title items)
  | .record title fields, .obj members => .obj (members.filterMap (fields.pruneMember out title))
  | _, value => value

def Fields.pruneMember (out : List (String × String)) (title : String) :
    Fields → String × Json → Option (String × Json)
  | .nil, _ => none
  | .cons name aliases presence shape rest, member =>
    if isNamed name aliases member then
      if presence.isLeftOut out title name then none else some (member.1, shape.prune out member.2)
    else rest.pruneMember out title member

def Fields.pruneElements (out : List (String × String)) (title : String) :
    Fields → List Json → List Json
  | .cons _ _ _ shape rest, item :: items =>
    shape.prune out item :: rest.pruneElements out title items
  | _, items => items

end

def Presence.blank (f : α → α) (leftOut : Bool) : (presence : Presence) → presence.Slot α →
    presence.Slot α
  | .required, value => f value
  | .optional, slot | .nullable _, slot => if leftOut then none else Option.map f slot

mutual

/-- Data with nothing in the fields to leave out. -/
def Shape.blank (out : List (String × String)) : (shape : Shape) → shape.Val → shape.Val
  | .text, value => value
  | .flag, value => value
  | .byte, value => value
  | .raw, value => value
  | .list item, items => items.map (item.blank out)
  | .record title fields, slots => fields.blank out title slots

def Fields.blank (out : List (String × String)) (title : String) : (fields : Fields) →
    fields.Val → fields.Val
  | .nil, () => ()
  | .cons name _ presence shape rest, (slot, slots) =>
    (presence.blank (shape.blank out) (presence.isLeftOut out title name) slot,
      rest.blank out title slots)

end

variable {out : List (String × String)}

theorem Shape.ofValue_prune_eq_null_iff (shape : Shape) {v : Json} :
    Document.ofValue (shape.prune out v) = .null ↔ Document.ofValue v = .null := by
  rw [Document.ofValue_eq_null_iff, Document.ofValue_eq_null_iff]
  cases shape <;> cases v <;> simp [prune]

theorem filter_filterMap_of_kept {f g : α → Option α} {p : α → Bool}
    (hkept : ∀ a b, f a = some b → p b = p a) (hg : ∀ a, p a = true → f a = g a) (as : List α) :
    (as.filterMap f).filter p = (as.filter p).filterMap g := by
  rw [List.filter_filterMap, List.filterMap_filter]
  congr 1
  funext a
  cases hstep : f a with
  | none =>
      split
      · next ha => rw [← hg a ha, hstep, Option.filter_none]
      · exact Option.filter_none p
  | some b =>
      rw [Option.filter_some, hkept a b hstep]
      split
      · next ha => rw [← hg a ha, hstep]
      · rfl

section

variable {title name : String} {aliases : List String} {presence : Presence} {shape : Shape}
  {rest : Fields}

theorem Fields.key_of_pruneMember : (fields : Fields) → {member kept : String × Json} →
    fields.pruneMember out title member = some kept → kept.1 = member.1
  | .nil, _, _, h => nomatch h
  | .cons name aliases presence shape rest, member, kept, h => by
    unfold pruneMember at h
    split at h
    · split at h
      · cases h
      · cases h
        rfl
    · exact rest.key_of_pruneMember h

theorem Fields.filter_isNamed_prune (members : List (String × Json)) :
    (members.filterMap <|
        (Fields.cons name aliases presence shape rest).pruneMember out title).filter
          (isNamed name aliases) =
      (members.filter (isNamed name aliases)).filterMap fun member =>
        if presence.isLeftOut out title name then none
        else some (member.1, shape.prune out member.2) := by
  apply filter_filterMap_of_kept
  · intro member kept hkept
    unfold isNamed
    rw [key_of_pruneMember _ hkept]
  · intro member hnamed
    rw [pruneMember, if_pos hnamed]

theorem Fields.filter_not_isNamed_prune (members : List (String × Json)) :
    (members.filterMap <|
        (Fields.cons name aliases presence shape rest).pruneMember out title).filter
          (fun member => !isNamed name aliases member) =
      (members.filter fun member => !isNamed name aliases member).filterMap
        (rest.pruneMember out title) := by
  apply filter_filterMap_of_kept
  · intro member kept hkept
    unfold isNamed
    rw [key_of_pruneMember _ hkept]
  · intro member hother
    rw [pruneMember, if_neg (by simpa using hother)]

end

section

variable {read : Document → Except DecodeError α} {f : α → α} {leftOut : Bool}
  {presence : Presence} {slot : presence.Slot α}

theorem Presence.decode_of_like {document document' : Document}
    (hnull : document' = .null ↔ document = .null)
    (hread : ∀ a, read document = .ok a → ∃ b, read document' = .ok b ∧ f b = f a)
    (h : presence.decode read document = .ok slot) :
    ∃ slot', presence.decode read document' = .ok slot' ∧
      presence.blank f leftOut slot' = presence.blank f leftOut slot := by
  have hsome {slot : Option α} (h : some <$> read document = .ok slot) :
      ∃ slot', some <$> read document' = .ok slot' ∧
        (if leftOut then none else slot'.map f) = if leftOut then none else slot.map f := by
    obtain ⟨a, ha, rfl⟩ := map_eq_ok_iff.mp h
    obtain ⟨b, hb, hsame⟩ := hread a ha
    exact ⟨some b, map_eq_ok_iff.mpr ⟨b, hb, rfl⟩, by rw [Option.map_some, Option.map_some, hsame]⟩
  cases presence with
  | required => exact hread slot h
  | optional => exact hsome h
  | nullable written =>
      by_cases hcase : document = .null
      · rw [hnull.mpr hcase]
        rw [hcase] at h
        exact ⟨slot, h, rfl⟩
      · rw [decode_nullable (mt hnull.mp hcase)]
        rw [decode_nullable hcase] at h
        exact hsome h

theorem Presence.takes_of_like {prune : Json → Json} {members : List (String × Json)}
    (hrequired : leftOut = true → presence ≠ .required)
    (hnull : ∀ v, Document.ofValue (prune v) = .null ↔ Document.ofValue v = .null)
    (hread : ∀ v a, read (.ofValue v) = .ok a → ∃ b, read (.ofValue (prune v)) = .ok b ∧ f b = f a)
    (h : presence.Takes read (documents members) slot) :
    ∃ slot', presence.Takes read (documents (members.filterMap fun member =>
        if leftOut then none else some (member.1, prune member.2))) slot' ∧
      presence.blank f leftOut slot' = presence.blank f leftOut slot := by
  rcases members with _ | ⟨member, _ | ⟨second, others⟩⟩
  · exact ⟨slot, h, rfl⟩
  · cases leftOut with
    | true =>
        -- the one member is deleted, and the field holds what an absent field holds
        cases presence with
        | required => exact absurd rfl (hrequired rfl)
        | optional => exact ⟨none, rfl, rfl⟩
        | nullable written => exact ⟨none, rfl, rfl⟩
    | false => exact decode_of_like (hnull member.2) (hread member.2) h
  · exact h.elim

end

theorem exists_forall₂_of_like {r s : α → β → Prop} {f : β → γ} {as : List α} {bs : List β}
    (hlike : ∀ a b, r a b → ∃ b', s a b' ∧ f b' = f b) (h : List.Forall₂ r as bs) :
    ∃ bs', List.Forall₂ s as bs' ∧ bs'.map f = bs.map f := by
  induction h with
  | nil => exact ⟨[], .nil, rfl⟩
  | @cons a b _ _ hhead _ ih =>
      obtain ⟨b', hb', hsame⟩ := hlike a b hhead
      obtain ⟨bs', hbs', hsames⟩ := ih
      exact ⟨b' :: bs', .cons hb' hbs', by rw [List.map_cons, List.map_cons, hsame, hsames]⟩

theorem Fields.pruneElements_nil (fields : Fields) (title : String) :
    fields.pruneElements out title [] = [] := by
  cases fields <;> rfl

mutual

/-- Data that is read from a value is read from the pruned value, but for the fields left out. -/
theorem Shape.decode_prune (out : List (String × String)) : (shape : Shape) → {v : Json} →
    {a : shape.Val} → shape.decode .value (.ofValue v) = .ok a →
      ∃ b, shape.decode .value (.ofValue (shape.prune out v)) = .ok b ∧
        shape.blank out b = shape.blank out a
  | .text, v, a, h => ⟨a, by cases v <;> exact h, rfl⟩
  | .flag, v, a, h => ⟨a, by cases v <;> exact h, rfl⟩
  | .byte, v, a, h => ⟨a, by cases v <;> exact h, rfl⟩
  | .raw, v, a, h => ⟨a, by cases v <;> exact h, rfl⟩
  | .list item, v, a, h => by
    cases v with
    | arr items =>
        obtain ⟨inner, henter, hread⟩ := Shape.decode_items h
        obtain rfl : Source.value = inner := Except.ok.inj henter
        rw [Document.ofItems_eq_map, mapM_eq_ok_iff, List.forall₂_map_left_iff] at hread
        obtain ⟨b, hb, hsame⟩ := exists_forall₂_of_like
          (fun v a => item.decode_prune out (v := v) (a := a)) hread
        refine ⟨b, bind_eq_ok_iff.mpr ⟨_, rfl, bind_eq_ok_iff.mpr ⟨b, ?_, rfl⟩⟩, hsame⟩
        rw [Document.ofItems_eq_map, mapM_eq_ok_iff, List.map_map, List.forall₂_map_left_iff]
        exact hb
    | _ => cases h
  | .record title fields, v, a, h => by
    cases v with
    | arr items =>
        obtain ⟨inner, henter, h⟩ := bind_eq_ok_iff.mp h
        obtain rfl : Source.value = inner := Except.ok.inj henter
        obtain ⟨b, hb, hsame⟩ := fields.decodeElements_prune out title items h
        exact ⟨b, bind_eq_ok_iff.mpr ⟨_, rfl, hb⟩, hsame⟩
    | obj members =>
        rw [Document.ofValue, Document.ofMembers_eq_keyed] at h
        obtain ⟨inner, henter, h⟩ := (Shape.decode_object_iff (isWhole_documents members)).mp h
        obtain rfl : Source.value = inner := Except.ok.inj henter
        obtain ⟨b, hb, hsame⟩ := fields.gathers_prune out title h
        rw [Shape.prune, Document.ofValue, Document.ofMembers_eq_keyed]
        exact ⟨b, (Shape.decode_object_iff (isWhole_documents _)).mpr ⟨_, rfl, hb⟩, hsame⟩
    | _ => cases h

theorem Fields.gathers_prune (out : List (String × String)) : (fields : Fields) → (title : String) →
    {members : List (String × Json)} → {slots : fields.Val} →
      fields.Gathers .value (documents members) slots →
        ∃ slots', fields.Gathers .value
            (documents (members.filterMap (fields.pruneMember out title))) slots' ∧
          fields.blank out title slots' = fields.blank out title slots
  | .nil, _, _, (), _ => ⟨(), trivial, rfl⟩
  | .cons name aliases presence shape rest, title, members, (slot, slots), ⟨hslot, hslots⟩ => by
    rw [filter_isNamed_documents] at hslot
    rw [filter_not_isNamed_documents] at hslots
    obtain ⟨slot', hslot', hsame⟩ := Presence.takes_of_like Presence.ne_required_of_isLeftOut
      (fun _ => shape.ofValue_prune_eq_null_iff) (fun _ _ => shape.decode_prune out) hslot
    obtain ⟨slots', hslots', hsames⟩ := rest.gathers_prune out title hslots
    refine ⟨(slot', slots'), ⟨?_, ?_⟩, congrArg₂ Prod.mk hsame hsames⟩
    · rw [filter_isNamed_documents, Fields.filter_isNamed_prune]
      exact hslot'
    · rw [filter_not_isNamed_documents, Fields.filter_not_isNamed_prune]
      exact hslots'

theorem Fields.decodeElements_prune (out : List (String × String)) : (fields : Fields) →
    (title : String) → (items : List Json) → {slots : fields.Val} →
      {missing : Nat → DecodeError} → {index : Nat} → {surplus surplus' : DecodeError} →
        {ended : Bool} →
      fields.decodeElements .value missing index surplus ended (Document.ofItems items) =
          .ok slots →
        ∃ slots', fields.decodeElements .value missing index surplus' ended
            (Document.ofItems (fields.pruneElements out title items)) = .ok slots' ∧
          fields.blank out title slots' = fields.blank out title slots
  | .nil, _, items, (), _, _, _, _, _, h => by
    cases items with
    | nil => exact ⟨(), h, rfl⟩
    | cons item items => cases h
  | .cons name aliases presence shape rest, title, items, (slot, slots), _, _, _, _, _, h => by
    unfold Fields.decodeElements at h
    cases items with
    | nil =>
        obtain ⟨own, hown, h⟩ := bind_eq_ok_iff.mp h
        obtain ⟨others, hothers, h⟩ := bind_eq_ok_iff.mp h
        cases h
        obtain ⟨slots', hslots', hsames⟩ := rest.decodeElements_prune out title [] hothers
        rw [rest.pruneElements_nil] at hslots'
        refine ⟨(slot, slots'), ?_, congrArg₂ Prod.mk rfl hsames⟩
        exact bind_eq_ok_iff.mpr ⟨slot, hown, bind_eq_ok_iff.mpr ⟨slots', hslots', rfl⟩⟩
    | cons item items =>
        obtain ⟨own, hown, h⟩ := bind_eq_ok_iff.mp h
        obtain ⟨others, hothers, h⟩ := bind_eq_ok_iff.mp h
        cases h
        obtain ⟨slot', hslot', hsame⟩ := Presence.decode_of_like shape.ofValue_prune_eq_null_iff
          (fun _ => shape.decode_prune out) hown
        obtain ⟨slots', hslots', hsames⟩ := rest.decodeElements_prune out title items hothers
        refine ⟨(slot', slots'), ?_, congrArg₂ Prod.mk hsame hsames⟩
        exact bind_eq_ok_iff.mpr ⟨slot', hslot', bind_eq_ok_iff.mpr ⟨slots', hslots', rfl⟩⟩

end

end MoveCanvas.Json
