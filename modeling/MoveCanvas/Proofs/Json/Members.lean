import MoveCanvas.Proofs.Json.RoundTrip

/-! # The members of an object

An object is read member by member, but what a record holds in the end can be said field by field:
a field takes the one member under any of its names, and holds what an absent field holds where
there is none. The order of the members and those under other names play no part. -/

namespace MoveCanvas.Json

def isNamed (name : String) (aliases : List String) (member : String × α) : Bool :=
  member.1 = name ∨ member.1 ∈ aliases

def keyed (members : List (String × Document)) : List (Option String × Document) :=
  members.map fun member => (some member.1, member.2)

def documents (members : List (String × Json)) : List (String × Document) :=
  members.map fun member => (member.1, .ofValue member.2)

theorem Document.ofMembers_eq_keyed (members : List (String × Json)) :
    ofMembers members = keyed (documents members) := by
  rw [ofMembers_eq_map, keyed, documents, List.map_map]
  rfl

theorem isWhole_documents (members : List (String × Json)) :
    ∀ member ∈ documents members, member.2.isWhole = true :=
  List.forall_mem_map.mpr fun member _ => Document.isWhole_ofValue member.2

theorem filter_documents (p : String → Bool) (members : List (String × Json)) :
    (documents members).filter (fun member => p member.1) =
      documents (members.filter fun member => p member.1) :=
  List.filter_map ..

theorem filter_isNamed_documents {name : String} {aliases : List String}
    (members : List (String × Json)) :
    (documents members).filter (isNamed name aliases) =
      documents (members.filter (isNamed name aliases)) :=
  filter_documents (fun key => key = name ∨ key ∈ aliases) members

theorem filter_not_isNamed_documents {name : String} {aliases : List String}
    (members : List (String × Json)) :
    (documents members).filter (fun member => !isNamed name aliases member) =
      documents (members.filter fun member => !isNamed name aliases member) :=
  filter_documents (fun key => !decide (key = name ∨ key ∈ aliases)) members

/-- What a field takes from the members under its names. -/
def Presence.Takes (read : Document → Except DecodeError α) (presence : Presence) :
    List (String × Document) → presence.Slot α → Prop
  | [], slot => presence.absent? = some slot
  | [member], slot => presence.decode read member.2 = .ok slot
  | _ :: _ :: _, _ => False

/-- Every field takes its part of the members, from those that earlier fields have left. -/
def Fields.Gathers (source : Source) : (fields : Fields) → List (String × Document) →
    fields.Val → Prop
  | .nil, _, () => True
  | .cons name aliases presence shape rest, members, (slot, slots) =>
    presence.Takes (shape.decode source) (members.filter (isNamed name aliases)) slot ∧
      rest.Gathers source (members.filter fun member => !isNamed name aliases member) slots

def Presence.take (name : String) (read : Document → Except DecodeError α) (presence : Presence)
    (slot : Option (presence.Slot α)) (member : String × Document) :
    Except DecodeError (Option (presence.Slot α)) :=
  if slot.isSome then .error (.duplicateField name) else some <$> presence.decode read member.2

theorem Presence.foldlM_take_iff {name : String} {read : Document → Except DecodeError α}
    {presence : Presence} {members : List (String × Document)} {slot : presence.Slot α} :
    (∃ own, members.foldlM (presence.take name read) none = .ok own ∧
      own.or presence.absent? = some slot) ↔ presence.Takes read members slot := by
  rcases members with _ | ⟨member, _ | ⟨second, others⟩⟩
  · constructor
    · rintro ⟨own, hown, hslot⟩
      cases hown
      exact hslot
    · exact fun habsent => ⟨none, rfl, habsent⟩
  · rw [List.foldlM_cons]
    constructor
    · rintro ⟨own, hown, hslot⟩
      obtain ⟨after, htake, hown⟩ := bind_eq_ok_iff.mp hown
      obtain ⟨value, hvalue, rfl⟩ := map_eq_ok_iff.mp htake
      cases hown
      cases hslot
      exact hvalue
    · intro hvalue
      exact ⟨some slot, bind_eq_ok_iff.mpr ⟨some slot, map_eq_ok_iff.mpr ⟨slot, hvalue, rfl⟩, rfl⟩,
        rfl⟩
  · refine iff_of_false ?_ id
    rintro ⟨own, hown, -⟩
    rw [List.foldlM_cons] at hown
    obtain ⟨after, htake, hown⟩ := bind_eq_ok_iff.mp hown
    obtain ⟨value, -, rfl⟩ := map_eq_ok_iff.mp htake
    -- the field is filled, so that the second member under its names is refused
    cases hown

theorem Fields.finish_cons_eq_ok_iff {name : String} {aliases : List String} {presence : Presence}
    {shape : Shape} {rest : Fields} {own : Option (presence.Slot shape.Val)}
    {others : rest.Partial} {slot : presence.Slot shape.Val} {slots : rest.Val} :
    (Fields.cons name aliases presence shape rest).finish (own, others) = .ok (slot, slots) ↔
      own.or presence.absent? = some slot ∧ rest.finish others = .ok slots := by
  rw [Fields.finish]
  split
  · next hnone => simp [hnone]
  · next found hfound =>
    rw [hfound, bind_eq_ok_iff]
    simp only [Except.ok.injEq, Prod.mk.injEq, Option.some.injEq]
    constructor
    · rintro ⟨_, hothers, rfl, rfl⟩
      exact ⟨rfl, hothers⟩
    · rintro ⟨rfl, hothers⟩
      exact ⟨slots, hothers, rfl, rfl⟩

section

variable {source : Source} {members : List (String × Document)} {name : String}
  {aliases : List String} {presence : Presence} {shape : Shape} {rest : Fields}
  {own own' : Option (presence.Slot shape.Val)} {others others' : rest.Partial}

theorem Fields.decodeMember_named {member : String × Document}
    (h : isNamed name aliases member = true) :
    (Fields.cons name aliases presence shape rest).decodeMember source (some member.1) member.2
        (own, others) =
      (fun own => (own, others)) <$> presence.take name (shape.decode source) own member := by
  rw [Fields.decodeMember, if_pos (of_decide_eq_true h), Presence.take]
  split
  · rfl
  · cases presence.decode (shape.decode source) member.2 <;> rfl

theorem Fields.decodeMember_other {member : String × Document}
    (h : isNamed name aliases member = false) :
    (Fields.cons name aliases presence shape rest).decodeMember source (some member.1) member.2
        (own, others) =
      (fun others => (own, others)) <$>
        rest.decodeMember source (some member.1) member.2 others := by
  rw [Fields.decodeMember, if_neg (of_decide_eq_false h)]
  cases rest.decodeMember source (some member.1) member.2 others <;> rfl

def Fields.readMembers (fields : Fields) (source : Source) (members : List (String × Document))
    (read : fields.Partial) : Except DecodeError fields.Partial :=
  members.foldlM (fun read member => fields.decodeMember source (some member.1) member.2 read) read

/-- The members of the first field and those of the others do not meet. -/
theorem Fields.readMembers_cons_eq_ok_iff :
    (Fields.cons name aliases presence shape rest).readMembers source members (own, others) =
        .ok (own', others') ↔
      (members.filter (isNamed name aliases)).foldlM
          (presence.take name (shape.decode source)) own = .ok own' ∧
        rest.readMembers source (members.filter fun member => !isNamed name aliases member)
          others = .ok others' := by
  induction members generalizing own others with
  | nil =>
      constructor
      · intro h
        cases h
        exact ⟨rfl, rfl⟩
      · rintro ⟨hown, hothers⟩
        cases hown
        cases hothers
        rfl
  | cons member members ih =>
      unfold readMembers at ih ⊢
      rw [List.foldlM_cons, bind_eq_ok_iff]
      cases hnamed : isNamed name aliases member with
      | true =>
          rw [List.filter_cons_of_pos hnamed, List.filter_cons_of_neg (by simp [hnamed]),
            List.foldlM_cons, bind_eq_ok_iff, decodeMember_named hnamed]
          constructor
          · rintro ⟨_, hstep, h⟩
            obtain ⟨next, hnext, rfl⟩ := map_eq_ok_iff.mp hstep
            obtain ⟨hown, hothers⟩ := ih.mp h
            exact ⟨⟨next, hnext, hown⟩, hothers⟩
          · rintro ⟨⟨next, hnext, hown⟩, hothers⟩
            exact ⟨_, map_eq_ok_iff.mpr ⟨next, hnext, rfl⟩, ih.mpr ⟨hown, hothers⟩⟩
      | false =>
          rw [List.filter_cons_of_neg (by simp [hnamed]),
            List.filter_cons_of_pos (by simp [hnamed]), List.foldlM_cons, bind_eq_ok_iff,
            decodeMember_other hnamed]
          constructor
          · rintro ⟨_, hstep, h⟩
            obtain ⟨next, hnext, rfl⟩ := map_eq_ok_iff.mp hstep
            obtain ⟨hown, hothers⟩ := ih.mp h
            exact ⟨hown, next, hnext, hothers⟩
          · rintro ⟨hown, next, hnext, hothers⟩
            exact ⟨_, map_eq_ok_iff.mpr ⟨next, hnext, rfl⟩, ih.mpr ⟨hown, hothers⟩⟩

end

theorem Fields.readMembers_nil {source : Source} {members : List (String × Document)}
    (hwhole : ∀ member ∈ members, member.2.isWhole = true) :
    Fields.nil.readMembers source members () = .ok () := by
  induction members with
  | nil => rfl
  | cons member members ih =>
      obtain ⟨hmember, hmembers⟩ := List.forall_mem_cons.mp hwhole
      unfold readMembers at ih ⊢
      rw [List.foldlM_cons, Fields.decodeMember, hmember]
      exact ih hmembers

theorem Fields.readMembers_iff : (fields : Fields) → {source : Source} →
    {members : List (String × Document)} → {slots : fields.Val} →
      (∀ member ∈ members, member.2.isWhole = true) →
        ((∃ read, fields.readMembers source members fields.unread = .ok read ∧
          fields.finish read = .ok slots) ↔ fields.Gathers source members slots)
  | .nil, _, _, (), hwhole =>
    iff_of_true ⟨(), readMembers_nil hwhole, rfl⟩ trivial
  | .cons name aliases presence shape rest, source, members, (slot, slots), hwhole => by
    have hothers : ∀ member ∈ members.filter fun member => !isNamed name aliases member,
        member.2.isWhole = true := fun member hmem => hwhole member (List.mem_of_mem_filter hmem)
    rw [Gathers, ← Presence.foldlM_take_iff, ← rest.readMembers_iff hothers]
    constructor
    · rintro ⟨⟨own, others⟩, hread, hfinish⟩
      obtain ⟨hown, hothers⟩ := readMembers_cons_eq_ok_iff.mp hread
      obtain ⟨hslot, hslots⟩ := finish_cons_eq_ok_iff.mp hfinish
      exact ⟨⟨own, hown, hslot⟩, others, hothers, hslots⟩
    · rintro ⟨⟨own, hown, hslot⟩, others, hothers, hslots⟩
      exact ⟨(own, others), readMembers_cons_eq_ok_iff.mpr ⟨hown, hothers⟩,
        finish_cons_eq_ok_iff.mpr ⟨hslot, hslots⟩⟩

theorem Fields.decodeMembers_eq_ok_iff {fields : Fields} {source : Source}
    {members : List (String × Document)} {slots : fields.Val} :
    decodeMembers fields.unread (fields.decodeMember source) fields.finish (keyed members) true =
        .ok slots ↔
      ∃ read, fields.readMembers source members fields.unread = .ok read ∧
        fields.finish read = .ok slots := by
  have hkeyed : (keyed members).foldlM
      (fun read member => fields.decodeMember source member.1 member.2 read) fields.unread =
        fields.readMembers source members fields.unread := List.foldlM_map ..
  rw [← hkeyed]
  exact bind_eq_ok_iff

theorem Shape.decode_object_iff {title : String} {fields : Fields} {source : Source}
    {members : List (String × Document)} {slots : fields.Val}
    (hwhole : ∀ member ∈ members, member.2.isWhole = true) :
    (Shape.record title fields).decode source (.object (keyed members) true) = .ok slots ↔
      ∃ inner, source.enter = .ok inner ∧ fields.Gathers inner members slots := by
  simp only [← Fields.readMembers_iff fields hwhole, ← Fields.decodeMembers_eq_ok_iff]
  exact bind_eq_ok_iff

end MoveCanvas.Json
