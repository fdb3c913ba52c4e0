import MoveCanvas.Proofs.Json.Members

/-! # Data read through a value

A document may be read as data at once, or as a value that is then read as data. The value has its
members sorted and repeated keys merged, but a field takes no more than one member, so that neither
shows. Where both ways lead to data, it is the same data. -/

namespace MoveCanvas.Json

theorem insertMember_of_lt {key : String} {value : Json} {members : List (String × Json)}
    (h : ∀ other ∈ members.map (·.1), key < other) :
    insertMember key value members = (key, value) :: members := by
  cases members with
  | nil => rfl
  | cons head members =>
      obtain ⟨k, v⟩ := head
      rw [insertMember, if_pos (h k List.mem_cons_self)]

theorem filter_insertMember (p : String → Bool) {key : String} {value : Json}
    {members : List (String × Json)} (h : Ascending (members.map (·.1))) :
    (insertMember key value members).filter (fun member => p member.1) =
      if p key then insertMember key value (members.filter fun member => p member.1)
      else members.filter fun member => p member.1 := by
  induction members with
  | nil => cases hp : p key <;> simp [insertMember, hp]
  | cons head members ih =>
      obtain ⟨k, v⟩ := head
      obtain ⟨hhead, htail⟩ := List.pairwise_cons.mp h
      rw [insertMember]
      split
      · next hlt =>
        have hfirst : ∀ other ∈ (((k, v) :: members).filter fun member => p member.1).map (·.1),
            key < other := by
          intro other hother
          obtain ⟨member, hmember, rfl⟩ := List.mem_map.mp hother
          rcases List.mem_cons.mp (List.mem_of_mem_filter hmember) with rfl | hmember
          · exact hlt
          · exact lt_trans hlt (hhead member.1 (List.mem_map_of_mem hmember))
        rw [insertMember_of_lt hfirst, List.filter_cons]
      · next hnlt =>
        split
        · next heq =>
          subst heq
          cases hp : p key <;> simp [insertMember, hp]
        · next hne =>
          rw [List.filter_cons, ih htail, List.filter_cons]
          cases hp : p key <;> cases hk : p k <;> simp [insertMember, hnlt, hne]

theorem filter_sortMembers (p : String → Bool) (members : List (String × Json)) :
    (sortMembers members).filter (fun member => p member.1) =
      sortMembers (members.filter fun member => p member.1) := by
  have hfold (acc : List (String × Json)) (h : Ascending (acc.map (·.1))) :
      (members.foldl (fun sorted member => insertMember member.1 member.2 sorted) acc).filter
          (fun member => p member.1) =
        (members.filter fun member => p member.1).foldl
          (fun sorted member => insertMember member.1 member.2 sorted)
          (acc.filter fun member => p member.1) := by
    induction members generalizing acc with
    | nil => rfl
    | cons member members ih =>
        rw [List.foldl_cons, ih _ (ascending_insertMember h), filter_insertMember p h,
          List.filter_cons]
        cases p member.1 <;> rfl
  rw [sortMembers_eq_foldl, sortMembers_eq_foldl]
  exact hfold [] List.Pairwise.nil

theorem eq_of_forall₂ {R : α → β → Prop} {S : α → γ → Prop} {T : β → γ → Prop}
    (hrel : ∀ x y a b, R x y → S x a → T y b → a = b) {xs : List α} {ys : List β}
    {as bs : List γ} (hxy : List.Forall₂ R xs ys) (hxa : List.Forall₂ S xs as)
    (hyb : List.Forall₂ T ys bs) : as = bs := by
  induction hxy generalizing as bs with
  | nil =>
      cases hxa
      cases hyb
      rfl
  | cons hhead _ ih =>
      cases hxa with
      | cons hxa hxas =>
          cases hyb with
          | cons hyb hybs => rw [hrel _ _ _ _ hhead hxa hyb, ih hxas hybs]

namespace Document

mutual

theorem numbers_any : (document : Document) → document.Numbers fun _ => True
  | .null | .bool _ | .number none | .number (some _) | .text _ | .fault => trivial
  | .array items _ => numbersItems_any items
  | .object members _ => numbersMembers_any members

theorem numbersItems_any : (items : List Document) → NumbersItems (fun _ => True) items
  | [] => trivial
  | item :: items => ⟨numbers_any item, numbersItems_any items⟩

theorem numbersMembers_any : (members : List (Option String × Document)) →
    NumbersMembers (fun _ => True) members
  | [] => trivial
  | (_, document) :: members => ⟨numbers_any document, numbersMembers_any members⟩

end

theorem eq_of_toValue {source : Source} {document : Document} {v w : Json}
    (hv : document.toValue source = .ok v) (hw : (ofValue v).toValue .value = .ok w) : w = v := by
  have hroom : Source.value.Admits v.depth := trivial
  rw [toValue_ofValue v (everywhere_toValue document (numbers_any document) hv) hroom] at hw
  exact (Except.ok.inj hw).symm

theorem toItems_eq_ok_iff {source : Source} {items : List Document} {values : List Json} :
    toItems source items = .ok values ↔
      List.Forall₂ (fun item value => item.toValue source = .ok value) items values := by
  have hmapM : toItems source items = items.mapM (toValue source) := by
    induction items with
    | nil => rfl
    | cons item items ih =>
        rw [toItems, ih, List.mapM_cons]
        rfl
  rw [hmapM, mapM_eq_ok_iff]

theorem exists_keyed_of_toMembers {source : Source} {members : List (Option String × Document)}
    {values : List (String × Json)} (h : toMembers source members = .ok values) :
    ∃ named, members = keyed named ∧ List.Forall₂ (fun member value =>
      member.1 = value.1 ∧ member.2.toValue source = .ok value.2) named values := by
  induction members generalizing values with
  | nil =>
      cases h
      exact ⟨[], rfl, .nil⟩
  | cons member members ih =>
      obtain ⟨_ | key, document⟩ := member
      · cases h
      · obtain ⟨value, hvalue, h⟩ := bind_eq_ok_iff.mp h
        obtain ⟨others, hothers, h⟩ := bind_eq_ok_iff.mp h
        cases h
        obtain ⟨named, rfl, hnamed⟩ := ih hothers
        exact ⟨(key, document) :: named, rfl, .cons ⟨rfl, hvalue⟩ hnamed⟩

theorem isWhole_of_toValue {source : Source} {document : Document} {v : Json}
    (h : document.toValue source = .ok v) : document.isWhole = true := by
  cases document with
  | array items ended =>
      obtain ⟨inner, -, h⟩ := bind_eq_ok_iff.mp h
      obtain ⟨values, -, h⟩ := bind_eq_ok_iff.mp h
      exact (ifEnded_eq_ok_iff.mp h).1
  | object members ended =>
      obtain ⟨inner, -, h⟩ := bind_eq_ok_iff.mp h
      obtain ⟨values, -, h⟩ := bind_eq_ok_iff.mp h
      exact (ifEnded_eq_ok_iff.mp h).1
  | fault => cases h
  | _ => rfl

end Document

open Document (ofValue)

section

variable {source : Source} {read read' : Document → Except DecodeError α} {presence : Presence}
  {slot slot' : presence.Slot α}

theorem Presence.eq_of_decode {document : Document} {v : Json}
    (hvalue : document.toValue source = .ok v)
    (hread : ∀ a b, read document = .ok a → read' (ofValue v) = .ok b → a = b)
    (h : presence.decode read document = .ok slot)
    (h' : presence.decode read' (ofValue v) = .ok slot') : slot = slot' := by
  have hsome {slot slot' : Option α} (h : some <$> read document = .ok slot)
      (h' : some <$> read' (ofValue v) = .ok slot') : slot = slot' := by
    obtain ⟨a, ha, rfl⟩ := map_eq_ok_iff.mp h
    obtain ⟨b, hb, rfl⟩ := map_eq_ok_iff.mp h'
    rw [hread a b ha hb]
  cases presence with
  | required => exact hread slot slot' h h'
  | optional => exact hsome h h'
  | nullable written =>
      by_cases hnull : document = .null
      · subst hnull
        cases hvalue
        cases h
        cases h'
        rfl
      · have hnull' : ofValue v ≠ .null := by
          cases v with
          | null => exact absurd (toValue_eq_null hvalue) hnull
          | _ => exact nofun
        rw [decode_nullable hnull] at h
        rw [decode_nullable hnull'] at h'
        exact hsome h h'

theorem Presence.absent?_of_absentElement {missing : DecodeError} {ended : Bool}
    (h : absentElement presence missing ended = .ok slot) : presence.absent? = some slot := by
  unfold absentElement at h
  split at h
  · next own hown =>
    obtain ⟨-, rfl⟩ := Document.ifEnded_eq_ok_iff.mp h
    exact hown
  · split at h
    · cases h
    · cases h

def IsValue (source : Source) (member : String × Document) (value : String × Json) : Prop :=
  member.1 = value.1 ∧ member.2.toValue source = .ok value.2

theorem IsValue.filter (p : String → Bool) {named : List (String × Document)}
    {values : List (String × Json)} (h : List.Forall₂ (IsValue source) named values) :
    List.Forall₂ (IsValue source) (named.filter fun member => p member.1)
      (values.filter fun member => p member.1) := by
  induction h with
  | nil => exact .nil
  | @cons member value _ _ hhead _ ih =>
      rw [List.filter_cons, List.filter_cons, hhead.1]
      cases p value.1 with
      | true => exact .cons hhead ih
      | false => exact ih

theorem isWhole_of_isValue {named : List (String × Document)} {values : List (String × Json)}
    (h : List.Forall₂ (IsValue source) named values) :
    ∀ member ∈ named, member.2.isWhole = true := by
  induction h with
  | nil => exact List.forall_mem_nil _
  | cons hhead _ ih => exact List.forall_mem_cons.mpr ⟨Document.isWhole_of_toValue hhead.2, ih⟩

/-- The members that a value shows for some members of a text. -/
def shown (values : List (String × Json)) : List (String × Document) :=
  documents (sortMembers values)

theorem filter_shown (p : String → Bool) (values : List (String × Json)) :
    (shown values).filter (fun member => p member.1) =
      shown (values.filter fun member => p member.1) := by
  rw [shown, filter_documents, filter_sortMembers, shown]

theorem Presence.eq_of_takes {named : List (String × Document)} {values : List (String × Json)}
    (hvalues : List.Forall₂ (IsValue source) named values)
    (hread : ∀ document v a b, document.toValue source = .ok v → read document = .ok a →
      read' (ofValue v) = .ok b → a = b)
    (h : presence.Takes read named slot) (h' : presence.Takes read' (shown values) slot') :
    slot = slot' := by
  cases hvalues with
  | nil => exact Option.some.inj (h.symm.trans h')
  | cons hhead htail =>
      cases htail with
      | nil => exact eq_of_decode hhead.2 (fun a b => hread _ _ a b hhead.2) h h'
      | cons _ _ => exact h.elim

end

mutual

theorem Shape.eq_of_decode : (shape : Shape) → {source : Source} → {document : Document} →
    {v : Json} → {a b : shape.Val} → document.toValue source = .ok v →
      shape.decode source document = .ok a → shape.decode .value (Document.ofValue v) = .ok b →
        a = b
  | .text, source, document, v, a, b, hvalue, h, h' => by
    cases document with
    | text value =>
        cases value with
        | none => cases hvalue
        | some s =>
            cases hvalue
            exact Except.ok.inj (h.symm.trans h')
    | _ => cases h
  | .flag, source, document, v, a, b, hvalue, h, h' => by
    cases document with
    | bool value =>
        cases hvalue
        exact Except.ok.inj (h.symm.trans h')
    | _ => cases h
  | .byte, source, document, v, a, b, hvalue, h, h' => by
    cases document with
    | number value =>
        cases value with
        | none => cases hvalue
        | some n =>
            cases hvalue
            exact Except.ok.inj (h.symm.trans h')
    | _ => cases h
  | .raw, source, document, v, a, b, hvalue, h, h' => by
    obtain rfl : v = a := Except.ok.inj (hvalue.symm.trans h)
    exact (Document.eq_of_toValue hvalue h').symm
  | .list item, source, document, v, a, b, hvalue, h, h' => by
    cases document with
    | array items ended =>
        obtain ⟨inner, henter, hvalue⟩ := bind_eq_ok_iff.mp hvalue
        obtain ⟨values, hvalues, hvalue⟩ := bind_eq_ok_iff.mp hvalue
        obtain ⟨-, rfl⟩ := Document.ifEnded_eq_ok_iff.mp hvalue
        obtain ⟨inner', henter', hread⟩ := Shape.decode_items h
        obtain rfl : inner = inner' := Except.ok.inj (henter.symm.trans henter')
        obtain ⟨inner', henter', hread'⟩ := Shape.decode_items h'
        obtain rfl : Source.value = inner' := Except.ok.inj henter'
        rw [Document.ofItems_eq_map, mapM_eq_ok_iff, List.forall₂_map_left_iff] at hread'
        refine eq_of_forall₂ ?_ (Document.toItems_eq_ok_iff.mp hvalues)
          (mapM_eq_ok_iff.mp hread) hread'
        exact fun _ _ _ _ => item.eq_of_decode
    | _ => cases h
  | .record title fields, source, document, v, a, b, hvalue, h, h' => by
    cases document with
    | array items ended =>
        obtain ⟨inner, henter, hvalue⟩ := bind_eq_ok_iff.mp hvalue
        obtain ⟨values, hvalues, hvalue⟩ := bind_eq_ok_iff.mp hvalue
        obtain ⟨-, rfl⟩ := Document.ifEnded_eq_ok_iff.mp hvalue
        obtain ⟨inner', henter', h⟩ := bind_eq_ok_iff.mp h
        obtain rfl : inner = inner' := Except.ok.inj (henter.symm.trans henter')
        exact fields.eq_of_decodeElements (Document.toItems_eq_ok_iff.mp hvalues) h h'
    | object members ended =>
        obtain ⟨inner, henter, hvalue⟩ := bind_eq_ok_iff.mp hvalue
        obtain ⟨values, hvalues, hvalue⟩ := bind_eq_ok_iff.mp hvalue
        obtain ⟨rfl, rfl⟩ := Document.ifEnded_eq_ok_iff.mp hvalue
        obtain ⟨named, rfl, hnamed⟩ := Document.exists_keyed_of_toMembers hvalues
        obtain ⟨inner', henter', h⟩ := (Shape.decode_object_iff (isWhole_of_isValue hnamed)).mp h
        obtain rfl : inner = inner' := Except.ok.inj (henter.symm.trans henter')
        rw [Document.ofValue, Document.ofMembers_eq_keyed] at h'
        obtain ⟨inner', henter', h'⟩ := (Shape.decode_object_iff (isWhole_documents _)).mp h'
        obtain rfl : Source.value = inner' := Except.ok.inj henter'
        exact fields.eq_of_gathers hnamed h h'
    | _ => cases h

theorem Fields.eq_of_gathers : (fields : Fields) → {source : Source} →
    {named : List (String × Document)} → {values : List (String × Json)} → {a b : fields.Val} →
      List.Forall₂ (IsValue source) named values → fields.Gathers source named a →
        fields.Gathers .value (shown values) b → a = b
  | .nil, _, _, _, (), (), _, _, _ => rfl
  | .cons name aliases presence shape rest, source, named, values, (slot, slots), (slot', slots'),
      hvalues, ⟨hslot, hslots⟩, ⟨hslot', hslots'⟩ => by
    let own (key : String) : Bool := key = name ∨ key ∈ aliases
    have hown : (shown values).filter (isNamed name aliases) =
        shown (values.filter fun member => own member.1) := filter_shown own values
    have hothers : (shown values).filter (fun member => !isNamed name aliases member) =
        shown (values.filter fun member => !own member.1) :=
      filter_shown (fun key => !own key) values
    rw [hown] at hslot'
    rw [hothers] at hslots'
    rw [Presence.eq_of_takes (IsValue.filter own hvalues)
      (fun _ _ _ _ => shape.eq_of_decode) hslot hslot',
      rest.eq_of_gathers (IsValue.filter (fun key => !own key) hvalues) hslots hslots']

theorem Fields.eq_of_decodeElements : (fields : Fields) → {source : Source} →
    {items : List Document} → {values : List Json} → {a b : fields.Val} →
      {missing missing' : Nat → DecodeError} → {index index' : Nat} →
        {surplus surplus' : DecodeError} → {ended ended' : Bool} →
      List.Forall₂ (fun item value => item.toValue source = .ok value) items values →
        fields.decodeElements source missing index surplus ended items = .ok a →
          fields.decodeElements .value missing' index' surplus' ended' (Document.ofItems values) =
            .ok b → a = b
  | .nil, _, _, _, (), (), _, _, _, _, _, _, _, _, _, _, _ => rfl
  | .cons name aliases presence shape rest, source, items, values, a, b, _, _, _, _, _, _, _, _,
      hvalues, h, h' => by
    unfold Fields.decodeElements at h h'
    cases hvalues with
    | nil =>
        obtain ⟨slot, hslot, h⟩ := bind_eq_ok_iff.mp h
        obtain ⟨slots, hslots, h⟩ := bind_eq_ok_iff.mp h
        obtain ⟨slot', hslot', h'⟩ := bind_eq_ok_iff.mp h'
        obtain ⟨slots', hslots', h'⟩ := bind_eq_ok_iff.mp h'
        cases h
        cases h'
        have habsent := Presence.absent?_of_absentElement hslot
        rw [Presence.absent?_of_absentElement hslot'] at habsent
        rw [Option.some.inj habsent, rest.eq_of_decodeElements .nil hslots hslots']
    | cons hhead htail =>
        obtain ⟨slot, hslot, h⟩ := bind_eq_ok_iff.mp h
        obtain ⟨slots, hslots, h⟩ := bind_eq_ok_iff.mp h
        obtain ⟨slot', hslot', h'⟩ := bind_eq_ok_iff.mp h'
        obtain ⟨slots', hslots', h'⟩ := bind_eq_ok_iff.mp h'
        cases h
        cases h'
        rw [Presence.eq_of_decode hhead (fun _ _ => shape.eq_of_decode hhead) hslot hslot',
          rest.eq_of_decodeElements htail hslots hslots']

end

end MoveCanvas.Json
