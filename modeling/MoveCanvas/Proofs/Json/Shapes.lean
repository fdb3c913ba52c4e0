import MoveCanvas.Proofs.Json.Reading

/-! # Data that has been read

What a record holds has been read from the parts of its document. So a reader delivers for a shape
raw values of ascending keys with numbers of the document, and no null in a nullable field. The
value that such data is written as has no other numbers but bytes. -/

namespace MoveCanvas

namespace Json

def Presence.isNullable : Presence → Bool
  | .nullable _ => true
  | _ => false

def Presence.Every (q : α → Prop) : (presence : Presence) → presence.Slot α → Prop
  | .required, value => q value
  | .optional, slot | .nullable _, slot => ∀ value, slot = some value → q value

mutual

/-- Every raw value satisfies the condition, and no value of a nullable field is written as null. -/
def Shape.Holds (p : Json → Prop) : (shape : Shape) → shape.Val → Prop
  | .text, _ | .flag, _ | .byte, _ => True
  | .raw, value => p value
  | .list item, items => ∀ value ∈ items, item.Holds p value
  | .record _ fields, slots => fields.Holds p slots

def Fields.Holds (p : Json → Prop) : (fields : Fields) → fields.Val → Prop
  | .nil, () => True
  | .cons _ _ presence shape rest, (slot, slots) =>
    presence.Every (fun value => shape.Holds p value ∧
      (presence.isNullable = true → shape.encode value ≠ .null)) slot ∧ rest.Holds p slots

end

def Fields.Each (q : Presence → (shape : Shape) → shape.Val → Prop) :
    (fields : Fields) → fields.Val → Prop
  | .nil, () => True
  | .cons _ _ presence shape rest, (slot, slots) =>
    presence.Every (q presence shape) slot ∧ rest.Each q slots

def Fields.EachRead (q : Presence → (shape : Shape) → shape.Val → Prop) :
    (fields : Fields) → fields.Partial → Prop
  | .nil, () => True
  | .cons _ _ presence shape rest, (slot, slots) =>
    (∀ read, slot = some read → presence.Every (q presence shape) read) ∧ rest.EachRead q slots

/-- The value has been read from one of the documents, in a nullable field not from null. -/
def ReadFrom (source : Source) (parts : List Document) (presence : Presence) (shape : Shape)
    (value : shape.Val) : Prop :=
  ∃ part ∈ parts, shape.decode source part = .ok value ∧
    (presence.isNullable = true → part ≠ .null)

def Document.parts : Document → List Document
  | .array items _ => items
  | .object members _ => members.map (·.2)
  | _ => []

/-! ## Reading -/

section Reading

theorem Presence.Every.mono {q q' : α → Prop} (hq : ∀ value, q value → q' value) {presence : Presence}
    {slot : presence.Slot α} (h : presence.Every q slot) : presence.Every q' slot := by
  cases presence with
  | required => exact hq slot h
  | optional | nullable written => exact fun value hvalue => hq value (h value hvalue)

theorem Presence.every_decode {presence : Presence} {read : Document → Except DecodeError α}
    {document : Document} {slot : presence.Slot α} {q : α → Prop}
    (hread : ∀ value, read document = .ok value →
      (presence.isNullable = true → document ≠ .null) → q value)
    (h : presence.decode read document = .ok slot) : presence.Every q slot := by
  cases presence with
  | required => exact hread slot h nofun
  | optional =>
      obtain ⟨value, hok, rfl⟩ := map_eq_ok_iff.mp h
      rintro _ ⟨⟩
      exact hread value hok nofun
  | nullable written =>
      cases document
      case null =>
        cases h
        exact fun _ hnone => nomatch hnone
      all_goals
        obtain ⟨value, hok, rfl⟩ := map_eq_ok_iff.mp h
        rintro _ ⟨⟩
        exact hread value hok fun _ => nofun

theorem Presence.every_absent? {presence : Presence} {slot : presence.Slot α} {q : α → Prop}
    (h : presence.absent? = some slot) : presence.Every q slot := by
  cases presence with
  | required => cases h
  | optional =>
      cases h
      exact fun _ hnone => nomatch hnone
  | nullable written =>
      cases h
      exact fun _ hnone => nomatch hnone

variable {q q' : Presence → (shape : Shape) → shape.Val → Prop}

theorem Fields.Each.mono (hq : ∀ presence shape value, q presence shape value →
    q' presence shape value) : {fields : Fields} → {slots : fields.Val} → fields.Each q slots →
      fields.Each q' slots
  | .nil, (), _ => trivial
  | .cons _ _ presence shape _, (_, _), ⟨hslot, hslots⟩ =>
    ⟨hslot.mono (hq presence shape), Fields.Each.mono hq hslots⟩

theorem Fields.each_finish : (fields : Fields) → {slots : fields.Partial} → {val : fields.Val} →
    fields.EachRead q slots → fields.finish slots = .ok val → fields.Each q val
  | .nil, (), (), _, _ => trivial
  | .cons name _ presence shape rest, (slot, slots), val, ⟨hslot, hslots⟩, h => by
    rw [Fields.finish] at h
    split at h
    · cases h
    · next own hown =>
      obtain ⟨others, hothers, h⟩ := bind_eq_ok_iff.mp h
      cases h
      refine ⟨?_, each_finish rest hslots hothers⟩
      cases slot with
      | none => exact Presence.every_absent? hown
      | some read =>
          cases hown
          exact hslot own rfl

theorem Fields.eachRead_unread : (fields : Fields) → fields.EachRead q fields.unread
  | .nil => trivial
  | .cons _ _ _ _ rest => ⟨fun _ h => (nomatch h), eachRead_unread rest⟩

theorem toValue_eq_null {source : Source} {document : Document}
    (h : document.toValue source = .ok .null) : document = .null := by
  cases document with
  | null => rfl
  | bool b => cases h
  | number value => cases value <;> cases h
  | text value => cases value <;> cases h
  | array items ended =>
      rw [Document.toValue] at h
      obtain ⟨inner, -, h⟩ := bind_eq_ok_iff.mp h
      obtain ⟨values, -, h⟩ := bind_eq_ok_iff.mp h
      obtain ⟨-, he⟩ := Document.ifEnded_eq_ok_iff.mp h
      cases he
  | object members ended =>
      rw [Document.toValue] at h
      obtain ⟨inner, -, h⟩ := bind_eq_ok_iff.mp h
      obtain ⟨values, -, h⟩ := bind_eq_ok_iff.mp h
      obtain ⟨-, he⟩ := Document.ifEnded_eq_ok_iff.mp h
      cases he
  | fault => cases h

theorem Shape.encode_ne_null {shape : Shape} {source : Source} {document : Document}
    {value : shape.Val} (h : shape.decode source document = .ok value) (hnull : document ≠ .null) :
    shape.encode value ≠ .null := by
  cases shape with
  | raw =>
      intro he
      have hvalue : value = .null := he
      rw [hvalue] at h
      exact hnull (toValue_eq_null h)
  | _ => exact nofun

theorem Presence.every_absentElement {presence : Presence} {missing : DecodeError} {ended : Bool}
    {slot : presence.Slot α} {q : α → Prop} (h : absentElement presence missing ended = .ok slot) :
    presence.Every q slot := by
  unfold absentElement at h
  split at h
  · next habsent =>
    obtain ⟨-, rfl⟩ := Document.ifEnded_eq_ok_iff.mp h
    exact Presence.every_absent? habsent
  · split at h
    · cases h
    · cases h

theorem Shape.ofText_eq_ok_iff {shape : Shape} {text : String} {value : shape.Val} :
    shape.ofText text = .ok value ↔ (Document.ofText text).2 = true ∧
      shape.decode (.text nestingLimit) (Document.ofText text).1 = .ok value := by
  unfold Shape.ofText
  show (shape.decode _ (Document.ofText text).1 >>= _) = _ ↔ _
  rw [bind_eq_ok_iff]
  constructor
  · rintro ⟨read, hread, h⟩
    obtain ⟨hclean, rfl⟩ := Document.ifEnded_eq_ok_iff.mp h
    exact ⟨hclean, hread⟩
  · rintro ⟨hclean, hread⟩
    exact ⟨value, hread, Document.ifEnded_eq_ok_iff.mpr ⟨hclean, rfl⟩⟩

section Parts

variable {source : Source} {parts : List Document}

theorem Shape.decode_items {item : Shape} {items : List Document} {ended : Bool}
    {values : List item.Val} (h : (Shape.list item).decode source (.array items ended) = .ok values) :
    ∃ inner, source.enter = .ok inner ∧ items.mapM (item.decode inner) = .ok values := by
  obtain ⟨inner, henter, h⟩ := bind_eq_ok_iff.mp h
  obtain ⟨read, hread, h⟩ := bind_eq_ok_iff.mp h
  obtain ⟨-, rfl⟩ := Document.ifEnded_eq_ok_iff.mp h
  exact ⟨inner, henter, hread⟩

theorem Fields.eachRead_decodeMember {key : Option String} {document : Document}
    (hpart : document ∈ parts) : (fields : Fields) → {slots slots' : fields.Partial} →
      fields.EachRead (ReadFrom source parts) slots →
        fields.decodeMember source key document slots = .ok slots' →
          fields.EachRead (ReadFrom source parts) slots'
  | .nil, (), _, _, _ => trivial
  | .cons name aliases presence shape rest, (slot, slots), _, ⟨hslot, hslots⟩, h => by
    cases key with
    | none => cases h
    | some key =>
        rw [Fields.decodeMember] at h
        split at h
        · split at h
          · cases h
          · obtain ⟨value, hvalue, h⟩ := bind_eq_ok_iff.mp h
            cases h
            refine ⟨?_, hslots⟩
            rintro _ ⟨⟩
            exact Presence.every_decode (fun _ hread hnull => ⟨document, hpart, hread, hnull⟩) hvalue
        · obtain ⟨others, hothers, h⟩ := bind_eq_ok_iff.mp h
          cases h
          exact ⟨hslot, rest.eachRead_decodeMember hpart hslots hothers⟩

theorem Fields.each_decodeElements {surplus : DecodeError} {missing : Nat → DecodeError}
    {ended : Bool} : (fields : Fields) → {index : Nat} → {items : List Document} →
      {value : fields.Val} → (∀ item ∈ items, item ∈ parts) →
        fields.decodeElements source missing index surplus ended items = .ok value →
          fields.Each (ReadFrom source parts) value
  | .nil, _, _, (), _, _ => trivial
  | .cons name aliases presence shape rest, index, items, value, hparts, h => by
    unfold Fields.decodeElements at h
    cases items with
    | nil =>
        obtain ⟨slot, hslot, h⟩ := bind_eq_ok_iff.mp h
        obtain ⟨slots, hslots, h⟩ := bind_eq_ok_iff.mp h
        cases h
        exact ⟨Presence.every_absentElement hslot, rest.each_decodeElements hparts hslots⟩
    | cons document items =>
        obtain ⟨hdocument, hitems⟩ := List.forall_mem_cons.mp hparts
        obtain ⟨slot, hslot, h⟩ := bind_eq_ok_iff.mp h
        obtain ⟨slots, hslots, h⟩ := bind_eq_ok_iff.mp h
        cases h
        refine ⟨?_, rest.each_decodeElements hitems hslots⟩
        exact Presence.every_decode (fun _ hread hnull => ⟨document, hdocument, hread, hnull⟩) hslot

theorem Shape.each_decode {title : String} {fields : Fields} {document : Document}
    {slots : fields.Val} (h : (Shape.record title fields).decode source document = .ok slots) :
    ∃ inner, source.enter = .ok inner ∧ fields.Each (ReadFrom inner document.parts) slots := by
  cases document with
  | array items ended =>
      obtain ⟨inner, henter, h⟩ := bind_eq_ok_iff.mp h
      exact ⟨inner, henter, fields.each_decodeElements (fun _ hitem => hitem) h⟩
  | object members ended =>
      obtain ⟨inner, henter, h⟩ := bind_eq_ok_iff.mp h
      obtain ⟨read, hread, h⟩ := bind_eq_ok_iff.mp h
      obtain ⟨_, hended, h⟩ := bind_eq_ok_iff.mp h
      obtain ⟨-, rfl⟩ := Document.ifEnded_eq_ok_iff.mp hended
      refine ⟨inner, henter, fields.each_finish ?_ h⟩
      -- The invariant of the members is `EachRead`, of which nothing is asked at the start.
      refine foldlM_invariant ?_ fields.eachRead_unread hread
      intro member hmem slots slots' hslots hstep
      exact fields.eachRead_decodeMember (List.mem_map_of_mem hmem) hslots hstep
  | _ => cases h

/-- A member of the name of the first field is what this field holds in the end: it is not given
before, and nothing replaces it later. -/
theorem Fields.foldlM_decodeMember_first {name : String} {aliases : List String}
    {presence : Presence} {shape : Shape} {rest : Fields}
    {members : List (Option String × Document)}
    {slots slots' : (Fields.cons name aliases presence shape rest).Partial}
    (h : members.foldlM (fun read (key, document) =>
      (Fields.cons name aliases presence shape rest).decodeMember source key document read) slots =
        .ok slots')
    {document : Document} (hmem : (some name, document) ∈ members) :
    ∃ slot, slots'.1 = some slot ∧ presence.decode (shape.decode source) document = .ok slot := by
  obtain ⟨front, back, rfl⟩ := List.append_of_mem hmem
  rw [List.foldlM_append] at h
  obtain ⟨⟨own, others⟩, -, h⟩ := bind_eq_ok_iff.mp h
  rw [List.foldlM_cons] at h
  obtain ⟨after, hstep, h⟩ := bind_eq_ok_iff.mp h
  dsimp only at hstep
  rw [Fields.decodeMember, if_pos (Or.inl rfl)] at hstep
  split at hstep
  · cases hstep
  obtain ⟨slot, hslot, hstep⟩ := bind_eq_ok_iff.mp hstep
  cases hstep
  refine ⟨slot, foldlM_invariant (q := (·.1 = some slot)) ?_ rfl h, hslot⟩
  rintro ⟨key, document⟩ - ⟨own, others⟩ after hown hstep
  obtain rfl : own = some slot := hown
  dsimp only at hstep
  cases key with
  | none => cases hstep
  | some key =>
      rw [Fields.decodeMember] at hstep
      split at hstep
      · cases hstep
      · obtain ⟨next, -, hstep⟩ := bind_eq_ok_iff.mp hstep
        cases hstep
        rfl

theorem Shape.decode_first {title name : String} {aliases : List String} {presence : Presence}
    {shape : Shape} {rest : Fields} {members : List (Option String × Document)} {ended : Bool}
    {val : (Fields.cons name aliases presence shape rest).Val}
    (h : (Shape.record title (.cons name aliases presence shape rest)).decode source
      (.object members ended) = .ok val)
    {document : Document} (hmem : (some name, document) ∈ members) :
    ∃ inner, source.enter = .ok inner ∧
      presence.decode (shape.decode inner) document = .ok val.1 := by
  obtain ⟨inner, henter, h⟩ := bind_eq_ok_iff.mp h
  obtain ⟨⟨own, others⟩, hread, h⟩ := bind_eq_ok_iff.mp h
  obtain ⟨_, hended, h⟩ := bind_eq_ok_iff.mp h
  obtain ⟨-, rfl⟩ := Document.ifEnded_eq_ok_iff.mp hended
  obtain ⟨slot, hslot, hdecode⟩ := Fields.foldlM_decodeMember_first hread hmem
  obtain rfl : own = some slot := hslot
  obtain ⟨slots, -, h⟩ := bind_eq_ok_iff.mp h
  cases h
  exact ⟨inner, henter, hdecode⟩

end Parts

variable {number : Number → Prop}

theorem Document.numbers_of_mem_parts {document part : Document} (h : document.Numbers number)
    (hpart : part ∈ document.parts) : part.Numbers number := by
  cases document with
  | array items ended => exact Document.numbersItems_iff.mp h part hpart
  | object members ended =>
      obtain ⟨member, hmember, rfl⟩ := List.mem_map.mp hpart
      exact Document.numbersMembers_iff.mp h member hmember
  | _ => cases hpart

mutual

/-- Data that has been read carries raw values of ascending keys with numbers of the document. -/
theorem Shape.holds_decode : (shape : Shape) → {source : Source} → {document : Document} →
    {value : shape.Val} → document.Numbers number → shape.decode source document = .ok value →
      shape.Holds (·.Everywhere number Ascending) value
  | .text, _, _, _, _, _ | .flag, _, _, _, _, _ | .byte, _, _, _, _, _ => trivial
  | .raw, _, document, _, hnumbers, h => Document.everywhere_toValue document hnumbers h
  | .list item, source, document, value, hnumbers, h => by
    cases document with
    | array items ended =>
        obtain ⟨inner, -, hvalues⟩ := Shape.decode_items h
        have hitems := Document.numbersItems_iff.mp hnumbers
        refine forall_of_mapM (fun document hmem value hvalue => ?_) hvalues
        exact item.holds_decode (hitems document hmem) hvalue
    | _ => cases h
  | .record title fields, source, document, value, hnumbers, h => by
    obtain ⟨inner, -, hread⟩ := Shape.each_decode h
    exact fields.holds_of_each (fun _ hpart => Document.numbers_of_mem_parts hnumbers hpart) hread

theorem Fields.holds_of_each : (fields : Fields) → {source : Source} → {parts : List Document} →
    {slots : fields.Val} → (∀ part ∈ parts, part.Numbers number) →
      fields.Each (ReadFrom source parts) slots → fields.Holds (·.Everywhere number Ascending) slots
  | .nil, _, _, (), _, _ => trivial
  | .cons name aliases presence shape rest, source, parts, (slot, slots), hnumbers,
      ⟨hslot, hslots⟩ => by
    refine ⟨hslot.mono ?_, rest.holds_of_each hnumbers hslots⟩
    rintro value ⟨part, hpart, hread, hnull⟩
    exact ⟨shape.holds_decode (hnumbers part hpart) hread,
      fun hnullable => Shape.encode_ne_null hread (hnull hnullable)⟩

end

end Reading

section Writing

variable {number : Number → Prop} {keys : List String → Prop}

mutual

theorem Shape.everywhere_encode (hbyte : ∀ n : UInt8, number (.int n.toNat)) : (shape : Shape) →
    {value : shape.Val} → shape.Holds (·.Everywhere number keys) value →
      (shape.encode value).Everywhere number AnyKeys
  | .text, _, _ | .flag, _, _ => trivial
  | .byte, n, _ => hbyte n
  | .raw, value, h => Everywhere.mono (fun _ hn => hn) (fun _ _ => trivial) value h
  | .list item, values, h => by
    refine everywhereItems_iff.mpr fun v hmem => ?_
    obtain ⟨value, hvalue, rfl⟩ := List.mem_map.mp hmem
    exact item.everywhere_encode hbyte (h value hvalue)
  | .record _ fields, slots, h => ⟨trivial, fields.everywhere_encode hbyte h⟩

theorem Fields.everywhere_encode (hbyte : ∀ n : UInt8, number (.int n.toNat)) :
    (fields : Fields) → {slots : fields.Val} → fields.Holds (·.Everywhere number keys) slots →
      EverywhereMembers number AnyKeys (fields.encode slots)
  | .nil, (), _ => trivial
  | .cons _ _ .required shape rest, (_, _), ⟨hvalue, hslots⟩ =>
    ⟨shape.everywhere_encode hbyte hvalue.1, rest.everywhere_encode hbyte hslots⟩
  | .cons _ _ .optional shape rest, (some value, _), ⟨hvalue, hslots⟩
  | .cons _ _ (.nullable _) shape rest, (some value, _), ⟨hvalue, hslots⟩ =>
    ⟨shape.everywhere_encode hbyte (hvalue value rfl).1, rest.everywhere_encode hbyte hslots⟩
  | .cons _ _ .optional _ rest, (none, _), ⟨_, hslots⟩
  | .cons _ _ (.nullable false) _ rest, (none, _), ⟨_, hslots⟩ =>
    rest.everywhere_encode hbyte hslots
  | .cons _ _ (.nullable true) _ rest, (none, _), ⟨_, hslots⟩ =>
    ⟨trivial, rest.everywhere_encode hbyte hslots⟩

end

end Writing

end Json

end MoveCanvas
