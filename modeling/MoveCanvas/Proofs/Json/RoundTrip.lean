import MoveCanvas.Proofs.Json.Documents
import MoveCanvas.Proofs.Json.Shapes

/-! # Data written and read again

Data that has been read is written as a value from which it is read again, exactly if the source
has room for the depth of that value, and in whatever order the members of objects come. Of the
shape it is asked that no field is written under a name by which an earlier field is read. -/

namespace MoveCanvas.Json

def Fields.names : Fields → List String
  | .nil => []
  | .cons name _ _ _ rest => name :: rest.names

mutual

/-- In no record inside is a field written under a name by which an earlier field is read. -/
def Shape.isDistinct : Shape → Bool
  | .text | .flag | .byte | .raw => true
  | .list item => item.isDistinct
  | .record _ fields => fields.isDistinct

def Fields.isDistinct : Fields → Bool
  | .nil => true
  | .cons name aliases _ shape rest =>
    rest.names.all (fun other => other ≠ name && other ∉ aliases) && shape.isDistinct &&
      rest.isDistinct

end

theorem Fields.isDistinct_cons_iff {name : String} {aliases : List String} {presence : Presence}
    {shape : Shape} {rest : Fields} :
    (Fields.cons name aliases presence shape rest).isDistinct = true ↔
      (∀ other ∈ rest.names, ¬ (other = name ∨ other ∈ aliases)) ∧ shape.isDistinct = true ∧
        rest.isDistinct = true := by
  simp [isDistinct, and_assoc]

namespace Document

theorem ofItems_eq_map (items : List Json) : ofItems items = items.map ofValue := by
  induction items with
  | nil => rfl
  | cons item items ih => rw [ofItems, ih, List.map_cons]

theorem ofMembers_eq_map (members : List (String × Json)) :
    ofMembers members = members.map fun member => (some member.1, ofValue member.2) := by
  induction members with
  | nil => rfl
  | cons member members ih => rw [ofMembers, ih, List.map_cons]

end Document

open Document (ofValue)

/-! ## Records -/

def Fields.Reads (source : Source) : (fields : Fields) → fields.Val → List (String × Json) → Prop
  | .nil, (), members => members = []
  | .cons name _ presence shape rest, (slot, slots), members =>
    (presence.absent? = some slot ∧ rest.Reads source slots members) ∨
      ∃ v others, members = (name, v) :: others ∧
        presence.decode (shape.decode source) (ofValue v) = .ok slot ∧
        rest.Reads source slots others

def Fields.readMember (fields : Fields) (source : Source) (read : fields.Partial)
    (member : String × Json) : Except DecodeError fields.Partial :=
  fields.decodeMember source (some member.1) (ofValue member.2) read

section Records

variable {source : Source}

theorem Fields.mem_names_of_reads : (fields : Fields) → {slots : fields.Val} →
    {members : List (String × Json)} → fields.Reads source slots members →
      ∀ member ∈ members, member.1 ∈ fields.names
  | .nil, _, _, rfl => fun _ hmem => absurd hmem List.not_mem_nil
  | .cons name _ _ _ rest, (_, _), _, .inl ⟨_, hrest⟩ => fun member hmem =>
    List.mem_cons_of_mem _ (rest.mem_names_of_reads hrest member hmem)
  | .cons name _ _ _ rest, (_, _), _, .inr ⟨_, _, rfl, _, hrest⟩ => fun member hmem => by
    rcases List.mem_cons.mp hmem with rfl | hmem
    · exact List.mem_cons_self
    · exact List.mem_cons_of_mem _ (rest.mem_names_of_reads hrest member hmem)

section Cons

variable {name : String} {aliases : List String} {presence : Presence} {shape : Shape}
  {rest : Fields}

theorem Fields.foldlM_readMember_of_others {slot : Option (presence.Slot shape.Val)}
    {slots slots' : rest.Partial} {members : List (String × Json)}
    (hothers : ∀ member ∈ members, ¬ (member.1 = name ∨ member.1 ∈ aliases))
    (h : members.foldlM (rest.readMember source) slots = .ok slots') :
    members.foldlM ((Fields.cons name aliases presence shape rest).readMember source) (slot, slots) =
      .ok (slot, slots') := by
  induction members generalizing slots with
  | nil =>
      cases h
      rfl
  | cons member members ih =>
      obtain ⟨hmember, hmembers⟩ := List.forall_mem_cons.mp hothers
      rw [List.foldlM_cons] at h ⊢
      obtain ⟨next, hnext, h⟩ := bind_eq_ok_iff.mp h
      refine bind_eq_ok_iff.mpr ⟨(slot, next), ?_, ih hmembers h⟩
      rw [Fields.readMember, Fields.decodeMember, if_neg hmember]
      exact bind_eq_ok_iff.mpr ⟨next, hnext, rfl⟩

theorem Fields.readMember_own {slot : presence.Slot shape.Val} {slots : rest.Partial} {v : Json}
    (h : presence.decode (shape.decode source) (ofValue v) = .ok slot) :
    (Fields.cons name aliases presence shape rest).readMember source (none, slots) (name, v) =
      .ok (some slot, slots) := by
  rw [Fields.readMember, Fields.decodeMember, if_pos (Or.inl rfl), if_neg (by simp)]
  exact bind_eq_ok_iff.mpr ⟨slot, h, rfl⟩

end Cons

theorem Fields.foldlM_readMember : (fields : Fields) → fields.isDistinct = true →
    {slots : fields.Val} → {members listed : List (String × Json)} →
      fields.Reads source slots listed → members.Perm listed →
        ∃ read, members.foldlM (fields.readMember source) fields.unread = .ok read ∧
          fields.finish read = .ok slots
  | .nil, _, (), members, _, rfl, hperm => by
    rw [List.perm_nil.mp hperm]
    exact ⟨(), rfl, rfl⟩
  | .cons name aliases presence shape rest, hdistinct, (slot, slots), members, listed, hreads,
      hperm => by
    obtain ⟨hnames, -, hrest⟩ := Fields.isDistinct_cons_iff.mp hdistinct
    have hothers {others listed : List (String × Json)} (hreads : rest.Reads source slots listed)
        (hperm : others.Perm listed) :
        ∀ member ∈ others, ¬ (member.1 = name ∨ member.1 ∈ aliases) := fun member hmem =>
      hnames _ (rest.mem_names_of_reads hreads member (hperm.mem_iff.mp hmem))
    rcases hreads with ⟨habsent, hreads⟩ | ⟨v, others, rfl, hown, hreads⟩
    · obtain ⟨read, hread, hfinish⟩ := rest.foldlM_readMember hrest hreads hperm
      refine ⟨(none, read), Fields.foldlM_readMember_of_others (hothers hreads hperm) hread, ?_⟩
      rw [Fields.finish, Option.none_or, habsent]
      exact bind_eq_ok_iff.mpr ⟨slots, hfinish, rfl⟩
    -- The member of the first field stands anywhere; those around it belong to the other fields.
    · obtain ⟨front, back, rfl⟩ := List.append_of_mem (hperm.mem_iff.mpr List.mem_cons_self)
      have hperm' : (front ++ back).Perm others := (List.perm_middle.symm.trans hperm).cons_inv
      obtain ⟨read, hread, hfinish⟩ := rest.foldlM_readMember hrest hreads hperm'
      have hrestless := hothers hreads hperm'
      rw [List.foldlM_append] at hread
      obtain ⟨middle, hfront, hback⟩ := bind_eq_ok_iff.mp hread
      refine ⟨(some slot, read), ?_, ?_⟩
      · rw [List.foldlM_append]
        refine bind_eq_ok_iff.mpr ⟨(none, middle), ?_, ?_⟩
        · exact Fields.foldlM_readMember_of_others
            (fun member hmem => hrestless member (List.mem_append_left _ hmem)) hfront
        · rw [List.foldlM_cons]
          refine bind_eq_ok_iff.mpr ⟨(some slot, middle), Fields.readMember_own hown, ?_⟩
          exact Fields.foldlM_readMember_of_others
            (fun member hmem => hrestless member (List.mem_append_right _ hmem)) hback
      · rw [Fields.finish, Option.some_or]
        exact bind_eq_ok_iff.mpr ⟨slots, hfinish, rfl⟩

theorem Fields.decode_of_reads {title : String} {fields : Fields}
    (hdistinct : fields.isDistinct = true) {inner : Source} (henter : source.enter = .ok inner)
    {slots : fields.Val} {members listed : List (String × Json)}
    (hreads : fields.Reads inner slots listed) (hperm : members.Perm listed) :
    (Shape.record title fields).decode source (ofValue (.obj members)) = .ok slots := by
  obtain ⟨read, hread, hfinish⟩ := fields.foldlM_readMember hdistinct hreads hperm
  refine bind_eq_ok_iff.mpr ⟨inner, henter, bind_eq_ok_iff.mpr ⟨read, ?_, ?_⟩⟩
  · rw [Document.ofMembers_eq_map, List.foldlM_map]
    exact hread
  · exact bind_eq_ok_iff.mpr ⟨read, rfl, hfinish⟩

end Records

/-! ## The names of what is written -/

theorem Fields.mem_names_of_mem_encode : (fields : Fields) → {slots : fields.Val} →
    ∀ member ∈ fields.encode slots, member.1 ∈ fields.names
  | .nil, (), member, hmem => absurd hmem List.not_mem_nil
  | .cons name aliases presence shape rest, (slot, slots), member, hmem => by
    have hrest : member ∈ rest.encode slots → member.1 ∈ name :: rest.names :=
      fun hmem => List.mem_cons_of_mem _ (rest.mem_names_of_mem_encode member hmem)
    have hcons {v : Json} : member ∈ (name, v) :: rest.encode slots → member.1 ∈ name :: rest.names := by
      intro hmem
      rcases List.mem_cons.mp hmem with rfl | hmem
      · exact List.mem_cons_self
      · exact hrest hmem
    rcases presence with _ | _ | (_ | _)
    case required => exact hcons hmem
    all_goals cases slot
    case optional.none | nullable.false.none => exact hrest hmem
    all_goals exact hcons hmem

theorem Fields.nodup_names_encode : (fields : Fields) → fields.isDistinct = true →
    {slots : fields.Val} → ((fields.encode slots).map (·.1)).Nodup
  | .nil, _, () => List.nodup_nil
  | .cons name aliases presence shape rest, hdistinct, (slot, slots) => by
    obtain ⟨hnames, -, hrest⟩ := Fields.isDistinct_cons_iff.mp hdistinct
    have hothers : ((rest.encode slots).map (·.1)).Nodup := rest.nodup_names_encode hrest
    have hcons (v : Json) : (((name, v) :: rest.encode slots).map (·.1)).Nodup := by
      refine List.nodup_cons.mpr ⟨fun hmem => ?_, hothers⟩
      obtain ⟨member, hmember, hname⟩ := List.mem_map.mp hmem
      exact hnames _ (rest.mem_names_of_mem_encode member hmember) (Or.inl hname)
    rcases presence with _ | _ | (_ | _)
    case required => exact hcons _
    all_goals cases slot
    case optional.none | nullable.false.none => exact hothers
    all_goals exact hcons _

/-! ## Everything that is written is read -/

/-- A change of values that reorders the members of objects and nothing else. Raw values, whose keys
ascend, stay as they are. -/
structure Reorders (number : Number → Prop) (g : Json → Json) : Prop where
  scalar : ∀ v, v.depth = 0 → g v = v
  raw : ∀ v, v.Everywhere number Ascending → g v = v
  items : ∀ items, g (.arr items) = .arr (items.map g)
  members : ∀ members, (members.map (·.1)).Nodup → ∃ arranged, g (.obj members) = .obj arranged ∧
    arranged.Perm (members.map fun member => (member.1, g member.2))
  null : ∀ v, g v = .null → v = .null

section Encoded

variable {number : Number → Prop} {g : Json → Json} {source : Source}

theorem reorders_id (number : Number → Prop) : Reorders number id where
  scalar _ _ := rfl
  raw _ _ := rfl
  items items := congrArg Json.arr (List.map_id items).symm
  members members _ := ⟨members, rfl, by simp⟩
  null _ h := h

theorem reorders_sorted (number : Number → Prop) : Reorders number Json.sorted where
  scalar v h := by
    cases v with
    | arr items => cases h
    | obj members => cases h
    | _ => rfl
  raw v h := sorted_eq_self v h
  items items := by rw [sorted, sortedItems_eq_map]
  members members h := by
    refine ⟨_, rfl, ?_⟩
    rw [sortedMembers_eq_map]
    refine sortMembers_perm ?_
    rw [List.map_map]
    exact h
  null v h := by
    cases v with
    | null => rfl
    | _ => cases h

theorem decodeByte_ofValue (n : UInt8) : decodeByte (ofValue (.num (.int n.toNat))) = .ok n := by
  have hrange : 0 ≤ (n.toNat : Int) ∧ (n.toNat : Int) < 256 := by
    have := n.toNat_lt
    omega
  rw [ofValue, decodeByte, if_pos hrange, Int.toNat_natCast, UInt8.ofNat_toNat]

theorem Document.ofValue_eq_null_iff {v : Json} : ofValue v = .null ↔ v = .null := by
  cases v <;> simp [ofValue]

theorem Presence.decode_nullable {written : Bool} {read : Document → Except DecodeError α}
    {document : Document} (hnull : document ≠ .null) :
    (Presence.nullable written).decode read document = some <$> read document := by
  cases document with
  | null => exact absurd rfl hnull
  | _ => rfl

mutual

/-- What is written for data gives the data again, also after its members have been reordered. -/
theorem Shape.decode_reordered (hg : Reorders number g) : (shape : Shape) →
    shape.isDistinct = true → {value : shape.Val} →
      shape.Holds (·.Everywhere number Ascending) value → {source : Source} →
        source.Admits (shape.encode value).depth →
          shape.decode source (ofValue (g (shape.encode value))) = .ok value
  | .text, _, value, _, _, _ => by
    rw [hg.scalar _ rfl]
    rfl
  | .flag, _, value, _, _, _ => by
    rw [hg.scalar _ rfl]
    rfl
  | .byte, _, n, _, _, _ => by
    rw [hg.scalar _ rfl]
    exact decodeByte_ofValue n
  | .raw, _, value, hvalue, _, hroom => by
    rw [Shape.encode, hg.raw _ hvalue]
    exact Document.toValue_ofValue value hvalue hroom
  | .list item, hdistinct, values, hvalues, source, hroom => by
    obtain ⟨inner, henter, hinner⟩ := Source.admits_succ_iff.mp hroom
    rw [Shape.encode, hg.items]
    refine bind_eq_ok_iff.mpr ⟨inner, henter, bind_eq_ok_iff.mpr ⟨values, ?_, rfl⟩⟩
    rw [Document.ofItems_eq_map, List.map_map, List.map_map, mapM_eq_ok_iff,
      List.forall₂_map_left_iff, List.forall₂_same]
    intro value hmem
    exact item.decode_reordered hg hdistinct (hvalues value hmem)
      (Source.admits_of_mem_items hinner (List.mem_map_of_mem hmem))
  | .record title fields, hdistinct, slots, hslots, source, hroom => by
    obtain ⟨inner, henter, hinner⟩ := Source.admits_succ_iff.mp hroom
    obtain ⟨arranged, harranged, hperm⟩ :=
      hg.members (fields.encode slots) (fields.nodup_names_encode hdistinct)
    rw [Shape.encode, harranged]
    exact Fields.decode_of_reads hdistinct henter
      (fields.reads_reordered hg hdistinct hslots hinner) hperm

theorem Fields.reads_reordered (hg : Reorders number g) : (fields : Fields) →
    fields.isDistinct = true → {slots : fields.Val} →
      fields.Holds (·.Everywhere number Ascending) slots → {source : Source} →
        source.Admits (depthMembers (fields.encode slots)) →
          fields.Reads source slots
            ((fields.encode slots).map fun member => (member.1, g member.2))
  | .nil, _, (), _, _, _ => rfl
  | .cons name aliases presence shape rest, hdistinct, (slot, slots), ⟨hslot, hslots⟩, source,
      hroom => by
    obtain ⟨-, hshape, hrest⟩ := Fields.isDistinct_cons_iff.mp hdistinct
    cases presence with
    | required =>
        obtain ⟨hown, hothers⟩ := Source.admits_max_iff.mp hroom
        exact Or.inr ⟨_, _, rfl, shape.decode_reordered hg hshape hslot.1 hown,
          rest.reads_reordered hg hrest hslots hothers⟩
    | optional =>
        cases slot with
        | none => exact Or.inl ⟨rfl, rest.reads_reordered hg hrest hslots hroom⟩
        | some value =>
            obtain ⟨hown, hothers⟩ := Source.admits_max_iff.mp hroom
            have hread := shape.decode_reordered hg hshape (hslot value rfl).1 hown
            refine Or.inr ⟨_, _, rfl, ?_, rest.reads_reordered hg hrest hslots hothers⟩
            exact map_eq_ok_iff.mpr ⟨value, hread, rfl⟩
    | nullable written =>
        cases slot with
        | none =>
            cases written with
            | false => exact Or.inl ⟨rfl, rest.reads_reordered hg hrest hslots hroom⟩
            | true =>
                obtain ⟨-, hothers⟩ := Source.admits_max_iff.mp hroom
                refine Or.inr ⟨_, _, rfl, ?_, rest.reads_reordered hg hrest hslots hothers⟩
                rw [hg.scalar .null rfl]
                rfl
        | some value =>
            obtain ⟨hown, hothers⟩ := Source.admits_max_iff.mp hroom
            have hread := shape.decode_reordered hg hshape (hslot value rfl).1 hown
            refine Or.inr ⟨_, _, rfl, ?_, rest.reads_reordered hg hrest hslots hothers⟩
            have hnull := mt (hg.null _) ((hslot value rfl).2 rfl)
            rw [Presence.decode_nullable (mt Document.ofValue_eq_null_iff.mp hnull)]
            exact map_eq_ok_iff.mpr ⟨value, hread, rfl⟩

end

theorem Shape.decode_encode (shape : Shape) (hdistinct : shape.isDistinct = true)
    {value : shape.Val} (hvalue : shape.Holds (·.Everywhere number Ascending) value)
    (hroom : source.Admits (shape.encode value).depth) :
    shape.decode source (Document.ofValue (shape.encode value)) = .ok value :=
  shape.decode_reordered (reorders_id number) hdistinct hvalue hroom

theorem Shape.ofValue_sorted (shape : Shape) (hdistinct : shape.isDistinct = true)
    {value : shape.Val} (hvalue : shape.Holds (·.Everywhere number Ascending) value) :
    shape.ofValue (shape.encode value).sorted = .ok value :=
  shape.decode_reordered (reorders_sorted number) hdistinct hvalue trivial

end Encoded

/-! ## Nothing deeper is read -/

section Room

theorem Source.admits_depthItems {source : Source} {items : List Json}
    (h : ∀ item ∈ items, source.Admits item.depth) : source.Admits (depthItems items) := by
  induction items with
  | nil => exact source.admits_zero
  | cons item items ih =>
      obtain ⟨hitem, hitems⟩ := List.forall_mem_cons.mp h
      exact Source.admits_max_iff.mpr ⟨hitem, ih hitems⟩

theorem Source.admits_depthMembers {source : Source} {members : List (String × Json)}
    (h : ∀ member ∈ members, source.Admits member.2.depth) :
    source.Admits (depthMembers members) := by
  induction members with
  | nil => exact source.admits_zero
  | cons member members ih =>
      obtain ⟨hmember, hmembers⟩ := List.forall_mem_cons.mp h
      exact Source.admits_max_iff.mpr ⟨hmember, ih hmembers⟩

theorem Presence.read_of_decode {presence : Presence} {read : Document → Except DecodeError α}
    {document : Document} {slot : presence.Slot α} (h : presence.decode read document = .ok slot) :
    document = .null ∨ ∃ value, read document = .ok value := by
  cases presence with
  | required => exact Or.inr ⟨slot, h⟩
  | optional =>
      obtain ⟨value, hvalue, -⟩ := map_eq_ok_iff.mp h
      exact Or.inr ⟨value, hvalue⟩
  | nullable written =>
      cases document
      case null => exact Or.inl rfl
      all_goals
        obtain ⟨value, hvalue, -⟩ := map_eq_ok_iff.mp h
        exact Or.inr ⟨value, hvalue⟩

theorem depth_eq_zero_of_null {v : Json} (h : ofValue v = .null) : v.depth = 0 := by
  cases v with
  | null => rfl
  | _ => cases h

mutual

theorem Shape.admits_of_decode : (shape : Shape) → shape.isDistinct = true → {source : Source} →
    ∀ value result, shape.decode source (ofValue (shape.encode value)) = .ok result →
      source.Admits (shape.encode value).depth
  | .text, _, source => fun _ _ _ => source.admits_zero
  | .flag, _, source => fun _ _ _ => source.admits_zero
  | .byte, _, source => fun _ _ _ => source.admits_zero
  | .raw, _, source => fun value _ h => Document.admits_of_toValue value h
  | .list item, hdistinct, source => by
    intro values result h
    obtain ⟨inner, henter, h⟩ := bind_eq_ok_iff.mp h
    obtain ⟨read, hread, -⟩ := bind_eq_ok_iff.mp h
    refine Source.admits_succ_iff.mpr ⟨inner, henter, Source.admits_depthItems fun v hmem => ?_⟩
    obtain ⟨value, hvalue, rfl⟩ := List.mem_map.mp hmem
    rw [Document.ofItems_eq_map, List.map_map] at hread
    obtain ⟨result, hresult⟩ := exists_of_mapM hread _ (List.mem_map_of_mem hvalue)
    exact item.admits_of_decode hdistinct value result hresult
  | .record title fields, hdistinct, source => by
    intro slots result h
    obtain ⟨inner, henter, h⟩ := bind_eq_ok_iff.mp h
    obtain ⟨read, hread, -⟩ := bind_eq_ok_iff.mp h
    rw [Document.ofMembers_eq_map, List.foldlM_map] at hread
    refine Source.admits_succ_iff.mpr
      ⟨inner, henter, Source.admits_depthMembers fun member hmem => ?_⟩
    obtain ⟨before, after, hstep⟩ := exists_of_foldlM hread member hmem
    exact fields.admits_of_readMember hdistinct member hmem hstep

theorem Fields.admits_of_readMember : (fields : Fields) → fields.isDistinct = true →
    {slots : fields.Val} → ∀ member ∈ fields.encode slots, {source : Source} →
      {before after : fields.Partial} → fields.readMember source before member = .ok after →
        source.Admits member.2.depth
  | .nil, _, (), _, hmem, _, _, _, _ => absurd hmem List.not_mem_nil
  | .cons name aliases presence shape rest, hdistinct, (slot, slots), member, hmem, source,
      (own, others), after, h => by
    obtain ⟨hnames, hshape, hrest⟩ := Fields.isDistinct_cons_iff.mp hdistinct
    have hother : member ∈ rest.encode slots → source.Admits member.2.depth := by
      intro hmem
      rw [Fields.readMember, Fields.decodeMember,
        if_neg (hnames _ (rest.mem_names_of_mem_encode member hmem))] at h
      obtain ⟨next, hnext, -⟩ := bind_eq_ok_iff.mp h
      exact rest.admits_of_readMember hrest member hmem hnext
    have hown {value : shape.Val} (heq : member = (name, shape.encode value)) :
        source.Admits member.2.depth := by
      subst heq
      rw [Fields.readMember, Fields.decodeMember, if_pos (Or.inl rfl)] at h
      split at h
      · cases h
      · obtain ⟨slot, hslot, -⟩ := bind_eq_ok_iff.mp h
        rcases Presence.read_of_decode hslot with hnull | ⟨result, hresult⟩
        · rw [depth_eq_zero_of_null hnull]
          exact source.admits_zero
        · exact shape.admits_of_decode hshape value result hresult
    rcases presence with _ | _ | (_ | _)
    case required => exact (List.mem_cons.mp hmem).elim hown hother
    all_goals cases slot
    case optional.none | nullable.false.none => exact hother hmem
    case nullable.true.none =>
      rcases List.mem_cons.mp hmem with rfl | hmem
      · exact source.admits_zero
      · exact hother hmem
    all_goals exact (List.mem_cons.mp hmem).elim hown hother

end

end Room

/-! ## Texts -/

theorem Number.isWord_byte (n : UInt8) : (Number.int n.toNat).IsWord := by
  have hlt := n.toNat_lt
  exact ⟨by omega, by simp only [Literal.significandLimit]; omega⟩

def Number.IsInteger : Number → Prop
  | .int _ => True
  | .real _ => False

theorem Number.isWord_iff {n : Number} : n.IsWord ↔ n.FitsWord ∧ n.IsInteger := by
  cases n with
  | int n => exact ⟨fun h => ⟨h, trivial⟩, fun h => h.1⟩
  | real x => exact ⟨fun h => h.elim, fun h => h.2.elim⟩

section Texts

variable {shape : Shape} (hdistinct : shape.isDistinct = true) {value : shape.Val}
  (hvalue : shape.Holds (·.Everywhere Number.IsWord Ascending) value)
include hdistinct hvalue

omit hdistinct in
theorem Shape.document_pretty : Document.ofText (shape.encode value).pretty =
    (Document.ofValue (shape.encode value), true) :=
  Document.ofText_pretty (shape.everywhere_encode Number.isWord_byte hvalue)

theorem Shape.ofText_pretty (hdepth : (shape.encode value).depth ≤ nestingLimit) :
    shape.ofText (shape.encode value).pretty = .ok value := by
  have hroom : (Source.text nestingLimit).Admits (shape.encode value).depth := hdepth
  rw [Shape.ofText_eq_ok_iff, Shape.document_pretty hvalue]
  exact ⟨rfl, shape.decode_encode hdistinct hvalue hroom⟩

/-- Where a text nests too deeply, no other data is read from it either. -/
theorem Shape.depth_le_of_ofText_pretty {result : shape.Val}
    (h : shape.ofText (shape.encode value).pretty = .ok result) :
    (shape.encode value).depth ≤ nestingLimit := by
  rw [Shape.ofText_eq_ok_iff, Shape.document_pretty hvalue] at h
  exact shape.admits_of_decode hdistinct value result h.2

end Texts

end MoveCanvas.Json
