import MoveCanvas.Json.Decode
import MoveCanvas.Proofs.Except
import MoveCanvas.Proofs.Json.Everywhere
import MoveCanvas.Proofs.Json.Scalars

/-! # What the reader delivers

Every number of a text that is an integer fits 64 bits, a document holds no number but those of its
tokens, and a value read from a document none but those of the document. The keys of a value that
has been read ascend, and the source has room for its depth. A value is read again exactly if the
source has room for its depth, with its members sorted and otherwise unchanged. -/

namespace MoveCanvas

namespace Json

/-! ## Numbers of a text -/

/-- An integer fits 64 bits; nothing is asked of other numbers. -/
def Number.FitsWord : Number → Prop
  | .int n => Json.IsWord n
  | .real _ => True

theorem gather_lt {s : Nat} (h : s < Literal.significandLimit) (ds : List Char) :
    (Literal.gather s ds).1 < Literal.significandLimit := by
  induction ds generalizing s with
  | nil => exact h
  | cons d ds ih =>
      rw [Literal.gather]
      split
      · next hnext => exact ih hnext
      · exact h

theorem fitsWord_integer {n : Nat} (h : n < Literal.significandLimit) (negative : Bool) :
    (Literal.integer negative n).FitsWord := by
  unfold Literal.integer
  split
  · exact ⟨by omega, by omega⟩
  · split
    · trivial
    · exact ⟨by omega, by simp only [Literal.significandLimit]; omega⟩

theorem fitsWord_number? {literal : Literal} {n : Number} (h : literal.number? = some n) :
    n.FitsWord := by
  unfold Literal.number? at h
  split at h
  next leading dropped hgather =>
    have hlt : leading < Literal.significandLimit := by
      have := gather_lt (by decide : 0 < Literal.significandLimit) literal.whole
      rwa [hgather] at this
    split at h
    · cases h
      exact fitsWord_integer hlt literal.negative
    · obtain ⟨x, -, rfl⟩ := Option.map_eq_some_iff.mp h
      trivial

def Token.Numbers (p : Number → Prop) : Token → Prop
  | .number (some n) => p n
  | _ => True

theorem Token.numbers_mark? {p : Number → Prop} {c : Char} {token : Token}
    (h : mark? c = some token) : token.Numbers p := by
  unfold mark? at h
  repeat' split at h
  all_goals cases h
  all_goals trivial

theorem Token.numbers_word? {p : Number → Prop} {c : Char} {cs rest : List Char} {token : Token}
    (h : word? c cs = some (token, rest)) : token.Numbers p := by
  unfold word? at h
  repeat' split at h
  case isFalse => cases h
  all_goals
    obtain ⟨_, -, he⟩ := Option.map_eq_some_iff.mp h
    cases he
    trivial

theorem Token.fitsWord_next? {c : Char} {cs rest : List Char} {token : Token}
    (h : Token.next? c cs = some (token, rest)) : token.Numbers Number.FitsWord := by
  unfold Token.next? at h
  split at h
  · next hmark =>
    cases h
    exact Token.numbers_mark? hmark
  · split at h
    · obtain ⟨_, -, he⟩ := Option.map_eq_some_iff.mp h
      cases he
      trivial
    · split at h
      · obtain ⟨⟨literal, _⟩, -, he⟩ := Option.map_eq_some_iff.mp h
        cases he
        cases hnumber : literal.number? with
        | none => trivial
        | some n => exact fitsWord_number? hnumber
      · exact Token.numbers_word? h

theorem Token.fitsWord_scan (cs : List Char) :
    ∀ token ∈ Token.scan cs, token.Numbers Number.FitsWord := by
  fun_induction Token.scan cs with
  | case1 => exact fun _ h => absurd h List.not_mem_nil
  | case2 c cs hspace ih => exact ih
  | case3 c cs hspace hnext =>
      intro token hmem
      rw [List.mem_singleton.mp hmem]
      trivial
  | case4 c cs hspace token rest hnext ih =>
      intro other hmem
      rcases List.mem_cons.mp hmem with rfl | hmem
      · exact Token.fitsWord_next? hnext
      · exact ih other hmem

/-! ## Numbers of a document -/

namespace Document

mutual

def Numbers (p : Number → Prop) : Document → Prop
  | .number (some n) => p n
  | .array items _ => NumbersItems p items
  | .object members _ => NumbersMembers p members
  | _ => True

def NumbersItems (p : Number → Prop) : List Document → Prop
  | [] => True
  | item :: items => Numbers p item ∧ NumbersItems p items

def NumbersMembers (p : Number → Prop) : List (Option String × Document) → Prop
  | [] => True
  | (_, document) :: members => Numbers p document ∧ NumbersMembers p members

end

variable {p : Number → Prop}

theorem numbersItems_iff {items : List Document} :
    NumbersItems p items ↔ ∀ item ∈ items, item.Numbers p := by
  induction items with
  | nil => simp [NumbersItems]
  | cons item items ih => simp [NumbersItems, ih]

theorem numbersMembers_iff {members : List (Option String × Document)} :
    NumbersMembers p members ↔ ∀ member ∈ members, member.2.Numbers p := by
  induction members with
  | nil => simp [NumbersMembers]
  | cons member members ih => simp [NumbersMembers, ih]

mutual

theorem numbers_ofValue {keys : List String → Prop} :
    (v : Json) → v.Everywhere p keys → (ofValue v).Numbers p
  | .null, _ | .bool _, _ | .str _, _ => trivial
  | .num _, h => h
  | .arr items, h => numbersItems_ofItems items h
  | .obj members, ⟨_, h⟩ => numbersMembers_ofMembers members h

theorem numbersItems_ofItems {keys : List String → Prop} :
    (items : List Json) → EverywhereItems p keys items → NumbersItems p (ofItems items)
  | [], _ => trivial
  | item :: items, ⟨hitem, h⟩ => ⟨numbers_ofValue item hitem, numbersItems_ofItems items h⟩

theorem numbersMembers_ofMembers {keys : List String → Prop} :
    (members : List (String × Json)) → EverywhereMembers p keys members →
      NumbersMembers p (ofMembers members)
  | [], _ => trivial
  | (_, value) :: members, ⟨hvalue, h⟩ =>
    ⟨numbers_ofValue value hvalue, numbersMembers_ofMembers members h⟩

end

def Frame.Numbers (p : Number → Prop) : Frame → Prop
  | .array items => ∀ item ∈ items, item.Numbers p
  | .object members | .member members _ => ∀ member ∈ members, member.2.Numbers p

def State.Numbers (p : Number → Prop) : State → Prop
  | .inside frames _ => ∀ frame ∈ frames, frame.Numbers p
  | .past root _ => root.Numbers p

theorem numbers_array {items : List Document} (h : ∀ item ∈ items, item.Numbers p) (ended : Bool) :
    (array items.reverse ended).Numbers p :=
  numbersItems_iff.mpr fun item hitem => h item (List.mem_reverse.mp hitem)

theorem numbers_object {members : List (Option String × Document)}
    (h : ∀ member ∈ members, member.2.Numbers p) (ended : Bool) :
    (object members.reverse ended).Numbers p :=
  numbersMembers_iff.mpr fun member hmember => h member (List.mem_reverse.mp hmember)

theorem numbers_fault : Numbers p .fault := trivial

theorem numbers_enclose {broken : Document} (hbroken : broken.Numbers p) {frames : List Frame}
    (h : ∀ frame ∈ frames, frame.Numbers p) : (enclose broken frames).Numbers p := by
  induction frames generalizing broken with
  | nil => exact hbroken
  | cons frame frames ih =>
      have hframe := h frame List.mem_cons_self
      have hframes : ∀ frame ∈ frames, frame.Numbers p :=
        fun other hother => h other (List.mem_cons_of_mem _ hother)
      cases frame with
      | array items =>
          refine ih (numbers_array ?_ false) hframes
          exact List.forall_mem_cons.mpr ⟨hbroken, hframe⟩
      | object members => exact ih (numbers_object hframe false) hframes
      | member members key =>
          refine ih (numbers_object ?_ false) hframes
          exact List.forall_mem_cons.mpr ⟨hbroken, hframe⟩

theorem State.numbers_broken {frames : List Frame} (h : ∀ frame ∈ frames, frame.Numbers p) :
    (State.past (enclose .fault frames) false).Numbers p :=
  numbers_enclose numbers_fault h

theorem State.numbers_deliver {value : Document} (hvalue : value.Numbers p) {frames : List Frame}
    (h : ∀ frame ∈ frames, frame.Numbers p) : (State.deliver value frames).Numbers p := by
  unfold State.deliver
  split
  · exact hvalue
  · obtain ⟨hitems, hframes⟩ := List.forall_mem_cons.mp h
    exact List.forall_mem_cons.mpr ⟨List.forall_mem_cons.mpr ⟨hvalue, hitems⟩, hframes⟩
  · obtain ⟨hmembers, hframes⟩ := List.forall_mem_cons.mp h
    exact List.forall_mem_cons.mpr ⟨List.forall_mem_cons.mpr ⟨hvalue, hmembers⟩, hframes⟩
  · exact State.numbers_broken h

theorem State.numbers_begin {frames : List Frame} (h : ∀ frame ∈ frames, frame.Numbers p)
    {token : Token} (htoken : token.Numbers p) : (State.begin frames token).Numbers p := by
  unfold State.begin
  split
  · exact List.forall_mem_cons.mpr ⟨fun _ hitem => absurd hitem List.not_mem_nil, h⟩
  · exact List.forall_mem_cons.mpr ⟨fun _ hmember => absurd hmember List.not_mem_nil, h⟩
  · exact State.numbers_deliver (show Document.Numbers p .null from trivial) h
  · exact State.numbers_deliver (show Document.Numbers p (.bool _) from trivial) h
  · next value =>
    refine State.numbers_deliver ?_ h
    cases value with
    | none => trivial
    | some n => exact htoken
  · exact State.numbers_deliver (show Document.Numbers p (.text _) from trivial) h
  · exact State.numbers_broken h

theorem State.numbers_closeArray {items : List Document} {frames : List Frame}
    (h : ∀ frame ∈ Frame.array items :: frames, frame.Numbers p) :
    (State.deliver (.array items.reverse true) frames).Numbers p := by
  obtain ⟨hitems, hframes⟩ := List.forall_mem_cons.mp h
  exact State.numbers_deliver (numbers_array hitems true) hframes

theorem State.numbers_closeObject {members : List (Option String × Document)}
    {frames : List Frame} (h : ∀ frame ∈ Frame.object members :: frames, frame.Numbers p) :
    (State.deliver (.object members.reverse true) frames).Numbers p := by
  obtain ⟨hmembers, hframes⟩ := List.forall_mem_cons.mp h
  exact State.numbers_deliver (numbers_object hmembers true) hframes

theorem State.numbers_key {members : List (Option String × Document)} {frames : List Frame}
    (h : ∀ frame ∈ Frame.object members :: frames, frame.Numbers p) (key : Option String)
    (want : Want) : (State.inside (.member members key :: frames) want).Numbers p := by
  obtain ⟨hmembers, hframes⟩ := List.forall_mem_cons.mp h
  exact List.forall_mem_cons.mpr ⟨hmembers, hframes⟩

theorem State.numbers_step {state : State} (h : state.Numbers p) {token : Token}
    (htoken : token.Numbers p) : (state.step token).Numbers p := by
  unfold State.step
  split
  · exact h
  · exact State.numbers_closeArray h
  · exact State.numbers_begin h htoken
  · exact State.numbers_begin h htoken
  · exact State.numbers_closeObject h
  · exact State.numbers_key h _ _
  · exact State.numbers_key h _ _
  · exact h
  · exact h
  · exact State.numbers_closeArray h
  · exact h
  · exact State.numbers_closeObject h
  · exact State.numbers_broken h

theorem State.numbers_foldl {tokens : List Token} (htokens : ∀ token ∈ tokens, token.Numbers p)
    {state : State} (h : state.Numbers p) : (tokens.foldl State.step state).Numbers p := by
  induction tokens generalizing state with
  | nil => exact h
  | cons token tokens ih =>
      obtain ⟨htoken, htokens⟩ := List.forall_mem_cons.mp htokens
      exact ih htokens (State.numbers_step h htoken)

theorem fitsWord_ofText (text : String) : (ofText text).1.Numbers Number.FitsWord := by
  have hstart : (State.inside [] .value).Numbers Number.FitsWord :=
    fun _ hframe => absurd hframe List.not_mem_nil
  have hend := State.numbers_foldl (Token.fitsWord_scan text.toList) hstart
  unfold ofText ofTokens
  split
  · next root clean hpast =>
    rw [hpast] at hend
    exact hend
  -- A text that ends too early leaves open containers with all their parts.
  · next frames want hinside =>
    rw [hinside] at hend
    exact numbers_enclose numbers_fault hend

/-! ## Values -/

theorem ifEnded_eq_ok_iff {ended : Bool} {a b : α} :
    ifEnded ended a = .ok b ↔ ended = true ∧ a = b := by
  cases ended <;> simp [ifEnded]

mutual

theorem everywhere_toValue {source : Source} {v : Json} : (document : Document) →
    document.Numbers p → document.toValue source = .ok v → v.Everywhere p Ascending
  | .null, _, h | .bool _, _, h | .text (some _), _, h => by
    cases h
    trivial
  | .number (some _), hn, h => by
    cases h
    exact hn
  | .number none, _, h | .text none, _, h | .fault, _, h => nomatch h
  | .array items ended, hitems, h => by
    rw [toValue] at h
    obtain ⟨inner, -, h⟩ := bind_eq_ok_iff.mp h
    obtain ⟨values, hvalues, h⟩ := bind_eq_ok_iff.mp h
    obtain ⟨-, rfl⟩ := ifEnded_eq_ok_iff.mp h
    exact everywhere_toItems items hitems hvalues
  | .object members ended, hmembers, h => by
    rw [toValue] at h
    obtain ⟨inner, -, h⟩ := bind_eq_ok_iff.mp h
    obtain ⟨values, hvalues, h⟩ := bind_eq_ok_iff.mp h
    obtain ⟨-, rfl⟩ := ifEnded_eq_ok_iff.mp h
    refine ⟨ascending_sortMembers values, everywhereMembers_iff.mpr fun member hmember => ?_⟩
    exact everywhereMembers_iff.mp (everywhere_toMembers members hmembers hvalues) member
      (mem_sortMembers hmember)

theorem everywhere_toItems {source : Source} {values : List Json} : (items : List Document) →
    NumbersItems p items → toItems source items = .ok values → EverywhereItems p Ascending values
  | [], _, h => by
    cases h
    trivial
  | item :: items, ⟨hitem, hitems⟩, h => by
    rw [toItems] at h
    obtain ⟨value, hvalue, h⟩ := bind_eq_ok_iff.mp h
    obtain ⟨values, hvalues, h⟩ := bind_eq_ok_iff.mp h
    cases h
    exact ⟨everywhere_toValue item hitem hvalue, everywhere_toItems items hitems hvalues⟩

theorem everywhere_toMembers {source : Source} {values : List (String × Json)} :
    (members : List (Option String × Document)) → NumbersMembers p members →
      toMembers source members = .ok values → EverywhereMembers p Ascending values
  | [], _, h => by
    cases h
    trivial
  | (none, _) :: _, _, h => nomatch h
  | (some key, document) :: members, ⟨hdocument, hmembers⟩, h => by
    rw [toMembers] at h
    obtain ⟨value, hvalue, h⟩ := bind_eq_ok_iff.mp h
    obtain ⟨values, hvalues, h⟩ := bind_eq_ok_iff.mp h
    cases h
    exact ⟨everywhere_toValue document hdocument hvalue,
      everywhere_toMembers members hmembers hvalues⟩

end

end Document

/-! ## Room -/

namespace Source

/-- Whether the source has room for so many containers inside one another. -/
def Admits : Source → Nat → Prop
  | .text room, depth => depth ≤ room
  | .value, _ => True

variable {source : Source} {m n : Nat}

theorem admits_zero (source : Source) : source.Admits 0 := by
  cases source with
  | text room => exact Nat.zero_le room
  | value => trivial

theorem admits_max_iff : source.Admits (max m n) ↔ source.Admits m ∧ source.Admits n := by
  cases source with
  | text room => exact Nat.max_le
  | value => simp [Admits]

theorem admits_succ_iff : source.Admits (n + 1) ↔ ∃ inner, source.enter = .ok inner ∧ inner.Admits n := by
  cases source with
  | text room =>
      cases room with
      | zero => simp [Admits, enter]
      | succ room => simp [Admits, enter]
  | value => simp [Admits, enter]

theorem Admits.of_le (h : source.Admits n) (hle : m ≤ n) : source.Admits m := by
  cases source with
  | text room => exact Nat.le_trans hle h
  | value => trivial

theorem admits_of_mem_items {items : List Json} (h : source.Admits (depthItems items)) {item : Json}
    (hmem : item ∈ items) : source.Admits item.depth := by
  induction items with
  | nil => cases hmem
  | cons first items ih =>
      obtain ⟨hfirst, hitems⟩ := admits_max_iff.mp h
      rcases List.mem_cons.mp hmem with rfl | hmem
      · exact hfirst
      · exact ih hitems hmem

end Source

namespace Document

variable {number : Number → Prop}

mutual

theorem toValue_ofValue_eq_sorted : (v : Json) → {source : Source} → source.Admits v.depth →
    (ofValue v).toValue source = .ok v.sorted
  | .null, _, _ | .bool _, _, _ | .num _, _, _ | .str _, _, _ => rfl
  | .arr items, source, hroom => by
    obtain ⟨inner, henter, hinner⟩ := Source.admits_succ_iff.mp hroom
    rw [ofValue, toValue, henter]
    refine bind_eq_ok_iff.mpr ⟨inner, rfl, ?_⟩
    rw [toItems_ofItems items hinner]
    rfl
  | .obj members, source, hroom => by
    obtain ⟨inner, henter, hinner⟩ := Source.admits_succ_iff.mp hroom
    rw [ofValue, toValue, henter]
    refine bind_eq_ok_iff.mpr ⟨inner, rfl, ?_⟩
    rw [toMembers_ofMembers members hinner]
    rfl

theorem toItems_ofItems : (items : List Json) → {source : Source} →
    source.Admits (depthItems items) → toItems source (ofItems items) = .ok (sortedItems items)
  | [], _, _ => rfl
  | item :: items, source, hroom => by
    obtain ⟨hfirst, hrest⟩ := Source.admits_max_iff.mp hroom
    rw [ofItems, toItems, toValue_ofValue_eq_sorted item hfirst, toItems_ofItems items hrest]
    rfl

theorem toMembers_ofMembers : (members : List (String × Json)) → {source : Source} →
    source.Admits (depthMembers members) →
      toMembers source (ofMembers members) = .ok (sortedMembers members)
  | [], _, _ => rfl
  | (key, value) :: members, source, hroom => by
    obtain ⟨hfirst, hrest⟩ := Source.admits_max_iff.mp hroom
    rw [ofMembers, toMembers, toValue_ofValue_eq_sorted value hfirst,
      toMembers_ofMembers members hrest]
    rfl

end

theorem toValue_ofValue (v : Json) (h : v.Everywhere number Ascending) {source : Source}
    (hroom : source.Admits v.depth) : (ofValue v).toValue source = .ok v := by
  rw [toValue_ofValue_eq_sorted v hroom, sorted_eq_self v h]

mutual

theorem admits_depth_of_toValue {source : Source} {v : Json} : (document : Document) →
    document.toValue source = .ok v → source.Admits v.depth
  | .null, h | .bool _, h | .text (some _), h | .number (some _), h => by
    cases h
    exact source.admits_zero
  | .number none, h | .text none, h | .fault, h => nomatch h
  | .array items ended, h => by
    rw [toValue] at h
    obtain ⟨inner, henter, h⟩ := bind_eq_ok_iff.mp h
    obtain ⟨values, hvalues, h⟩ := bind_eq_ok_iff.mp h
    obtain ⟨-, rfl⟩ := ifEnded_eq_ok_iff.mp h
    exact Source.admits_succ_iff.mpr ⟨inner, henter, admits_depth_of_toItems items hvalues⟩
  | .object members ended, h => by
    rw [toValue] at h
    obtain ⟨inner, henter, h⟩ := bind_eq_ok_iff.mp h
    obtain ⟨values, hvalues, h⟩ := bind_eq_ok_iff.mp h
    obtain ⟨-, rfl⟩ := ifEnded_eq_ok_iff.mp h
    have hroom : inner.Admits (depthMembers values) := admits_depth_of_toMembers members hvalues
    exact Source.admits_succ_iff.mpr
      ⟨inner, henter, hroom.of_le (depthMembers_sortMembers_le values)⟩

theorem admits_depth_of_toItems {source : Source} {values : List Json} : (items : List Document) →
    toItems source items = .ok values → source.Admits (depthItems values)
  | [], h => by
    cases h
    exact source.admits_zero
  | item :: items, h => by
    rw [toItems] at h
    obtain ⟨value, hvalue, h⟩ := bind_eq_ok_iff.mp h
    obtain ⟨values, hvalues, h⟩ := bind_eq_ok_iff.mp h
    cases h
    exact Source.admits_max_iff.mpr
      ⟨admits_depth_of_toValue item hvalue, admits_depth_of_toItems items hvalues⟩

theorem admits_depth_of_toMembers {source : Source} {values : List (String × Json)} :
    (members : List (Option String × Document)) → toMembers source members = .ok values →
      source.Admits (depthMembers values)
  | [], h => by
    cases h
    exact source.admits_zero
  | (none, _) :: _, h => nomatch h
  | (some key, document) :: members, h => by
    rw [toMembers] at h
    obtain ⟨value, hvalue, h⟩ := bind_eq_ok_iff.mp h
    obtain ⟨values, hvalues, h⟩ := bind_eq_ok_iff.mp h
    cases h
    exact Source.admits_max_iff.mpr
      ⟨admits_depth_of_toValue document hvalue, admits_depth_of_toMembers members hvalues⟩

end

mutual

theorem admits_of_toValue : (v : Json) → {source : Source} → {w : Json} →
    (ofValue v).toValue source = .ok w → source.Admits v.depth
  | .null, source, _, _ | .bool _, source, _, _ | .num _, source, _, _ | .str _, source, _, _ =>
    source.admits_zero
  | .arr items, source, w, h => by
    rw [ofValue, toValue] at h
    obtain ⟨inner, henter, h⟩ := bind_eq_ok_iff.mp h
    obtain ⟨values, hvalues, -⟩ := bind_eq_ok_iff.mp h
    exact Source.admits_succ_iff.mpr ⟨inner, henter, admits_of_toItems items hvalues⟩
  | .obj members, source, w, h => by
    rw [ofValue, toValue] at h
    obtain ⟨inner, henter, h⟩ := bind_eq_ok_iff.mp h
    obtain ⟨values, hvalues, -⟩ := bind_eq_ok_iff.mp h
    exact Source.admits_succ_iff.mpr ⟨inner, henter, admits_of_toMembers members hvalues⟩

theorem admits_of_toItems : (items : List Json) → {source : Source} → {values : List Json} →
    toItems source (ofItems items) = .ok values → source.Admits (depthItems items)
  | [], source, _, _ => source.admits_zero
  | item :: items, source, _, h => by
    rw [ofItems, toItems] at h
    obtain ⟨value, hvalue, h⟩ := bind_eq_ok_iff.mp h
    obtain ⟨values, hvalues, -⟩ := bind_eq_ok_iff.mp h
    exact Source.admits_max_iff.mpr ⟨admits_of_toValue item hvalue, admits_of_toItems items hvalues⟩

theorem admits_of_toMembers : (members : List (String × Json)) → {source : Source} →
    {values : List (String × Json)} → toMembers source (ofMembers members) = .ok values →
      source.Admits (depthMembers members)
  | [], source, _, _ => source.admits_zero
  | (key, value) :: members, source, _, h => by
    rw [ofMembers, toMembers] at h
    obtain ⟨first, hfirst, h⟩ := bind_eq_ok_iff.mp h
    obtain ⟨values, hvalues, -⟩ := bind_eq_ok_iff.mp h
    exact Source.admits_max_iff.mpr ⟨admits_of_toValue value hfirst, admits_of_toMembers members hvalues⟩

end

end Document

end Json

end MoveCanvas
