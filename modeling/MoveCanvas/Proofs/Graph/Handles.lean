import Mathlib.Data.List.Basic
import MoveCanvas.Graph.Handle
import MoveCanvas.Proofs.Text.Numerals

/-! # Handles on the wire

A slot is spelled by its kind, a dash and a numeral for an index below `2 ^ 64`. What is neither a
slot nor one of the four fixed words is kept as it is. A handle that was read is written in one
spelling, however it was spelled before, and that spelling is read as the same handle. -/

namespace MoveCanvas.Handle

def words : List (String × Handle) :=
  [("", .unspecified), ("obj-main", .objectMain), ("return-val", .returnValue),
    ("witness-input", .witnessInput)]

def kinds : List String :=
  ["field", "param"]

/-- The kind, a dash and a numeral for the index, which fits into 64 bits. -/
def IsSlot (kind spelling : String) (index : Nat) : Prop :=
  ∃ numeral : String, spelling = kind ++ "-" ++ numeral ∧ Text.Denotes numeral.toList index ∧
    index < 0x10000000000000000

inductive Reads : String → Handle → Prop
  | word {spelling : String} {handle : Handle} (hword : (spelling, handle) ∈ words) :
      Reads spelling handle
  | field {spelling : String} {index : Nat} (hslot : IsSlot "field" spelling index) :
      Reads spelling (.field index)
  | param {spelling : String} {index : Nat} (hslot : IsSlot "param" spelling index) :
      Reads spelling (.param index)
  | other {spelling : String} (hword : spelling ∉ words.map Prod.fst)
      (hslot : ∀ kind ∈ kinds, ∀ index, ¬ IsSlot kind spelling index) :
      Reads spelling (.other spelling)

variable {spelling kind kind' numeral : String} {index n : Nat} {handle : Handle}

theorem toList_dash (kind numeral : String) :
    (kind ++ "-" ++ numeral).toList = kind.toList ++ '-' :: numeral.toList := by
  rw [String.toList_append, String.toList_append, List.append_assoc]
  rfl

/-- The dash in front of a numeral is the last one. -/
theorem cutLast?_dash (h : Text.Denotes numeral.toList n) :
    Text.cutLast? '-' (kind ++ "-" ++ numeral).toList = some (kind.toList, numeral.toList) :=
  Text.cutLast?_eq_some_iff.mpr ⟨toList_dash kind numeral, h.minus_not_mem⟩

theorem isSlot_iff : IsSlot kind spelling index ↔ ∃ numeral,
    Text.cutLast? '-' spelling.toList = some (kind.toList, numeral) ∧
      Text.unsigned? indexLimit numeral = some index := by
  constructor
  · rintro ⟨numeral, rfl, hdenotes, hlt⟩
    exact ⟨numeral.toList, cutLast?_dash hdenotes, Text.unsigned?_iff_denotes.mpr ⟨hdenotes, hlt⟩⟩
  · rintro ⟨numeral, hcut, hindex⟩
    obtain ⟨hdenotes, hlt⟩ := Text.unsigned?_iff_denotes.mp hindex
    refine ⟨String.ofList numeral, ?_, by rwa [String.toList_ofList], hlt⟩
    rw [← String.toList_inj, toList_dash, String.toList_ofList]
    exact (Text.cutLast?_eq_some_iff.mp hcut).1

theorem isSlot_dash_iff (h : Text.Denotes numeral.toList n) :
    IsSlot kind (kind' ++ "-" ++ numeral) index ↔
      kind = kind' ∧ index = n ∧ n < 0x10000000000000000 := by
  rw [isSlot_iff, cutLast?_dash h]
  simp only [Option.some.injEq, Prod.mk.injEq, String.toList_inj]
  constructor
  · rintro ⟨_, ⟨rfl, rfl⟩, hindex⟩
    obtain ⟨hdenotes, hlt⟩ := Text.unsigned?_iff_denotes.mp hindex
    obtain rfl : index = n := hdenotes.unique h
    exact ⟨rfl, rfl, hlt⟩
  · rintro ⟨rfl, rfl, hlt⟩
    exact ⟨_, ⟨rfl, rfl⟩, Text.unsigned?_iff_denotes.mpr ⟨h, hlt⟩⟩

theorem dash_not_mem_words (h : Text.Denotes numeral.toList n) :
    kind ++ "-" ++ numeral ∉ words.map Prod.fst := by
  intro hmem
  have hnone : ∀ word ∈ words.map Prod.fst, (Text.cutLast? '-' word.toList).bind
      (fun cut => Text.ofDigits? (Text.withoutPlus cut.2)) = none := by decide
  have hself : Text.ofDigits? (Text.withoutPlus numeral.toList) = none := by
    simpa only [cutLast?_dash h, Option.bind_some] using hnone _ hmem
  rw [Text.ofDigits?_withoutPlus_iff_denotes.mpr h] at hself
  cases hself

theorem slot?_eq_some_iff :
    slot? spelling = some handle ↔ ∃ index,
      (IsSlot "field" spelling index ∧ handle = .field index) ∨
        (IsSlot "param" spelling index ∧ handle = .param index) := by
  constructor
  · intro h
    unfold slot? at h
    split at h
    · cases h
    · next kind numeral hcut =>
      split at h
      · cases h
      · next index hindex =>
        split at h
        · next hkind =>
          cases h
          exact ⟨index, .inl ⟨isSlot_iff.mpr ⟨numeral, hkind ▸ hcut, hindex⟩, rfl⟩⟩
        · split at h
          · next hkind =>
            cases h
            exact ⟨index, .inr ⟨isSlot_iff.mpr ⟨numeral, hkind ▸ hcut, hindex⟩, rfl⟩⟩
          · cases h
  · rintro ⟨index, ⟨hslot, rfl⟩ | ⟨hslot, rfl⟩⟩
    · obtain ⟨numeral, hcut, hindex⟩ := isSlot_iff.mp hslot
      simp [slot?, hcut, hindex]
    · obtain ⟨numeral, hcut, hindex⟩ := isSlot_iff.mp hslot
      simp [slot?, hcut, hindex]

theorem slot?_eq_none_iff :
    slot? spelling = none ↔ ∀ kind ∈ kinds, ∀ index, ¬ IsSlot kind spelling index := by
  simp only [Option.eq_none_iff_forall_ne_some, ne_eq, slot?_eq_some_iff, kinds,
    List.forall_mem_cons, List.not_mem_nil]
  constructor
  · intro h
    exact ⟨fun index hslot => h _ ⟨index, .inl ⟨hslot, rfl⟩⟩,
      fun index hslot => h _ ⟨index, .inr ⟨hslot, rfl⟩⟩, fun _ hmem => hmem.elim⟩
  · rintro ⟨hfield, hparam, -⟩ handle ⟨index, ⟨hslot, -⟩ | ⟨hslot, -⟩⟩
    · exact hfield index hslot
    · exact hparam index hslot

theorem ofSpelling_of_mem_words (h : (spelling, handle) ∈ words) :
    ofSpelling spelling = handle := by
  have hall : ∀ word ∈ words, ofSpelling word.1 = word.2 := by decide
  exact hall _ h

theorem ofSpelling_of_not_mem_words (h : spelling ∉ words.map Prod.fst) :
    ofSpelling spelling = (slot? spelling).getD (.other spelling) := by
  simp only [words, List.map_cons, List.map_nil, List.mem_cons, List.not_mem_nil, or_false,
    not_or] at h
  obtain ⟨hempty, hmain, hreturn, hwitness⟩ := h
  rw [ofSpelling, if_neg hempty, if_neg hmain, if_neg hreturn, if_neg hwitness]

theorem IsSlot.not_mem_words (h : IsSlot kind spelling index) : spelling ∉ words.map Prod.fst := by
  obtain ⟨numeral, rfl, hdenotes, -⟩ := h
  exact dash_not_mem_words hdenotes

theorem Reads.ofSpelling_eq (h : Reads spelling handle) : ofSpelling spelling = handle := by
  cases h with
  | word hword => exact ofSpelling_of_mem_words hword
  | field hslot =>
      rw [ofSpelling_of_not_mem_words hslot.not_mem_words,
        slot?_eq_some_iff.mpr ⟨_, .inl ⟨hslot, rfl⟩⟩, Option.getD_some]
  | param hslot =>
      rw [ofSpelling_of_not_mem_words hslot.not_mem_words,
        slot?_eq_some_iff.mpr ⟨_, .inr ⟨hslot, rfl⟩⟩, Option.getD_some]
  | other hword hslot =>
      rw [ofSpelling_of_not_mem_words hword, slot?_eq_none_iff.mpr hslot, Option.getD_none]

theorem reads_ofSpelling (spelling : String) : Reads spelling (ofSpelling spelling) := by
  by_cases hword : spelling ∈ words.map Prod.fst
  · obtain ⟨⟨_, handle⟩, hmem, rfl⟩ := List.mem_map.mp hword
    rw [ofSpelling_of_mem_words hmem]
    exact .word hmem
  · rw [ofSpelling_of_not_mem_words hword]
    cases hslot : slot? spelling with
    | none => exact .other hword (slot?_eq_none_iff.mp hslot)
    | some handle =>
        obtain ⟨index, ⟨hfield, rfl⟩ | ⟨hparam, rfl⟩⟩ := slot?_eq_some_iff.mp hslot
        · exact .field hfield
        · exact .param hparam

theorem ofSpelling_eq_iff : ofSpelling spelling = handle ↔ Reads spelling handle :=
  ⟨fun h => h ▸ reads_ofSpelling spelling, Reads.ofSpelling_eq⟩

theorem ofSpelling_eq_field_iff :
    ofSpelling spelling = .field index ↔ IsSlot "field" spelling index := by
  rw [ofSpelling_eq_iff]
  refine ⟨fun h => ?_, .field⟩
  cases h with
  | word hword => exact absurd hword (by simp [words])
  | field hslot => exact hslot

theorem ofSpelling_eq_param_iff :
    ofSpelling spelling = .param index ↔ IsSlot "param" spelling index := by
  rw [ofSpelling_eq_iff]
  refine ⟨fun h => ?_, .param⟩
  cases h with
  | word hword => exact absurd hword (by simp [words])
  | param hslot => exact hslot

theorem ofSpelling_eq_other_iff {kept : String} :
    ofSpelling spelling = .other kept ↔ kept = spelling ∧ spelling ∉ words.map Prod.fst ∧
      ∀ kind ∈ kinds, ∀ index, ¬ IsSlot kind spelling index := by
  rw [ofSpelling_eq_iff]
  constructor
  · intro h
    cases h with
    | word hword => exact absurd hword (by simp [words])
    | other hword hslot => exact ⟨rfl, hword, hslot⟩
  · rintro ⟨rfl, hword, hslot⟩
    exact .other hword hslot

theorem ofSpelling_dash_eq_other_iff (h : Text.Denotes numeral.toList n) :
    ofSpelling (kind ++ "-" ++ numeral) = .other (kind ++ "-" ++ numeral) ↔
      0x10000000000000000 ≤ n ∨ kind ∉ kinds := by
  rw [ofSpelling_eq_other_iff]
  simp only [isSlot_dash_iff h, dash_not_mem_words h, not_false_eq_true, true_and]
  constructor
  · intro hnone
    by_cases hkind : kind ∈ kinds
    · exact .inl (Nat.le_of_not_lt fun hlt => hnone kind hkind n ⟨rfl, rfl, hlt⟩)
    · exact .inr hkind
  · rintro (hlarge | hkind) kind' hmem index ⟨rfl, rfl, hlt⟩
    · exact absurd hlt (Nat.not_lt_of_le hlarge)
    · exact hkind hmem

theorem append_dash_not_mem_kinds (kind : String) : kind ++ "-" ∉ kinds := by
  intro hmem
  have hlast : ∀ kind ∈ kinds, kind.toList.getLast? ≠ some '-' := by decide
  apply hlast _ hmem
  rw [String.toList_append]
  exact List.getLast?_concat ..

theorem isSlot_toString (kind : String) (h : index < 0x10000000000000000) :
    IsSlot kind (kind ++ "-" ++ toString index) index := by
  refine ⟨toString index, rfl, ?_, h⟩
  rw [Nat.toString_eq_ofList_toDigits, String.toList_ofList]
  exact Text.denotes_toDigits index

theorem IsSlot.index_lt (h : IsSlot kind spelling index) : index < 0x10000000000000000 := by
  obtain ⟨-, -, -, hlt⟩ := h
  exact hlt

theorem Reads.ofWire_wire (h : Reads spelling handle) : ofWire handle.wire = handle := by
  cases h with
  | word hword =>
      have hall : ∀ word ∈ words, ofWire word.2.wire = word.2 := by decide
      exact hall _ hword
  | field hslot => exact ofSpelling_eq_field_iff.mpr (isSlot_toString "field" hslot.index_lt)
  | param hslot => exact ofSpelling_eq_param_iff.mpr (isSlot_toString "param" hslot.index_lt)
  | other hword hslot => exact ofSpelling_eq_iff.mpr (.other hword hslot)

theorem ofWire_wire_ofWire : (raw : Option String) → ofWire (ofWire raw).wire = ofWire raw
  | none => rfl
  | some spelling => (reads_ofSpelling spelling).ofWire_wire

/-- Reading gives back a handle that was read and then written, so that handles that were read are
written alike only if they are the same. A slot is read exactly where its kind, a dash and a numeral
for its index stand. Whatever is neither a slot nor a word is kept as it is, among it a numeral that
is too large, one with a minus sign and one behind another kind. -/
theorem ofWire_wire_and_slots :
    (∀ raw : Option String, ofWire (ofWire raw).wire = ofWire raw) ∧
    (∀ raw raw' : Option String,
      (ofWire raw).wire = (ofWire raw').wire ↔ ofWire raw = ofWire raw') ∧
    (∀ (raw : Option String) (index : Nat),
      (ofWire raw = .field index ↔
        ∃ spelling, raw = some spelling ∧ IsSlot "field" spelling index) ∧
      (ofWire raw = .param index ↔
        ∃ spelling, raw = some spelling ∧ IsSlot "param" spelling index)) ∧
    (∀ (raw : Option String) (kept : String), ofWire raw = .other kept ↔
      raw = some kept ∧ kept ∉ words.map Prod.fst ∧
        ∀ kind ∈ kinds, ∀ index, ¬ IsSlot kind kept index) ∧
    ∀ (kind numeral : String) (n : Nat), Text.Denotes numeral.toList n →
      (ofWire (some (kind ++ "-" ++ numeral)) = .other (kind ++ "-" ++ numeral) ↔
        0x10000000000000000 ≤ n ∨ kind ∉ kinds) ∧
      ofWire (some (kind ++ "-" ++ "-" ++ numeral)) = .other (kind ++ "-" ++ "-" ++ numeral) := by
  refine ⟨ofWire_wire_ofWire, fun raw raw' => ⟨fun h => ?_, congrArg wire⟩, fun raw index => ?_,
    fun raw kept => ?_, fun kind numeral n hdenotes => ⟨ofSpelling_dash_eq_other_iff hdenotes, ?_⟩⟩
  · rw [← ofWire_wire_ofWire raw, h, ofWire_wire_ofWire]
  · cases raw with
    | none => simp [ofWire]
    | some spelling => simp [ofWire, ofSpelling_eq_field_iff, ofSpelling_eq_param_iff]
  · cases raw with
    | none => simp [ofWire]
    | some spelling =>
        rw [ofWire, ofSpelling_eq_other_iff, Option.some.injEq]
        constructor
        · rintro ⟨rfl, hkept⟩
          exact ⟨rfl, hkept⟩
        · rintro ⟨rfl, hkept⟩
          exact ⟨rfl, hkept⟩
  · -- what stands in front of the last dash ends with the minus sign then
    exact (ofSpelling_dash_eq_other_iff hdenotes).mpr (.inr (append_dash_not_mem_kinds kind))

/-- The least index that is too large, behind a plus sign. -/
theorem ofWire_wire_and_slots_limit :
    Text.Denotes "+18446744073709551616".toList 0x10000000000000000 ∧
      ofWire (some ("param" ++ "-" ++ "+18446744073709551616")) =
        .other ("param" ++ "-" ++ "+18446744073709551616") := by
  have hdenotes : Text.Denotes "+18446744073709551616".toList 0x10000000000000000 :=
    Text.ofDigits?_withoutPlus_iff_denotes.mp (by decide)
  obtain ⟨-, -, -, -, hnumerals⟩ := ofWire_wire_and_slots
  exact ⟨hdenotes, (hnumerals "param" _ _ hdenotes).1.mpr (.inl (Nat.le_refl _))⟩

/-- A second spelling of a slot, and a minus sign. -/
example : ofSpelling "field-+007" = .field 7 ∧ (ofSpelling "field-+007").wire = some "field-7" ∧
    ofSpelling "field--7" = .other "field--7" := by decide

end MoveCanvas.Handle
