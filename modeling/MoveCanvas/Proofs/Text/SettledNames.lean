import MoveCanvas.Proofs.Text.BareNames
import MoveCanvas.Proofs.Text.JoinedLabels
import MoveCanvas.Proofs.Text.Lowered

/-! # Names of names

The name that a label gives to a type or to a function is not empty, and it is its own name. A label
is its own name if it is a type expression, or if no path separator and no blank is left in it; as a
function it has to be in lower case too. Joining a path leaves no separator, however many colons
stand in a row, and the lower case brings neither a separator nor a blank back. -/

namespace MoveCanvas.Identifier

variable {cs : List Char} {c : Char} {label : String}

theorem eq_colon_of_mem_lowerChar (h : ':' ∈ Text.lowerChar c) : c = ':' := by
  rcases Text.ascii_of_mem_lowerChar h (by decide) with hascii | rfl | rfl
  · rw [Text.lowerChar_of_ascii hascii, List.mem_singleton] at h
    exact toLower_eq_colon_iff.mp h.symm
  · exact absurd h (by decide)
  · rw [Text.lowerChar_kelvin] at h
    exact absurd h (by decide)

theorem lowerHead_ne_nil (before after : List Char) (c : Char) :
    (if c = 'Σ' then [Text.lowerSigma before after] else Text.lowerChar c) ≠ [] := by
  split
  · exact List.cons_ne_nil _ _
  · exact Text.lowerChar_ne_nil c

theorem eq_colon_of_mem_lowerHead {before after : List Char}
    (h : ':' ∈ if c = 'Σ' then [Text.lowerSigma before after] else Text.lowerChar c) : c = ':' := by
  rcases Text.mem_lowerHead h with hlower | hsigma | hsigma
  · exact eq_colon_of_mem_lowerChar hlower
  · exact absurd hsigma (by decide)
  · exact absurd hsigma (by decide)

theorem colon_prefix_of_lowerAfter {before : List Char} (h : [':'] <+: Text.lowerAfter before cs) :
    [':'] <+: cs := by
  cases cs with
  | nil => exact h
  | cons c cs =>
      obtain ⟨d, front, hfront⟩ := List.exists_cons_of_ne_nil (lowerHead_ne_nil before cs c)
      rw [Text.lowerAfter, hfront, List.cons_append, List.cons_prefix_cons] at h
      have hmem : ':' ∈ if c = 'Σ' then [Text.lowerSigma before cs] else Text.lowerChar c := by
        rw [hfront, h.1]
        exact List.mem_cons_self
      have hcolon : c = ':' := eq_colon_of_mem_lowerHead hmem
      exact List.cons_prefix_cons.mpr ⟨hcolon.symm, List.nil_prefix⟩

theorem isJoined_append {front : List Char} (hcs : IsJoined cs)
    (hfront : ∀ c ∈ front, c ≠ ':' ∧ Text.isBlank c = false) : IsJoined (front ++ cs) := by
  induction front with
  | nil => exact hcs
  | cons c front ih =>
      obtain ⟨⟨hcolon, hblank⟩, hrest⟩ := List.forall_mem_cons.mp hfront
      exact isJoined_cons_iff.mpr ⟨fun h => hcolon h.1, hblank, ih hrest⟩

theorem isJoined_lowerAfter {before : List Char} (h : IsJoined cs) :
    IsJoined (Text.lowerAfter before cs) := by
  induction cs generalizing before with
  | nil => exact h
  | cons c cs ih =>
      obtain ⟨hpair, hblank, hrest⟩ := isJoined_cons_iff.mp h
      rw [Text.lowerAfter]
      by_cases hcolon : c = ':'
      · subst hcolon
        have hself : Text.lowerChar ':' = [':'] := Text.lowerChar_of_ascii (by decide)
        rw [if_neg (by decide), hself, List.singleton_append, isJoined_cons_iff]
        exact ⟨fun h => hpair ⟨rfl, colon_prefix_of_lowerAfter h.2⟩, rfl, ih hrest⟩
      · refine isJoined_append (ih hrest) fun d hd => ⟨?_, ?_⟩
        · rintro rfl
          exact hcolon (eq_colon_of_mem_lowerHead hd)
        · rw [Bool.eq_false_iff]
          intro hblank'
          rcases Text.mem_lowerHead hd with hlower | rfl | rfl
          · rw [Text.isBlank_of_mem_lowerChar hlower hblank'] at hblank
            cases hblank
          · exact absurd hblank' (by decide)
          · exact absurd hblank' (by decide)

theorem isJoined_lowercase (h : IsJoined cs) : IsJoined (Text.lowercase cs) :=
  isJoined_lowerAfter h

theorem spelled_ne_nil (label : String) : spelled label ≠ [] := by
  unfold spelled
  split
  · decide
  · next hlabel => rwa [ne_eq, String.toList_eq_nil_iff]

theorem declaration_of_bracket (h : '<' ∈ label.toList) : declaration label = label := by
  rw [declaration, if_neg (ne_empty_of_bracket h), if_pos h]

theorem isJoined_declaration (h : '<' ∉ label.toList) : IsJoined (declaration label).toList := by
  rw [declaration_of_plain h, String.toList_ofList]
  exact isJoined_joined _

theorem isJoined_callable (h : '<' ∉ label.toList) : IsJoined (callable label).toList := by
  rw [callable_of_plain h, String.toList_ofList]
  exact isJoined_lowercase (isJoined_joined _)

theorem declaration_ne_empty (label : String) : declaration label ≠ "" := by
  by_cases h : '<' ∈ label.toList
  · rw [declaration_of_bracket h]
    exact ne_empty_of_bracket h
  · rw [declaration_of_plain h, ne_eq, ← String.toList_eq_nil_iff, String.toList_ofList,
      joined_eq_nil_iff]
    exact spelled_ne_nil label

theorem callable_ne_empty (label : String) : callable label ≠ "" := by
  by_cases h : '<' ∈ label.toList
  · rw [callable_of_bracket h]
    exact ne_empty_of_bracket h
  · rw [callable_of_plain h, ne_eq, ← String.toList_eq_nil_iff, String.toList_ofList,
      Text.lowercase, Text.lowerAfter_eq_nil_iff, joined_eq_nil_iff]
    exact spelled_ne_nil label

theorem declaration_eq_self_iff : declaration label = label ↔
    label ≠ "" ∧ ('<' ∈ label.toList ∨ IsJoined label.toList) := by
  by_cases hempty : label = ""
  · subst hempty
    exact iff_of_false (by decide) fun h => h.1 rfl
  · by_cases hbracket : '<' ∈ label.toList
    · exact iff_of_true (declaration_of_bracket hbracket) ⟨hempty, .inl hbracket⟩
    · rw [declaration_of_plain hbracket, spelled_of_ne hempty, ← String.toList_inj,
        String.toList_ofList, joined_eq_self_iff, or_iff_right hbracket, and_iff_right hempty]

theorem lowercase_joined_eq_self_iff :
    Text.lowercase (joined cs) = cs ↔ IsJoined cs ∧ Text.lowercase cs = cs := by
  constructor
  · intro h
    refine ⟨h ▸ isJoined_lowercase (isJoined_joined cs), ?_⟩
    rw [← h, Text.lowercase_lowercase]
  · rintro ⟨hjoined, hlowered⟩
    rw [joined_eq_self hjoined, hlowered]

theorem callable_eq_self_iff : callable label = label ↔ label ≠ "" ∧ ('<' ∈ label.toList ∨
    IsJoined label.toList ∧ Text.lowercase label.toList = label.toList) := by
  by_cases hempty : label = ""
  · subst hempty
    exact iff_of_false (by decide +kernel) fun h => h.1 rfl
  · by_cases hbracket : '<' ∈ label.toList
    · exact iff_of_true (callable_of_bracket hbracket) ⟨hempty, .inl hbracket⟩
    · rw [callable_of_plain hbracket, spelled_of_ne hempty, ← String.toList_inj,
        String.toList_ofList, lowercase_joined_eq_self_iff, or_iff_right hbracket,
        and_iff_right hempty]

/-- The names of a label are their own names and not empty, and without an angle bracket they hold
neither a path separator nor a blank. -/
theorem declaration_and_callable_settled (label : String) :
    declaration (declaration label) = declaration label ∧
      callable (callable label) = callable label ∧
      declaration label ≠ "" ∧ callable label ≠ "" ∧
      ('<' ∉ label.toList →
        IsJoined (declaration label).toList ∧ IsJoined (callable label).toList) := by
  refine ⟨declaration_eq_self_iff.mpr ⟨declaration_ne_empty label, ?_⟩,
    callable_eq_self_iff.mpr ⟨callable_ne_empty label, ?_⟩, declaration_ne_empty label,
    callable_ne_empty label, fun h => ⟨isJoined_declaration h, isJoined_callable h⟩⟩
  · by_cases hbracket : '<' ∈ label.toList
    · left
      rwa [declaration_of_bracket hbracket]
    · exact .inr (isJoined_declaration hbracket)
  · by_cases hbracket : '<' ∈ label.toList
    · exact .inl (bracket_mem_callable_iff.mpr hbracket)
    · refine .inr ⟨isJoined_callable hbracket, ?_⟩
      rw [callable_of_plain hbracket, String.toList_ofList, Text.lowercase_lowercase]

theorem declaration_and_callable_settled_colons :
    '<' ∉ "Ω:::ΟΔΟΣ\u3000:: X".toList ∧
      declaration "Ω:::ΟΔΟΣ\u3000:: X" = "Ω_:ΟΔΟΣ___X" ∧
      callable "Ω:::ΟΔΟΣ\u3000:: X" = "ω_:οδος___x" ∧
      IsJoined (declaration "Ω:::ΟΔΟΣ\u3000:: X").toList ∧
      IsJoined (callable "Ω:::ΟΔΟΣ\u3000:: X").toList := by
  have hplain : '<' ∉ "Ω:::ΟΔΟΣ\u3000:: X".toList := by decide
  obtain ⟨-, -, -, -, hjoined⟩ := declaration_and_callable_settled "Ω:::ΟΔΟΣ\u3000:: X"
  exact ⟨hplain, by decide +kernel, by decide +kernel, hjoined hplain⟩

end MoveCanvas.Identifier
