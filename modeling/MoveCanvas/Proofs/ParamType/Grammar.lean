import MoveCanvas.Proofs.ParamType.Splitting

/-! # The grammar of recognised types

Capabilities, coins and contexts are documented as rows of tokens behind a reference mark, and every
other type keeps its spelling. What is recognised differs in two points, and only there: a type with
the placeholder as its argument is recognised without its closing bracket too, and a mutable borrow
is recognised only if a space, and no other blank, follows its `mut`. -/

namespace MoveCanvas.ParamType

/-- The rows of tokens by which types are recognised, without their reference marks. -/
structure Grammar where
  capability : List (List String)
  coin : List (List String)
  context : List (List String)

namespace Grammar

def types (g : Grammar) : List (List String) :=
  g.capability ++ g.coin ++ g.context

def documented : Grammar :=
  { capability := [["TreasuryCap"], ["TreasuryCap", "<", "T", ">"]]
    coin := [["Coin"], ["Coin", "<", "T", ">"], ["T"]]
    context := [["TxContext"]] }

def unclosed : List (List String) :=
  [["TreasuryCap", "<", "T"], ["Coin", "<", "T"]]

def accepted : Grammar :=
  { capability := generic "TreasuryCap"
    coin := generic "Coin" ++ [["T"]]
    context := [["TxContext"]] }

def form (g : Grammar) (reference : Reference) (type : List String) : Form :=
  if type ∈ g.capability then .capability (capabilityReference reference)
  else if type ∈ g.coin then .coin reference
  else if type ∈ g.context then .context
  else .verbatim

end Grammar

/-- The tokens of the declared type are those of the mark and of one of the types. -/
def IsSpelled (declared : String) (reference : Reference) (types : List (List String)) : Prop :=
  ∃ type ∈ types, tokens declared.toList = reference.tokens ++ type

/-- A mutable borrow is seen as such only by the space. -/
def IsSeen (declared : String) (reference : Reference) : Prop :=
  reference = .exclusive → SpacesMut declared.toList

/-- The declared type resolves as the grammar has it, for the reference marks of the given kind. -/
structure Grammar.Describes (g : Grammar) (sees : Reference → Prop) (declared : String) : Prop where
  capability : ∀ reference w, sees reference → IsSpelled declared reference g.capability →
    resolve declared w = (if reference = .shared then "&" else "&mut ") ++ "TreasuryCap<" ++ w ++ ">"
  coin : ∀ reference w, sees reference → IsSpelled declared reference g.coin →
    resolve declared w = reference.mark ++ "Coin<" ++ w ++ ">"
  context : ∀ reference w, sees reference → IsSpelled declared reference g.context →
    resolve declared w = "&mut TxContext"
  verbatim : ∀ w, (∀ reference, sees reference → ¬ IsSpelled declared reference g.types) →
    resolve declared w = declared

open Grammar

theorem form_eq (declared : List Char) : ParamType.form declared =
    accepted.form (splitReference (Text.trim declared)).1
      (tokens (splitReference (Text.trim declared)).2) := by
  have hcore := isTrimmed_splitReference (Text.isTrimmed_trim declared)
  unfold ParamType.form
  dsimp only
  generalize splitReference (Text.trim declared) = parts at hcore
  have hcapability : _ ↔ tokens parts.2 ∈ generic "TreasuryCap" :=
    splitArgument_open_iff (by decide) hcore
  have hcoin : _ ↔ tokens parts.2 ∈ generic "Coin" := splitArgument_open_iff (by decide) hcore
  have hplaceholder : tokens parts.2 = ["T"] ↔ parts.2 = ['T'] :=
    tokens_eq_word_iff_of_isTrimmed (by decide) hcore
  have hcontext : _ ↔ tokens parts.2 = ["TxContext"] := splitArgument_none_iff (by decide) hcore
  have hcoins : ((splitArgument parts.2).1 = "Coin".toList ∧ isOpen (splitArgument parts.2).2 = true) ∨
      parts.2 = ['T'] ↔ tokens parts.2 ∈ generic "Coin" ++ [["T"]] := by
    rw [List.mem_append, List.mem_singleton, hplaceholder]
    exact or_congr_left hcoin
  exact if_congr hcapability rfl
    (if_congr hcoins rfl (if_congr (hcontext.trans List.mem_singleton.symm) rfl rfl))

def IsBare (type : List String) : Prop :=
  type ≠ [] ∧ type.head? ≠ some "&" ∧ type.head? ≠ some "mut"

instance (type : List String) : Decidable (IsBare type) :=
  inferInstanceAs (Decidable (_ ∧ _))

theorem isBare_of_mem_types {type : List String} (h : type ∈ accepted.types) : IsBare type := by
  revert type
  decide

section

variable {declared : String} {reference : Reference} {type : List String}

theorem splitReference_of_isSeen (htype : IsBare type) (hseen : IsSeen declared reference)
    (h : tokens declared.toList = reference.tokens ++ type) :
    (splitReference (Text.trim declared.toList)).1 = reference ∧
      tokens (splitReference (Text.trim declared.toList)).2 = type := by
  obtain ⟨hne, hmark, hmut⟩ := htype
  have htrim : tokens (Text.trim declared.toList) = reference.tokens ++ type :=
    (tokens_trim declared.toList).trans h
  have hsplit := tokens_splitReference (Text.trim declared.toList)
  rw [htrim] at hsplit
  have hreference : (splitReference (Text.trim declared.toList)).1 = reference := by
    cases reference with
    | value =>
        cases hfound : (splitReference (Text.trim declared.toList)).1 with
        | value => rfl
        | shared | exclusive =>
            rw [hfound] at hsplit
            exact absurd (congrArg List.head? hsplit) hmark
    | shared =>
        cases hfound : (splitReference (Text.trim declared.toList)).1 with
        | value =>
            exact absurd hfound (splitReference_ne_value (Text.isTrimmed_trim declared.toList) htrim)
        | shared => rfl
        | exclusive =>
            rw [hfound] at hsplit
            exact absurd (congrArg List.head? (List.cons.inj hsplit).2) hmut
    | exclusive => exact (spacesMut_iff hne h).mp (hseen rfl)
  rw [hreference] at hsplit
  exact ⟨hreference, (List.append_cancel_left hsplit).symm⟩

theorem form_of_isSeen (htype : type ∈ accepted.types) (hseen : IsSeen declared reference)
    (h : tokens declared.toList = reference.tokens ++ type) :
    ParamType.form declared.toList = accepted.form reference type := by
  obtain ⟨hreference, hcore⟩ := splitReference_of_isSeen (isBare_of_mem_types htype) hseen h
  rw [form_eq, hreference, hcore]

theorem exists_isSpelled_of_form (h : ParamType.form declared.toList ≠ .verbatim) :
    ∃ reference, IsSeen declared reference ∧ IsSpelled declared reference accepted.types := by
  refine ⟨(splitReference (Text.trim declared.toList)).1, spacesMut_of_splitReference,
    tokens (splitReference (Text.trim declared.toList)).2, ?_, ?_⟩
  · rw [form_eq] at h
    simp only [types, List.mem_append]
    by_contra hnone
    simp only [not_or] at hnone
    exact h (by simp [Grammar.form, hnone])
  · rw [← tokens_splitReference, tokens_trim]

end

theorem describes_accepted (declared : String) : accepted.Describes (IsSeen declared) declared where
  capability reference w := by
    rintro hseen ⟨type, htype, htokens⟩
    have hmem : type ∈ accepted.types := List.mem_append_left _ (List.mem_append_left _ htype)
    rw [resolve, form_of_isSeen hmem hseen htokens, Grammar.form, if_pos htype]
    cases reference <;> rfl
  coin reference w := by
    rintro hseen ⟨type, htype, htokens⟩
    have hmem : type ∈ accepted.types := List.mem_append_left _ (List.mem_append_right _ htype)
    have hother : ∀ type ∈ accepted.coin, type ∉ accepted.capability := by decide
    rw [resolve, form_of_isSeen hmem hseen htokens, Grammar.form, if_neg (hother type htype),
      if_pos htype]
    rfl
  context reference w := by
    rintro hseen ⟨type, htype, htokens⟩
    have hmem : type ∈ accepted.types := List.mem_append_right _ htype
    have hother : ∀ type ∈ accepted.context, type ∉ accepted.capability ∧ type ∉ accepted.coin := by
      decide
    rw [resolve, form_of_isSeen hmem hseen htokens, Grammar.form, if_neg (hother type htype).1,
      if_neg (hother type htype).2, if_pos htype]
    rfl
  verbatim w hnone := by
    apply resolve_eq_of_verbatim
    by_contra hform
    obtain ⟨reference, hseen, hspelled⟩ := exists_isSpelled_of_form hform
    exact hnone reference hseen hspelled

section

variable {declared : String} {reference : Reference}

theorem isSpelled_mono {types types' : List (List String)} (h : ∀ type ∈ types, type ∈ types')
    (hspelled : IsSpelled declared reference types) : IsSpelled declared reference types' := by
  obtain ⟨type, htype, htokens⟩ := hspelled
  exact ⟨type, h type htype, htokens⟩

theorem spacesMut_of_eq (text : String) (h : declared = "&mut " ++ text) :
    SpacesMut declared.toList := by
  subst h
  refine ⟨"mut ".toList ++ text.toList, text.toList, ?_, rfl⟩
  rw [String.toList_append]
  rfl

theorem isSeen_exclusive_of_isSeen {r : Reference}
    (hspelled : IsSpelled declared .exclusive documented.types) (hr : IsSeen declared r)
    (hspelled' : IsSpelled declared r accepted.types) : SpacesMut declared.toList := by
  obtain ⟨type, htype, htokens⟩ := hspelled
  obtain ⟨type', htype', htokens'⟩ := hspelled'
  obtain ⟨-, hmark, hmut⟩ := isBare_of_mem_types htype'
  rw [htokens] at htokens'
  cases r with
  | value => exact absurd (congrArg List.head? htokens').symm hmark
  | shared => exact absurd (congrArg List.head? (List.cons.inj htokens').2).symm hmut
  | exclusive => exact hr rfl

theorem resolve_of_unclosed (hseen : IsSeen declared reference)
    (h : IsSpelled declared reference unclosed) :
    ∃ lead, ∀ w, resolve declared w = lead ++ w ++ ">" := by
  obtain ⟨type, htype, htokens⟩ := h
  rcases List.mem_cons.mp htype with rfl | htype
  · exact ⟨_, fun w => (describes_accepted declared).capability reference w hseen
      ⟨_, by decide, htokens⟩⟩
  · obtain rfl := List.mem_singleton.mp htype
    exact ⟨_, fun w => (describes_accepted declared).coin reference w hseen ⟨_, by decide, htokens⟩⟩

theorem not_isSpelled_documented_of_unclosed (h : IsSpelled declared reference unclosed)
    (r : Reference) : ¬ IsSpelled declared r documented.types := by
  rintro ⟨type, htype, htokens⟩
  obtain ⟨type', htype', htokens'⟩ := h
  rw [htokens] at htokens'
  have hdiffer : ∀ type ∈ documented.types, ∀ type' ∈ unclosed,
      r.tokens ++ type ≠ reference.tokens ++ type' := by
    cases r <;> cases reference <;> decide
  exact hdiffer type htype type' htype' htokens'

end

namespace Grammar.Describes

variable {declared : String} {reference : Reference} (h : documented.Describes (fun _ => True) declared)

include h

theorem isSeen (hspelled : IsSpelled declared reference documented.types) :
    IsSeen declared reference := by
  rintro rfl
  -- unseen, it would be left as it is, but it resolves to a type behind `&mut` and a space
  by_contra hunseen
  have hverbatim : ∀ w, resolve declared w = declared := fun w =>
    (describes_accepted declared).verbatim w fun r hr hspelled' =>
      hunseen (isSeen_exclusive_of_isSeen hspelled hr hspelled')
  obtain ⟨type, htype, htokens⟩ := hspelled
  simp only [types, List.mem_append] at htype
  rcases htype with (htype | htype) | htype
  · have hresolved := h.capability .exclusive "" trivial ⟨type, htype, htokens⟩
    rw [hverbatim, if_neg (by decide), String.append_assoc, String.append_assoc] at hresolved
    exact hunseen (spacesMut_of_eq _ hresolved)
  · have hresolved := h.coin .exclusive "" trivial ⟨type, htype, htokens⟩
    rw [hverbatim, String.append_assoc, String.append_assoc] at hresolved
    exact hunseen (spacesMut_of_eq _ hresolved)
  · have hresolved := h.context .exclusive "" trivial ⟨type, htype, htokens⟩
    rw [hverbatim] at hresolved
    exact hunseen (spacesMut_of_eq "TxContext" hresolved)

theorem not_isSeen_of_unclosed (hunclosed : IsSpelled declared reference unclosed) :
    ¬ IsSeen declared reference := by
  intro hseen
  obtain ⟨lead, hlead⟩ := resolve_of_unclosed hseen hunclosed
  have hverbatim (w : String) : resolve declared w = declared :=
    h.verbatim w fun r _ => not_isSpelled_documented_of_unclosed hunclosed r
  -- two witnesses would leave the same text
  have heq : lead ++ "" ++ ">" = lead ++ "T" ++ ">" := by
    rw [← hlead, ← hlead, hverbatim, hverbatim]
  have hlength := congrArg String.length heq
  simp at hlength

end Grammar.Describes

/-- Every declared type resolves by the accepted grammar, for the marks that are seen. It resolves by
the documented grammar exactly if, where it is spelled in that grammar, its mark is seen, and where
only its closing bracket is missing, its mark is not seen. -/
theorem describes_documented_iff (declared : String) :
    accepted.Describes (IsSeen declared) declared ∧
      (documented.Describes (fun _ => True) declared ↔ ∀ reference,
        (IsSpelled declared reference documented.types → IsSeen declared reference) ∧
          (IsSpelled declared reference unclosed → ¬ IsSeen declared reference)) := by
  have hactual := describes_accepted declared
  refine ⟨hactual, fun h reference => ⟨h.isSeen, h.not_isSeen_of_unclosed⟩, fun h => ?_⟩
  have hseen {reference : Reference} {types : List (List String)}
      (htypes : ∀ type ∈ types, type ∈ documented.types)
      (hspelled : IsSpelled declared reference types) : IsSeen declared reference :=
    (h reference).1 (isSpelled_mono htypes hspelled)
  exact {
    capability := fun reference w _ hspelled =>
      hactual.capability reference w (hseen (by decide) hspelled) (isSpelled_mono (by decide) hspelled)
    coin := fun reference w _ hspelled =>
      hactual.coin reference w (hseen (by decide) hspelled) (isSpelled_mono (by decide) hspelled)
    context := fun reference w _ hspelled =>
      hactual.context reference w (hseen (by decide) hspelled) (isSpelled_mono (by decide) hspelled)
    verbatim := fun w hnone => hactual.verbatim w fun reference hmark hspelled => by
      obtain ⟨type, htype, htokens⟩ := hspelled
      have hcases : ∀ type ∈ accepted.types, type ∈ documented.types ∨ type ∈ unclosed := by decide
      rcases hcases type htype with hdocumented | hunclosed
      · exact hnone reference trivial ⟨type, hdocumented, htokens⟩
      · exact (h reference).2 ⟨type, hunclosed, htokens⟩ hmark }

/-- A tab behind `mut` hides a mutable borrow, and a coin is recognised without its bracket. -/
theorem not_describes_documented :
    resolve "&mut\tCoin<T>" "W" = "&mut\tCoin<T>" ∧ resolve "Coin<T" "W" = "Coin<W>" ∧
      ¬ documented.Describes (fun _ => True) "&mut\tCoin<T>" ∧
      ¬ documented.Describes (fun _ => True) "Coin<T" := by
  have htab : resolve "&mut\tCoin<T>" "W" = "&mut\tCoin<T>" := by decide
  have hunclosed : resolve "Coin<T" "W" = "Coin<W>" := by decide
  refine ⟨htab, hunclosed, fun h => ?_, fun h => ?_⟩
  · have hcoin := h.coin .exclusive "W" trivial ⟨["Coin", "<", "T", ">"], by decide, by decide⟩
    rw [htab] at hcoin
    exact absurd hcoin (by decide)
  · have hspelled : IsSpelled "Coin<T" .value unclosed := ⟨["Coin", "<", "T"], by decide, by decide⟩
    have hverbatim := h.verbatim "W" fun r _ => not_isSpelled_documented_of_unclosed hspelled r
    rw [hunclosed] at hverbatim
    exact absurd hverbatim (by decide)

end MoveCanvas.ParamType
