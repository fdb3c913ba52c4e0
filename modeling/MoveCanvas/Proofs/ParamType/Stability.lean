import MoveCanvas.Proofs.ParamType.Forms

/-! # Resolving a resolved type

A resolved type with an argument is taken apart into what it was written from: its reference mark,
its name and the witness. It is recognised again only if the witness is named like the placeholder,
and then it stands for itself. So resolving twice is resolving once, whatever the name of the
witness. -/

namespace MoveCanvas.ParamType

def IsTypeName (name : String) : Prop :=
  ∃ c cs, name.toList = c :: cs ∧ Text.isBlank c = false ∧ c ≠ '&' ∧ c ≠ 'm' ∧
    Text.trim name.toList = name.toList ∧ '<' ∉ name.toList

theorem isTypeName_capability : IsTypeName "TreasuryCap" :=
  ⟨'T', "reasuryCap".toList, rfl, rfl, by decide, by decide, by decide, by decide⟩

theorem isTypeName_coin : IsTypeName "Coin" :=
  ⟨'C', "oin".toList, rfl, rfl, by decide, by decide, by decide, by decide⟩

theorem splitReference_mark {c : Char} (hblank : Text.isBlank c = false) (hmark : c ≠ '&')
    (hmut : c ≠ 'm') (reference : Reference) (cs : List Char) :
    splitReference (reference.mark.toList ++ c :: cs) = (reference, c :: cs) := by
  cases reference with
  | value =>
      show splitReference (c :: cs) = _
      unfold splitReference
      split
      · next heq => exact absurd (List.cons.inj heq).1 hmark
      · rfl
  | shared =>
      have hnone : Text.after? "mut ".toList (c :: cs) = none := if_neg (Ne.symm hmut)
      show splitReference ('&' :: c :: cs) = _
      simp only [splitReference, Text.trimStart_cons hblank, hnone]
  | exclusive =>
      have hsome : Text.after? "mut ".toList ("mut ".toList ++ c :: cs) = some (c :: cs) :=
        Text.after?_eq_some_iff.mpr rfl
      have hstart : Text.trimStart ("mut ".toList ++ c :: cs) = "mut ".toList ++ c :: cs := rfl
      show splitReference ('&' :: ("mut ".toList ++ c :: cs)) = _
      simp only [splitReference, hstart, hsome, Text.trimStart_cons hblank]

theorem splitArgument_brackets {name : List Char} (h : '<' ∉ name) (argument : List Char) :
    splitArgument (name ++ '<' :: (argument ++ ['>'])) =
      (Text.trim name, some (Text.trim argument)) := by
  rw [splitArgument_append_cons h, Text.before?_eq_some_iff.mpr rfl, Option.getD_some]

theorem trim_mark_append {c : Char} (hblank : Text.isBlank c = false) (reference : Reference)
    (cs : List Char) : Text.trim (reference.mark.toList ++ c :: cs ++ ['>']) =
      reference.mark.toList ++ c :: cs ++ ['>'] := by
  cases reference with
  | value => exact Text.trim_eq_self hblank rfl cs
  | shared => exact Text.trim_eq_self rfl rfl (c :: cs)
  | exclusive => exact Text.trim_eq_self rfl rfl ("mut ".toList ++ c :: cs)

def genericForm (reference : Reference) (name : String) : Form :=
  if name = "TreasuryCap" then .capability (capabilityReference reference)
  else if name = "Coin" then .coin reference
  else .verbatim

variable {name : String} (reference : Reference) (witness : String)

theorem form_argument (h : IsTypeName name) :
    form (reference.mark ++ name ++ "<" ++ witness ++ ">").toList =
      if Text.trim witness.toList = ['T'] then genericForm reference name else .verbatim := by
  obtain ⟨c, cs, hname, hblank, hmark, hmut, htrim, hopen⟩ := h
  have hlist : (reference.mark ++ name ++ "<" ++ witness ++ ">").toList =
      reference.mark.toList ++ c :: (cs ++ '<' :: witness.toList) ++ ['>'] := by
    simp [hname]
  have hcore : c :: (cs ++ '<' :: witness.toList) ++ ['>'] =
      name.toList ++ '<' :: (witness.toList ++ ['>']) := by
    simp [hname]
  have hreference : splitReference (Text.trim (reference.mark ++ name ++ "<" ++ witness ++ ">").toList) =
      (reference, name.toList ++ '<' :: (witness.toList ++ ['>'])) := by
    rw [hlist, trim_mark_append hblank, List.append_assoc, List.cons_append,
      splitReference_mark hblank hmark hmut, ← List.cons_append, hcore]
  have hplaceholder : name.toList ++ '<' :: (witness.toList ++ ['>']) ≠ ['T'] := by
    intro heq
    have hmem : '<' ∈ ['T'] := heq ▸ List.mem_append_right _ List.mem_cons_self
    exact absurd hmem (by decide)
  unfold form
  simp only [hreference, splitArgument_brackets hopen, htrim, String.toList_inj, hplaceholder]
  by_cases hwitness : Text.trim witness.toList = ['T'] <;> simp [isOpen, hwitness, genericForm]

/-- A type that is rendered as it is written stands for itself, recognised or not. -/
theorem resolve_argument (h : IsTypeName name)
    (hrender : ∀ declared, (genericForm reference name).render witness declared =
      reference.mark ++ name ++ "<" ++ witness ++ ">") :
    resolve (reference.mark ++ name ++ "<" ++ witness ++ ">") witness =
      reference.mark ++ name ++ "<" ++ witness ++ ">" := by
  rw [resolve, form_argument _ _ h]
  split
  · exact hrender _
  · rfl

theorem capabilityReference_of_form {declared : List Char} {reference : Reference}
    (h : form declared = .capability reference) : capabilityReference reference = reference := by
  have hidem (r : Reference) : capabilityReference (capabilityReference r) = capabilityReference r := by
    cases r <;> rfl
  unfold form at h
  dsimp only at h
  split at h
  · obtain rfl := Form.capability.inj h
    exact hidem _
  · split at h
    · cases h
    · split at h <;> cases h

/-- What a type resolves to resolves to itself under the same witness. -/
theorem resolve_resolve (declared witness : String) :
    resolve (resolve declared witness) witness = resolve declared witness := by
  cases hform : form declared.toList with
  | capability reference =>
      have hresolved : resolve declared witness =
          reference.mark ++ "TreasuryCap" ++ "<" ++ witness ++ ">" := by
        rw [resolve, hform, render_capability]
      have hgeneric : genericForm reference "TreasuryCap" = .capability reference := by
        rw [genericForm, if_pos rfl, capabilityReference_of_form hform]
      rw [hresolved]
      apply resolve_argument _ _ isTypeName_capability
      intro
      rw [hgeneric, render_capability]
  | coin reference =>
      have hresolved : resolve declared witness =
          reference.mark ++ "Coin" ++ "<" ++ witness ++ ">" := by
        rw [resolve, hform, render_coin]
      have hgeneric : genericForm reference "Coin" = .coin reference := by
        rw [genericForm, if_neg (by decide), if_pos rfl]
      rw [hresolved]
      apply resolve_argument _ _ isTypeName_coin
      intro
      rw [hgeneric, render_coin]
  | context =>
      have hresolved : resolve declared witness = "&mut TxContext" := by
        rw [resolve, hform]
        rfl
      have hcontext : form "&mut TxContext".toList = .context := by decide
      rw [hresolved, resolve, hcontext]
      rfl
  | verbatim =>
      have hresolved := resolve_eq_of_verbatim witness hform
      rw [hresolved, hresolved]

end MoveCanvas.ParamType
