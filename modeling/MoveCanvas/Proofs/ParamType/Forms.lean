import MoveCanvas.ParamType

/-! # Recognised types

What a type that is not left verbatim looks like: it carries one of four names, and what it resolves
to has the witness between angle brackets, or is the same under every witness. -/

namespace MoveCanvas.ParamType

def base (declared : List Char) : List Char :=
  (splitArgument (splitReference (Text.trim declared)).2).1

theorem splitReference_cases (cs : List Char) :
    (∃ rest inner, cs = '&' :: rest ∧ Text.trimStart rest = "mut ".toList ++ inner ∧
      splitReference cs = (.exclusive, Text.trimStart inner)) ∨
    (∃ rest, cs = '&' :: rest ∧ splitReference cs = (.shared, Text.trimStart rest)) ∨
    (cs.head? ≠ some '&' ∧ splitReference cs = (.value, cs)) := by
  unfold splitReference
  split
  · next rest =>
    split
    · next inner hmut =>
      exact Or.inl ⟨rest, inner, rfl, Text.after?_eq_some_iff.mp hmut, rfl⟩
    · exact Or.inr (Or.inl ⟨rest, rfl, rfl⟩)
  · next hmark =>
    refine Or.inr (Or.inr ⟨fun hhead => ?_, rfl⟩)
    obtain ⟨rest, hrest⟩ := List.head?_eq_some_iff.mp hhead
    exact hmark rest hrest

theorem splitReference_suffix_self (cs : List Char) : (splitReference cs).2 <:+ cs := by
  rcases splitReference_cases cs with ⟨rest, inner, rfl, hrest, hsplit⟩ | ⟨rest, rfl, hsplit⟩ |
    ⟨-, hsplit⟩
  · rw [hsplit]
    have hinner : inner <:+ Text.trimStart rest := hrest ▸ List.suffix_append _ _
    have hmark := (Text.trimStart_suffix_self rest).trans (List.suffix_cons '&' rest)
    exact ((Text.trimStart_suffix_self inner).trans hinner).trans hmark
  · rw [hsplit]
    exact (Text.trimStart_suffix_self rest).trans (List.suffix_cons '&' rest)
  · simp [hsplit]

theorem splitArgument_of_not_mem {core : List Char} (h : '<' ∉ core) :
    splitArgument core = (core, none) := by
  rw [splitArgument, Text.cutFirst?_eq_none_iff.mpr h]

theorem splitArgument_append_cons {front : List Char} (h : '<' ∉ front) (rest : List Char) :
    splitArgument (front ++ '<' :: rest) =
      (Text.trim front, some (Text.trim ((Text.before? ['>'] rest).getD rest))) := by
  rw [splitArgument, Text.cutFirst?_eq_some_iff.mpr ⟨rfl, h⟩]

theorem splitArgument_infix_self (core : List Char) : (splitArgument core).1 <:+: core := by
  by_cases h : '<' ∈ core
  · obtain ⟨front, rest, rfl, hfront⟩ := List.eq_append_cons_of_mem h
    rw [splitArgument_append_cons hfront]
    exact (Text.trim_infix_self front).trans (List.prefix_append _ _).isInfix
  · simp [splitArgument_of_not_mem h]

theorem base_infix_self (declared : List Char) : base declared <:+: declared :=
  have hcore := (splitReference_suffix_self (Text.trim declared)).isInfix
  ((splitArgument_infix_self _).trans hcore).trans (Text.trim_infix_self declared)

theorem form_cases (declared : List Char) :
    (∃ reference, form declared = .capability reference ∧ base declared = "TreasuryCap".toList) ∨
      (∃ reference, form declared = .coin reference ∧
        (base declared = "Coin".toList ∨ base declared = "T".toList)) ∨
      (form declared = .context ∧ base declared = "TxContext".toList) ∨
      form declared = .verbatim := by
  generalize hform : form declared = found
  unfold form at hform
  dsimp only at hform
  split at hform
  · next hcapability => exact Or.inl ⟨_, hform.symm, hcapability.1⟩
  · split at hform
    · next hcoin =>
      right
      left
      refine ⟨_, hform.symm, ?_⟩
      -- The bare placeholder stands for a coin of the witness.
      rcases hcoin with ⟨hbase, -⟩ | hcore
      · exact Or.inl hbase
      · right
        rw [base, hcore]
        decide
    · split at hform
      · next hcontext => exact Or.inr (Or.inr (Or.inl ⟨hform.symm, hcontext.1⟩))
      · exact Or.inr (Or.inr (Or.inr hform.symm))

theorem occursIn_argument {needle : List Char} (hopen : '<' ∉ needle) (hclose : '>' ∉ needle)
    (hne : needle ≠ []) (lead argument : String) :
    Text.occursIn needle (lead ++ "<" ++ argument ++ ">").toList =
      (Text.occursIn needle lead.toList || Text.occursIn needle argument.toList) := by
  have hnil : Text.occursIn needle [] = false := by
    simpa [Text.occursIn] using hne
  have hlist : (lead ++ "<" ++ argument ++ ">").toList =
      lead.toList ++ '<' :: (argument.toList ++ '>' :: []) := by
    simp
  rw [hlist, Text.occursIn_append_cons hopen, Text.occursIn_append_cons hclose, hnil, Bool.or_false]

theorem argument_ne {plain : String} (h : '<' ∉ plain.toList) (lead argument : String) :
    lead ++ "<" ++ argument ++ ">" ≠ plain := by
  rintro rfl
  exact h (by simp)

theorem render_capability (reference : Reference) (witness declared : String) :
    (Form.capability reference).render witness declared =
      reference.mark ++ "TreasuryCap" ++ "<" ++ witness ++ ">" := by
  have hlead : "TreasuryCap<" = "TreasuryCap" ++ "<" := by decide
  rw [Form.render, hlead, ← String.append_assoc]

theorem render_coin (reference : Reference) (witness declared : String) :
    (Form.coin reference).render witness declared =
      reference.mark ++ "Coin" ++ "<" ++ witness ++ ">" := by
  have hlead : "Coin<" = "Coin" ++ "<" := by decide
  rw [Form.render, hlead, ← String.append_assoc]

theorem resolve_alike (declared w w' : String) :
    resolve declared w = resolve declared w' ∨
      ∃ lead, resolve declared w = lead ++ "<" ++ w ++ ">" ∧
        resolve declared w' = lead ++ "<" ++ w' ++ ">" := by
  unfold resolve
  cases form declared.toList with
  | capability reference =>
      rw [render_capability, render_capability]
      exact Or.inr ⟨_, rfl, rfl⟩
  | coin reference =>
      rw [render_coin, render_coin]
      exact Or.inr ⟨_, rfl, rfl⟩
  | context => exact Or.inl rfl
  | verbatim => exact Or.inl rfl

end MoveCanvas.ParamType
