import MoveCanvas.Identifier
import MoveCanvas.Proofs.Text.LetterCase

/-! # Labels of one callable name

A type expression is its own callable name, and no other label has it. Apart from these two labels
share a callable name exactly if they are alike up to letter case once paths are joined and blanks
filled, where the empty label reads as the fallback. Only the sixteen spellings of `init` in ASCII
letters become `init`. -/

namespace MoveCanvas.Identifier

theorem bracket_not_mem_joined {cs : List Char} (h : '<' ∉ cs) : '<' ∉ joined cs := by
  unfold joined
  fun_induction joinPath cs with
  | case1 cs ih =>
      have hrest := ih (fun hmem => h (List.mem_cons_of_mem _ (List.mem_cons_of_mem _ hmem)))
      rw [List.map_cons, List.mem_cons, not_or]
      exact ⟨by decide, hrest⟩
  | case2 c cs hpath ih =>
      obtain ⟨hc, hcs⟩ := List.ne_and_not_mem_of_not_mem_cons h
      rw [List.map_cons, List.mem_cons, not_or]
      refine ⟨?_, ih hcs⟩
      unfold fillBlank
      split
      · decide
      · exact hc
  | case3 => exact List.not_mem_nil

/-- A character that the identifier of a label keeps, and that nothing else is turned into. -/
def IsKept (c : Char) : Prop :=
  c ≠ ':' ∧ c ≠ '_' ∧ Text.isBlank c = false

instance (c : Char) : Decidable (IsKept c) :=
  inferInstanceAs (Decidable (c ≠ ':' ∧ c ≠ '_' ∧ Text.isBlank c = false))

theorem fillBlank_eq_iff {c d : Char} (hd : IsKept d) : fillBlank c = d ↔ c = d := by
  unfold fillBlank
  split
  · next hblank =>
    constructor
    · intro hfilled
      exact absurd hfilled.symm hd.2.1
    · rintro rfl
      exact absurd (hblank.symm.trans hd.2.2) (by decide)
  · exact Iff.rfl

theorem joined_eq_iff {cs kept : List Char} (h : ∀ c ∈ kept, IsKept c) :
    joined cs = kept ↔ cs = kept := by
  unfold joined
  fun_induction joinPath cs generalizing kept with
  | case1 cs ih =>
      constructor
      · rintro rfl
        exact absurd rfl (h '_' List.mem_cons_self).2.1
      · rintro rfl
        exact absurd rfl (h ':' List.mem_cons_self).1
  | case2 c cs hpath ih =>
      cases kept with
      | nil => simp
      | cons d kept =>
          obtain ⟨hd, hkept⟩ := List.forall_mem_cons.mp h
          rw [List.map_cons, List.cons.injEq, List.cons.injEq, fillBlank_eq_iff hd, ih hkept]
  | case3 =>
      rw [List.map_nil]

theorem prefix_of_joined_eq_append {cs kept rest : List Char} (hkept : ∀ c ∈ kept, IsKept c)
    (h : joined cs = kept ++ rest) : kept <+: cs := by
  unfold joined at h
  fun_induction joinPath cs generalizing kept with
  | case1 cs ih =>
      cases kept with
      | nil => exact List.nil_prefix
      | cons c kept =>
          rw [List.map_cons, List.cons_append, List.cons.injEq] at h
          exact absurd h.1.symm (hkept c List.mem_cons_self).2.1
  | case2 d cs hpath ih =>
      cases kept with
      | nil => exact List.nil_prefix
      | cons c kept =>
          obtain ⟨hc, hrest⟩ := List.forall_mem_cons.mp hkept
          rw [List.map_cons, List.cons_append, List.cons.injEq, fillBlank_eq_iff hc] at h
          rw [h.1, List.cons_prefix_cons]
          exact ⟨rfl, ih hrest h.2⟩
  | case3 =>
      cases kept with
      | nil => exact List.nil_prefix
      | cons c kept => cases h

theorem mem_joined_or {cs : List Char} {c : Char} (h : c ∈ cs) :
    c ∈ joined cs ∨ c = ':' ∨ Text.isBlank c = true := by
  unfold joined
  fun_induction joinPath cs with
  | case1 cs ih =>
      rcases List.mem_cons.mp h with rfl | h
      · exact .inr (.inl rfl)
      · rcases List.mem_cons.mp h with rfl | h
        · exact .inr (.inl rfl)
        · exact (ih h).imp_left (List.mem_cons_of_mem _)
  | case2 d cs hpath ih =>
      rcases List.mem_cons.mp h with rfl | h
      · cases hblank : Text.isBlank c with
        | true => exact .inr (.inr rfl)
        | false =>
            refine .inl (List.mem_cons.mpr (.inl ?_))
            simp [fillBlank, hblank]
      · exact (ih h).imp_left (List.mem_cons_of_mem _)
  | case3 => cases h

theorem toLower_eq_colon_iff {c : Char} : c.toLower = ':' ↔ c = ':' := by
  constructor
  · intro h
    have hascii : c.toNat < 128 := Text.ascii_of_toLower (by rw [h]; decide)
    exact Text.forall_ascii (p := fun c => c.toLower = ':' → c = ':') (by decide) hascii h
  · rintro rfl
    rfl

theorem fillBlank_toLower (c : Char) : fillBlank c.toLower = (fillBlank c).toLower := by
  by_cases hascii : c.toNat < 128
  · exact Text.forall_ascii (p := fun c => fillBlank c.toLower = (fillBlank c).toLower)
      (by decide +kernel) hascii
  · have hsame : c.toLower = c := Text.toLower_of_not_upper (by omega)
    rw [hsame]
    unfold fillBlank
    split
    · rfl
    · exact hsame.symm

theorem joinPath_map_toLower (cs : List Char) :
    joinPath (cs.map Char.toLower) = (joinPath cs).map Char.toLower := by
  fun_induction joinPath cs with
  | case1 cs ih =>
      rw [List.map_cons, List.map_cons, List.map_cons, ← ih]
      rfl
  | case2 c cs hpath ih =>
      rw [List.map_cons, List.map_cons, joinPath, ih]
      -- A pair of colons is one in either letter case.
      intro rest hc hcs
      obtain ⟨d, tail, rfl, hd, -⟩ := List.map_eq_cons_iff.mp hcs
      exact hpath tail (toLower_eq_colon_iff.mp hc) (by rw [toLower_eq_colon_iff.mp hd])
  | case3 => rfl

theorem joined_map_toLower (cs : List Char) :
    joined (cs.map Char.toLower) = (joined cs).map Char.toLower := by
  rw [joined, joinPath_map_toLower, joined, List.map_map, List.map_map]
  exact List.map_congr_left fun c _ => fillBlank_toLower c

theorem joined_lowercase_of_isPlain {cs : List Char} (h : ∀ c ∈ cs, Text.IsPlain c) :
    joined (Text.lowercase cs) = (joined cs).map Char.toLower := by
  rw [Text.lowercase, Text.lowerAfter_of_isPlain h, joined_map_toLower]

section Lowered

variable {cs lowered : List Char}

theorem isPlain_of_joined_lowercase (hlowered : ∀ d ∈ lowered, d.toNat < 128 ∧ d ≠ 'k')
    (h : joined (Text.lowercase cs) = lowered) : ∀ c ∈ cs, Text.IsPlain c := by
  have hplain : ∀ d ∈ Text.lowerAfter [] cs, Text.IsPlain d ∧ d ≠ 'k' := by
    intro d hd
    rcases mem_joined_or hd with hmem | rfl | hblank
    · obtain ⟨hascii, hk⟩ := hlowered d (h ▸ hmem)
      exact ⟨.inl hascii, hk⟩
    · exact ⟨.inl (by decide), by decide⟩
    · exact ⟨.inr hblank, Text.forall_isBlank (p := (· ≠ 'k')) (by decide) hblank⟩
  exact Text.isPlain_of_lowerAfter hplain

/-- Within ASCII, without a k, it makes no difference whether a label is joined before its letters
are lowered or after. Elsewhere it does: a final sigma is told by what stands behind it. -/
theorem lowercase_joined_eq_iff (hlowered : ∀ d ∈ lowered, d.toNat < 128 ∧ d ≠ 'k') :
    Text.lowercase (joined cs) = lowered ↔ joined (Text.lowercase cs) = lowered := by
  rw [Text.lowercase_eq_iff_of_ascii hlowered]
  constructor
  · intro h
    rw [joined_lowercase_of_isPlain, h]
    intro c hc
    rcases mem_joined_or hc with hmem | rfl | hblank
    · exact .inl (Text.ascii_of_toLower (hlowered _ (h ▸ List.mem_map_of_mem hmem)).1)
    · exact .inl (by decide)
    · exact .inr hblank
  · intro h
    rw [← joined_lowercase_of_isPlain (isPlain_of_joined_lowercase hlowered h), h]

end Lowered

def spelled (label : String) : List Char :=
  if label = "" then fallback.toList else label.toList

/-- Neither label is a type expression, and letter case apart they are joined to one spelling. -/
structure Alike (a b : String) : Prop where
  plain : '<' ∉ a.toList ∧ '<' ∉ b.toList
  folded : Text.lowercase (joined (spelled a)) = Text.lowercase (joined (spelled b))

def Collide (a b : String) : Prop :=
  a = b ∨ Alike a b

instance (a b : String) : Decidable (Alike a b) :=
  decidable_of_iff (('<' ∉ a.toList ∧ '<' ∉ b.toList) ∧
    Text.lowercase (joined (spelled a)) = Text.lowercase (joined (spelled b)))
    ⟨fun h => ⟨h.1, h.2⟩, fun h => ⟨h.plain, h.folded⟩⟩

instance (a b : String) : Decidable (Collide a b) :=
  inferInstanceAs (Decidable (a = b ∨ Alike a b))

theorem spelled_of_ne {label : String} (h : label ≠ "") : spelled label = label.toList :=
  if_neg h

theorem ne_empty_of_bracket {label : String} (h : '<' ∈ label.toList) : label ≠ "" := by
  rintro rfl
  cases h

theorem callable_of_bracket {label : String} (h : '<' ∈ label.toList) : callable label = label := by
  rw [callable, if_neg (ne_empty_of_bracket h), if_pos h]

theorem callable_of_plain {label : String} (h : '<' ∉ label.toList) :
    callable label = String.ofList (Text.lowercase (joined (spelled label))) := by
  by_cases hempty : label = ""
  · subst hempty
    decide +kernel
  · rw [callable, if_neg hempty, if_neg h, spelled, if_neg hempty]

theorem bracket_not_mem_lowercase {cs : List Char} (h : '<' ∉ cs) : '<' ∉ Text.lowercase cs := by
  intro hmem
  obtain ⟨c, hc, hlower⟩ :=
    Text.exists_toLower_of_mem_lowercase hmem (by decide) (by decide) (by decide)
  have hascii : c.toNat < 128 := Text.ascii_of_toLower (by rw [hlower]; decide)
  have hbracket : c.toLower = '<' → c = '<' :=
    Text.forall_ascii (p := fun c => c.toLower = '<' → c = '<') (by decide) hascii
  exact h (hbracket hlower ▸ hc)

theorem bracket_mem_callable_iff {label : String} :
    '<' ∈ (callable label).toList ↔ '<' ∈ label.toList := by
  by_cases h : '<' ∈ label.toList
  · rw [callable_of_bracket h]
  · have hspelled : '<' ∉ spelled label := by
      unfold spelled
      split
      · decide
      · exact h
    rw [callable_of_plain h, String.toList_ofList]
    exact iff_of_false (bracket_not_mem_lowercase (bracket_not_mem_joined hspelled)) h

theorem callable_eq_iff {a b : String} : callable a = callable b ↔ Collide a b := by
  constructor
  · intro heq
    by_cases ha : '<' ∈ a.toList
    · have hb : '<' ∈ b.toList := by
        rw [← bracket_mem_callable_iff, ← heq, bracket_mem_callable_iff]
        exact ha
      rw [callable_of_bracket ha, callable_of_bracket hb] at heq
      exact Or.inl heq
    · have hb : '<' ∉ b.toList := by
        rw [← bracket_mem_callable_iff, ← heq, bracket_mem_callable_iff]
        exact ha
      rw [callable_of_plain ha, callable_of_plain hb, String.ofList_inj] at heq
      exact Or.inr ⟨⟨ha, hb⟩, heq⟩
  · rintro (rfl | ⟨⟨ha, hb⟩, hfolded⟩)
    · rfl
    · rw [callable_of_plain ha, callable_of_plain hb, hfolded]

theorem callable_eq_ofList_iff {label : String} {lowered : List Char} (hnil : lowered ≠ [])
    (hlowered : ∀ d ∈ lowered, d.toNat < 128 ∧ d ≠ 'k' ∧ d ≠ '<') :
    callable label = String.ofList lowered ↔ joined (Text.lowercase label.toList) = lowered := by
  have hascii : ∀ d ∈ lowered, d.toNat < 128 ∧ d ≠ 'k' := fun d hd =>
    ⟨(hlowered d hd).1, (hlowered d hd).2.1⟩
  by_cases hbracket : '<' ∈ label.toList
  · refine iff_of_false (fun h => ?_) fun h => ?_
    · rw [callable_of_bracket hbracket] at h
      rw [h, String.toList_ofList] at hbracket
      exact (hlowered _ hbracket).2.2 rfl
    · rw [Text.lowercase, Text.lowerAfter_of_isPlain (isPlain_of_joined_lowercase hascii h)] at h
      have hmem : '<' ∈ label.toList.map Char.toLower := List.mem_map.mpr ⟨'<', hbracket, rfl⟩
      have hjoined : '<' ∈ lowered := h ▸ (mem_joined_or hmem).resolve_right (by decide)
      exact (hlowered _ hjoined).2.2 rfl
  · rw [callable_of_plain hbracket, String.ofList_inj]
    by_cases hempty : label = ""
    · subst hempty
      refine iff_of_false (fun h => ?_) (Ne.symm hnil)
      exact (hlowered 'k' (h ▸ by decide +kernel)).2.1 rfl
    · rw [spelled_of_ne hempty, lowercase_joined_eq_iff hascii]

/-- Paths, blanks, letter case and the name of the fallback all make labels collide. -/
example : callable "coin::Burn" = callable "coin burn" ∧ callable "" = callable "Unknown" ∧
    callable "Coin<T>" ≠ callable "coin<t>" := by decide +kernel

theorem plain_of_mem_init {d : Char} (h : d ∈ "init".toList) : d.toNat < 128 ∧ d ≠ 'k' := by
  have hletters : d = 'i' ∨ d = 'n' ∨ d = 'i' ∨ d = 't' := by simpa using h
  rcases hletters with rfl | rfl | rfl | rfl
  all_goals decide

theorem isKept_of_toLower {c : Char} (h : c.toLower ∈ "init".toList) : IsKept c := by
  obtain ⟨hascii, -⟩ := plain_of_mem_init h
  exact Text.forall_ascii (p := fun c => c.toLower ∈ "init".toList → IsKept c) (by decide)
    (Text.ascii_of_toLower hascii) h

theorem joined_eq_self_of_toLower {cs : List Char} (h : cs.map Char.toLower = "init".toList) :
    joined cs = cs := by
  apply (joined_eq_iff _).mpr rfl
  intro c hc
  exact isKept_of_toLower (h ▸ List.mem_map_of_mem hc)

theorem lowercase_eq_init_iff {cs : List Char} :
    Text.lowercase cs = "init".toList ↔ cs.map Char.toLower = "init".toList :=
  Text.lowercase_eq_iff_of_ascii fun _ => plain_of_mem_init

theorem callable_eq_init_iff {label : String} : callable label = "init" ↔ label.toLower = "init" := by
  have hlower : label.toLower = "init" ↔ label.toList.map Char.toLower = "init".toList := by
    have hmap : label.toLower.toList = label.toList.map Char.toLower := String.toList_map
    rw [← String.toList_inj, hmap]
  rw [hlower]
  constructor
  · intro h
    have hplain : '<' ∉ label.toList := by
      rw [← bracket_mem_callable_iff, h]
      decide
    rw [callable_of_plain hplain, ← String.toList_inj, String.toList_ofList,
      lowercase_eq_init_iff] at h
    have hkept : ∀ c ∈ joined (spelled label), IsKept c := by
      intro c hc
      exact isKept_of_toLower (h ▸ List.mem_map_of_mem hc)
    rw [← (joined_eq_iff hkept).mp rfl] at h
    by_cases hempty : label = ""
    · subst hempty
      exact absurd h (by decide)
    · rwa [spelled_of_ne hempty] at h
  · intro h
    have hempty : label ≠ "" := by
      rintro rfl
      cases h
    have hplain : '<' ∉ label.toList := by
      intro hmem
      have hlowered : '<'.toLower ∈ "init".toList := h ▸ List.mem_map_of_mem hmem
      exact absurd hlowered (by decide)
    rw [callable_of_plain hplain, spelled_of_ne hempty, joined_eq_self_of_toLower h,
      lowercase_eq_init_iff.mpr h]
    rfl

end MoveCanvas.Identifier
