import MoveCanvas.Identifier

/-! # Joined labels

Joining the path of a label leaves no separator and no blank. Of three colons in a row the last one
stays, and no colon can come to stand behind it. What has neither a separator nor a blank is left as
it is, so that nothing else is its own joined form. -/

namespace MoveCanvas.Identifier

/-- No path separator and no blank is left. -/
structure IsJoined (cs : List Char) : Prop where
  separators : ¬ "::".toList <:+: cs
  blanks : ∀ c ∈ cs, Text.isBlank c = false

variable {cs : List Char} {c : Char}

theorem isJoined_nil : IsJoined [] :=
  ⟨by decide, List.forall_mem_nil _⟩

theorem isJoined_cons_iff : IsJoined (c :: cs) ↔
    ¬ (c = ':' ∧ [':'] <+: cs) ∧ Text.isBlank c = false ∧ IsJoined cs := by
  have hpair : "::".toList <+: c :: cs ↔ c = ':' ∧ [':'] <+: cs :=
    List.cons_prefix_cons.trans (and_congr_left' eq_comm)
  rw [← hpair]
  constructor
  · rintro ⟨hseparators, hblanks⟩
    obtain ⟨hc, hcs⟩ := List.forall_mem_cons.mp hblanks
    exact ⟨fun h => hseparators h.isInfix, hc, fun h => hseparators (List.infix_cons h), hcs⟩
  · rintro ⟨hlead, hc, hseparators, hcs⟩
    refine ⟨fun h => ?_, List.forall_mem_cons.mpr ⟨hc, hcs⟩⟩
    exact (List.infix_cons_iff.mp h).elim hlead hseparators

theorem fillBlank_eq_colon_iff : fillBlank c = ':' ↔ c = ':' := by
  unfold fillBlank
  split
  · next hblank =>
    refine iff_of_false (by decide) ?_
    rintro rfl
    exact absurd hblank (by decide)
  · rfl

theorem colon_prefix_of_joined : [':'] <+: joined cs → [':'] <+: cs := by
  unfold joined
  fun_cases joinPath cs with
  | case1 cs => exact fun h => absurd (List.cons_prefix_cons.mp h).1 (by decide)
  | case2 c cs _ =>
      intro h
      have hcolon : c = ':' := fillBlank_eq_colon_iff.mp (List.cons_prefix_cons.mp h).1.symm
      exact List.cons_prefix_cons.mpr ⟨hcolon.symm, List.nil_prefix⟩
  | case3 => exact id

theorem isJoined_joined (cs : List Char) : IsJoined (joined cs) := by
  unfold joined
  fun_induction joinPath cs with
  | case1 cs ih => exact isJoined_cons_iff.mpr ⟨fun h => absurd h.1 (by decide), rfl, ih⟩
  | case2 c cs hpair ih =>
      refine isJoined_cons_iff.mpr ⟨?_, fillBlank_not_isBlank c, ih⟩
      -- a colon that is left over has no colon behind it
      rintro ⟨hcolon, hrest⟩
      obtain ⟨tail, rfl⟩ := colon_prefix_of_joined hrest
      exact hpair tail (fillBlank_eq_colon_iff.mp hcolon) rfl
  | case3 => exact isJoined_nil

theorem joined_eq_self (h : IsJoined cs) : joined cs = cs := by
  unfold joined
  fun_induction joinPath cs with
  | case1 cs => exact absurd (List.prefix_append "::".toList cs).isInfix h.separators
  | case2 c cs _ ih =>
      obtain ⟨-, hblank, hrest⟩ := isJoined_cons_iff.mp h
      rw [List.map_cons, ih hrest, fillBlank, hblank]
      rfl
  | case3 => rfl

theorem joined_eq_self_iff : joined cs = cs ↔ IsJoined cs :=
  ⟨fun h => h ▸ isJoined_joined cs, joined_eq_self⟩

end MoveCanvas.Identifier
