import MoveCanvas.Proofs.Move.Lines
import MoveCanvas.Proofs.ParamType.Forms
import MoveCanvas.Proofs.ParamType.Tokens

/-! # Splitting by tokens

How the reference mark, the name and the argument of a declared type are told apart, said of its
tokens. The mark is split off token by token, but `mut` is seen only if a space follows it; a name
with the placeholder as its argument is found with the closing bracket or without it. -/

namespace MoveCanvas.ParamType

def Reference.tokens : Reference → List String
  | .value => []
  | .shared => ["&"]
  | .exclusive => ["&", "mut"]

def SpacesMut (declared : List Char) : Prop :=
  ∃ rest back, Text.trimStart declared = '&' :: rest ∧ Text.trimStart rest = "mut ".toList ++ back

/-- A name by itself, or with the placeholder as an argument that need not be closed. -/
def generic (name : String) : List (List String) :=
  [[name], [name, "<", "T"], [name, "<", "T", ">"]]

variable {cs core : List Char}

theorem tokens_splitReference (cs : List Char) :
    tokens cs = (splitReference cs).1.tokens ++ tokens (splitReference cs).2 := by
  rcases splitReference_cases cs with ⟨rest, inner, rfl, hrest, hsplit⟩ | ⟨rest, rfl, hsplit⟩ |
    ⟨-, hsplit⟩
  · have hmut : "mut ".toList ++ inner = "mut".toList ++ ' ' :: inner := rfl
    have hword : tokens ("mut".toList ++ ' ' :: inner) = "mut" :: tokens (' ' :: inner) :=
      IsWord.tokens_append_stop (by decide) rfl inner
    rw [hsplit, tokens_cons_mark rfl, ← tokens_trimStart rest, hrest, hmut, hword,
      tokens_cons_blank rfl, ← tokens_trimStart inner]
    rfl
  · rw [hsplit, tokens_cons_mark rfl, ← tokens_trimStart rest]
    rfl
  · rw [hsplit]
    rfl

theorem isTrimmed_splitReference (h : Text.IsTrimmed cs) : Text.IsTrimmed (splitReference cs).2 := by
  rcases splitReference_cases cs with ⟨rest, inner, rfl, hrest, hsplit⟩ | ⟨rest, rfl, hsplit⟩ |
    ⟨-, hsplit⟩
  · rw [hsplit]
    have hinner : inner <:+ Text.trimStart rest := hrest ▸ List.suffix_append _ _
    have hmark := (Text.trimStart_suffix_self rest).trans (List.suffix_cons '&' rest)
    exact h.trimStart_of_suffix (hinner.trans hmark)
  · rw [hsplit]
    exact h.trimStart_of_suffix (List.suffix_cons '&' rest)
  · rw [hsplit]
    exact h

theorem splitReference_ne_value {rest : List String} (hcs : Text.IsTrimmed cs)
    (h : tokens cs = "&" :: rest) : (splitReference cs).1 ≠ .value := by
  obtain ⟨back, rfl, -⟩ := exists_append_of_tokens_eq_cons hcs.head h
  rcases splitReference_cases ("&".toList ++ back) with ⟨_, _, -, -, hsplit⟩ | ⟨_, -, hsplit⟩ |
    ⟨hhead, -⟩
  · rw [hsplit]
    nofun
  · rw [hsplit]
    nofun
  · exact absurd rfl hhead

theorem exists_of_splitReference_exclusive (h : (splitReference cs).1 = .exclusive) :
    ∃ rest back, cs = '&' :: rest ∧ Text.trimStart rest = "mut ".toList ++ back := by
  rcases splitReference_cases cs with ⟨rest, inner, hcs, hrest, -⟩ | ⟨_, -, hsplit⟩ | ⟨-, hsplit⟩
  · exact ⟨rest, inner, hcs, hrest⟩
  · rw [hsplit] at h
    cases h
  · rw [hsplit] at h
    cases h

theorem spacesMut_of_splitReference (h : (splitReference (Text.trim cs)).1 = .exclusive) :
    SpacesMut cs := by
  obtain ⟨rest, back, hcs, hrest⟩ := exists_of_splitReference_exclusive h
  obtain ⟨trail, htrail, -⟩ := Text.exists_trimStart_eq_trim_append cs
  refine ⟨rest ++ trail, back ++ trail, by rw [htrail, hcs]; rfl, ?_⟩
  rw [Text.trimStart_append (by rw [hrest]; simp), hrest, List.append_assoc]

theorem exists_of_tokens_exclusive {type : List String} (hne : type ≠ [])
    (hcs : Text.IsTrimmed cs) (h : tokens cs = Reference.exclusive.tokens ++ type) :
    ∃ core c more, cs = '&' :: core ∧ Text.trimStart core = "mut".toList ++ c :: more := by
  obtain ⟨core, hcore, hmut⟩ := exists_append_of_tokens_eq_cons hcs.head h
  rw [← tokens_trimStart] at hmut
  obtain ⟨more, hmore, htype⟩ :=
    exists_append_of_tokens_eq_cons (fun _ => Text.isBlank_of_head?_trimStart) hmut
  cases more with
  | nil => exact absurd htype.symm hne
  | cons c more => exact ⟨core, c, more, hcore, hmore⟩

/-- The tokens of a type, and the space behind its `mut`, decide where its mark ends. -/
theorem spacesMut_iff {type : List String} (hne : type ≠ [])
    (h : tokens cs = Reference.exclusive.tokens ++ type) :
    SpacesMut cs ↔ (splitReference (Text.trim cs)).1 = .exclusive := by
  refine ⟨?_, spacesMut_of_splitReference⟩
  rintro ⟨rest, back, hcs, hrest⟩
  obtain ⟨trail, htrail, -⟩ := Text.exists_trimStart_eq_trim_append cs
  obtain ⟨core, c, more, hcore, hmore⟩ :=
    exists_of_tokens_exclusive hne (Text.isTrimmed_trim cs) ((tokens_trim cs).trans h)
  have hrestcore : rest = core ++ trail := by
    rw [hcs, hcore] at htrail
    exact (List.cons.inj htrail).2
  -- the blanks that are cut off at the end are not those behind `mut`
  have hspace : c = ' ' := by
    rw [hrestcore, Text.trimStart_append (by rw [hmore]; simp), hmore] at hrest
    have heq : 'm' :: 'u' :: 't' :: c :: (more ++ trail) = 'm' :: 'u' :: 't' :: ' ' :: back := hrest
    simp only [List.cons.injEq, true_and] at heq
    exact heq.1
  subst hspace
  have hafter : Text.after? "mut ".toList (Text.trimStart core) = some more :=
    Text.after?_eq_some_iff.mpr hmore
  rw [hcore]
  simp only [splitReference, hafter]

theorem argument_eq_placeholder_iff (hlast : ∀ c ∈ cs.getLast?, Text.isBlank c = false) :
    Text.trim ((Text.before? ['>'] cs).getD cs) = ['T'] ↔
      tokens cs = ["T"] ∨ tokens cs = ["T", ">"] := by
  have hword : IsWord "T" := by decide
  cases hclose : Text.before? ['>'] cs with
  | some inner =>
      obtain rfl := Text.before?_eq_some_iff.mp hclose
      have htokens : tokens (inner ++ ['>']) = tokens inner ++ [">"] := tokens_append_mark rfl inner []
      rw [Option.getD_some, htokens]
      constructor
      · intro h
        rw [(tokens_eq_word_iff hword).mpr h]
        exact Or.inr rfl
      · rintro (h | h)
        · have hmem : ">" ∈ ["T"] := h ▸ List.mem_append_right _ List.mem_cons_self
          exact absurd hmem (by decide)
        · have heq : tokens inner ++ [">"] = ["T"] ++ [">"] := h
          exact (tokens_eq_word_iff hword).mp (List.append_cancel_right heq)
  | none =>
      rw [Option.getD_none]
      refine ⟨fun h => Or.inl ((tokens_eq_word_iff hword).mpr h), ?_⟩
      rintro (h | h)
      · exact (tokens_eq_word_iff hword).mp h
      · -- a bracket at the end would have been cut off
        obtain ⟨lead, back, rfl, -, hback⟩ := exists_of_tokens_eq_cons h
        obtain ⟨lead', trail, rfl, -, htrail⟩ := exists_of_tokens_eq_cons hback
        have hcs : lead ++ ("T".toList ++ (lead' ++ (">".toList ++ trail))) =
            (lead ++ 'T' :: lead' ++ ['>']) ++ trail := by
          simp
        rw [hcs] at hlast hclose
        rw [Text.eq_nil_of_blank_end hlast (tokens_eq_nil_iff.mp htrail), List.append_nil,
          Text.before?_eq_some_iff.mpr rfl] at hclose
        cases hclose

variable {name : String}

theorem mem_generic_iff_of_not_mem (hopen : '<' ∉ core) :
    tokens core ∈ generic name ↔ tokens core = [name] := by
  have hno : "<" ∉ tokens core := fun hmem => hopen (mem_of_mem_tokens hmem (by simp))
  simp only [generic, List.mem_cons, List.not_mem_nil, or_false]
  refine ⟨?_, Or.inl⟩
  rintro (h | h | h)
  · exact h
  · exact absurd (by simp [h]) hno
  · exact absurd (by simp [h]) hno

section Brackets

variable {front rest : List Char} (hname : IsWord name)

include hname

theorem ne_open_of_isWord : "<" ≠ name := by
  rintro rfl
  exact absurd (hname.2 '<' (by simp)) (by decide)

theorem tokens_open_ne_word (front rest : List Char) : tokens (front ++ '<' :: rest) ≠ [name] := by
  rw [tokens_append_mark rfl]
  intro h
  have hmem : "<" ∈ [name] := h ▸ List.mem_append_right _ List.mem_cons_self
  exact absurd (List.mem_singleton.mp hmem) (ne_open_of_isWord hname)

theorem tokens_open_eq_iff (hfront : '<' ∉ front) (argument : List String) :
    tokens (front ++ '<' :: rest) = name :: "<" :: argument ↔
      tokens front = [name] ∧ tokens rest = argument := by
  have hopen : "<" ∉ tokens front := fun hmem => hfront (mem_of_mem_tokens hmem (by simp))
  rw [tokens_append_mark rfl]
  constructor
  · intro h
    have heq : tokens front ++ "<" :: tokens rest = [name] ++ "<" :: argument := h
    exact Move.append_cons_inj hopen (by simpa using ne_open_of_isWord hname) heq
  · rintro ⟨h, rfl⟩
    rw [h]
    rfl

theorem splitArgument_none_iff (hcore : Text.IsTrimmed core) :
    (splitArgument core).1 = name.toList ∧ (splitArgument core).2 = none ↔ tokens core = [name] := by
  by_cases hopen : '<' ∈ core
  · obtain ⟨front, rest, rfl, hfront⟩ := List.eq_append_cons_of_mem hopen
    rw [splitArgument_append_cons hfront]
    simp [tokens_open_ne_word hname]
  · rw [splitArgument_of_not_mem hopen, tokens_eq_word_iff_of_isTrimmed hname hcore]
    simp

theorem mem_generic_append_cons_iff (hfront : '<' ∉ front) (rest : List Char) :
    tokens (front ++ '<' :: rest) ∈ generic name ↔
      tokens front = [name] ∧ (tokens rest = ["T"] ∨ tokens rest = ["T", ">"]) := by
  simp only [generic, List.mem_cons, List.not_mem_nil, or_false]
  rw [tokens_open_eq_iff hname hfront, tokens_open_eq_iff hname hfront, ← and_or_left]
  exact or_iff_right (tokens_open_ne_word hname front rest)

theorem splitArgument_open_iff (hcore : Text.IsTrimmed core) :
    (splitArgument core).1 = name.toList ∧ isOpen (splitArgument core).2 = true ↔
      tokens core ∈ generic name := by
  by_cases hopen : '<' ∈ core
  · obtain ⟨front, rest, rfl, hfront⟩ := List.eq_append_cons_of_mem hopen
    have hlast : ∀ c ∈ rest.getLast?, Text.isBlank c = false := by
      intro c hc
      apply hcore.last
      rw [List.getLast?_append, List.getLast?_cons, Option.mem_def.mp hc]
      rfl
    rw [splitArgument_append_cons hfront, mem_generic_append_cons_iff hname hfront,
      tokens_eq_word_iff hname, ← argument_eq_placeholder_iff hlast]
    simp [isOpen]
  · rw [splitArgument_of_not_mem hopen, mem_generic_iff_of_not_mem hopen,
      tokens_eq_word_iff_of_isTrimmed hname hcore]
    simp [isOpen]

end Brackets

end MoveCanvas.ParamType
