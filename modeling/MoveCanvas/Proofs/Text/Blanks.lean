import Mathlib.Data.List.TakeWhile
import MoveCanvas.Text.Blank
import MoveCanvas.Text.Search

/-! # Blanks at the ends of a text

There are finitely many blanks, so what a finite check says of their codes holds of each of them. A
text is its trimmed part between blanks, and the trimmed part neither begins nor ends with one. -/

namespace MoveCanvas.Text

def blankCodes : List Nat :=
  List.range' 0x09 5 ++ [0x20, 0x85, 0xA0, 0x1680] ++ List.range' 0x2000 11 ++
    [0x2028, 0x2029, 0x202F, 0x205F, 0x3000]

theorem toNat_mem_blankCodes {c : Char} (h : isBlank c = true) : c.toNat ∈ blankCodes := by
  simp only [isBlank, Bool.or_eq_true, Bool.and_eq_true, decide_eq_true_eq, beq_iff_eq] at h
  simp only [blankCodes, List.mem_append, List.mem_range'_1, List.mem_cons, List.not_mem_nil,
    or_false]
  omega

theorem forall_isBlank {p : Char → Prop} (h : ∀ n ∈ blankCodes, p (Char.ofNat n)) {c : Char}
    (hc : isBlank c = true) : p c := by
  rw [← Char.ofNat_toNat c]
  exact h c.toNat (toNat_mem_blankCodes hc)

theorem isBlank_of_mem_takeWhile {cs : List Char} {c : Char} (h : c ∈ cs.takeWhile isBlank) :
    isBlank c = true :=
  List.mem_takeWhile_imp h

theorem exists_blanks_trimStart (cs : List Char) :
    ∃ lead, cs = lead ++ trimStart cs ∧ ∀ c ∈ lead, isBlank c = true :=
  ⟨cs.takeWhile isBlank, List.takeWhile_append_dropWhile.symm, fun _ => isBlank_of_mem_takeWhile⟩

theorem exists_trimStart_eq_trim_append (cs : List Char) :
    ∃ trail, trimStart cs = trim cs ++ trail ∧ ∀ c ∈ trail, isBlank c = true := by
  refine ⟨((trimStart cs).reverse.takeWhile isBlank).reverse, ?_,
    fun c hmem => isBlank_of_mem_takeWhile (List.mem_reverse.mp hmem)⟩
  rw [trim, trimEnd, trimStart.eq_def (trimStart cs).reverse, ← List.reverse_append,
    List.takeWhile_append_dropWhile, List.reverse_reverse]

theorem exists_blanks_trim (cs : List Char) : ∃ lead trail, cs = lead ++ (trim cs ++ trail) ∧
    (∀ c ∈ lead, isBlank c = true) ∧ ∀ c ∈ trail, isBlank c = true := by
  obtain ⟨lead, hcs, hlead⟩ := exists_blanks_trimStart cs
  obtain ⟨trail, hend, htrail⟩ := exists_trimStart_eq_trim_append cs
  exact ⟨lead, trail, hend ▸ hcs, hlead, htrail⟩

theorem trimStart_append {cs : List Char} (h : trimStart cs ≠ []) (back : List Char) :
    trimStart (cs ++ back) = trimStart cs ++ back := by
  rw [trimStart, List.dropWhile_append, if_neg (by rwa [List.isEmpty_iff]), ← trimStart]

theorem trimStart_blanks_append {lead : List Char} (h : ∀ c ∈ lead, isBlank c = true)
    (cs : List Char) : trimStart (lead ++ cs) = trimStart cs :=
  List.dropWhile_append_of_pos h

theorem trimEnd_append_blanks {trail : List Char} (h : ∀ c ∈ trail, isBlank c = true)
    (cs : List Char) : trimEnd (cs ++ trail) = trimEnd cs := by
  have hreverse : ∀ c ∈ trail.reverse, isBlank c = true := fun c hc => h c (List.mem_reverse.mp hc)
  rw [trimEnd, List.reverse_append, trimStart_blanks_append hreverse, trimEnd]

theorem trim_append_blanks {trail : List Char} (h : ∀ c ∈ trail, isBlank c = true)
    (cs : List Char) : trim (cs ++ trail) = trim cs := by
  by_cases hcs : trimStart cs = []
  · have hblank := trimStart_eq_nil_iff.mp hcs
    rw [trim_eq_nil_iff.mpr hblank, trim_eq_nil_iff, List.forall_mem_append]
    exact ⟨hblank, h⟩
  · rw [trim, trimStart_append hcs, trimEnd_append_blanks h, ← trim]

theorem trim_between_blanks {lead trail : List Char} (hlead : ∀ c ∈ lead, isBlank c = true)
    (htrail : ∀ c ∈ trail, isBlank c = true) (cs : List Char) :
    trim (lead ++ cs ++ trail) = trim cs := by
  rw [trim_append_blanks htrail, trim, trimStart_blanks_append hlead, ← trim]

theorem after?_append {lead : List Char} {blanks : List Char} (h : ∀ c ∈ blanks, c ∉ lead)
    (cs : List Char) : after? lead (cs ++ blanks) = (after? lead cs).map (· ++ blanks) := by
  fun_induction after? lead cs with
  | case1 cs => simp [after?]
  | case2 a lead cs ih =>
      rw [List.cons_append, after?, if_pos rfl]
      exact ih fun c hc hmem => h c hc (List.mem_cons_of_mem _ hmem)
  | case3 a lead c cs hne => rw [List.cons_append, after?, if_neg hne, Option.map_none]
  | case4 a lead =>
      cases blanks with
      | nil => rfl
      | cons b blanks =>
          have hne : a ≠ b := fun heq => h b List.mem_cons_self (heq ▸ List.mem_cons_self)
          rw [List.nil_append, after?, if_neg hne, Option.map_none]

variable {cs : List Char} {c : Char}

structure IsTrimmed (cs : List Char) : Prop where
  head : ∀ c ∈ cs.head?, isBlank c = false
  last : ∀ c ∈ cs.getLast?, isBlank c = false

theorem isBlank_of_head?_trimStart (h : c ∈ (trimStart cs).head?) : isBlank c = false := by
  obtain ⟨rest, hrest⟩ := List.head?_eq_some_iff.mp h
  exact isBlank_of_trimStart_eq_cons hrest

theorem isTrimmed_trim (cs : List Char) : IsTrimmed (trim cs) where
  head c hc := by
    -- what is cut off at the end leaves the first character in its place
    obtain ⟨rest, hrest⟩ := List.head?_eq_some_iff.mp hc
    obtain ⟨trail, htrail⟩ := trimEnd_prefix_self (trimStart cs)
    have hstart : c ∈ (trimStart cs).head? := by
      rw [← htrail, ← trim, hrest]
      rfl
    exact isBlank_of_head?_trimStart hstart
  last c hc := by
    rw [trim, trimEnd, List.getLast?_reverse] at hc
    exact isBlank_of_head?_trimStart hc

theorem IsTrimmed.trimStart_of_suffix {whole : List Char} (h : IsTrimmed whole)
    (hsuffix : cs <:+ whole) : IsTrimmed (trimStart cs) where
  head _ := isBlank_of_head?_trimStart
  last c hc := by
    obtain ⟨lead, hlead⟩ := (trimStart_suffix_self cs).trans hsuffix
    apply h.last
    rw [← hlead, List.getLast?_append]
    simp [Option.mem_def.mp hc]

theorem eq_nil_of_blank_end {front back : List Char}
    (hlast : ∀ c ∈ (front ++ back).getLast?, isBlank c = false)
    (hblank : ∀ c ∈ back, isBlank c = true) : back = [] := by
  rcases List.eq_nil_or_concat back with rfl | ⟨init, c, rfl⟩
  · rfl
  · have hc := hlast c (by rw [List.concat_eq_append, ← List.append_assoc, List.getLast?_concat]; rfl)
    rw [hblank c (by simp)] at hc
    cases hc

end MoveCanvas.Text
