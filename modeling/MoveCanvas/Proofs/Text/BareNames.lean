import MoveCanvas.Proofs.Text.CallableNames
import MoveCanvas.Proofs.Text.JoinedLabels

/-! # Bare identifiers

A label without an angle bracket gives a bare identifier as the name of a type or of a function if
it is a path of words and blanks that does not begin with a digit; for a function the Kelvin sign is
a letter too, as its lower case is one. A module name consists of the characters of identifiers
anyway, but the first character that is kept of the label may be a digit. -/

namespace MoveCanvas.Identifier

def isNameChar (c : Char) : Bool :=
  c.isAlphanum || c == '_'

def leadsWithDigit (cs : List Char) : Bool :=
  cs.head?.any Char.isDigit

/-- A letter of ASCII or an underscore, and then letters of ASCII, digits and underscores. -/
def IsIdentifier : List Char → Prop
  | [] => False
  | c :: rest => (c.isAlpha = true ∨ c = '_') ∧ rest.all isNameChar = true

instance : (cs : List Char) → Decidable (IsIdentifier cs)
  | [] => inferInstanceAs (Decidable False)
  | c :: rest =>
    inferInstanceAs (Decidable ((c.isAlpha = true ∨ c = '_') ∧ rest.all isNameChar = true))

theorem isNameChar_iff {c : Char} :
    isNameChar c = true ↔ (c.isAlpha = true ∨ c = '_') ∨ c.isDigit = true := by
  simp only [isNameChar, Char.isAlphanum, Bool.or_eq_true, beq_iff_eq]
  exact or_right_comm

theorem ascii_of_isNameChar {c : Char} (h : isNameChar c = true) : c.toNat < 128 := by
  have hbelow {bound : UInt32} (hle : c.val ≤ bound) (hbound : bound.toNat < 128) :
      c.toNat < 128 := Nat.lt_of_le_of_lt (UInt32.le_iff_toNat_le.mp hle) hbound
  rcases isNameChar_iff.mp h with (halpha | rfl) | hdigit
  · rcases Bool.or_eq_true_iff.mp halpha with hupper | hlower
    · exact hbelow (of_decide_eq_true hupper).2 (by decide)
    · exact hbelow (of_decide_eq_true (Bool.and_eq_true_iff.mp hlower).2) (by decide)
  · decide
  · exact hbelow (of_decide_eq_true (Bool.and_eq_true_iff.mp hdigit).2) (by decide)

theorem isNameChar_of_isModuleChar {c : Char} (h : isModuleChar c = true) :
    isNameChar c = true := by
  have hascii : c.toNat < 128 := by
    simp only [isModuleChar, Bool.or_eq_true, Bool.and_eq_true, decide_eq_true_eq, beq_iff_eq] at h
    rcases h with (hletter | hdigit) | rfl
    · exact Nat.lt_of_le_of_lt hletter.2 (by decide)
    · exact Nat.lt_of_le_of_lt hdigit.2 (by decide)
    · decide
  exact Text.forall_ascii (p := fun c => isModuleChar c = true → isNameChar c = true) (by decide)
    hascii h

theorem not_isDigit_of_start {c : Char} (h : c.isAlpha = true ∨ c = '_') : c.isDigit = false :=
  Text.forall_ascii (p := fun c => c.isAlpha = true ∨ c = '_' → c.isDigit = false) (by decide)
    (ascii_of_isNameChar (isNameChar_iff.mpr (.inl h))) h

theorem isIdentifier_iff {cs : List Char} :
    IsIdentifier cs ↔ cs ≠ [] ∧ (∀ c ∈ cs, isNameChar c = true) ∧ leadsWithDigit cs = false := by
  cases cs with
  | nil => simp [IsIdentifier]
  | cons c rest =>
      rw [IsIdentifier, List.all_eq_true, List.forall_mem_cons, isNameChar_iff]
      constructor
      · rintro ⟨hstart, hrest⟩
        exact ⟨List.cons_ne_nil _ _, ⟨.inl hstart, hrest⟩, not_isDigit_of_start hstart⟩
      · rintro ⟨-, ⟨hfirst, hrest⟩, hlead⟩
        refine ⟨hfirst.resolve_right ?_, hrest⟩
        exact Bool.eq_false_iff.mp hlead

/-! ## Joined labels -/

/-- Characters with the property, and between them pairs of colons. -/
inductive IsPath (p : Char → Prop) : List Char → Prop
  | nil : IsPath p []
  | separator {cs : List Char} : IsPath p cs → IsPath p (':' :: ':' :: cs)
  | cons {c : Char} {cs : List Char} : p c → IsPath p cs → IsPath p (c :: cs)

theorem forall_mem_joined_iff {p : Char → Prop} (hfill : p '_') (hcolon : ¬ p ':')
    {cs : List Char} :
    (∀ c ∈ joined cs, p c) ↔ IsPath (fun c => p c ∨ Text.isBlank c = true) cs := by
  have hfilled (c : Char) : p (fillBlank c) ↔ p c ∨ Text.isBlank c = true := by
    unfold fillBlank
    split
    · next hblank => exact iff_of_true hfill (.inr hblank)
    · next hblank => exact (or_iff_left hblank).symm
  unfold joined
  fun_induction joinPath cs with
  | case1 cs ih =>
      rw [List.map_cons, List.forall_mem_cons]
      constructor
      · rintro ⟨-, hrest⟩
        exact .separator (ih.mp hrest)
      · intro hpath
        cases hpath with
        | separator hpath => exact ⟨hfill, ih.mpr hpath⟩
        | cons hc _ => exact absurd hc (not_or.mpr ⟨hcolon, by decide⟩)
  | case2 c cs hpair ih =>
      rw [List.map_cons, List.forall_mem_cons, hfilled]
      constructor
      · rintro ⟨hc, hrest⟩
        exact .cons hc (ih.mp hrest)
      · intro hpath
        cases hpath with
        | separator _ => exact (hpair _ rfl rfl).elim
        | cons hc hpath => exact ⟨hc, ih.mpr hpath⟩
  | case3 => exact iff_of_true (List.forall_mem_nil _) .nil

theorem isDigit_fillBlank (c : Char) : (fillBlank c).isDigit = c.isDigit := by
  unfold fillBlank
  split
  · next hblank =>
    exact (Text.forall_isBlank (p := fun c => c.isDigit = false) (by decide) hblank).symm
  · rfl

theorem leadsWithDigit_joined (cs : List Char) :
    leadsWithDigit (joined cs) = leadsWithDigit cs := by
  unfold joined
  fun_cases joinPath cs with
  | case1 cs => rfl
  | case2 c cs _ => exact isDigit_fillBlank c
  | case3 => rfl

/-! ## Lower case -/

theorem forall_mem_lowerChar_iff {c : Char} :
    (∀ d ∈ Text.lowerChar c, isNameChar d = true) ↔ isNameChar c = true ∨ c = '\u212A' := by
  by_cases hascii : c.toNat < 128
  · rw [Text.lowerChar_of_ascii hascii, List.forall_mem_singleton]
    exact Text.forall_ascii
      (p := fun c => isNameChar c.toLower = true ↔ isNameChar c = true ∨ c = '\u212A')
      (by decide +kernel) hascii
  · constructor
    · intro h
      obtain ⟨d, hd⟩ := List.exists_mem_of_ne_nil _ (Text.lowerChar_ne_nil c)
      rcases Text.ascii_of_mem_lowerChar hd (ascii_of_isNameChar (h d hd)) with hc | rfl | rfl
      · exact absurd hc hascii
      · exact absurd (h '\u0307' (by decide)) (by decide)
      · exact .inr rfl
    · rintro (hname | rfl)
      · exact absurd (ascii_of_isNameChar hname) hascii
      · rw [Text.lowerChar_kelvin, List.forall_mem_singleton]
        decide

theorem forall_mem_lowerAfter_iff {before cs : List Char} :
    (∀ d ∈ Text.lowerAfter before cs, isNameChar d = true) ↔
      ∀ c ∈ cs, isNameChar c = true ∨ c = '\u212A' := by
  induction cs generalizing before with
  | nil => exact iff_of_true (List.forall_mem_nil _) (List.forall_mem_nil _)
  | cons c cs ih =>
      rw [Text.lowerAfter, List.forall_mem_append, ih, List.forall_mem_cons]
      refine and_congr_left fun _ => ?_
      split
      · next hsigma =>
        subst hsigma
        refine iff_of_false (fun h => ?_) (by decide)
        have hform := h _ List.mem_cons_self
        unfold Text.lowerSigma at hform
        split at hform <;> exact absurd hform (by decide)
      · exact forall_mem_lowerChar_iff

theorem ascii_of_isDigit {c : Char} (h : c.isDigit = true) : c.toNat < 128 :=
  ascii_of_isNameChar (isNameChar_iff.mpr (.inr h))

theorem leadsWithDigit_lowerChar (c : Char) (cs : List Char) :
    leadsWithDigit (Text.lowerChar c ++ cs) = c.isDigit := by
  by_cases hascii : c.toNat < 128
  · rw [Text.lowerChar_of_ascii hascii]
    exact Text.forall_ascii (p := fun c => c.toLower.isDigit = c.isDigit) (by decide) hascii
  · have hnone : ∀ d ∈ Text.lowerChar c, ¬ d.isDigit = true := by
      intro d hd hdigit
      rcases Text.ascii_of_mem_lowerChar hd (ascii_of_isDigit hdigit) with hc | rfl | rfl
      · exact hascii hc
      · rw [Text.lowerChar_dotted, List.mem_cons, List.mem_singleton] at hd
        rcases hd with rfl | rfl <;> exact absurd hdigit (by decide)
      · rw [Text.lowerChar_kelvin, List.mem_singleton] at hd
        subst hd
        exact absurd hdigit (by decide)
    obtain ⟨d, ds, hlower⟩ := List.exists_cons_of_ne_nil (Text.lowerChar_ne_nil c)
    rw [Bool.eq_false_iff.mpr (mt ascii_of_isDigit hascii), hlower]
    exact Bool.eq_false_iff.mpr (hnone d (hlower ▸ List.mem_cons_self))

theorem leadsWithDigit_lowercase (cs : List Char) :
    leadsWithDigit (Text.lowercase cs) = leadsWithDigit cs := by
  cases cs with
  | nil => rfl
  | cons c cs =>
      rw [Text.lowercase, Text.lowerAfter]
      split
      · next hsigma =>
        subst hsigma
        unfold Text.lowerSigma
        split <;> rfl
      · exact leadsWithDigit_lowerChar c _

/-! ## Module names -/

def keptOf (c : Char) : List Char :=
  (Text.lowerChar c).filter isModuleChar

/-- The case of a sigma hangs on what stands around it, but no module name keeps a sigma. -/
theorem filter_lowerAfter {before cs : List Char} :
    (Text.lowerAfter before cs).filter isModuleChar = cs.flatMap keptOf := by
  induction cs generalizing before with
  | nil => rfl
  | cons c cs ih =>
      rw [Text.lowerAfter, List.filter_append, ih, List.flatMap_cons]
      congr 1
      split
      · next hsigma =>
        subst hsigma
        unfold Text.lowerSigma
        split <;> decide +kernel
      · rfl

theorem keptOf_eq (c : Char) :
    keptOf c = if isNameChar c then [c.toLower] else if c = 'İ' then ['i']
      else if c = '\u212A' then ['k'] else [] := by
  by_cases hascii : c.toNat < 128
  · rw [keptOf, Text.lowerChar_of_ascii hascii]
    exact Text.forall_ascii (p := fun c => [c.toLower].filter isModuleChar =
      if isNameChar c then [c.toLower] else if c = 'İ' then ['i']
        else if c = '\u212A' then ['k'] else []) (by decide +kernel) hascii
  · rw [if_neg (mt ascii_of_isNameChar hascii)]
    split
    · next hdotted => exact hdotted ▸ by decide
    · next hdotted =>
      split
      · next hkelvin => exact hkelvin ▸ by decide +kernel
      · next hkelvin =>
        refine List.filter_eq_nil_iff.mpr fun d hd hkept => ?_
        have hlow : d.toNat < 128 := ascii_of_isNameChar (isNameChar_of_isModuleChar hkept)
        rcases Text.ascii_of_mem_lowerChar hd hlow with hc | hc | hc
        · exact hascii hc
        · exact hdotted hc
        · exact hkelvin hc

theorem keptOf_eq_nil_iff {c : Char} :
    keptOf c = [] ↔ isNameChar c = false ∧ c ≠ 'İ' ∧ c ≠ '\u212A' := by
  rw [keptOf_eq]
  split
  · next hword => simp [hword]
  · next hword => split <;> simp_all

structure IsDropped (cs : List Char) : Prop where
  chars : ∀ c ∈ cs, isNameChar c = false ∧ Text.isBlank c = false ∧ c ≠ 'İ' ∧ c ≠ '\u212A'
  separators : ¬ [':', ':'] <:+: cs

theorem isDropped_nil : IsDropped [] :=
  ⟨List.forall_mem_nil _, by decide⟩

theorem isDropped_cons_iff {c : Char} {cs : List Char} (hpair : ¬ [':', ':'] <+: c :: cs) :
    IsDropped (c :: cs) ↔ keptOf (fillBlank c) = [] ∧ IsDropped cs := by
  have hchar : keptOf (fillBlank c) = [] ↔
      isNameChar c = false ∧ Text.isBlank c = false ∧ c ≠ 'İ' ∧ c ≠ '\u212A' := by
    unfold fillBlank
    split
    · next hblank => exact iff_of_false (by decide +kernel) (by simp [hblank])
    · next hblank => simp [keptOf_eq_nil_iff, hblank]
  rw [hchar]
  constructor
  · rintro ⟨hchars, hseparators⟩
    obtain ⟨hc, hcs⟩ := List.forall_mem_cons.mp hchars
    exact ⟨hc, hcs, fun hinfix => hseparators (List.infix_cons hinfix)⟩
  · rintro ⟨hc, hcs, hseparators⟩
    refine ⟨List.forall_mem_cons.mpr ⟨hc, hcs⟩, fun hinfix => ?_⟩
    exact (List.infix_cons_iff.mp hinfix).elim hpair hseparators

/-- Only dropped characters stand in front of a digit. -/
def DropsToDigit (cs : List Char) : Prop :=
  ∃ front d back, cs = front ++ d :: back ∧ d.isDigit = true ∧ IsDropped front

theorem not_dropsToDigit_nil : ¬ DropsToDigit [] := by
  rintro ⟨front, d, back, hcs, -⟩
  exact List.append_ne_nil_of_right_ne_nil front (List.cons_ne_nil d back) hcs.symm

theorem not_dropsToDigit_separator {cs : List Char} : ¬ DropsToDigit (':' :: ':' :: cs) := by
  rintro ⟨front, d, back, hcs, hdigit, hdropped⟩
  match front with
  | [] | [_] =>
    cases hcs
    cases hdigit
  | _ :: _ :: front =>
    cases hcs
    exact hdropped.separators (List.prefix_append [':', ':'] front).isInfix

theorem dropsToDigit_cons_iff {c : Char} {cs : List Char} (hpair : ¬ [':', ':'] <+: c :: cs) :
    DropsToDigit (c :: cs) ↔
      c.isDigit = true ∨ (keptOf (fillBlank c) = [] ∧ DropsToDigit cs) := by
  have hdropped_iff {front : List Char} (hfront : front <+: cs) :
      IsDropped (c :: front) ↔ keptOf (fillBlank c) = [] ∧ IsDropped front :=
    isDropped_cons_iff fun hcolons =>
      hpair (hcolons.trans (List.cons_prefix_cons.mpr ⟨rfl, hfront⟩))
  constructor
  · rintro ⟨_ | ⟨c', front⟩, d, back, hcs, hdigit, hdropped⟩
    · cases hcs
      exact .inl hdigit
    · cases hcs
      obtain ⟨hkept, hdropped⟩ := (hdropped_iff (List.prefix_append ..)).mp hdropped
      exact .inr ⟨hkept, front, d, back, rfl, hdigit, hdropped⟩
  · rintro (hdigit | ⟨hkept, front, d, back, rfl, hdigit, hdropped⟩)
    · exact ⟨[], c, cs, rfl, hdigit, isDropped_nil⟩
    · exact ⟨c :: front, d, back, rfl, hdigit,
        (hdropped_iff (List.prefix_append ..)).mpr ⟨hkept, hdropped⟩⟩

theorem leadsWithDigit_keptOf_append {c : Char} (h : keptOf c ≠ []) (cs : List Char) :
    leadsWithDigit (keptOf c ++ cs) = c.isDigit := by
  rw [keptOf_eq] at h ⊢
  split
  · next hword =>
    exact Text.forall_ascii (p := fun c => c.toLower.isDigit = c.isDigit) (by decide)
      (ascii_of_isNameChar hword)
  · next hword =>
    rw [if_neg hword] at h
    split
    · next hdotted => exact hdotted ▸ rfl
    · next hdotted =>
      rw [if_neg hdotted] at h
      split
      · next hkelvin => exact hkelvin ▸ rfl
      · next hkelvin => exact absurd (if_neg hkelvin) h

theorem keptOf_ne_nil_of_isDigit {c : Char} (h : c.isDigit = true) : keptOf c ≠ [] := by
  intro hkept
  have hword := (keptOf_eq_nil_iff.mp hkept).1
  rw [isNameChar_iff.mpr (.inr h)] at hword
  cases hword

theorem leadsWithDigit_kept_iff {cs : List Char} :
    leadsWithDigit ((joined cs).flatMap keptOf) = true ↔ DropsToDigit cs := by
  unfold joined
  fun_induction joinPath cs with
  | case1 cs ih =>
      rw [List.map_cons, List.flatMap_cons, leadsWithDigit_keptOf_append (by decide)]
      exact iff_of_false (by decide) not_dropsToDigit_separator
  | case2 c cs hpair ih =>
      have hcolons : ¬ [':', ':'] <+: c :: cs := by
        rintro ⟨rest, hrest⟩
        cases hrest
        exact hpair rest rfl rfl
      rw [List.map_cons, List.flatMap_cons, dropsToDigit_cons_iff hcolons]
      by_cases hkept : keptOf (fillBlank c) = []
      · have hplain : ¬ c.isDigit = true := by
          rw [← isDigit_fillBlank]
          exact fun hdigit => keptOf_ne_nil_of_isDigit hdigit hkept
        rw [hkept, List.nil_append, ih]
        simp [hplain]
      · rw [leadsWithDigit_keptOf_append hkept, isDigit_fillBlank]
        simp [hkept]
  | case3 => exact iff_of_false (by decide) not_dropsToDigit_nil

/-! ## Names of labels -/

theorem IsPath.of_forall {p : Char → Prop} {cs : List Char} (h : ∀ c ∈ cs, p c) : IsPath p cs := by
  induction cs with
  | nil => exact .nil
  | cons c cs ih =>
      exact .cons (h c List.mem_cons_self) (ih fun d hd => h d (List.mem_cons_of_mem _ hd))

/-- A path of words, blanks and the extra characters that does not begin with a digit. -/
def IsBarePath (extra : List Char) (cs : List Char) : Prop :=
  IsPath (fun c => (isNameChar c = true ∨ c ∈ extra) ∨ Text.isBlank c = true) cs ∧
    leadsWithDigit cs = false

section

variable {label : String}

theorem isIdentifier_joined_iff {cs : List Char} :
    IsIdentifier (joined cs) ↔ cs ≠ [] ∧ IsBarePath [] cs := by
  rw [isIdentifier_iff, leadsWithDigit_joined, IsBarePath,
    ← forall_mem_joined_iff (by decide) (by decide), ne_eq, joined_eq_nil_iff]
  simp only [List.not_mem_nil, or_false]

theorem isIdentifier_lowercase_joined_iff {cs : List Char} :
    IsIdentifier (Text.lowercase (joined cs)) ↔ cs ≠ [] ∧ IsBarePath ['\u212A'] cs := by
  have hnil : Text.lowercase (joined cs) = [] ↔ cs = [] :=
    Text.lowerAfter_eq_nil_iff.trans joined_eq_nil_iff
  rw [isIdentifier_iff, leadsWithDigit_lowercase, leadsWithDigit_joined, IsBarePath,
    ← forall_mem_joined_iff (by decide) (by decide), ne_eq, hnil, Text.lowercase,
    forall_mem_lowerAfter_iff]
  simp only [List.mem_singleton]

theorem isBarePath_spelled_iff {extra : List Char} :
    spelled label ≠ [] ∧ IsBarePath extra (spelled label) ↔ IsBarePath extra label.toList := by
  unfold spelled
  split
  · next hempty =>
    subst hempty
    have hfallback : ∀ c ∈ fallback.toList, isNameChar c = true :=
      List.all_eq_true.mp (by decide)
    refine iff_of_true ⟨by decide, .of_forall fun c hc => ?_, by decide⟩ ⟨.nil, rfl⟩
    exact .inl (.inl (hfallback c hc))
  · next hlabel =>
    refine and_iff_right ?_
    rwa [ne_eq, String.toList_eq_nil_iff]

theorem declaration_of_plain (h : '<' ∉ label.toList) :
    declaration label = String.ofList (joined (spelled label)) := by
  by_cases hempty : label = ""
  · subst hempty
    decide
  · rw [declaration, if_neg hempty, if_neg h, spelled_of_ne hempty]

theorem isIdentifier_declaration_iff (h : '<' ∉ label.toList) :
    IsIdentifier (declaration label).toList ↔ IsBarePath [] label.toList := by
  rw [declaration_of_plain h, String.toList_ofList, isIdentifier_joined_iff, isBarePath_spelled_iff]

theorem isIdentifier_callable_iff (h : '<' ∉ label.toList) :
    IsIdentifier (callable label).toList ↔ IsBarePath ['\u212A'] label.toList := by
  rw [callable_of_plain h, String.toList_ofList, isIdentifier_lowercase_joined_iff,
    isBarePath_spelled_iff]

theorem moduleName_toList (label : String) :
    (moduleName label).toList =
      match (declaration label).toList.flatMap keptOf with
      | [] => fallback.toList
      | cs => cs := by
  rw [moduleName, Text.lowercase, filter_lowerAfter]
  cases (declaration label).toList.flatMap keptOf with
  | nil => rfl
  | cons c cs => exact String.toList_ofList

theorem moduleName_toList_ne_nil (label : String) : (moduleName label).toList ≠ [] := by
  rw [moduleName_toList]
  split
  · decide
  · assumption

theorem isIdentifier_moduleName_iff (h : '<' ∉ label.toList) :
    IsIdentifier (moduleName label).toList ↔ ¬ DropsToDigit label.toList := by
  have hwords : ∀ c ∈ (moduleName label).toList, isNameChar c = true := fun c hc =>
    isNameChar_of_isModuleChar (isModuleChar_of_mem_moduleName hc)
  have hlead : leadsWithDigit (moduleName label).toList =
      leadsWithDigit ((joined (spelled label)).flatMap keptOf) := by
    rw [moduleName_toList, declaration_of_plain h, String.toList_ofList]
    split
    · next hnil => exact hnil ▸ rfl
    · rfl
  have hspelled : DropsToDigit (spelled label) ↔ DropsToDigit label.toList := by
    unfold spelled
    split
    · next hempty =>
      subst hempty
      rw [← leadsWithDigit_kept_iff]
      exact iff_of_false (by decide +kernel) not_dropsToDigit_nil
    · rfl
  rw [isIdentifier_iff, ← hspelled, ← leadsWithDigit_kept_iff, ← hlead, Bool.not_eq_true]
  exact (and_iff_right (moduleName_toList_ne_nil label)).trans (and_iff_right hwords)

end

/-! ## Module names of module names -/

section

variable {cs : List Char}

theorem joined_of_isModuleChar (h : ∀ c ∈ cs, isModuleChar c = true) : joined cs = cs := by
  refine joined_eq_self ⟨fun hpair => ?_, fun c hc => ?_⟩
  · exact nomatch h ':' (hpair.subset List.mem_cons_self)
  · rw [Bool.eq_false_iff]
    intro hblank
    have hnone : isModuleChar c = false :=
      Text.forall_isBlank (p := (isModuleChar · = false)) (by decide) hblank
    rw [h c hc] at hnone
    cases hnone

theorem flatMap_keptOf_of_isModuleChar (h : ∀ c ∈ cs, isModuleChar c = true) :
    cs.flatMap keptOf = cs := by
  induction cs with
  | nil => rfl
  | cons c cs ih =>
      obtain ⟨hc, hcs⟩ := List.forall_mem_cons.mp h
      have hself : keptOf c = [c] := by
        have hascii := ascii_of_isNameChar (isNameChar_of_isModuleChar hc)
        rw [keptOf, Text.lowerChar_of_ascii hascii]
        exact Text.forall_ascii
          (p := fun c => isModuleChar c = true → [c.toLower].filter isModuleChar = [c])
          (by decide) hascii hc
      rw [List.flatMap_cons, hself, ih hcs, List.singleton_append]

end

theorem moduleName_moduleName (label : String) :
    moduleName (moduleName label) = moduleName label := by
  have hchars : ∀ c ∈ (moduleName label).toList, isModuleChar c = true := fun _ hc =>
    isModuleChar_of_mem_moduleName hc
  have hne : (moduleName label).toList ≠ [] := moduleName_toList_ne_nil label
  have hempty : moduleName label ≠ "" := by rwa [ne_eq, ← String.toList_eq_nil_iff]
  have hplain : '<' ∉ (moduleName label).toList := fun hmem => nomatch hchars '<' hmem
  rw [← String.toList_inj, moduleName_toList, declaration_of_plain hplain, String.toList_ofList,
    spelled_of_ne hempty, joined_of_isModuleChar hchars, flatMap_keptOf_of_isModuleChar hchars]
  split
  · next hnil => exact absurd hnil hne
  · rfl

end MoveCanvas.Identifier
