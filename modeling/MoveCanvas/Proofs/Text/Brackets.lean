import Mathlib.Data.List.Basic

/-! # Balanced brackets

A text is read from left to right with a stack of the closing brackets that are still owed. It is
balanced if each closing bracket is owed when it comes and none is owed at the end. All else in a
text is passed over, so that a text is judged by the word of its brackets alone. -/

namespace MoveCanvas.Text

def isBracket (c : Char) : Bool :=
  c == '(' || c == ')' || c == '\x7b' || c == '\x7d'

/-- The closing brackets owed after a character, innermost first. -/
def owedAfterChar (owed : List Char) (c : Char) : Option (List Char) :=
  if c = '(' then some (')' :: owed)
  else if c = '\x7b' then some ('\x7d' :: owed)
  else if isBracket c then if owed.head? = some c then some owed.tail else none
  else some owed

def owedAfter (owed cs : List Char) : Option (List Char) :=
  cs.foldlM owedAfterChar owed

def Balanced (cs : List Char) : Prop :=
  owedAfter [] cs = some []

instance (cs : List Char) : Decidable (Balanced cs) :=
  inferInstanceAs (Decidable (owedAfter [] cs = some []))

def brackets (cs : List Char) : List Char :=
  cs.filter isBracket

def braceDepth (cs : List Char) : Int :=
  cs.count '\x7b' - cs.count '\x7d'

variable {owed owed' front back cs : List Char} {c : Char}

theorem owedAfterChar_eq_some_iff :
    owedAfterChar owed c = some owed' ↔
      (c = '(' ∧ owed' = ')' :: owed) ∨ (c = '\x7b' ∧ owed' = '\x7d' :: owed) ∨
        ((c = ')' ∨ c = '\x7d') ∧ owed = c :: owed') ∨ (isBracket c = false ∧ owed' = owed) := by
  by_cases hbracket : isBracket c = true
  · have hcases : c = '(' ∨ c = ')' ∨ c = '\x7b' ∨ c = '\x7d' := by
      simpa [isBracket, or_assoc] using hbracket
    rcases hcases with rfl | rfl | rfl | rfl
    case inl | inr.inr.inl => simp [owedAfterChar, isBracket, eq_comm]
    all_goals cases owed <;> simp [owedAfterChar, isBracket, and_comm]
  · have hparen : c ≠ '(' := by
      rintro rfl
      exact hbracket rfl
    have hbrace : c ≠ '\x7b' := by
      rintro rfl
      exact hbracket rfl
    have hclosing : ¬ (c = ')' ∨ c = '\x7d') := by
      rintro (rfl | rfl)
      all_goals exact hbracket rfl
    simp [owedAfterChar, hbracket, hparen, hbrace, hclosing, eq_comm]

theorem owedAfterChar_append (h : owedAfterChar owed c = some owed') (outer : List Char) :
    owedAfterChar (owed ++ outer) c = some (owed' ++ outer) := by
  rw [owedAfterChar_eq_some_iff] at h ⊢
  rcases h with ⟨rfl, rfl⟩ | ⟨rfl, rfl⟩ | ⟨hc, rfl⟩ | ⟨hc, rfl⟩
  · exact .inl ⟨rfl, rfl⟩
  · exact .inr (.inl ⟨rfl, rfl⟩)
  · exact .inr (.inr (.inl ⟨hc, rfl⟩))
  · exact .inr (.inr (.inr ⟨hc, rfl⟩))

theorem braceDepth_append (front back : List Char) :
    braceDepth (front ++ back) = braceDepth front + braceDepth back := by
  simp only [braceDepth, List.count_append]
  omega

theorem braceDepth_of_owedAfterChar (h : owedAfterChar owed c = some owed') :
    owed.count '\x7d' + braceDepth [c] = owed'.count '\x7d' := by
  rcases owedAfterChar_eq_some_iff.mp h with ⟨rfl, rfl⟩ | ⟨rfl, rfl⟩ | ⟨rfl | rfl, rfl⟩ | ⟨hc, rfl⟩
  · simp [braceDepth]
  · simp [braceDepth]
  · simp [braceDepth]
  · have hone : braceDepth ['\x7d'] = -1 := rfl
    rw [hone, List.count_cons_self]
    omega
  · have hopen : c ≠ '\x7b' := by
      rintro rfl
      cases hc
    have hclose : c ≠ '\x7d' := by
      rintro rfl
      cases hc
    simp [braceDepth, hopen, hclose]

theorem owedAfter_append (owed front back : List Char) :
    owedAfter owed (front ++ back) = (owedAfter owed front).bind (owedAfter · back) :=
  List.foldlM_append ..

theorem owedAfter_cons_eq_some_iff :
    owedAfter owed (c :: cs) = some owed' ↔
      ∃ next, owedAfterChar owed c = some next ∧ owedAfter next cs = some owed' := by
  rw [owedAfter, List.foldlM_cons]
  exact Option.bind_eq_some_iff

theorem owedAfter_append_owed (h : owedAfter owed cs = some owed') (outer : List Char) :
    owedAfter (owed ++ outer) cs = some (owed' ++ outer) := by
  induction cs generalizing owed with
  | nil =>
      cases h
      rfl
  | cons c cs ih =>
      obtain ⟨next, hnext, h⟩ := owedAfter_cons_eq_some_iff.mp h
      exact owedAfter_cons_eq_some_iff.mpr ⟨_, owedAfterChar_append hnext outer, ih h⟩

theorem braceDepth_of_owedAfter (h : owedAfter owed cs = some owed') :
    owed.count '\x7d' + braceDepth cs = owed'.count '\x7d' := by
  induction cs generalizing owed with
  | nil =>
      cases h
      simp [braceDepth]
  | cons c cs ih =>
      obtain ⟨next, hnext, h⟩ := owedAfter_cons_eq_some_iff.mp h
      have hfirst := braceDepth_of_owedAfterChar hnext
      have hrest := ih h
      rw [← List.singleton_append, braceDepth_append]
      omega

theorem owedAfter_brackets (owed cs : List Char) :
    owedAfter owed (brackets cs) = owedAfter owed cs := by
  induction cs generalizing owed with
  | nil => rfl
  | cons c cs ih =>
      cases hbracket : isBracket c with
      | true =>
          simp only [brackets, List.filter_cons, hbracket, ↓reduceIte, owedAfter, List.foldlM_cons]
          exact congrArg (Option.bind _) (funext ih)
      | false =>
          have hpassed : owedAfterChar owed c = some owed :=
            owedAfterChar_eq_some_iff.mpr (.inr (.inr (.inr ⟨hbracket, rfl⟩)))
          simp only [brackets, List.filter_cons, hbracket, Bool.false_eq_true, ↓reduceIte,
            owedAfter, List.foldlM_cons, hpassed]
          exact ih owed

theorem brackets_append (front back : List Char) :
    brackets (front ++ back) = brackets front ++ brackets back :=
  List.filter_append ..

theorem brackets_eq_nil_iff : brackets cs = [] ↔ ∀ c ∈ cs, isBracket c = false := by
  simp [brackets, List.filter_eq_nil_iff]

theorem balanced_brackets_iff : Balanced (brackets cs) ↔ Balanced cs := by
  rw [Balanced, owedAfter_brackets, Balanced]

theorem Balanced.owedAfter_eq (h : Balanced cs) (owed : List Char) :
    owedAfter owed cs = some owed :=
  owedAfter_append_owed h owed

theorem Balanced.append (h : Balanced front) (h' : Balanced back) : Balanced (front ++ back) := by
  rw [Balanced, owedAfter_append, h.owedAfter_eq]
  exact h'

theorem balanced_flatMap {xs : List α} {f : α → List Char} (h : ∀ x ∈ xs, Balanced (f x)) :
    Balanced (xs.flatMap f) := by
  induction xs with
  | nil => rfl
  | cons x xs ih =>
      obtain ⟨hx, hxs⟩ := List.forall_mem_cons.mp h
      rw [List.flatMap_cons]
      exact hx.append (ih hxs)

theorem Balanced.braces (h : Balanced cs) : Balanced ('\x7b' :: cs ++ ['\x7d']) := by
  have hinner : owedAfter ['\x7d'] cs = some ['\x7d'] := h.owedAfter_eq _
  show owedAfter ['\x7d'] (cs ++ ['\x7d']) = some []
  rw [owedAfter_append, hinner]
  rfl

theorem Balanced.braceDepth_nonneg (h : Balanced (front ++ back)) : 0 ≤ braceDepth front := by
  rw [Balanced, owedAfter_append] at h
  obtain ⟨owed, howed, -⟩ := Option.bind_eq_some_iff.mp h
  have hdepth := braceDepth_of_owedAfter howed
  simp only [List.count_nil] at hdepth
  omega

/-- The text is one block in braces behind a beginning without brackets. Its last character closes
the first brace, and at no point between the two are all braces closed. -/
structure IsBlock (cs : List Char) : Prop where
  balanced : Balanced cs
  deep : ∀ front back, cs = front ++ back → '\x7b' ∈ front → back ≠ [] → 1 ≤ braceDepth front
  closed : ∃ head inner, cs = head ++ ('\x7b' :: inner ++ ['\x7d']) ∧ brackets head = [] ∧
    Balanced inner

theorem braceDepth_of_brackets_eq_nil (h : brackets cs = []) : braceDepth cs = 0 := by
  have hopen : '\x7b' ∉ cs := fun hmem => absurd (brackets_eq_nil_iff.mp h _ hmem) (by decide)
  have hclose : '\x7d' ∉ cs := fun hmem => absurd (brackets_eq_nil_iff.mp h _ hmem) (by decide)
  simp [braceDepth, List.count_eq_zero_of_not_mem hopen, List.count_eq_zero_of_not_mem hclose]

theorem exists_of_block_eq_append {head inner : List Char} (hhead : '\x7b' ∉ head)
    (heq : head ++ ('\x7b' :: inner ++ ['\x7d']) = front ++ back) (hmem : '\x7b' ∈ front)
    (hback : back ≠ []) :
    ∃ begun rest, front = head ++ '\x7b' :: begun ∧ inner = begun ++ rest := by
  obtain ⟨rest, last, rfl⟩ := (List.eq_nil_or_concat' back).resolve_left hback
  rw [← List.append_assoc, ← List.append_assoc] at heq
  rcases List.append_eq_append_iff.mp (List.append_inj' heq rfl).1 with
    ⟨more, hfront, hmore⟩ | ⟨more, hlonger, -⟩
  · cases more with
    | nil =>
        rw [hfront, List.append_nil] at hmem
        exact absurd hmem hhead
    | cons c begun =>
        obtain ⟨rfl, hinner⟩ := List.cons.inj hmore
        exact ⟨begun, rest, hfront, hinner⟩
  · rw [hlonger] at hhead
    exact absurd (List.mem_append_left _ hmem) hhead

theorem isBlock_of_balanced {head inner : List Char} (hhead : brackets head = [])
    (hinner : Balanced inner) : IsBlock (head ++ ('\x7b' :: inner ++ ['\x7d'])) where
  balanced := by
    rw [← balanced_brackets_iff, brackets_append, hhead, List.nil_append, balanced_brackets_iff]
    exact hinner.braces
  deep front back heq hmem hback := by
    have hnone : '\x7b' ∉ head := fun h => absurd (brackets_eq_nil_iff.mp hhead _ h) (by decide)
    obtain ⟨begun, rest, rfl, rfl⟩ := exists_of_block_eq_append hnone heq hmem hback
    have hbegun := hinner.braceDepth_nonneg
    have hopen : braceDepth ['\x7b'] = 1 := rfl
    rw [braceDepth_append, ← List.singleton_append, braceDepth_append, hopen,
      braceDepth_of_brackets_eq_nil hhead]
    omega
  closed := ⟨head, inner, rfl, hhead, hinner⟩

end MoveCanvas.Text
