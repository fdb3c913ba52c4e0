/-! # Finding and cutting inside a text

Occurrence, removal of a given beginning or end, and cuts at the first or last separator, each
on lists of characters. -/

namespace MoveCanvas.Text

def occursIn (needle : List Char) : List Char → Bool
  | [] => needle.isEmpty
  | c :: cs => needle.isPrefixOf (c :: cs) || occursIn needle cs

theorem occursIn_iff {needle cs : List Char} : occursIn needle cs = true ↔ needle <:+: cs := by
  induction cs with
  | nil => simp [occursIn]
  | cons c cs ih => simp [occursIn, ih, List.infix_cons_iff]

theorem prefix_append_cons_iff {needle front back : List Char} {c : Char} (h : c ∉ needle) :
    needle <+: front ++ c :: back ↔ needle <+: front := by
  induction front generalizing needle with
  | nil =>
      cases needle with
      | nil => simp
      | cons d needle =>
          have hne : d ≠ c := fun he => h (he ▸ List.mem_cons_self)
          simp [List.cons_prefix_cons, hne]
  | cons e front ih =>
      cases needle with
      | nil => simp
      | cons d needle =>
          rw [List.cons_append, List.cons_prefix_cons, List.cons_prefix_cons,
            ih fun hmem => h (List.mem_cons_of_mem _ hmem)]

/-- An occurrence does not reach over a character that the needle lacks. -/
theorem infix_append_cons_iff {needle front back : List Char} {c : Char} (h : c ∉ needle) :
    needle <:+: front ++ c :: back ↔ needle <:+: front ∨ needle <:+: back := by
  induction front with
  | nil =>
      rw [List.nil_append, List.infix_cons_iff, ← List.nil_append (c :: back),
        prefix_append_cons_iff h, List.prefix_nil, List.infix_nil]
  | cons e front ih =>
      rw [List.cons_append, List.infix_cons_iff, List.infix_cons_iff, ih, ← List.cons_append,
        prefix_append_cons_iff h, or_assoc]

theorem occursIn_append_cons {needle : List Char} {c : Char} (h : c ∉ needle)
    (front back : List Char) :
    occursIn needle (front ++ c :: back) = (occursIn needle front || occursIn needle back) := by
  rw [Bool.eq_iff_iff, Bool.or_eq_true, occursIn_iff, occursIn_iff, occursIn_iff,
    infix_append_cons_iff h]

/-- What follows `lead`, if the text begins with it. -/
def after? : (lead cs : List Char) → Option (List Char)
  | [], cs => some cs
  | a :: lead, c :: cs => if a = c then after? lead cs else none
  | _ :: _, [] => none

theorem after?_eq_some_iff {lead cs rest : List Char} :
    after? lead cs = some rest ↔ cs = lead ++ rest := by
  fun_induction after? lead cs with
  | case1 => simp [eq_comm]
  | case2 a lead cs ih => simp [ih]
  | case3 a lead c cs h => simp [Ne.symm h]
  | case4 => simp

theorem after?_eq_none_iff {lead cs : List Char} : after? lead cs = none ↔ ¬ lead <+: cs := by
  rw [Option.eq_none_iff_forall_ne_some]
  constructor
  · rintro h ⟨rest, rfl⟩
    exact h rest (after?_eq_some_iff.mpr rfl)
  · intro h rest hrest
    exact h ⟨rest, (after?_eq_some_iff.mp hrest).symm⟩

def before? (tail cs : List Char) : Option (List Char) :=
  (after? tail.reverse cs.reverse).map List.reverse

theorem before?_eq_some_iff {tail cs rest : List Char} :
    before? tail cs = some rest ↔ cs = rest ++ tail := by
  simp only [before?, Option.map_eq_some_iff, after?_eq_some_iff]
  constructor
  · rintro ⟨front, h, rfl⟩
    simpa using congrArg List.reverse h
  · rintro rfl
    exact ⟨rest.reverse, by simp, by simp⟩

/-- The two sides of the first `sep`. -/
def cutFirst? (sep : Char) : List Char → Option (List Char × List Char)
  | [] => none
  | c :: cs =>
    if c = sep then some ([], cs) else (cutFirst? sep cs).map fun (front, back) => (c :: front, back)

theorem cutFirst?_eq_some_iff {sep : Char} {cs front back : List Char} :
    cutFirst? sep cs = some (front, back) ↔ cs = front ++ sep :: back ∧ sep ∉ front := by
  induction cs generalizing front with
  | nil => simp [cutFirst?]
  | cons c cs ih =>
      by_cases h : c = sep
      · subst h
        cases front with
        | nil => simp [cutFirst?]
        | cons d front =>
            simp only [cutFirst?, ↓reduceIte, Option.some.injEq, Prod.mk.injEq, List.cons_append,
              List.cons.injEq, List.mem_cons, not_or]
            constructor
            · rintro ⟨h, -⟩
              cases h
            · rintro ⟨⟨rfl, -⟩, h, -⟩
              exact absurd rfl h
      · cases front with
        | nil => simp [cutFirst?, h]
        | cons d front =>
            simp only [cutFirst?, h, ↓reduceIte, Option.map_eq_some_iff, Prod.exists,
              Prod.mk.injEq, List.cons.injEq, List.cons_append, List.mem_cons, not_or]
            constructor
            · rintro ⟨_, _, he, ⟨rfl, rfl⟩, rfl⟩
              obtain ⟨rfl, hf⟩ := ih.mp he
              exact ⟨⟨rfl, rfl⟩, Ne.symm h, hf⟩
            · rintro ⟨⟨rfl, rfl⟩, -, hf⟩
              exact ⟨front, back, ih.mpr ⟨rfl, hf⟩, ⟨rfl, rfl⟩, rfl⟩

theorem cutFirst?_eq_none_iff {sep : Char} {cs : List Char} :
    cutFirst? sep cs = none ↔ sep ∉ cs := by
  induction cs with
  | nil => simp [cutFirst?]
  | cons c cs ih =>
      by_cases h : c = sep
      · simp [cutFirst?, h]
      · simp [cutFirst?, h, ih, Ne.symm h]

def cutLast? (sep : Char) (cs : List Char) : Option (List Char × List Char) :=
  (cutFirst? sep cs.reverse).map fun (back, front) => (front.reverse, back.reverse)

theorem cutLast?_eq_some_iff {sep : Char} {cs front back : List Char} :
    cutLast? sep cs = some (front, back) ↔ cs = front ++ sep :: back ∧ sep ∉ back := by
  simp only [cutLast?, Option.map_eq_some_iff, Prod.exists, Prod.mk.injEq, cutFirst?_eq_some_iff]
  constructor
  · rintro ⟨b, f, ⟨h, hb⟩, rfl, rfl⟩
    exact ⟨by simpa using congrArg List.reverse h, by simpa using hb⟩
  · rintro ⟨rfl, hb⟩
    exact ⟨back.reverse, front.reverse, ⟨by simp, by simpa using hb⟩, by simp, by simp⟩

end MoveCanvas.Text
