/-! # Blank characters

A blank is a character of the Unicode property `White_Space`. The zero-width characters and the
byte order mark are not blanks. A text is trimmed by removing the blanks at its ends. -/

namespace MoveCanvas.Text

/-- The characters of the Unicode property `White_Space`. -/
def isBlank (c : Char) : Bool :=
  let n := c.toNat
  (0x09 ≤ n && n ≤ 0x0D) || n == 0x20 || n == 0x85 || n == 0xA0 || n == 0x1680 ||
    (0x2000 ≤ n && n ≤ 0x200A) || n == 0x2028 || n == 0x2029 || n == 0x202F || n == 0x205F ||
    n == 0x3000

def trimStart (cs : List Char) : List Char :=
  cs.dropWhile isBlank

def trimEnd (cs : List Char) : List Char :=
  (trimStart cs.reverse).reverse

def trim (cs : List Char) : List Char :=
  trimEnd (trimStart cs)

theorem trimStart_suffix_self (cs : List Char) : trimStart cs <:+ cs :=
  List.dropWhile_suffix isBlank

theorem trimEnd_prefix_self (cs : List Char) : trimEnd cs <+: cs := by
  have h := List.reverse_prefix.mpr (trimStart_suffix_self cs.reverse)
  rwa [List.reverse_reverse] at h

theorem trim_infix_self (cs : List Char) : trim cs <:+: cs :=
  (trimEnd_prefix_self _).isInfix.trans (trimStart_suffix_self cs).isInfix

theorem trimStart_eq_nil_iff {cs : List Char} : trimStart cs = [] ↔ ∀ c ∈ cs, isBlank c = true := by
  induction cs with
  | nil => simp [trimStart]
  | cons c cs ih =>
      simp only [trimStart] at ih
      cases h : isBlank c <;> simp [trimStart, h, ih]

theorem isBlank_of_trimStart_eq_cons {cs rest : List Char} {c : Char}
    (h : trimStart cs = c :: rest) : isBlank c = false := by
  induction cs with
  | nil => cases h
  | cons d cs ih =>
      simp only [trimStart] at ih h
      cases hd : isBlank d
      · simp only [hd, Bool.false_eq_true, not_false_eq_true, List.dropWhile_cons_of_neg,
          List.cons.injEq] at h
        exact h.1 ▸ hd
      · exact ih (by simpa [hd] using h)

theorem trimStart_cons {c : Char} (h : isBlank c = false) (cs : List Char) :
    trimStart (c :: cs) = c :: cs :=
  List.dropWhile_cons_of_neg (Bool.eq_false_iff.mp h)

/-- Only the ends of a text decide whether it is trimmed already. -/
theorem trim_eq_self {c d : Char} (hc : isBlank c = false) (hd : isBlank d = false)
    (cs : List Char) : trim (c :: cs ++ [d]) = c :: cs ++ [d] := by
  rw [trim, List.cons_append, trimStart_cons hc, ← List.cons_append, trimEnd, List.reverse_concat,
    trimStart_cons hd, List.reverse_cons, List.reverse_reverse]

theorem trim_eq_nil_iff {cs : List Char} : trim cs = [] ↔ ∀ c ∈ cs, isBlank c = true := by
  rw [← trimStart_eq_nil_iff, trim, trimEnd, List.reverse_eq_nil_iff]
  constructor
  · intro h
    cases hcs : trimStart cs with
    | nil => rfl
    | cons c rest =>
        have hc : isBlank c = true := trimStart_eq_nil_iff.mp h c (by simp [hcs])
        rw [isBlank_of_trimStart_eq_cons hcs] at hc
        cases hc
  · intro h
    rw [h]
    rfl

end MoveCanvas.Text
