import MoveCanvas.Text.Numeral

/-! # Numerals

A numeral is a row of ASCII digits, perhaps after one plus sign, and denotes one number. A bounded
numeral is read exactly if the number that it denotes is below the bound. -/

namespace MoveCanvas.Text

/-- A row of digits for the number, zeros in front allowed, perhaps after one plus sign. -/
def Denotes (cs : List Char) (n : Nat) : Prop :=
  ∃ digits, (cs = digits ∨ cs = '+' :: digits) ∧ digits ≠ [] ∧
    (∀ c ∈ digits, c.isDigit = true) ∧ Nat.ofDigitChars 10 digits 0 = n

variable {cs : List Char} {n : Nat}

theorem ofDigits?_withoutPlus_eq_some_iff :
    ofDigits? (withoutPlus cs) = some n ↔
      ∃ digits, (cs = digits ∨ cs = '+' :: digits) ∧ ofDigits? digits = some n := by
  constructor
  · intro h
    unfold withoutPlus at h
    split at h
    · exact ⟨_, Or.inr rfl, h⟩
    · exact ⟨_, Or.inl rfl, h⟩
  · rintro ⟨digits, rfl | rfl, h⟩
    · -- a row of digits does not begin with a sign
      obtain ⟨-, hdigits, -⟩ := ofDigits?_eq_some_iff.mp h
      unfold withoutPlus
      split
      · exact absurd (hdigits '+' List.mem_cons_self) (by decide)
      · exact h
    · exact h

theorem ofDigits?_withoutPlus_iff_denotes : ofDigits? (withoutPlus cs) = some n ↔ Denotes cs n := by
  rw [ofDigits?_withoutPlus_eq_some_iff]
  simp only [ofDigits?_eq_some_iff, Denotes]

theorem unsigned?_iff_denotes {limit : Nat} :
    unsigned? limit cs = some n ↔ Denotes cs n ∧ n < limit := by
  rw [unsigned?_eq_some_iff, ofDigits?_withoutPlus_iff_denotes]

theorem Denotes.unique {m : Nat} (hm : Denotes cs m) (hn : Denotes cs n) : m = n := by
  rw [← ofDigits?_withoutPlus_iff_denotes] at hm hn
  exact Option.some.inj (hm.symm.trans hn)

theorem denotes_toDigits (n : Nat) : Denotes (Nat.toDigits 10 n) n :=
  ⟨_, .inl rfl, ofDigits?_eq_some_iff.mp (ofDigits?_toDigits n)⟩

theorem Denotes.minus_not_mem (h : Denotes cs n) : '-' ∉ cs := by
  obtain ⟨digits, rfl | rfl, -, hdigits, -⟩ := h
  · exact fun hmem => absurd (hdigits '-' hmem) (by decide)
  · rw [List.mem_cons, not_or]
    exact ⟨by decide, fun hmem => absurd (hdigits '-' hmem) (by decide)⟩

end MoveCanvas.Text
