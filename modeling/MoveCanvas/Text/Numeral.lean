/-! # Decimal numerals

Reading a bounded natural number: one optional plus sign, then one or more ASCII digits, leading
zeros allowed. -/

namespace MoveCanvas.Text

/-- The number written by a non-empty row of ASCII digits. -/
def ofDigits? (cs : List Char) : Option Nat :=
  if cs ≠ [] ∧ cs.all Char.isDigit = true then some (Nat.ofDigitChars 10 cs 0) else none

theorem ofDigits?_eq_some_iff {cs : List Char} {n : Nat} : ofDigits? cs = some n ↔
    cs ≠ [] ∧ (∀ c ∈ cs, c.isDigit = true) ∧ Nat.ofDigitChars 10 cs 0 = n := by
  simp [ofDigits?, and_assoc]

theorem ofDigits?_toDigits (n : Nat) : ofDigits? (Nat.toDigits 10 n) = some n :=
  ofDigits?_eq_some_iff.mpr ⟨Nat.toDigits_ne_nil, fun _ h => Nat.isDigit_of_mem_toDigits (by decide)
    (by decide) h, by simp⟩

def withoutPlus : List Char → List Char
  | '+' :: cs => cs
  | cs => cs

def unsigned? (limit : Nat) (cs : List Char) : Option Nat :=
  (ofDigits? (withoutPlus cs)).filter (· < limit)

theorem unsigned?_eq_some_iff {limit n : Nat} {cs : List Char} :
    unsigned? limit cs = some n ↔ ofDigits? (withoutPlus cs) = some n ∧ n < limit := by
  simp [unsigned?, Option.filter_eq_some_iff]

end MoveCanvas.Text
