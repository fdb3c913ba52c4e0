import MoveCanvas.Canvas.Conversion
import MoveCanvas.Proofs.Text.Numerals

/-! # The decimals of an initializer

Which raw values state a number of decimals, and which number: a byte as a number, whole or with a
point, or its numeral with blanks around it; and no number at all where the value is missing, null or
blank. Every other value is refused with the text by which it is shown. -/

namespace MoveCanvas

namespace Canvas

/-- The number of decimals that a raw value states, if it states one. -/
inductive StatesDecimals : Option Json → Option UInt8 → Prop
  | absent : StatesDecimals none none
  | null : StatesDecimals (some .null) none
  | blank {s : String} (hblank : ∀ c ∈ s.toList, Text.isBlank c = true) :
      StatesDecimals (some (.str s)) none
  | integer (d : UInt8) : StatesDecimals (some (.num (.int d.toNat))) (some d)
  | pointed {x : Float} (hwhole : (x.floor == x) = true) (hlow : 0.0 ≤ x) (hhigh : x ≤ 255.0) :
      StatesDecimals (some (.num (.real x))) (some x.toUInt8)
  | numeral {s : String} {digits : List Char} {d : UInt8}
      (hsign : Text.trim s.toList = digits ∨ Text.trim s.toList = '+' :: digits)
      (hne : digits ≠ []) (hdigits : ∀ c ∈ digits, c.isDigit = true)
      (hvalue : Nat.ofDigitChars 10 digits 0 = d.toNat) : StatesDecimals (some (.str s)) (some d)

/-- How a refused value is shown: a text by itself, any other value as it is written. -/
def shown : Json → String
  | .str s => s
  | value => value.compact

variable {node : String} {raw : Option Json} {d : Option UInt8} {error : ConversionError}

theorem byte?_int_eq_some_iff {n : Int} {d : UInt8} : byte? (.int n) = some d ↔ n = d.toNat := by
  have hlt := d.toNat_lt
  simp only [byte?, Option.ite_none_right_eq_some, Option.some.injEq]
  constructor
  · rintro ⟨⟨hlow, hhigh⟩, rfl⟩
    have hsmall : n.toNat < 256 := by omega
    rw [UInt8.toNat_ofNat_of_lt' hsmall, Int.toNat_of_nonneg hlow]
  · rintro rfl
    refine ⟨by omega, ?_⟩
    rw [Int.toNat_natCast, UInt8.ofNat_toNat]

theorem statesDecimals_of_byte? {n : Json.Number} {d : UInt8} (h : byte? n = some d) :
    StatesDecimals (some (.num n)) (some d) := by
  cases n with
  | int n =>
      obtain rfl := byte?_int_eq_some_iff.mp h
      exact .integer d
  | real x =>
      simp only [byte?, Option.ite_none_right_eq_some, Option.some.injEq, Bool.and_eq_true,
        decide_eq_true_eq] at h
      obtain ⟨⟨⟨hwhole, hlow⟩, hhigh⟩, rfl⟩ := h
      exact .pointed hwhole hlow hhigh

theorem statesDecimals_of_unsigned? {s : String} {n : Nat}
    (h : Text.unsigned? 256 (Text.trim s.toList) = some n) :
    StatesDecimals (some (.str s)) (some (UInt8.ofNat n)) := by
  obtain ⟨⟨digits, hsign, hne, hdigits, hvalue⟩, hlt⟩ := Text.unsigned?_iff_denotes.mp h
  exact .numeral hsign hne hdigits (hvalue.trans (UInt8.toNat_ofNat_of_lt' hlt).symm)

theorem decimals_of_statesDecimals (h : StatesDecimals raw d) : decimals node raw = .ok d := by
  cases h with
  | absent => rfl
  | null => rfl
  | blank hblank => rw [decimals, if_pos (Text.trim_eq_nil_iff.mpr hblank)]
  | integer d => rw [decimals, byte?_int_eq_some_iff.mpr rfl]
  | pointed hwhole hlow hhigh => simp [decimals, byte?, hwhole, hlow, hhigh]
  | @numeral s digits d hsign hne hdigits hvalue =>
      have hunsigned : Text.unsigned? 256 (Text.trim s.toList) = some d.toNat :=
        Text.unsigned?_iff_denotes.mpr ⟨⟨digits, hsign, hne, hdigits, hvalue⟩, d.toNat_lt⟩
      have hnonblank : Text.trim s.toList ≠ [] := by
        rcases hsign with heq | heq <;> simp [heq, hne]
      rw [decimals, if_neg hnonblank, hunsigned]
      show Except.ok (some (UInt8.ofNat d.toNat)) = _
      rw [UInt8.ofNat_toNat]

/-- A value is read as the number it states, or refused with the text by which it is shown. -/
theorem decimals_cases (node : String) (raw : Option Json) :
    (∃ d, decimals node raw = .ok d ∧ StatesDecimals raw d) ∨
      ∃ value, raw = some value ∧ decimals node raw = .error (.badDecimals node (shown value)) := by
  fun_cases decimals node raw with
  | case1 => exact Or.inl ⟨none, rfl, .absent⟩
  | case2 => exact Or.inl ⟨none, rfl, .null⟩
  | case3 n d hbyte => exact Or.inl ⟨some d, rfl, statesDecimals_of_byte? hbyte⟩
  | case4 n hnone => exact Or.inr ⟨.num n, rfl, rfl⟩
  | case5 s hblank => exact Or.inl ⟨none, rfl, .blank (Text.trim_eq_nil_iff.mp hblank)⟩
  | case6 s hblank n hn => exact Or.inl ⟨_, rfl, statesDecimals_of_unsigned? hn⟩
  | case7 s hblank hnone => exact Or.inr ⟨.str s, rfl, rfl⟩
  | case8 value hnull hnum hstr =>
      refine Or.inr ⟨value, rfl, ?_⟩
      cases value with
      | str s => exact absurd rfl (hstr s)
      | null | bool | num | arr | obj => rfl

theorem decimals_eq_ok_iff : decimals node raw = .ok d ↔ StatesDecimals raw d := by
  refine ⟨fun h => ?_, decimals_of_statesDecimals⟩
  rcases decimals_cases node raw with ⟨d', hok, hstates⟩ | ⟨value, -, herror⟩
  · rw [h] at hok
    cases hok
    exact hstates
  · rw [h] at herror
    cases herror

theorem decimals_eq_error_iff : decimals node raw = .error error ↔
    ∃ value, raw = some value ∧ (∀ d, ¬ StatesDecimals raw d) ∧
      error = .badDecimals node (shown value) := by
  rcases decimals_cases node raw with ⟨d, hok, hstates⟩ | ⟨value, rfl, herror⟩
  · rw [hok]
    exact iff_of_false nofun fun ⟨_, _, hnone, _⟩ => hnone d hstates
  · have hnone (d : Option UInt8) : ¬ StatesDecimals (some value) d := fun hstates => by
      have hok : decimals node (some value) = .ok d := decimals_eq_ok_iff.mpr hstates
      rw [herror] at hok
      cases hok
    rw [herror]
    constructor
    · intro h
      cases h
      exact ⟨value, rfl, hnone, rfl⟩
    · rintro ⟨_, h, -, rfl⟩
      cases h
      rfl

end Canvas

end MoveCanvas
