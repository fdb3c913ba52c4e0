import MoveCanvas.Proofs.Canvas.Decimals
import MoveCanvas.Proofs.Text.Blanks
import MoveCanvas.Proofs.Text.Numerals

/-! # Decimals as text and as a number

A text states a number of decimals if it is the numeral of a byte between blanks, and an integer if
it is a byte. The two agree: an integer is accepted or refused as its own numeral is, and where it
is refused the two are shown alike. -/

namespace MoveCanvas

namespace Text

variable {cs : List Char}

theorem trim_of_forall_not_blank (h : ∀ c ∈ cs, isBlank c = false) : trim cs = cs := by
  obtain ⟨lead, trail, hcs, hlead, htrail⟩ := exists_blanks_trim cs
  have hnil {part : List Char} (hpart : ∀ c ∈ part, isBlank c = true) (hin : part ⊆ cs) :
      part = [] := by
    refine List.eq_nil_iff_forall_not_mem.mpr fun c hc => ?_
    have hblank := hpart c hc
    rw [h c (hin hc)] at hblank
    cases hblank
  obtain rfl : lead = [] := hnil hlead (hcs ▸ List.subset_append_left _ _)
  obtain rfl : trail = [] := by
    refine hnil htrail ?_
    rw [hcs, List.nil_append]
    exact List.subset_append_right _ _
  rw [List.nil_append, List.append_nil] at hcs
  exact hcs.symm

theorem isBlank_eq_false_of_isDigit {c : Char} (h : c.isDigit = true) : isBlank c = false := by
  cases hblank : isBlank c with
  | false => rfl
  | true =>
      have hdigit : c.isDigit = false :=
        forall_isBlank (p := (Char.isDigit · = false)) (by decide) hblank
      rw [h] at hdigit
      cases hdigit

end Text

namespace Json

theorem toList_toString (k : Int) : (toString k).toList = integerText k := by
  unfold integerText
  cases k with
  | ofNat n =>
      have hnonneg : ¬ Int.ofNat n < 0 := Int.not_lt.mpr (Int.natCast_nonneg n)
      have hplain : toString (Int.ofNat n) = toString n := rfl
      rw [if_neg hnonneg, hplain, Nat.toString_eq_ofList_toDigits, String.toList_ofList,
        Int.ofNat_eq_natCast, Int.natAbs_natCast]
  | negSucc n =>
      have hsign : toString (Int.negSucc n) = "-" ++ toString (n + 1) := rfl
      have hminus : "-".toList = ['-'] := by decide
      rw [if_pos (Int.negSucc_lt_zero n), hsign, String.toList_append, hminus,
        Nat.toString_eq_ofList_toDigits, String.toList_ofList, Int.natAbs_negSucc,
        List.singleton_append]

theorem Number.text_int (k : Int) : (Number.int k).text = toString k := by
  rw [← String.toList_inj, toList_toString, text, String.toList_ofList]
  rfl

theorem integerText_ne_nil (k : Int) : integerText k ≠ [] := by
  unfold integerText
  split
  · exact List.cons_ne_nil _ _
  · exact Nat.toDigits_ne_nil

theorem trim_integerText (k : Int) : Text.trim (integerText k) = integerText k := by
  refine Text.trim_of_forall_not_blank fun c hc => ?_
  have hdigits : ∀ c ∈ Nat.toDigits 10 k.natAbs, Text.isBlank c = false := fun c hc =>
    Text.isBlank_eq_false_of_isDigit (Nat.isDigit_of_mem_toDigits (by decide) (by decide) hc)
  unfold integerText at hc
  split at hc
  · rcases List.mem_cons.mp hc with rfl | hc
    · rfl
    · exact hdigits c hc
  · exact hdigits c hc

theorem denotes_integerText_iff {k : Int} {n : Nat} : Text.Denotes (integerText k) n ↔ k = n := by
  unfold integerText
  split
  · next hneg => exact iff_of_false (fun h => h.minus_not_mem List.mem_cons_self) (by omega)
  · next hnonneg =>
    have hself := Text.denotes_toDigits k.natAbs
    constructor
    · intro h
      have hvalue : n = k.natAbs := h.unique hself
      omega
    · rintro rfl
      exact hself

end Json

namespace Canvas

variable {node s : String} {d : UInt8} {error : ConversionError} {k : Int}

theorem decimals_str_eq_none_iff :
    decimals node (some (.str s)) = .ok none ↔ Text.trim s.toList = [] := by
  rw [decimals_eq_ok_iff, Text.trim_eq_nil_iff]
  constructor
  · rintro ⟨⟩
    assumption
  · exact .blank

theorem decimals_str_eq_some_iff :
    decimals node (some (.str s)) = .ok (some d) ↔
      Text.Denotes (Text.trim s.toList) d.toNat := by
  rw [decimals_eq_ok_iff]
  constructor
  · rintro ⟨⟩
    exact ⟨_, ‹_›, ‹_›, ‹_›, ‹_›⟩
  · rintro ⟨digits, hsign, hne, hdigits, hvalue⟩
    exact .numeral hsign hne hdigits hvalue

theorem decimals_str_eq_error_iff :
    decimals node (some (.str s)) = .error error ↔
      error = .badDecimals node s ∧ Text.trim s.toList ≠ [] ∧
        ∀ n ≤ 255, ¬ Text.Denotes (Text.trim s.toList) n := by
  have hnone : (∀ d, ¬ StatesDecimals (some (.str s)) d) ↔ Text.trim s.toList ≠ [] ∧
      ∀ n ≤ 255, ¬ Text.Denotes (Text.trim s.toList) n := by
    simp only [← @decimals_eq_ok_iff node, Option.forall, decimals_str_eq_none_iff,
      decimals_str_eq_some_iff]
    refine and_congr_right fun _ => ⟨fun h n hn => ?_, fun h d => h d.toNat ?_⟩
    · have hsmall : (UInt8.ofNat n).toNat = n := UInt8.toNat_ofNat_of_lt' (Nat.lt_succ_of_le hn)
      exact hsmall ▸ h (UInt8.ofNat n)
    · exact Nat.le_of_lt_succ d.toNat_lt
  rw [decimals_eq_error_iff, hnone]
  constructor
  · rintro ⟨_, ⟨⟩, hrefused, rfl⟩
    exact ⟨rfl, hrefused⟩
  · rintro ⟨rfl, hrefused⟩
    exact ⟨.str s, rfl, hrefused, rfl⟩

theorem decimals_int_eq_some_iff :
    decimals node (some (.num (.int k))) = .ok (some d) ↔ k = d.toNat := by
  rw [← byte?_int_eq_some_iff, decimals]
  cases byte? (.int k) <;> simp

theorem decimals_int_eq_error_iff :
    decimals node (some (.num (.int k))) = .error error ↔
      error = .badDecimals node (toString k) ∧ (k < 0 ∨ 255 < k) := by
  have hrange : byte? (.int k) = none ↔ k < 0 ∨ 255 < k := by
    simp only [byte?, ite_eq_right_iff, reduceCtorEq, imp_false]
    omega
  rw [← hrange, ← Json.Number.text_int, decimals]
  cases byte? (.int k) <;> simp [eq_comm]

theorem decimals_toString (node : String) (k : Int) :
    decimals node (some (.str (toString k))) = decimals node (some (.num (.int k))) := by
  have htrim : Text.trim (toString k).toList = Json.integerText k := by
    rw [Json.toList_toString, Json.trim_integerText]
  by_cases hrange : 0 ≤ k ∧ k ≤ 255
  · obtain ⟨d, rfl⟩ : ∃ d : UInt8, k = d.toNat := by
      refine ⟨UInt8.ofNat k.toNat, ?_⟩
      have hsmall : k.toNat < 256 := by omega
      rw [UInt8.toNat_ofNat_of_lt' hsmall, Int.toNat_of_nonneg hrange.1]
    rw [decimals_int_eq_some_iff.mpr rfl, decimals_str_eq_some_iff, htrim,
      Json.denotes_integerText_iff]
  · rw [decimals_int_eq_error_iff.mpr ⟨rfl, by omega⟩, decimals_str_eq_error_iff, htrim]
    refine ⟨rfl, Json.integerText_ne_nil k, fun n hn hdenotes => ?_⟩
    have hvalue : k = n := Json.denotes_integerText_iff.mp hdenotes
    omega

/-- A text states no number if it is blank once trimmed, the number of its numeral if that is at
most 255, and is refused otherwise; an integer states itself from 0 to 255 and is refused otherwise;
and an integer is treated like its numeral. -/
theorem decimals_text_and_integer (node : String) :
    (∀ s : String,
      (decimals node (some (.str s)) = .ok none ↔ Text.trim s.toList = []) ∧
      (∀ d : UInt8, decimals node (some (.str s)) = .ok (some d) ↔
        Text.Denotes (Text.trim s.toList) d.toNat) ∧
      ∀ error, decimals node (some (.str s)) = .error error ↔
        error = .badDecimals node s ∧ Text.trim s.toList ≠ [] ∧
          ∀ n ≤ 255, ¬ Text.Denotes (Text.trim s.toList) n) ∧
    (∀ k : Int,
      (∀ d : UInt8, decimals node (some (.num (.int k))) = .ok (some d) ↔ k = d.toNat) ∧
      ∀ error, decimals node (some (.num (.int k))) = .error error ↔
        error = .badDecimals node (toString k) ∧ (k < 0 ∨ 255 < k)) ∧
    ∀ k : Int, decimals node (some (.str (toString k))) = decimals node (some (.num (.int k))) :=
  ⟨fun _ => ⟨decimals_str_eq_none_iff, fun _ => decimals_str_eq_some_iff,
      fun _ => decimals_str_eq_error_iff⟩,
    fun _ => ⟨fun _ => decimals_int_eq_some_iff, fun _ => decimals_int_eq_error_iff⟩,
    decimals_toString node⟩

/-- The greatest byte behind a sign and zeros, and the next number. -/
example : decimals "i-1" (some (.str " +000255\u3000")) = .ok (some 255) ∧
    decimals "i-1" (some (.str "256")) = .error (.badDecimals "i-1" "256") := ⟨rfl, rfl⟩

end Canvas

end MoveCanvas
