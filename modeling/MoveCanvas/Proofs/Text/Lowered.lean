import MoveCanvas.Proofs.Text.LetterCase

/-! # The lower case of a lower case

No run of the mapping begins where another one leads, so that what the lower case of a character
consists of is its own lower case. A capital sigma is not among it, and a text without one is mapped
character by character. The lower case of a text is therefore its own lower case. -/

namespace MoveCanvas.Text

/-- The images of the one run lie outside of the other, or all of them between its places. -/
def CaseRun.avoids (run run' : CaseRun) : Bool :=
  run.image + (run.last - run.first) < run'.first || run'.last < run.image ||
    (run'.step == 2 && (run.image + run'.first) % 2 == 1 &&
      (run.step == 2 || run.first == run.last))

theorem CaseRun.covers_image_eq_false {run run' : CaseRun} {n : Nat} (h : run.avoids run' = true)
    (hcovers : run.covers n = true) : run'.covers (run.image + (n - run.first)) = false := by
  obtain ⟨hfirst, hlast, hstep⟩ := covers_iff.mp hcovers
  rw [Bool.eq_false_iff, ne_eq, covers_iff]
  rintro ⟨hfirst', hlast', hstep'⟩
  simp only [avoids, Bool.or_eq_true, Bool.and_eq_true, decide_eq_true_eq, beq_iff_eq] at h
  obtain (hbelow | habove) | ⟨⟨htwo, hodd⟩, hstride | hsingle⟩ := h
  · omega
  · omega
  · rw [htwo] at hstep'
    rw [hstride] at hstep
    omega
  · rw [htwo] at hstep'
    omega

theorem avoids_of_mem_lowercaseRuns {run run' : CaseRun} (h : run ∈ lowercaseRuns)
    (h' : run' ∈ lowercaseRuns) : run.avoids run' = true := by
  have hall : (lowercaseRuns.all fun run => lowercaseRuns.all run.avoids) = true := by
    decide +kernel
  exact List.all_eq_true.mp (List.all_eq_true.mp hall run h) run' h'

theorem dotted_not_image {run : CaseRun} (h : run ∈ lowercaseRuns) :
    ¬ (run.image ≤ 0x130 ∧ 0x130 ≤ run.image + (run.last - run.first)) := by
  have hall : ∀ run ∈ lowercaseRuns,
      ¬ (run.image ≤ 0x130 ∧ 0x130 ≤ run.image + (run.last - run.first)) := by decide +kernel
  exact hall run h

theorem lowerChar_eq_self {c : Char} (hdotted : c ≠ 'İ')
    (hruns : ∀ run ∈ lowercaseRuns, run.covers c.toNat = false) : lowerChar c = [c] := by
  have hnone : lowercaseRuns.find? (·.covers c.toNat) = none :=
    List.find?_eq_none.mpr fun run hrun => Bool.eq_false_iff.mp (hruns run hrun)
  rw [lowerChar, if_neg hdotted, hnone]

theorem lowerChar_of_mem_lowerChar {c d : Char} (h : d ∈ lowerChar c) : lowerChar d = [d] := by
  rcases mem_lowerChar_cases h with ⟨-, hmem⟩ | ⟨run, hrun, hcovers, hcode⟩ | ⟨rfl, hself⟩
  · rcases List.mem_cons.mp hmem with rfl | hmem
    · exact lowerChar_of_ascii (by decide)
    · rw [List.mem_singleton.mp hmem]
      decide +kernel
  · refine lowerChar_eq_self ?_ fun run' hrun' => ?_
    · rintro rfl
      obtain ⟨hfirst, hlast, -⟩ := CaseRun.covers_iff.mp hcovers
      have hdotted : 'İ'.toNat = 0x130 := rfl
      refine dotted_not_image hrun ?_
      omega
    · rw [hcode]
      exact CaseRun.covers_image_eq_false (avoids_of_mem_lowercaseRuns hrun hrun') hcovers
  · exact hself

theorem lowerChar_of_mem_lowercase {cs : List Char} {d : Char} (h : d ∈ lowercase cs) :
    lowerChar d = [d] := by
  obtain ⟨c, -, hlower | rfl | rfl⟩ := mem_lowerAfter h
  · exact lowerChar_of_mem_lowerChar hlower
  · decide +kernel
  · decide +kernel

theorem lowerAfter_eq_self {before cs : List Char} (h : ∀ c ∈ cs, lowerChar c = [c]) :
    lowerAfter before cs = cs := by
  induction cs generalizing before with
  | nil => rfl
  | cons c cs ih =>
      obtain ⟨hc, hcs⟩ := List.forall_mem_cons.mp h
      have hsigma : c ≠ 'Σ' := by
        rintro rfl
        exact absurd hc (by decide +kernel)
      rw [lowerAfter, if_neg hsigma, hc, ih hcs, List.singleton_append]

theorem lowercase_lowercase (cs : List Char) : lowercase (lowercase cs) = lowercase cs :=
  lowerAfter_eq_self fun _ => lowerChar_of_mem_lowercase

end MoveCanvas.Text
