import MoveCanvas.Proofs.Text.Blanks
import MoveCanvas.Text.Lowercase

/-! # Lower case within ASCII

Two characters beyond ASCII have lower cases that reach into it: the capital I with a dot above,
which becomes two characters, and the Kelvin sign, which becomes a k. A lower case without a k that
stays within ASCII is therefore one of a text within ASCII, where characters are mapped one by
one. The same holds where blanks stand between the characters of ASCII, as a blank is the lower case
of itself alone. -/

namespace MoveCanvas.Text

theorem toNat_ofNat {n : Nat} (h : n.isValidChar) : (Char.ofNat n).toNat = n := by
  rw [Char.ofNat, dif_pos h]
  rfl

theorem toLower_of_not_upper {c : Char} (h : ¬ (0x41 ≤ c.toNat ∧ c.toNat ≤ 0x5A)) :
    c.toLower = c :=
  dif_neg h

theorem forall_ascii {p : Char → Prop} (h : ∀ n < 128, p (Char.ofNat n)) {c : Char}
    (hc : c.toNat < 128) : p c := by
  rw [← Char.ofNat_toNat c]
  exact h c.toNat hc

theorem lowerChar_ne_nil (c : Char) : lowerChar c ≠ [] := by
  unfold lowerChar
  split
  · exact List.cons_ne_nil _ _
  · split
    · exact List.cons_ne_nil _ _
    · exact List.cons_ne_nil _ _

/-- Only the first of the runs begins within ASCII. -/
theorem ascii_of_mem_lowercaseRuns {run : CaseRun} (h : run ∈ lowercaseRuns)
    (hfirst : run.first < 128) : run.first = 0x41 ∧ run.last = 0x5A ∧ run.image = 0x61 := by
  have hall : ∀ run ∈ lowercaseRuns, run.first < 128 →
      run.first = 0x41 ∧ run.last = 0x5A ∧ run.image = 0x61 := by decide +kernel
  exact hall run h hfirst

theorem lowerChar_of_ascii {c : Char} (h : c.toNat < 128) : lowerChar c = [c.toLower] := by
  have hdotted : c ≠ 'İ' := by
    rintro rfl
    exact absurd h (by decide)
  unfold lowerChar
  rw [if_neg hdotted]
  split
  · next run hfound =>
    have hcovers := List.find?_some hfound
    obtain ⟨hfirst, hlast, -⟩ := CaseRun.covers_iff.mp hcovers
    obtain ⟨hfirst', hlast', himage⟩ := ascii_of_mem_lowercaseRuns
      (List.mem_of_find?_eq_some hfound) (Nat.lt_of_le_of_lt hfirst h)
    have hupper : ∀ n < 128, 0x41 ≤ n → n ≤ 0x5A →
        Char.ofNat (0x61 + (n - 0x41)) = (Char.ofNat n).toLower := by decide
    rw [hfirst', himage, hupper c.toNat h (by omega) (by omega), Char.ofNat_toNat]
  · next hnone =>
    have huncovered := List.find?_eq_none.mp hnone ⟨0x41, 0x5A, 1, 0x61⟩ List.mem_cons_self
    rw [CaseRun.covers_iff, Nat.mod_one] at huncovered
    rw [toLower_of_not_upper fun ⟨hlow, hhigh⟩ => huncovered ⟨hlow, hhigh, rfl⟩]

theorem image_of_mem_lowercaseRuns {run : CaseRun} (h : run ∈ lowercaseRuns) :
    (run.image + (run.last - run.first) < 0xD800 ∨
      0xDFFF < run.image ∧ run.image + (run.last - run.first) < 0x110000) ∧
    (run.image < 128 → run.last < 128 ∨ run.first = 0x212A ∧ run.last = 0x212A) := by
  have hall : ∀ run ∈ lowercaseRuns, (run.image + (run.last - run.first) < 0xD800 ∨
      0xDFFF < run.image ∧ run.image + (run.last - run.first) < 0x110000) ∧
    (run.image < 128 → run.last < 128 ∨ run.first = 0x212A ∧ run.last = 0x212A) := by
    decide +kernel
  exact hall run h

theorem mem_lowerChar_cases {c d : Char} (h : d ∈ lowerChar c) :
    (c = 'İ' ∧ d ∈ ['i', '\u0307']) ∨
      (∃ run ∈ lowercaseRuns, run.covers c.toNat = true ∧
        d.toNat = run.image + (c.toNat - run.first)) ∨
      (d = c ∧ lowerChar c = [c]) := by
  revert h
  fun_cases lowerChar c with
  | case1 hdotted => exact fun h => .inl ⟨hdotted, h⟩
  | case2 _ run hfound =>
      intro h
      have hrun := List.mem_of_find?_eq_some hfound
      have hcovers := List.find?_some hfound
      obtain ⟨hvalid, -⟩ := image_of_mem_lowercaseRuns hrun
      obtain ⟨hfirst, hlast, -⟩ := CaseRun.covers_iff.mp hcovers
      refine .inr (.inl ⟨run, hrun, hcovers, ?_⟩)
      rw [List.mem_singleton.mp h, toNat_ofNat (by unfold Nat.isValidChar; omega)]
  | case3 => exact fun h => .inr (.inr ⟨List.mem_singleton.mp h, rfl⟩)

theorem ascii_of_mem_lowerChar {c d : Char} (hmem : d ∈ lowerChar c) (hd : d.toNat < 128) :
    c.toNat < 128 ∨ c = 'İ' ∨ c = '\u212A' := by
  rcases mem_lowerChar_cases hmem with ⟨hdotted, -⟩ | ⟨run, hrun, hcovers, hcode⟩ | ⟨rfl, -⟩
  · exact .inr (.inl hdotted)
  · obtain ⟨hfirst, hlast, -⟩ := CaseRun.covers_iff.mp hcovers
    rcases (image_of_mem_lowercaseRuns hrun).2 (by omega) with hascii | ⟨hkelvin, hkelvin'⟩
    · exact .inl (by omega)
    · refine .inr (.inr (Char.toNat_inj.mp ?_))
      show c.toNat = 0x212A
      omega
  · exact .inl hd

theorem lowerChar_dotted : lowerChar 'İ' = ['i', '\u0307'] :=
  rfl

theorem lowerChar_kelvin : lowerChar '\u212A' = ['k'] := by
  decide +kernel

theorem mem_lowerHead {before after : List Char} {c d : Char}
    (h : d ∈ if c = 'Σ' then [lowerSigma before after] else lowerChar c) :
    d ∈ lowerChar c ∨ d = 'σ' ∨ d = 'ς' := by
  split at h
  · have hsigma := List.mem_singleton.mp h
    unfold lowerSigma at hsigma
    split at hsigma
    · exact Or.inr (Or.inr hsigma)
    · exact Or.inr (Or.inl hsigma)
  · exact Or.inl h

theorem mem_lowerAfter {before cs : List Char} {d : Char} :
    d ∈ lowerAfter before cs → ∃ c ∈ cs, d ∈ lowerChar c ∨ d = 'σ' ∨ d = 'ς' := by
  induction cs generalizing before with
  | nil => intro h; cases h
  | cons c cs ih =>
      intro h
      rcases List.mem_append.mp h with hhead | htail
      · exact ⟨c, List.mem_cons_self, mem_lowerHead hhead⟩
      · obtain ⟨e, he, hd⟩ := ih htail
        exact ⟨e, List.mem_cons_of_mem _ he, hd⟩

def IsPlain (c : Char) : Prop :=
  c.toNat < 128 ∨ isBlank c = true

theorem lowerChar_of_isPlain {c : Char} (h : IsPlain c) : lowerChar c = [c.toLower] := by
  rcases h with hascii | hblank
  · exact lowerChar_of_ascii hascii
  · exact forall_isBlank (p := fun c => lowerChar c = [c.toLower]) (by decide +kernel) hblank

theorem not_blank_of_mem_lowercaseRuns {run : CaseRun} (h : run ∈ lowercaseRuns) :
    ∀ n ∈ blankCodes, ¬ (run.image ≤ n ∧ n ≤ run.image + (run.last - run.first)) := by
  have hall : ∀ run ∈ lowercaseRuns, ∀ n ∈ blankCodes,
      ¬ (run.image ≤ n ∧ n ≤ run.image + (run.last - run.first)) := by decide +kernel
  exact hall run h

theorem isBlank_of_mem_lowerChar {c d : Char} (hmem : d ∈ lowerChar c) (hd : isBlank d = true) :
    isBlank c = true := by
  rcases mem_lowerChar_cases hmem with ⟨-, hmem⟩ | ⟨run, hrun, hcovers, hcode⟩ | ⟨rfl, -⟩
  · have hall : ['i', '\u0307'].all (!isBlank ·) = true := by decide
    have hblank := List.all_eq_true.mp hall d hmem
    rw [hd] at hblank
    cases hblank
  · obtain ⟨hfirst, hlast, -⟩ := CaseRun.covers_iff.mp hcovers
    refine absurd ?_ (not_blank_of_mem_lowercaseRuns hrun d.toNat (toNat_mem_blankCodes hd))
    omega
  · exact hd

theorem lowerAfter_of_isPlain {before cs : List Char} (h : ∀ c ∈ cs, IsPlain c) :
    lowerAfter before cs = cs.map Char.toLower := by
  induction cs generalizing before with
  | nil => rfl
  | cons c cs ih =>
      obtain ⟨hc, hcs⟩ := List.forall_mem_cons.mp h
      have hsigma : c ≠ 'Σ' := by
        rintro rfl
        exact hc.elim (by decide) (by decide)
      rw [lowerAfter, if_neg hsigma, lowerChar_of_isPlain hc, ih hcs]
      rfl

theorem isPlain_of_lowerAfter {before cs : List Char}
    (h : ∀ d ∈ lowerAfter before cs, IsPlain d ∧ d ≠ 'k') : ∀ c ∈ cs, IsPlain c := by
  induction cs generalizing before with
  | nil => exact List.forall_mem_nil _
  | cons c cs ih =>
      obtain ⟨hhead, htail⟩ := List.forall_mem_append.mp h
      refine List.forall_mem_cons.mpr ⟨?_, ih htail⟩
      split at hhead
      · have hsigma := (hhead _ List.mem_cons_self).1
        unfold lowerSigma at hsigma
        split at hsigma
        · exact absurd hsigma (by unfold IsPlain; decide)
        · exact absurd hsigma (by unfold IsPlain; decide)
      · obtain ⟨d, hd⟩ := List.exists_mem_of_ne_nil _ (lowerChar_ne_nil c)
        rcases (hhead d hd).1 with hascii | hblank
        · rcases ascii_of_mem_lowerChar hd hascii with hc | rfl | rfl
          · exact .inl hc
          · exact absurd (hhead '\u0307' (by decide)).1 (by unfold IsPlain; decide)
          · exact absurd rfl (hhead 'k' (by decide +kernel)).2
        · exact .inr (isBlank_of_mem_lowerChar hd hblank)

theorem lowerAfter_of_ascii {before cs : List Char} (h : ∀ c ∈ cs, c.toNat < 128) :
    lowerAfter before cs = cs.map Char.toLower :=
  lowerAfter_of_isPlain fun c hc => .inl (h c hc)

theorem ascii_of_toLower {c : Char} (h : c.toLower.toNat < 128) : c.toNat < 128 := by
  by_cases hupper : 0x41 ≤ c.toNat ∧ c.toNat ≤ 0x5A
  · omega
  · rwa [toLower_of_not_upper hupper] at h

theorem ascii_of_lowerAfter {before cs : List Char}
    (h : ∀ d ∈ lowerAfter before cs, d.toNat < 128 ∧ d ≠ 'k') : ∀ c ∈ cs, c.toNat < 128 := by
  have hplain : ∀ c ∈ cs, IsPlain c :=
    isPlain_of_lowerAfter fun d hd => ⟨.inl (h d hd).1, (h d hd).2⟩
  rw [lowerAfter_of_isPlain hplain] at h
  exact fun c hc => ascii_of_toLower (h _ (List.mem_map_of_mem hc)).1

theorem lowercase_eq_iff_of_ascii {cs lowered : List Char}
    (h : ∀ d ∈ lowered, d.toNat < 128 ∧ d ≠ 'k') :
    lowercase cs = lowered ↔ cs.map Char.toLower = lowered := by
  constructor
  · rintro rfl
    exact (lowerAfter_of_ascii (ascii_of_lowerAfter h)).symm
  · rintro rfl
    apply lowerAfter_of_ascii
    intro c hc
    exact ascii_of_toLower (h _ (List.mem_map_of_mem hc)).1

theorem exists_toLower_of_mem_lowercase {cs : List Char} {d : Char} (hmem : d ∈ lowercase cs)
    (hd : d.toNat < 128) (hi : d ≠ 'i') (hk : d ≠ 'k') : ∃ c ∈ cs, c.toLower = d := by
  obtain ⟨c, hc, hlower | rfl | rfl⟩ := mem_lowerAfter hmem
  · refine ⟨c, hc, ?_⟩
    rcases ascii_of_mem_lowerChar hlower hd with hascii | rfl | rfl
    · rw [lowerChar_of_ascii hascii] at hlower
      exact (List.mem_singleton.mp hlower).symm
    · rcases List.mem_cons.mp hlower with rfl | hcombining
      · exact absurd rfl hi
      · rw [List.mem_singleton.mp hcombining] at hd
        exact absurd hd (by decide)
    · rw [lowerChar_kelvin] at hlower
      exact absurd (List.mem_singleton.mp hlower) hk
  · exact absurd hd (by decide)
  · exact absurd hd (by decide)

end MoveCanvas.Text
