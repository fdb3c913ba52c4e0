import MoveCanvas.Proofs.Json.Documents
import MoveCanvas.Proofs.Text.Blanks

/-! # Blanks around a text

Trimming takes more characters for blanks than a text may hold between its tokens. But no token
reaches into the blanks behind it, and a blank that is no space makes a fault. So a text without a
fault has the same tokens after it is trimmed. -/

namespace MoveCanvas

namespace Json

open Text (isBlank forall_isBlank)

theorem codeUnit?_eq_none {a b c d : Char} (h : hexDigit? d = none) : codeUnit? a b c d = none := by
  unfold codeUnit?
  rw [h]
  split
  · next hd => cases hd
  · rfl

theorem body?_of_escape?_eq_none {cs : List Char} (h : escape? cs = none) :
    body? ('\\' :: cs) = none := by
  rw [body?, if_neg (by decide), if_pos rfl]
  split
  · rfl
  · next hsome =>
    rw [h] at hsome
    cases hsome

section

variable {blanks : List Char} (hblanks : ∀ c ∈ blanks, isBlank c = true)
include hblanks

/-- An escape of a code unit ends before the blanks, or one of its digits is a blank. -/
theorem escape?_append (cs : List Char) :
    escape? (cs ++ blanks) = (escape? cs).map (followedBy blanks) := by
  rw [escape?.eq_def cs]
  split
  · next a b c d cs =>
    rw [List.cons_append, List.cons_append, List.cons_append, List.cons_append, List.cons_append,
      escape?, Option.map_map]
    rfl
  · next e cs hshort =>
    rw [Option.map_map, List.cons_append, escape?.eq_def]
    split
    · next a b c d rest heq =>
      obtain ⟨rfl, heq⟩ := List.cons.inj heq
      have hd : d ∈ blanks := by
        rcases cs with _ | ⟨_, _ | ⟨_, _ | ⟨_, _ | ⟨_, cs⟩⟩⟩⟩
        case cons.cons.cons.cons => exact (hshort _ _ _ _ _ rfl rfl).elim
        all_goals grind
      rw [codeUnit?_eq_none (forall_isBlank (p := (hexDigit? · = none)) (by decide) (hblanks d hd))]
      rfl
    · next heq =>
      cases heq
      rfl
    · next heq => cases heq
  · cases blanks with
    | nil => rfl
    | cons b blanks =>
        have hb := hblanks b List.mem_cons_self
        have hu : b ≠ 'u' := forall_isBlank (p := (· ≠ 'u')) (by decide) hb
        have hshort : shortEscape? b = none :=
          forall_isBlank (p := (shortEscape? · = none)) (by decide) hb
        rw [List.nil_append, escape?.eq_def]
        split
        · next heq => exact absurd (List.cons.inj heq).1 hu
        · next heq =>
          rw [← (List.cons.inj heq).1, hshort]
          rfl
        · next heq => cases heq

theorem body?_blanks : body? blanks = none := by
  induction blanks with
  | nil => rw [body?]
  | cons c blanks ih =>
      obtain ⟨hc, hblanks⟩ := List.forall_mem_cons.mp hblanks
      have hquote : c ≠ '"' := forall_isBlank (p := (· ≠ '"')) (by decide) hc
      have hescape : c ≠ '\\' := forall_isBlank (p := (· ≠ '\\')) (by decide) hc
      rw [body?, if_neg hquote, if_neg hescape, ih hblanks]
      split <;> rfl

theorem body?_append (cs : List Char) :
    body? (cs ++ blanks) = (body? cs).map (followedBy blanks) := by
  fun_induction body? cs with
  | case1 => exact body?_blanks hblanks
  | case2 cs =>
      rw [List.cons_append, body?, if_pos rfl]
      rfl
  | case3 cs hescape hquote =>
      have hnone : escape? (cs ++ blanks) = none := by rw [escape?_append hblanks, hescape]; rfl
      exact body?_of_escape?_eq_none hnone
  | case4 cs piece rest hescape hquote ih =>
      have hsome : escape? (cs ++ blanks) = some (piece, rest ++ blanks) := by
        rw [escape?_append hblanks, hescape]
        rfl
      rw [List.cons_append, body?_escape hsome, ih, Option.map_map, Option.map_map]
      rfl
  | case5 c cs hquote hback hcontrol =>
      rw [List.cons_append, body?, if_neg hquote, if_neg hback, if_pos hcontrol]
      rfl
  | case6 c cs hquote hback hcontrol ih =>
      rw [List.cons_append, body?, if_neg hquote, if_neg hback, if_neg hcontrol, ih,
        Option.map_map, Option.map_map]
      rfl

theorem word?_append (c : Char) (cs : List Char) :
    word? c (cs ++ blanks) = (word? c cs).map (followedBy blanks) := by
  have hother (word : List Char) (hword : ∀ n ∈ Text.blankCodes, Char.ofNat n ∉ word) :
      ∀ c ∈ blanks, c ∉ word :=
    fun c hmem => forall_isBlank (p := (· ∉ word)) hword (hblanks c hmem)
  unfold word?
  rw [Text.after?_append (hother _ (by decide)), Text.after?_append (hother _ (by decide)),
    Text.after?_append (hother _ (by decide))]
  simp only [Option.map_map, apply_ite (Option.map _)]
  rfl

theorem endsNumber_blanks : endsNumber blanks = true := by
  cases blanks with
  | nil => rfl
  | cons c blanks =>
      have hc : continuesNumber c = false :=
        forall_isBlank (p := (continuesNumber · = false)) (by decide) (hblanks c List.mem_cons_self)
      rw [endsNumber, hc]
      rfl

theorem Token.next?_append (c : Char) (cs : List Char) :
    Token.next? c (cs ++ blanks) = (Token.next? c cs).map (followedBy blanks) := by
  have hscan := Literal.scan?_append (endsNumber_blanks hblanks) (c :: cs)
  unfold Token.next?
  split
  · rfl
  · rw [body?_append hblanks, ← List.cons_append, hscan, word?_append hblanks]
    simp only [Option.map_map, apply_ite (Option.map _)]
    rfl

omit hblanks in
theorem Token.scan_of_next?_eq_none {c : Char} {cs : List Char} (hspace : isSpace c = false)
    (h : Token.next? c cs = none) : Token.scan (c :: cs) = [.fault] := by
  rw [Token.scan, if_neg (by simp [hspace])]
  split
  · rfl
  · next hsome =>
    rw [h] at hsome
    cases hsome

omit hblanks in
theorem Token.next?_of_isBlank {c : Char} (h : isBlank c = true) (cs : List Char) :
    Token.next? c cs = none := by
  have hmark : mark? c = none := forall_isBlank (p := (mark? · = none)) (by decide) h
  have hother : c ∉ ['"', '-', 'n', 't', 'f'] :=
    forall_isBlank (p := (· ∉ ['"', '-', 'n', 't', 'f'])) (by decide) h
  have hdigit : c.isDigit = false := forall_isBlank (p := (Char.isDigit · = false)) (by decide) h
  simp only [List.mem_cons, List.not_mem_nil, or_false, not_or] at hother
  simp [Token.next?, hmark, hdigit, word?, hother]

theorem Token.scan_blanks_append {cs : List Char} (h : .fault ∉ Token.scan (blanks ++ cs)) :
    Token.scan (blanks ++ cs) = Token.scan cs := by
  induction blanks with
  | nil => rfl
  | cons c blanks ih =>
      obtain ⟨hc, hblanks⟩ := List.forall_mem_cons.mp hblanks
      rw [List.cons_append] at h ⊢
      cases hspace : isSpace c with
      | true =>
          rw [Token.scan_space hspace] at h ⊢
          exact ih hblanks h
      | false =>
          rw [Token.scan_of_next?_eq_none hspace (Token.next?_of_isBlank hc _)] at h
          exact absurd List.mem_cons_self h

theorem Token.scan_append_blanks {cs : List Char} (h : .fault ∉ Token.scan (cs ++ blanks)) :
    Token.scan (cs ++ blanks) = Token.scan cs := by
  fun_induction Token.scan cs with
  | case1 =>
      have hall : Token.scan (blanks ++ []) = Token.scan [] :=
        Token.scan_blanks_append hblanks (by rwa [List.append_nil])
      rw [List.append_nil, Token.scan] at hall
      exact hall
  | case2 c cs hspace ih =>
      rw [List.cons_append, Token.scan_space hspace] at h ⊢
      exact ih h
  | case3 c cs hspace hnone =>
      have hnone' : Token.next? c (cs ++ blanks) = none := by
        rw [Token.next?_append hblanks, hnone]
        rfl
      exact Token.scan_of_next?_eq_none (Bool.eq_false_iff.mpr hspace) hnone'
  | case4 c cs hspace token rest hnext ih =>
      have hnext' : Token.next? c (cs ++ blanks) = some (token, rest ++ blanks) := by
        rw [Token.next?_append hblanks, hnext]
        rfl
      rw [List.cons_append, Token.scan_of_next? (Bool.eq_false_iff.mpr hspace) hnext'] at h ⊢
      rw [ih fun hmem => h (List.mem_cons_of_mem _ hmem)]

end

theorem Token.scan_trim {cs : List Char} (h : .fault ∉ Token.scan cs) :
    Token.scan (Text.trim cs) = Token.scan cs := by
  obtain ⟨lead, trail, heq, hlead, htrail⟩ := Text.exists_blanks_trim cs
  have hstart : Token.scan (lead ++ (Text.trim cs ++ trail)) = Token.scan (Text.trim cs ++ trail) :=
    Token.scan_blanks_append hlead (by rwa [← heq])
  rw [← heq] at hstart
  rw [hstart] at h ⊢
  exact (Token.scan_append_blanks htrail h).symm

namespace Document

theorem step_fault (state : State) : ∃ root, State.step state .fault = .past root false := by
  rcases state with ⟨_ | ⟨_ | _ | _, frames⟩, want⟩ | ⟨root, clean⟩
  case past => exact ⟨root, rfl⟩
  all_goals
    cases want <;> exact ⟨_, rfl⟩

theorem foldl_past (root : Document) (tokens : List Token) :
    tokens.foldl State.step (.past root false) = .past root false := by
  induction tokens with
  | nil => rfl
  | cons token tokens ih => exact ih

theorem not_fault_of_clean {tokens : List Token} (h : (ofTokens tokens).2 = true) :
    .fault ∉ tokens := by
  intro hmem
  obtain ⟨front, back, rfl⟩ := List.append_of_mem hmem
  obtain ⟨root, hroot⟩ := step_fault (front.foldl State.step (.inside [] .value))
  rw [ofTokens, List.foldl_append, List.foldl_cons, hroot, foldl_past] at h
  cases h

theorem ofText_trim {text : String} (h : (ofText text).2 = true) :
    ofText (String.ofList (Text.trim text.toList)) = ofText text := by
  rw [ofText, String.toList_ofList, Token.scan_trim (not_fault_of_clean h)]
  rfl

end Document

end Json

end MoveCanvas
