import MoveCanvas.ParamType
import MoveCanvas.Proofs.Text.Blanks

/-! # Tokens of declared types

A declared type is a row of tokens: the borrow mark, the two angle brackets, and the words between
them. Blanks end a word and otherwise make no difference. -/

namespace MoveCanvas.ParamType

def isMark (c : Char) : Bool :=
  c == '&' || c == '<' || c == '>'

def isWordChar (c : Char) : Bool :=
  !Text.isBlank c && !isMark c

def wordToken (word : List Char) : List String :=
  if word = [] then [] else [String.ofList word]

/-- The tokens of a text, where the characters of `word` have been read of a word that goes on. -/
def tokensAfter (word : List Char) : List Char → List String
  | [] => wordToken word
  | c :: cs =>
    if Text.isBlank c then wordToken word ++ tokensAfter [] cs
    else if isMark c then wordToken word ++ String.ofList [c] :: tokensAfter [] cs
    else tokensAfter (word ++ [c]) cs

def tokens (cs : List Char) : List String :=
  tokensAfter [] cs

example : tokens "& mut\tCoin <T>".toList = ["&", "mut", "Coin", "<", "T", ">"] := by decide

variable {cs word front back blanks : List Char} {c : Char}

theorem not_isBlank_of_isMark (h : isMark c = true) : Text.isBlank c = false := by
  simp only [isMark, Bool.or_eq_true, beq_iff_eq] at h
  rcases h with (rfl | rfl) | rfl <;> rfl

theorem tokens_cons_blank (h : Text.isBlank c = true) (cs : List Char) :
    tokens (c :: cs) = tokens cs := by
  simp only [tokens, tokensAfter, h, ↓reduceIte, wordToken, List.nil_append]

theorem tokens_cons_mark (h : isMark c = true) (cs : List Char) :
    tokens (c :: cs) = String.ofList [c] :: tokens cs := by
  simp only [tokens, tokensAfter, not_isBlank_of_isMark h, h, Bool.false_eq_true, ↓reduceIte,
    wordToken, List.nil_append]

theorem tokensAfter_append_stop (h : isWordChar c = false) (word front back : List Char) :
    tokensAfter word (front ++ c :: back) = tokensAfter word front ++ tokens (c :: back) := by
  induction front generalizing word with
  | nil =>
      cases hblank : Text.isBlank c with
      | true =>
          rw [tokens_cons_blank hblank]
          simp only [List.nil_append, tokensAfter, hblank, ↓reduceIte, tokens]
      | false =>
          have hmark : isMark c = true := by simpa [isWordChar, hblank] using h
          rw [tokens_cons_mark hmark]
          simp only [List.nil_append, tokensAfter, hblank, hmark, Bool.false_eq_true, ↓reduceIte,
            tokens]
  | cons d front ih =>
      simp only [List.cons_append, tokensAfter, ih]
      split
      · rw [List.append_assoc]
      · split
        · rw [List.append_assoc, List.cons_append]
        · rfl

theorem tokens_append_mark (h : isMark c = true) (front back : List Char) :
    tokens (front ++ c :: back) = tokens front ++ String.ofList [c] :: tokens back := by
  rw [tokens, tokensAfter_append_stop (by simp [isWordChar, h]), tokens_cons_mark h]
  rfl

theorem tokensAfter_word (h : word ≠ []) (cs : List Char) : tokensAfter word cs =
    String.ofList (word ++ cs.takeWhile isWordChar) :: tokens (cs.dropWhile isWordChar) := by
  induction cs generalizing word with
  | nil => simp [tokensAfter, wordToken, tokens, h]
  | cons c cs ih =>
      cases hc : isWordChar c with
      | true =>
          have hplain : Text.isBlank c = false ∧ isMark c = false := by
            simpa [isWordChar] using hc
          rw [List.takeWhile_cons_of_pos hc, List.dropWhile_cons_of_pos hc]
          simp only [tokensAfter, hplain, Bool.false_eq_true, ↓reduceIte]
          rw [ih (by simp), List.append_assoc]
          rfl
      | false =>
          rw [List.takeWhile_cons_of_neg (Bool.eq_false_iff.mp hc),
            List.dropWhile_cons_of_neg (Bool.eq_false_iff.mp hc), ← List.nil_append (c :: cs),
            tokensAfter_append_stop hc, List.append_nil]
          simp [tokensAfter, wordToken, h]

theorem tokens_cons_word (h : isWordChar c = true) (cs : List Char) : tokens (c :: cs) =
    String.ofList (c :: cs.takeWhile isWordChar) :: tokens (cs.dropWhile isWordChar) := by
  have hplain : Text.isBlank c = false ∧ isMark c = false := by
    simpa [isWordChar] using h
  simp only [tokens, tokensAfter, hplain, Bool.false_eq_true, ↓reduceIte, List.nil_append]
  rw [tokensAfter_word (by simp)]
  rfl

def IsWord (token : String) : Prop :=
  token.toList ≠ [] ∧ ∀ c ∈ token.toList, isWordChar c = true

-- Only the characters of the token are tested, not every character there is.
instance (token : String) : Decidable (IsWord token) :=
  @instDecidableAnd _ _ inferInstance (List.decidableBAll _ _)

theorem IsWord.tokens_append_stop {token : String} (h : IsWord token) (hc : isWordChar c = false)
    (back : List Char) : tokens (token.toList ++ c :: back) = token :: tokens (c :: back) := by
  obtain ⟨hne, hall⟩ := h
  obtain ⟨d, ds, hlist⟩ := List.exists_cons_of_ne_nil hne
  rw [hlist] at hall
  obtain ⟨hd, hds⟩ := List.forall_mem_cons.mp hall
  rw [hlist, List.cons_append, tokens_cons_word hd, List.takeWhile_append_of_pos hds,
    List.dropWhile_append_of_pos hds, List.takeWhile_cons_of_neg (Bool.eq_false_iff.mp hc),
    List.dropWhile_cons_of_neg (Bool.eq_false_iff.mp hc), List.append_nil, ← hlist,
    String.ofList_toList]

theorem IsWord.tokens_self {token : String} (h : IsWord token) : tokens token.toList = [token] := by
  have hblank := h.tokens_append_stop (c := ' ') (by decide) []
  rw [tokens, tokensAfter_append_stop (by decide)] at hblank
  simpa [tokens, tokensAfter, Text.isBlank, wordToken] using hblank

theorem tokens_blanks_append (h : ∀ c ∈ blanks, Text.isBlank c = true) (cs : List Char) :
    tokens (blanks ++ cs) = tokens cs := by
  induction blanks with
  | nil => rfl
  | cons c blanks ih =>
      obtain ⟨hc, hblanks⟩ := List.forall_mem_cons.mp h
      rw [List.cons_append, tokens_cons_blank hc, ih hblanks]

theorem tokens_append_blanks (h : ∀ c ∈ blanks, Text.isBlank c = true) (cs : List Char) :
    tokens (cs ++ blanks) = tokens cs := by
  cases blanks with
  | nil => rw [List.append_nil]
  | cons c blanks =>
      have hc : isWordChar c = false := by simp [isWordChar, h c List.mem_cons_self]
      have hnone : tokens (c :: blanks) = [] := by
        rw [← List.append_nil (c :: blanks), tokens_blanks_append h]
        rfl
      rw [tokens, tokensAfter_append_stop hc, hnone, List.append_nil]
      rfl

theorem tokens_trim (cs : List Char) : tokens (Text.trim cs) = tokens cs := by
  obtain ⟨lead, trail, heq, hlead, htrail⟩ := Text.exists_blanks_trim cs
  rw [heq, tokens_blanks_append hlead, tokens_append_blanks htrail, ← heq]

theorem tokens_trimStart (cs : List Char) : tokens (Text.trimStart cs) = tokens cs := by
  obtain ⟨lead, hcs, hlead⟩ := Text.exists_blanks_trimStart cs
  rw [← tokens_blanks_append hlead (Text.trimStart cs), ← hcs]

theorem tokens_eq_nil_iff : tokens cs = [] ↔ ∀ c ∈ cs, Text.isBlank c = true := by
  constructor
  · intro h
    rw [← Text.trimStart_eq_nil_iff]
    rw [← tokens_trimStart] at h
    cases hstart : Text.trimStart cs with
    | nil => rfl
    | cons c rest =>
        have hc := Text.isBlank_of_trimStart_eq_cons hstart
        rw [hstart] at h
        cases hmark : isMark c with
        | true =>
            rw [tokens_cons_mark hmark] at h
            cases h
        | false =>
            rw [tokens_cons_word (by simp [isWordChar, hc, hmark])] at h
            cases h
  · intro h
    rw [← List.append_nil cs, tokens_blanks_append h]
    rfl

theorem exists_of_tokens_eq_cons {token : String} {rest : List String}
    (h : tokens cs = token :: rest) : ∃ lead back, cs = lead ++ (token.toList ++ back) ∧
      (∀ c ∈ lead, Text.isBlank c = true) ∧ tokens back = rest := by
  induction cs with
  | nil => cases h
  | cons c cs ih =>
      cases hblank : Text.isBlank c with
      | true =>
          rw [tokens_cons_blank hblank] at h
          obtain ⟨lead, back, rfl, hlead, hback⟩ := ih h
          exact ⟨c :: lead, back, rfl, List.forall_mem_cons.mpr ⟨hblank, hlead⟩, hback⟩
      | false =>
          have hnone : ∀ d ∈ ([] : List Char), Text.isBlank d = true :=
            fun _ hmem => absurd hmem List.not_mem_nil
          cases hmark : isMark c with
          | true =>
              rw [tokens_cons_mark hmark] at h
              obtain ⟨rfl, rfl⟩ := List.cons.inj h
              exact ⟨[], cs, by simp, hnone, rfl⟩
          | false =>
              rw [tokens_cons_word (by simp [isWordChar, hblank, hmark])] at h
              obtain ⟨rfl, rfl⟩ := List.cons.inj h
              refine ⟨[], cs.dropWhile isWordChar, ?_, hnone, rfl⟩
              simp [List.takeWhile_append_dropWhile]

theorem exists_append_of_tokens_eq_cons {token : String} {rest : List String}
    (hhead : ∀ c ∈ cs.head?, Text.isBlank c = false) (h : tokens cs = token :: rest) :
    ∃ back, cs = token.toList ++ back ∧ tokens back = rest := by
  obtain ⟨lead, back, rfl, hlead, hback⟩ := exists_of_tokens_eq_cons h
  cases lead with
  | nil => exact ⟨back, rfl, hback⟩
  | cons c lead =>
      have hc := hhead c rfl
      rw [hlead c List.mem_cons_self] at hc
      cases hc

theorem mem_of_mem_tokens {token : String} (h : token ∈ tokens cs) (hc : c ∈ token.toList) :
    c ∈ cs := by
  induction hcs : tokens cs generalizing cs with
  | nil =>
      rw [hcs] at h
      cases h
  | cons first rest ih =>
      obtain ⟨lead, back, rfl, -, hback⟩ := exists_of_tokens_eq_cons hcs
      rw [hcs] at h
      rw [List.mem_append, List.mem_append]
      rcases List.mem_cons.mp h with rfl | h
      · exact Or.inr (Or.inl hc)
      · rw [← hback] at h
        exact Or.inr (Or.inr (ih h hback))

theorem tokens_eq_word_iff_of_isTrimmed {token : String} (hword : IsWord token)
    (hcs : Text.IsTrimmed cs) : tokens cs = [token] ↔ cs = token.toList := by
  constructor
  · intro h
    obtain ⟨back, rfl, hback⟩ := exists_append_of_tokens_eq_cons hcs.head h
    rw [Text.eq_nil_of_blank_end hcs.last (tokens_eq_nil_iff.mp hback), List.append_nil]
  · rintro rfl
    exact hword.tokens_self

theorem tokens_eq_word_iff {token : String} (hword : IsWord token) :
    tokens cs = [token] ↔ Text.trim cs = token.toList := by
  rw [← tokens_trim, tokens_eq_word_iff_of_isTrimmed hword (Text.isTrimmed_trim cs)]

end MoveCanvas.ParamType
