import Mathlib.Data.List.TakeWhile
import MoveCanvas.Json.Printer
import MoveCanvas.Json.Token

/-! # Scalars read back

The text of a string begins with a token that denotes the string, whatever its characters and
whatever follows. The same holds of a number that its own text denotes, if what follows cannot
continue a number. Every integer that 64 bits hold is such a number. The reading of a fraction may
miss its last place. -/

namespace MoveCanvas.Json

/-! ## Strings -/

/-- How the reader takes what the writer puts for a character. -/
def pieceOf (c : Char) : Piece :=
  if c.toNat < 0x20 ∧ ¬ (c = '\x08' ∨ c = '\t' ∨ c = '\n' ∨ c = '\x0c' ∨ c = '\r') then
    .unit c.toNat
  else .char c

theorem codeUnit?_hexDigit {n : Nat} (h : n < 0x20) :
    codeUnit? '0' '0' (hexDigit (n / 16)) (hexDigit (n % 16)) = some n := by
  have hall : ∀ n : Fin 0x20,
      codeUnit? '0' '0' (hexDigit (n / 16)) (hexDigit (n % 16)) = some n.val := by decide
  exact hall ⟨n, h⟩

theorem body?_escape {cs rest : List Char} {piece : Piece} (h : escape? cs = some (piece, rest)) :
    body? ('\\' :: cs) = (body? rest).map fun (pieces, rest) => (piece :: pieces, rest) := by
  rw [body?, if_neg (by decide), if_pos rfl]
  split
  · next hnone => rw [h] at hnone; cases hnone
  · next hsome => rw [h] at hsome; cases hsome; rfl

theorem body?_escapeChar (c : Char) (cs : List Char) : body? (escapeChar c ++ cs) =
    (body? cs).map fun (pieces, rest) => (pieceOf c :: pieces, rest) := by
  by_cases hquote : c = '"'
  · subst hquote
    exact body?_escape rfl
  by_cases hback : c = '\\'
  · subst hback
    exact body?_escape rfl
  by_cases hshort : c = '\x08' ∨ c = '\t' ∨ c = '\n' ∨ c = '\x0c' ∨ c = '\r'
  · rcases hshort with rfl | rfl | rfl | rfl | rfl
    all_goals exact body?_escape rfl
  -- The other control characters are written by number, all other characters as they are.
  obtain ⟨hback', htab, hline, hpage, hreturn⟩ :
      c ≠ '\x08' ∧ c ≠ '\t' ∧ c ≠ '\n' ∧ c ≠ '\x0c' ∧ c ≠ '\r' := by
    simpa only [not_or] using hshort
  simp only [escapeChar, hquote, hback, hback', htab, hline, hpage, hreturn, ↓reduceIte]
  by_cases hcontrol : c.toNat < 0x20
  · have hpiece : pieceOf c = .unit c.toNat := by
      rw [pieceOf, if_pos ⟨hcontrol, hshort⟩]
    rw [if_pos hcontrol, hpiece]
    refine body?_escape ?_
    show (codeUnit? '0' '0' (hexDigit (c.toNat / 16)) (hexDigit (c.toNat % 16))).map _ = _
    rw [codeUnit?_hexDigit hcontrol]
    rfl
  · have hpiece : pieceOf c = .char c := by
      rw [pieceOf, if_neg fun h => hcontrol h.1]
    rw [if_neg hcontrol, hpiece, List.singleton_append, body?, if_neg hquote, if_neg hback,
      if_neg hcontrol]

theorem body?_flatMap_escapeChar (cs rest : List Char) :
    body? (cs.flatMap escapeChar ++ '"' :: rest) = some (cs.map pieceOf, rest) := by
  induction cs with
  | nil =>
      rw [List.flatMap_nil, List.nil_append, body?, if_pos rfl]
      rfl
  | cons c cs ih =>
      rw [List.flatMap_cons, List.append_assoc, body?_escapeChar, ih]
      rfl

theorem joinPieces_unit {n : Nat} (h : n < 0xD800) (pieces : List Piece) :
    joinPieces (.unit n :: pieces) = (joinPieces pieces).map (Char.ofNat n :: ·) := by
  have hleading : isLeadingUnit n = false := by
    simp only [isLeadingUnit, Bool.and_eq_false_iff, decide_eq_false_iff_not]
    omega
  have htrailing : isTrailingUnit n = false := by
    simp only [isTrailingUnit, Bool.and_eq_false_iff, decide_eq_false_iff_not]
    omega
  cases pieces with
  | nil => simp [joinPieces, hleading, htrailing]
  | cons piece pieces =>
      cases piece with
      | char c => simp [joinPieces, hleading, htrailing]
      | unit m => simp [joinPieces, hleading, htrailing]

theorem joinPieces_map_pieceOf (cs : List Char) : joinPieces (cs.map pieceOf) = some cs := by
  induction cs with
  | nil => rfl
  | cons c cs ih =>
      rw [List.map_cons]
      by_cases hcontrol : c.toNat < 0x20 ∧
          ¬ (c = '\x08' ∨ c = '\t' ∨ c = '\n' ∨ c = '\x0c' ∨ c = '\r')
      · have hsmall : c.toNat < 0xD800 := Nat.lt_trans hcontrol.1 (by decide)
        rw [pieceOf, if_pos hcontrol, joinPieces_unit hsmall, ih, Char.ofNat_toNat]
        rfl
      · rw [pieceOf, if_neg hcontrol, joinPieces, ih]
        rfl

theorem Token.scan_of_next? {c : Char} {cs rest : List Char} {token : Token}
    (hspace : isSpace c = false) (h : Token.next? c cs = some (token, rest)) :
    Token.scan (c :: cs) = token :: Token.scan rest := by
  rw [Token.scan, if_neg (by simp [hspace])]
  split
  · next hnone => rw [h] at hnone; cases hnone
  · next hsome => rw [h] at hsome; cases hsome; rfl

theorem Token.scan_stringText (s : String) (rest : List Char) :
    Token.scan (stringText s ++ rest) = .text (some s) :: Token.scan rest := by
  have htext : stringText s ++ rest = '"' :: (s.toList.flatMap escapeChar ++ '"' :: rest) := by
    simp [stringText]
  rw [htext]
  refine Token.scan_of_next? rfl ?_
  show (body? (s.toList.flatMap escapeChar ++ '"' :: rest)).map _ = _
  rw [body?_flatMap_escapeChar]
  show some (Token.text ((joinPieces (s.toList.map pieceOf)).map String.ofList), rest) = _
  rw [joinPieces_map_pieceOf, Option.map_some, String.ofList_toList]

/-! ## Integers -/

def IsWord (n : Int) : Prop :=
  -(Literal.negativeLimit : Int) ≤ n ∧ n < Literal.significandLimit

theorem le_ofDigitChars (ds : List Char) (s : Nat) : s ≤ Nat.ofDigitChars 10 ds s := by
  induction ds generalizing s with
  | nil => exact Nat.le_refl s
  | cons d ds ih =>
      rw [Nat.ofDigitChars_cons]
      exact Nat.le_trans (by omega) (ih _)

theorem gather_eq_of_lt {ds : List Char} {s : Nat}
    (h : Nat.ofDigitChars 10 ds s < Literal.significandLimit) :
    Literal.gather s ds = (Nat.ofDigitChars 10 ds s, []) := by
  induction ds generalizing s with
  | nil => rfl
  | cons d ds ih =>
      rw [Nat.ofDigitChars_cons, Nat.mul_comm] at h
      have hnext : s * 10 + (d.toNat - '0'.toNat) < Literal.significandLimit :=
        Nat.lt_of_le_of_lt (le_ofDigitChars ds _) h
      rw [Literal.gather, if_pos hnext, ih h, Nat.ofDigitChars_cons, Nat.mul_comm]

theorem toDigits_eq_cons (n : Nat) :
    ∃ d ds, Nat.toDigits 10 n = d :: ds ∧ d.isDigit = true := by
  obtain ⟨d, ds, hds⟩ := List.exists_cons_of_ne_nil (Nat.toDigits_ne_nil (n := n) (b := 10))
  refine ⟨d, ds, hds, ?_⟩
  exact Nat.isDigit_of_mem_toDigits (b := 10) (n := n) (by decide) (by decide)
    (hds ▸ List.mem_cons_self)

theorem head?_toDigits_ne_zero {n : Nat} (h : 0 < n) : (Nat.toDigits 10 n).head? ≠ some '0' := by
  induction n using Nat.strongRecOn with
  | ind n ih =>
      rw [Nat.toDigits_eq_if (by decide)]
      split
      · next hlt =>
        have hall : ∀ d : Fin 10, 0 < d.val → [Nat.digitChar d].head? ≠ some '0' := by decide
        exact hall ⟨n, hlt⟩ h
      · next hge =>
        have hleading : (Nat.toDigits 10 (n / 10)).head? ≠ some '0' := ih (n / 10) (by omega) (by omega)
        obtain ⟨d, ds, hds, -⟩ := toDigits_eq_cons (n / 10)
        rw [hds] at hleading ⊢
        exact hleading

theorem whole?_toDigits (n : Nat) :
    Literal.whole? (Nat.toDigits 10 n) = some (Nat.toDigits 10 n, []) := by
  have hdigits : ∀ c ∈ Nat.toDigits 10 n, c.isDigit = true := fun c hc =>
    Nat.isDigit_of_mem_toDigits (by decide) (by decide) hc
  have htake : (Nat.toDigits 10 n).takeWhile Char.isDigit = Nat.toDigits 10 n :=
    List.takeWhile_eq_self_iff.mpr hdigits
  have hdrop : (Nat.toDigits 10 n).dropWhile Char.isDigit = [] := List.dropWhile_eq_nil_iff.mpr hdigits
  unfold Literal.whole?
  rw [htake, hdrop]
  split
  · next hnil => exact absurd hnil Nat.toDigits_ne_nil
  · next d ds hzero =>
    rcases Nat.eq_zero_or_pos n with rfl | hpos
    · cases hzero
    · exact absurd (by rw [hzero]; rfl) (head?_toDigits_ne_zero hpos)
  · rfl

theorem Literal.signed_of_unsigned {c : Char} (hminus : c ≠ '-') (cs : List Char) :
    signed (c :: cs) = (false, c :: cs) := by
  unfold signed
  split
  · next heq => exact absurd (List.cons.inj heq).1 hminus
  · rfl

theorem signed_toDigits (n : Nat) :
    Literal.signed (Nat.toDigits 10 n) = (false, Nat.toDigits 10 n) := by
  obtain ⟨d, ds, hds, hdigit⟩ := toDigits_eq_cons n
  have hminus : d ≠ '-' := fun he => absurd (he ▸ hdigit) (by decide)
  rw [hds, Literal.signed_of_unsigned hminus]

theorem scan?_integerText (n : Int) : Literal.scan? (integerText n) =
    some (⟨decide (n < 0), Nat.toDigits 10 n.natAbs, [], none⟩, []) := by
  have hsigned : Literal.signed (integerText n) = (decide (n < 0), Nat.toDigits 10 n.natAbs) := by
    unfold integerText
    split
    · next hneg =>
      rw [decide_eq_true hneg]
      rfl
    · next hpos => rw [decide_eq_false hpos, signed_toDigits]
  unfold Literal.scan?
  rw [hsigned, whole?_toDigits]
  rfl

theorem integer_natAbs {n : Int} (h : IsWord n) : Literal.integer (decide (n < 0)) n.natAbs = .int n := by
  have hlow : -(Literal.negativeLimit : Int) ≤ n := h.1
  unfold Literal.integer
  by_cases hneg : n < 0
  · have hsmall : ¬ (n.natAbs = 0 ∨ Literal.negativeLimit < n.natAbs) := by omega
    rw [decide_eq_true hneg, if_neg (by decide), if_neg hsmall]
    congr 1
    omega
  · rw [decide_eq_false hneg, if_pos rfl]
    congr 1
    omega

theorem number?_integer {n : Int} (h : IsWord n) :
    Literal.number? ⟨decide (n < 0), Nat.toDigits 10 n.natAbs, [], none⟩ = some (.int n) := by
  have hvalue : Nat.ofDigitChars 10 (Nat.toDigits 10 n.natAbs) 0 = n.natAbs := by simp
  have hlimit : n.natAbs < Literal.significandLimit := by
    obtain ⟨hlow, hhigh⟩ := h
    simp only [Literal.negativeLimit, Literal.significandLimit] at *
    omega
  unfold Literal.number?
  rw [gather_eq_of_lt (hvalue.symm ▸ hlimit), hvalue]
  simp only [and_self, ↓reduceIte, integer_natAbs h]

/-! ## Numbers -/

def Number.ReadsBack (n : Number) : Prop :=
  ∃ literal, Literal.scan? n.chars = some (literal, []) ∧ literal.number? = some n

theorem IsWord.readsBack {n : Int} (h : IsWord n) : (Number.int n).ReadsBack :=
  ⟨_, scan?_integerText n, number?_integer h⟩

/-- What may follow a part of a written text: nothing, space or a mark that ends the part. -/
def endsPart : List Char → Bool
  | [] => true
  | c :: _ => isSpace c || c == ',' || c == ']' || c == '\x7d'

theorem eq_of_endsPart {c : Char} {cs : List Char} (h : endsPart (c :: cs) = true) :
    c ∈ [' ', '\n', '\t', '\r', ',', ']', '\x7d'] := by
  simpa [endsPart, isSpace, or_assoc] using h

def continuesNumber (c : Char) : Bool :=
  c.isDigit || ['.', 'e', 'E', '+', '-'].contains c

def endsNumber : List Char → Bool
  | [] => true
  | c :: _ => !continuesNumber c

theorem endsNumber_of_endsPart {cs : List Char} (h : endsPart cs = true) :
    endsNumber cs = true := by
  cases cs with
  | nil => rfl
  | cons c cs =>
      have hall : [' ', '\n', '\t', '\r', ',', ']', '\x7d'].all (!continuesNumber ·) = true := by
        decide
      exact List.all_eq_true.mp hall c (eq_of_endsPart h)

/-- What has been read, where the rest of the text goes on longer. -/
def followedBy (rest : List Char) (read : α × List Char) : α × List Char :=
  (read.1, read.2 ++ rest)

namespace Literal

def powerDigits? (negative : Bool) (cs : List Char) : Option (Int × List Char) :=
  match cs.takeWhile Char.isDigit with
  | [] => none
  | digits =>
    let n : Int := Nat.ofDigitChars 10 digits 0
    some (if negative then -n else n, cs.dropWhile Char.isDigit)

theorem power?_of_unsigned {cs : List Char} (hminus : ∀ tail, cs ≠ '-' :: tail)
    (hplus : ∀ tail, cs ≠ '+' :: tail) : power? cs = powerDigits? false cs := by
  unfold power?
  split
  next negative ds hds =>
    split at hds
    · exact absurd rfl (hminus _)
    · exact absurd rfl (hplus _)
    · cases hds
      rfl

variable {cs left rest : List Char} (hrest : endsNumber rest = true)
include hrest

theorem digits_append (cs : List Char) :
    (cs ++ rest).takeWhile Char.isDigit = cs.takeWhile Char.isDigit ∧
      (cs ++ rest).dropWhile Char.isDigit = cs.dropWhile Char.isDigit ++ rest := by
  induction cs with
  | nil =>
      cases rest with
      | nil => exact ⟨rfl, rfl⟩
      | cons c rest =>
          have hc : c.isDigit = false := by
            simp only [endsNumber, continuesNumber, Bool.not_eq_true', Bool.or_eq_false_iff] at hrest
            exact hrest.1
          simp [hc]
  | cons c cs ih =>
      cases hc : c.isDigit
      · simp [hc]
      · simpa [hc] using ih

theorem append_ne_cons {c : Char} (hc : continuesNumber c = true) (hcs : ∀ tail, cs ≠ c :: tail)
    (tail : List Char) : cs ++ rest ≠ c :: tail := by
  intro heq
  cases cs with
  | nil =>
      obtain rfl : rest = c :: tail := heq
      rw [endsNumber, hc] at hrest
      cases hrest
  | cons d cs => exact hcs cs (congrArg (· :: cs) (List.cons.inj heq).1)

theorem signed_append (cs : List Char) :
    signed (cs ++ rest) = ((signed cs).1, (signed cs).2 ++ rest) := by
  unfold signed
  split
  · next heq =>
    split
    · cases heq
      rfl
    · next hminus => exact absurd heq (append_ne_cons hrest (by decide) hminus _)
  · next hplain =>
    split
    · next cs => exact absurd rfl (hplain (cs ++ rest))
    · rfl

theorem whole?_append (cs : List Char) :
    whole? (cs ++ rest) = (whole? cs).map (followedBy rest) := by
  unfold whole?
  rw [(digits_append hrest cs).1, (digits_append hrest cs).2]
  split <;> rfl

theorem fraction?_append (cs : List Char) :
    fraction? (cs ++ rest) = (fraction? cs).map (followedBy rest) := by
  rw [fraction?.eq_def cs]
  split
  · next cs =>
    rw [List.cons_append, fraction?, (digits_append hrest cs).1, (digits_append hrest cs).2]
    split <;> rfl
  · next hpoint =>
    unfold fraction?
    split
    · next heq => exact absurd heq (append_ne_cons hrest (by decide) hpoint _)
    · rfl

theorem powerDigits?_append (negative : Bool) (cs : List Char) :
    powerDigits? negative (cs ++ rest) = (powerDigits? negative cs).map (followedBy rest) := by
  unfold powerDigits?
  rw [(digits_append hrest cs).1, (digits_append hrest cs).2]
  split <;> rfl

theorem power?_append (cs : List Char) :
    power? (cs ++ rest) = (power? cs).map (followedBy rest) := by
  by_cases hminus : ∃ tail, cs = '-' :: tail
  · obtain ⟨cs, rfl⟩ := hminus
    exact powerDigits?_append hrest true cs
  by_cases hplus : ∃ tail, cs = '+' :: tail
  · obtain ⟨cs, rfl⟩ := hplus
    exact powerDigits?_append hrest false cs
  rw [not_exists] at hminus hplus
  rw [power?_of_unsigned hminus hplus, power?_of_unsigned
    (append_ne_cons hrest (by decide) hminus) (append_ne_cons hrest (by decide) hplus)]
  exact powerDigits?_append hrest false cs

theorem exponent?_append (cs : List Char) :
    exponent? (cs ++ rest) = (exponent? cs).map (followedBy rest) := by
  rw [exponent?.eq_def cs]
  split
  iterate 2
    next cs =>
    rw [List.cons_append, exponent?, power?_append hrest, Option.map_map, Option.map_map]
    rfl
  next hsmall hlarge =>
    unfold exponent?
    split
    · next heq => exact absurd heq (append_ne_cons hrest (by decide) hsmall _)
    · next heq => exact absurd heq (append_ne_cons hrest (by decide) hlarge _)
    · rfl

/-- A literal is read alike before anything that cannot continue it. -/
theorem scan?_append (cs : List Char) : scan? (cs ++ rest) = (scan? cs).map (followedBy rest) := by
  unfold scan?
  rw [signed_append hrest, whole?_append hrest]
  rcases whole? (signed cs).2 with _ | ⟨whole, left⟩
  · rfl
  simp only [Option.map_some, followedBy, fraction?_append hrest]
  rcases fraction? left with _ | ⟨fraction, left⟩
  · rfl
  simp only [Option.map_some, followedBy, exponent?_append hrest, Option.map_map]
  rfl

omit hrest in
theorem exists_of_scan? {literal : Literal} (h : scan? cs = some (literal, left)) :
    ∃ c tail, cs = c :: tail ∧ (c = '-' ∨ c.isDigit = true) := by
  rcases cs with _ | ⟨c, cs⟩
  · cases h
  refine ⟨c, cs, rfl, ?_⟩
  by_contra hneither
  obtain ⟨hminus, hdigit⟩ := not_or.mp hneither
  have hwhole : whole? (signed (c :: cs)).2 = none := by
    rw [signed_of_unsigned hminus, whole?, List.takeWhile_cons_of_neg hdigit]
  unfold scan? at h
  rw [hwhole] at h
  cases h

end Literal

theorem not_mem_of_beginsNumber {c : Char} (h : c = '-' ∨ c.isDigit = true) :
    c ∉ [' ', '\n', '\t', '\r', '[', ']', '\x7b', '\x7d', ',', ':', '"'] := by
  intro hmem
  have hall : [' ', '\n', '\t', '\r', '[', ']', '\x7b', '\x7d', ',', ':', '"'].all
      (fun c => c != '-' && !Char.isDigit c) = true := by decide
  have hc := List.all_eq_true.mp hall c hmem
  simp only [Bool.and_eq_true, bne_iff_ne, Bool.not_eq_true'] at hc
  rcases h with hminus | hdigit
  · exact hc.1 hminus
  · rw [hc.2] at hdigit
    cases hdigit

theorem Token.scan_chars {n : Number} (hn : n.ReadsBack) {rest : List Char}
    (h : endsPart rest = true) :
    Token.scan (n.chars ++ rest) = .number (some n) :: Token.scan rest := by
  obtain ⟨literal, hliteral, hnumber⟩ := hn
  obtain ⟨c, cs, hcs, hc⟩ := Literal.exists_of_scan? hliteral
  have hscan := Literal.scan?_append (endsNumber_of_endsPart h) n.chars
  rw [hliteral, hcs, List.cons_append] at hscan
  rw [hcs, List.cons_append]
  have hother := not_mem_of_beginsNumber hc
  simp only [List.mem_cons, List.not_mem_nil, or_false, not_or] at hother
  have hspace : isSpace c = false := by simp [isSpace, hother]
  have hmark : mark? c = none := by simp [mark?, hother]
  have hquote : c ≠ '"' := by simp [hother]
  refine Token.scan_of_next? hspace ?_
  unfold Token.next?
  rw [hmark]
  simp only [hquote, hc, ↓reduceIte, hscan, Option.map_some, followedBy, hnumber, List.nil_append]

end MoveCanvas.Json
