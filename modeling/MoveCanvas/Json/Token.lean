import MoveCanvas.Json.Number
import MoveCanvas.Text.Search

/-! # JSON tokens

A text is cut into brackets, separators and scalars. The first place that begins no token gives one
fault, and nothing after it is read. A string may carry an escaped half of a surrogate pair without
its partner, and a number may lie beyond the range of binary64: both are well-formed tokens that
denote nothing, and only a reader that wants their value refuses them. -/

namespace MoveCanvas.Json

inductive Token
  | openList
  | closeList
  | openRecord
  | closeRecord
  | comma
  | colon
  | null
  | bool (value : Bool)
  | number (value : Option Number)
  | text (value : Option String)
  | fault
deriving DecidableEq

/-! ## Strings -/

/-- A part of a string body: a character, or a code unit written as an escape. -/
inductive Piece
  | char (c : Char)
  | unit (n : Nat)
deriving DecidableEq

def hexDigit? (c : Char) : Option Nat :=
  if '0' ≤ c ∧ c ≤ '9' then some (c.toNat - '0'.toNat)
  else if 'a' ≤ c ∧ c ≤ 'f' then some (c.toNat - 'a'.toNat + 10)
  else if 'A' ≤ c ∧ c ≤ 'F' then some (c.toNat - 'A'.toNat + 10)
  else none

def shortEscape? (c : Char) : Option Char :=
  if c = '"' ∨ c = '\\' ∨ c = '/' then some c
  else if c = 'b' then some '\x08'
  else if c = 'f' then some '\x0c'
  else if c = 'n' then some '\n'
  else if c = 'r' then some '\r'
  else if c = 't' then some '\t'
  else none

def codeUnit? (a b c d : Char) : Option Nat :=
  match hexDigit? a, hexDigit? b, hexDigit? c, hexDigit? d with
  | some a, some b, some c, some d => some (((a * 16 + b) * 16 + c) * 16 + d)
  | _, _, _, _ => none

def escape? : List Char → Option (Piece × List Char)
  | 'u' :: a :: b :: c :: d :: cs => (codeUnit? a b c d).map fun n => (.unit n, cs)
  | c :: cs => (shortEscape? c).map fun c => (.char c, cs)
  | [] => none

theorem length_of_escape? {cs rest : List Char} {piece : Piece}
    (h : escape? cs = some (piece, rest)) : rest.length < cs.length := by
  unfold escape? at h
  split at h
  · obtain ⟨_, _, he⟩ := Option.map_eq_some_iff.mp h
    cases he
    simp only [List.length_cons]
    omega
  · obtain ⟨_, _, he⟩ := Option.map_eq_some_iff.mp h
    cases he
    simp
  · cases h

/-- The body of a string up to its closing quote. Control characters may not stand in it. -/
def body? (cs : List Char) : Option (List Piece × List Char) :=
  match cs with
  | [] => none
  | c :: cs =>
    if c = '"' then some ([], cs)
    else if c = '\\' then
      match _h : escape? cs with
      | none => none
      | some (piece, rest) => (body? rest).map fun (pieces, rest) => (piece :: pieces, rest)
    else if c.toNat < 0x20 then none
    else (body? cs).map fun (pieces, rest) => (.char c :: pieces, rest)
termination_by cs.length
decreasing_by
  · have := length_of_escape? _h
    simp only [List.length_cons]
    omega
  · simp

theorem length_of_body? {cs rest : List Char} {pieces : List Piece}
    (h : body? cs = some (pieces, rest)) : rest.length < cs.length := by
  fun_induction body? cs generalizing pieces with
  | case1 => cases h
  | case2 cs =>
      cases h
      simp
  | case3 => cases h
  | case4 cs piece tail hescape _ ih =>
      obtain ⟨⟨_, _⟩, hbody, he⟩ := Option.map_eq_some_iff.mp h
      cases he
      have := ih hbody
      have := length_of_escape? hescape
      simp only [List.length_cons]
      omega
  | case5 => cases h
  | case6 c cs _ _ _ ih =>
      obtain ⟨⟨_, _⟩, hbody, he⟩ := Option.map_eq_some_iff.mp h
      cases he
      have := ih hbody
      simp only [List.length_cons]
      omega

def isLeadingUnit (n : Nat) : Bool :=
  0xD800 ≤ n && n < 0xDC00

def isTrailingUnit (n : Nat) : Bool :=
  0xDC00 ≤ n && n < 0xE000

/-- Joins surrogate pairs. A half without its partner leaves no text. -/
def joinPieces : List Piece → Option (List Char)
  | [] => some []
  | .char c :: pieces => (joinPieces pieces).map (c :: ·)
  | .unit n :: .unit m :: pieces =>
    if isLeadingUnit n then
      if isTrailingUnit m then
        (joinPieces pieces).map
          (Char.ofNat (0x10000 + (n - 0xD800) * 0x400 + (m - 0xDC00)) :: ·)
      else none
    else if isTrailingUnit n then none
    else (joinPieces (.unit m :: pieces)).map (Char.ofNat n :: ·)
  | .unit n :: pieces =>
    if isLeadingUnit n || isTrailingUnit n then none
    else (joinPieces pieces).map (Char.ofNat n :: ·)

/-! ## Tokens -/

def isSpace (c : Char) : Bool :=
  c == ' ' || c == '\n' || c == '\t' || c == '\r'

def word? (c : Char) (cs : List Char) : Option (Token × List Char) :=
  if c = 'n' then (Text.after? "ull".toList cs).map (.null, ·)
  else if c = 't' then (Text.after? "rue".toList cs).map (.bool true, ·)
  else if c = 'f' then (Text.after? "alse".toList cs).map (.bool false, ·)
  else none

def mark? (c : Char) : Option Token :=
  if c = '[' then some .openList
  else if c = ']' then some .closeList
  else if c = '\x7b' then some .openRecord
  else if c = '\x7d' then some .closeRecord
  else if c = ',' then some .comma
  else if c = ':' then some .colon
  else none

/-- The token that begins with `c`, and the rest. -/
def Token.next? (c : Char) (cs : List Char) : Option (Token × List Char) :=
  match mark? c with
  | some token => some (token, cs)
  | none =>
    if c = '"' then
      (body? cs).map fun (pieces, rest) => (.text ((joinPieces pieces).map String.ofList), rest)
    else if c = '-' ∨ c.isDigit = true then
      (Literal.scan? (c :: cs)).map fun (literal, rest) => (.number literal.number?, rest)
    else word? c cs

theorem Token.length_of_next? {c : Char} {cs rest : List Char} {token : Token}
    (h : Token.next? c cs = some (token, rest)) : rest.length ≤ cs.length := by
  unfold Token.next? at h
  split at h
  · cases h
    exact Nat.le_refl _
  · split at h
    · obtain ⟨⟨_, _⟩, hbody, he⟩ := Option.map_eq_some_iff.mp h
      cases he
      exact Nat.le_of_lt (length_of_body? hbody)
    · split at h
      · obtain ⟨⟨_, _⟩, hscan, he⟩ := Option.map_eq_some_iff.mp h
        cases he
        exact Nat.le_of_lt_succ (Literal.length_of_scan? hscan)
      · unfold word? at h
        repeat' split at h
        all_goals first
          | cases h
          | obtain ⟨_, hafter, he⟩ := Option.map_eq_some_iff.mp h
            cases he
            rw [Text.after?_eq_some_iff] at hafter
            simp only [hafter, List.length_append]
            omega

/-- The tokens of a text, the last of them a fault if the text does not end well. -/
def Token.scan (cs : List Char) : List Token :=
  match cs with
  | [] => []
  | c :: cs =>
    if isSpace c then Token.scan cs
    else match _h : Token.next? c cs with
      | none => [.fault]
      | some (token, rest) => token :: Token.scan rest
termination_by cs.length
decreasing_by
  · simp
  · exact Nat.lt_succ_of_le (Token.length_of_next? _h)

end MoveCanvas.Json
