import MoveCanvas.Json.Document
import MoveCanvas.Proofs.Json.Everywhere
import MoveCanvas.Proofs.Json.Scalars

/-! # What is written is read back as the same document

A value becomes a row of tokens, whatever blanks the layout puts between them, and from these
tokens the reader builds the document of the value. The numbers of the value have to be such that
their own texts denote them, as integers are that 64 bits hold. -/

namespace MoveCanvas.Json

def Number.IsWord : Number → Prop
  | .int n => Json.IsWord n
  | .real _ => False

theorem Number.IsWord.readsBack : (n : Number) → n.IsWord → n.ReadsBack
  | .int _, h => Json.IsWord.readsBack h
  | .real _, h => absurd h id

mutual

def tokens : Json → List Token
  | .null => [.null]
  | .bool b => [.bool b]
  | .num n => [.number (some n)]
  | .str s => [.text (some s)]
  | .arr [] => [.openList, .closeList]
  | .arr (item :: items) => .openList :: tokens item ++ itemTokens items ++ [.closeList]
  | .obj [] => [.openRecord, .closeRecord]
  | .obj ((key, value) :: members) =>
    .openRecord :: .text (some key) :: .colon :: tokens value ++ memberTokens members ++
      [.closeRecord]

/-- The items after the first. -/
def itemTokens : List Json → List Token
  | [] => []
  | item :: items => .comma :: tokens item ++ itemTokens items

def memberTokens : List (String × Json) → List Token
  | [] => []
  | (key, value) :: members =>
    .comma :: .text (some key) :: .colon :: tokens value ++ memberTokens members

end

/-- The layout adds nothing but space, and a colon after a key. -/
structure Layout.IsBlank (layout : Layout) : Prop where
  lead : ∀ depth, ∀ c ∈ layout.lead depth, isSpace c = true
  afterKey : ∃ blanks, layout.afterKey = ':' :: blanks ∧ ∀ c ∈ blanks, isSpace c = true

theorem Layout.isBlank_oneLine : oneLine.IsBlank where
  lead _ _ h := absurd h List.not_mem_nil
  afterKey := ⟨[], rfl, fun _ h => absurd h List.not_mem_nil⟩

theorem Layout.isBlank_indented : indented.IsBlank where
  lead depth c h := by
    rcases List.mem_cons.mp h with rfl | h
    · rfl
    · rw [List.eq_of_mem_replicate h]
      rfl
  afterKey := ⟨[' '], rfl, fun _ h => by rw [List.mem_singleton.mp h]; rfl⟩

theorem Token.scan_space {c : Char} (h : isSpace c = true) (cs : List Char) :
    Token.scan (c :: cs) = Token.scan cs := by
  rw [Token.scan, if_pos h]

theorem Token.scan_blanks {blanks : List Char} (h : ∀ c ∈ blanks, isSpace c = true)
    (cs : List Char) : Token.scan (blanks ++ cs) = Token.scan cs := by
  induction blanks with
  | nil => rfl
  | cons c blanks ih =>
      rw [List.cons_append, Token.scan_space (h c List.mem_cons_self),
        ih fun d hd => h d (List.mem_cons_of_mem _ hd)]

theorem Token.scan_mark {c : Char} {token : Token} (hspace : isSpace c = false)
    (h : mark? c = some token) (cs : List Char) :
    Token.scan (c :: cs) = token :: Token.scan cs := by
  refine Token.scan_of_next? hspace ?_
  unfold Token.next?
  rw [h]

theorem Token.scan_word (c : Char) (word : List Char) {rest : List Char} {token : Token}
    (hspace : isSpace c = false) (h : Token.next? c (word ++ rest) = some (token, rest)) :
    Token.scan (c :: word ++ rest) = token :: Token.scan rest :=
  Token.scan_of_next? hspace h

theorem endsPart_append {blanks : List Char} (h : ∀ c ∈ blanks, isSpace c = true) {rest : List Char}
    (hrest : endsPart rest = true) : endsPart (blanks ++ rest) = true := by
  cases blanks with
  | nil => exact hrest
  | cons c blanks => simp [endsPart, h c List.mem_cons_self]

section Write

variable {layout : Layout} (hlayout : layout.IsBlank)
include hlayout

theorem Layout.IsBlank.scan_afterKey (cs : List Char) :
    Token.scan (layout.afterKey ++ cs) = .colon :: Token.scan cs := by
  obtain ⟨blanks, heq, hblanks⟩ := hlayout.afterKey
  rw [heq, List.cons_append, Token.scan_mark rfl rfl, Token.scan_blanks hblanks]

omit hlayout in
theorem endsPart_writeItems (depth : Nat) (items : List Json) {rest : List Char}
    (h : endsPart rest = true) : endsPart (writeItems layout depth items ++ rest) = true := by
  cases items with
  | nil => exact h
  | cons item items => rfl

omit hlayout in
theorem endsPart_writeMembers (depth : Nat) (members : List (String × Json)) {rest : List Char}
    (h : endsPart rest = true) : endsPart (writeMembers layout depth members ++ rest) = true := by
  cases members with
  | nil => exact h
  | cons member members => rfl

mutual

theorem scan_write {keys : List String → Prop} : (v : Json) → v.Everywhere Number.ReadsBack keys →
    (depth : Nat) → {rest : List Char} → endsPart rest = true →
      Token.scan (write layout depth v ++ rest) = tokens v ++ Token.scan rest
  | .null, _, _, rest, _ => Token.scan_word 'n' "ull".toList rfl rfl
  | .bool true, _, _, rest, _ => Token.scan_word 't' "rue".toList rfl rfl
  | .bool false, _, _, rest, _ => Token.scan_word 'f' "alse".toList rfl rfl
  | .num _, hn, _, _, hrest => Token.scan_chars hn hrest
  | .str s, _, _, rest, _ => Token.scan_stringText s rest
  | .arr [], _, _, rest, _ => by
    rw [write, tokens, List.cons_append, Token.scan_mark rfl rfl, List.singleton_append,
      Token.scan_mark rfl rfl]
    rfl
  | .arr (item :: items), ⟨hitem, hitems⟩, depth, rest, hrest => by
    have hclose : endsPart (layout.lead depth ++ ']' :: rest) = true :=
      endsPart_append (hlayout.lead depth) rfl
    simp only [write, tokens, List.cons_append, List.append_assoc, List.nil_append]
    rw [Token.scan_mark rfl rfl, Token.scan_blanks (hlayout.lead _),
      scan_write item hitem (depth + 1) (endsPart_writeItems _ items hclose),
      scan_writeItems items hitems (depth + 1) hclose, Token.scan_blanks (hlayout.lead _),
      Token.scan_mark rfl rfl]
  | .obj [], _, _, rest, _ => by
    rw [write, tokens, List.cons_append, Token.scan_mark rfl rfl, List.singleton_append,
      Token.scan_mark rfl rfl]
    rfl
  | .obj ((key, value) :: members), ⟨_, hvalue, hmembers⟩, depth, rest, hrest => by
    have hclose : endsPart (layout.lead depth ++ '\x7d' :: rest) = true :=
      endsPart_append (hlayout.lead depth) rfl
    simp only [write, tokens, List.cons_append, List.append_assoc, List.nil_append]
    rw [Token.scan_mark rfl rfl, Token.scan_blanks (hlayout.lead _), Token.scan_stringText,
      hlayout.scan_afterKey,
      scan_write value hvalue (depth + 1) (endsPart_writeMembers _ members hclose),
      scan_writeMembers members hmembers (depth + 1) hclose, Token.scan_blanks (hlayout.lead _),
      Token.scan_mark rfl rfl]

theorem scan_writeItems {keys : List String → Prop} : (items : List Json) →
    EverywhereItems Number.ReadsBack keys items → (depth : Nat) → {rest : List Char} →
      endsPart rest = true →
        Token.scan (writeItems layout depth items ++ rest) = itemTokens items ++ Token.scan rest
  | [], _, _, _, _ => rfl
  | item :: items, ⟨hitem, hitems⟩, depth, rest, hrest => by
    simp only [writeItems, itemTokens, List.cons_append, List.append_assoc]
    rw [Token.scan_mark rfl rfl, Token.scan_blanks (hlayout.lead _),
      scan_write item hitem depth (endsPart_writeItems _ items hrest),
      scan_writeItems items hitems depth hrest]

theorem scan_writeMembers {keys : List String → Prop} : (members : List (String × Json)) →
    EverywhereMembers Number.ReadsBack keys members → (depth : Nat) → {rest : List Char} →
      endsPart rest = true →
        Token.scan (writeMembers layout depth members ++ rest) =
          memberTokens members ++ Token.scan rest
  | [], _, _, _, _ => rfl
  | (key, value) :: members, ⟨hvalue, hmembers⟩, depth, rest, hrest => by
    simp only [writeMembers, memberTokens, List.cons_append, List.append_assoc]
    rw [Token.scan_mark rfl rfl, Token.scan_blanks (hlayout.lead _), Token.scan_stringText,
      hlayout.scan_afterKey,
      scan_write value hvalue depth (endsPart_writeMembers _ members hrest),
      scan_writeMembers members hmembers depth hrest]

end

end Write

namespace Document

theorem tokens_eq_cons (v : Json) : ∃ token rest, tokens v = token :: rest ∧ token ≠ .closeList := by
  rcases v with _ | b | n | s | (_ | ⟨item, items⟩) | (_ | ⟨⟨key, value⟩, members⟩)
  all_goals exact ⟨_, _, rfl, nofun⟩

theorem step_value (frames : List Frame) (token : Token) :
    State.step (.inside frames .value) token = State.begin frames token := by
  rcases frames with _ | ⟨_ | _ | _, frames⟩
  all_goals cases token <;> rfl

theorem step_valueOrClose (items : List Document) (frames : List Frame) {token : Token}
    (h : token ≠ .closeList) :
    State.step (.inside (.array items :: frames) .valueOrClose) token =
      State.begin (.array items :: frames) token := by
  cases token with
  | closeList => exact absurd rfl h
  | _ => rfl

mutual

theorem foldl_tokens : (v : Json) → (frames : List Frame) →
    (tokens v).foldl State.step (.inside frames .value) = State.deliver (ofValue v) frames
  | .null, frames | .bool _, frames | .num _, frames | .str _, frames => step_value frames _
  | .arr [], frames => by
    rw [tokens, List.foldl_cons, step_value]
    rfl
  | .arr (item :: items), frames => by
    -- Where the first item begins the list might also close, unlike before a later item.
    have hfirst : (tokens item).foldl State.step (.inside (.array [] :: frames) .valueOrClose) =
        State.deliver (ofValue item) (.array [] :: frames) := by
      obtain ⟨token, rest, htokens, hopen⟩ := tokens_eq_cons item
      rw [← foldl_tokens item, htokens, List.foldl_cons, List.foldl_cons, step_value,
        step_valueOrClose [] frames hopen]
    rw [tokens, List.cons_append, List.cons_append, List.foldl_cons, step_value, List.foldl_append,
      List.foldl_append, State.begin, hfirst, State.deliver, foldl_itemTokens items]
    show State.deliver (.array ((ofItems items).reverse ++ [ofValue item]).reverse true) frames = _
    rw [List.reverse_append, List.reverse_reverse]
    rfl
  | .obj [], frames => by
    rw [tokens, List.foldl_cons, step_value]
    rfl
  | .obj ((key, value) :: members), frames => by
    rw [tokens, List.cons_append, List.cons_append, List.foldl_cons, step_value]
    show List.foldl State.step (.inside (.member [] (some key) :: frames) .value)
      (tokens value ++ memberTokens members ++ [.closeRecord]) = _
    rw [List.foldl_append, List.foldl_append, foldl_tokens value, State.deliver,
      foldl_memberTokens members]
    show State.deliver (.object ((ofMembers members).reverse ++ [(some key, ofValue value)]).reverse
      true) frames = _
    rw [List.reverse_append, List.reverse_reverse]
    rfl

theorem foldl_itemTokens : (items : List Json) → (done : List Document) → (frames : List Frame) →
    (itemTokens items).foldl State.step (.inside (.array done :: frames) .separator) =
      .inside (.array ((ofItems items).reverse ++ done) :: frames) .separator
  | [], _, _ => rfl
  | item :: items, done, frames => by
    rw [itemTokens, List.cons_append, List.foldl_cons]
    show List.foldl State.step (.inside (.array done :: frames) .value)
      (tokens item ++ itemTokens items) = _
    rw [List.foldl_append, foldl_tokens item, State.deliver, foldl_itemTokens items, ofItems,
      List.reverse_cons, List.append_assoc]
    rfl

theorem foldl_memberTokens : (members : List (String × Json)) →
    (done : List (Option String × Document)) → (frames : List Frame) →
      (memberTokens members).foldl State.step (.inside (.object done :: frames) .separator) =
        .inside (.object ((ofMembers members).reverse ++ done) :: frames) .separator
  | [], _, _ => rfl
  | (key, value) :: members, done, frames => by
    rw [memberTokens, List.cons_append, List.foldl_cons]
    show List.foldl State.step (.inside (.member done (some key) :: frames) .value)
      (tokens value ++ memberTokens members) = _
    rw [List.foldl_append, foldl_tokens value, State.deliver, foldl_memberTokens members, ofMembers,
      List.reverse_cons, List.append_assoc]
    rfl

end

theorem ofTokens_tokens (v : Json) : ofTokens (tokens v) = (ofValue v, true) := by
  unfold ofTokens
  rw [foldl_tokens v []]
  rfl

variable {v : Json} {keys : List String → Prop}

/-- Every text of a value shows the value and nothing else. -/
theorem ofText_write {layout : Layout} (hlayout : layout.IsBlank)
    (h : v.Everywhere Number.ReadsBack keys) :
    ofText (String.ofList (write layout 0 v)) = (ofValue v, true) := by
  have hend : endsPart [] = true := rfl
  have hscan := scan_write hlayout v h 0 hend
  rw [List.append_nil, Token.scan, List.append_nil] at hscan
  rw [ofText, String.toList_ofList, hscan, ofTokens_tokens]

theorem ofText_pretty (h : v.Everywhere Number.IsWord keys) :
    ofText v.pretty = (ofValue v, true) :=
  ofText_write Layout.isBlank_indented
    (Everywhere.mono Number.IsWord.readsBack (fun _ hkeys => hkeys) v h)

end Document

end MoveCanvas.Json
