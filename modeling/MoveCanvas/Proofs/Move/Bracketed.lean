import MoveCanvas.Proofs.Move.Recovery
import MoveCanvas.Proofs.Text.Brackets

/-! # The brackets of a module

Braces and parentheses open and close in different lines: a struct with fields, the initializer with
the arguments of its call, a function, and the struct that an NFT body builds. Where no text of the
plan brings a bracket of its own, the word of the brackets of a declaration is decided by its kind
alone, and a module is one block around these words. -/

namespace MoveCanvas.Move

open Text (Balanced brackets brackets_append balanced_brackets_iff)

def IsBare (s : String) : Prop := brackets s.toList = []

instance (s : String) : Decidable (IsBare s) :=
  inferInstanceAs (Decidable (brackets s.toList = []))

theorem IsBare.brackets_eq {s : String} (h : IsBare s) : brackets s.toList = [] := h

def bracketsOf (lines : List String) : List Char :=
  lines.flatMap fun line => brackets line.toList

theorem brackets_string_append (s t : String) :
    brackets (s ++ t).toList = brackets s.toList ++ brackets t.toList := by
  rw [String.toList_append, brackets_append]

theorem isBare_append_iff {s t : String} : IsBare (s ++ t) ↔ IsBare s ∧ IsBare t := by
  rw [IsBare, brackets_string_append, List.append_eq_nil_iff, IsBare, IsBare]

theorem brackets_unlines (lines : List String) :
    brackets (unlines lines).toList = bracketsOf lines := by
  induction lines with
  | nil => rfl
  | cons line lines ih =>
      have hend : brackets "\n".toList = [] := by decide
      rw [unlines_cons, brackets_string_append, brackets_string_append, hend, List.append_nil, ih]
      rfl

theorem brackets_indent (depth : Nat) (line : String) :
    brackets (indent depth line).toList = brackets line.toList := by
  induction depth with
  | zero => rfl
  | succ depth ih =>
      have hlevel : brackets level.toList = [] := by decide
      rw [indent, brackets_string_append, hlevel, List.nil_append, ih]

theorem bracketsOf_map_indent (depth : Nat) (lines : List String) :
    bracketsOf (lines.map (indent depth)) = bracketsOf lines := by
  simp only [bracketsOf, List.flatMap_map, brackets_indent]

theorem bracketsOf_append (lines more : List String) :
    bracketsOf (lines ++ more) = bracketsOf lines ++ bracketsOf more :=
  List.flatMap_append

theorem bracketsOf_cons (line : String) (lines : List String) :
    bracketsOf (line :: lines) = brackets line.toList ++ bracketsOf lines :=
  List.flatMap_cons

theorem bracketsOf_eq_nil {lines : List String} (h : ∀ line ∈ lines, IsBare line) :
    bracketsOf lines = [] :=
  List.flatMap_eq_nil_iff.mpr h

theorem isBare_commaSeparated {parts : List String} (h : ∀ part ∈ parts, IsBare part) :
    IsBare (commaSeparated parts) := by
  induction parts with
  | nil => decide
  | cons part parts ih =>
      obtain ⟨hpart, hparts⟩ := List.forall_mem_cons.mp h
      cases parts with
      | nil => exact hpart
      | cons next parts =>
          rw [commaSeparated_cons_cons]
          exact isBare_append_iff.mpr ⟨isBare_append_iff.mpr ⟨hpart, by decide⟩, ih hparts⟩

theorem isBare_toString (n : Nat) : IsBare (toString n) := by
  refine Text.brackets_eq_nil_iff.mpr fun c hmem => ?_
  have hmem : c ∈ Nat.toDigits 10 n := by simpa using hmem
  have hdigit : c.isDigit = true := Nat.isDigit_of_mem_toDigits (by decide) (by decide) hmem
  cases hbracket : Text.isBracket c with
  | false => rfl
  | true =>
      simp only [Text.isBracket, Bool.or_eq_true, beq_iff_eq] at hbracket
      rcases hbracket with ((rfl | rfl) | rfl) | rfl
      all_goals cases hdigit

structure StructDecl.IsBare (s : StructDecl) : Prop where
  name : Move.IsBare s.name
  fields : ∀ f ∈ s.fields, Move.IsBare f.name ∧ Move.IsBare f.type

theorem StructDecl.isBare_abilityClause (abilities : Abilities) :
    Move.IsBare (abilityClause abilities) := by
  obtain ⟨key, store, copy, drop⟩ := abilities
  revert key store copy drop
  decide

theorem StructDecl.bracketsOf_lines {s : StructDecl} (h : s.IsBare) :
    bracketsOf s.lines = ['\x7b', '\x7d'] := by
  obtain ⟨name, abilities, fields⟩ := s
  have hhead : brackets (head name abilities).toList = [] := by
    rw [head, brackets_indent]
    exact isBare_append_iff.mpr
      ⟨isBare_append_iff.mpr ⟨by decide, h.name⟩, isBare_abilityClause abilities⟩
  cases fields with
  | nil =>
      rw [lines_nil, bracketsOf_cons, brackets_string_append, hhead]
      decide
  | cons field fields =>
      have hfields : bracketsOf ((field :: fields).map fieldLine) = [] := by
        refine bracketsOf_eq_nil (List.forall_mem_map.mpr fun f hf => ?_)
        obtain ⟨hname, htype⟩ := h.fields f hf
        rw [Move.IsBare, fieldLine, brackets_indent]
        simp only [brackets_string_append, hname.brackets_eq, htype.brackets_eq]
        decide
      rw [lines_cons, bracketsOf_append, bracketsOf_cons, brackets_string_append, hhead, hfields]
      decide

structure IsBareInit (init : Plan.Init) : Prop where
  witness : IsBare init.witness
  symbol : IsBare init.symbol
  name : IsBare init.name
  description : IsBare init.description

theorem balanced_initLines {init : Plan.Init} (h : IsBareInit init) :
    Balanced (bracketsOf (initLines init)) := by
  simp only [initLines, currencyArguments, argumentLines, byteString, bracketsOf_append,
    bracketsOf_cons, brackets_indent, brackets_string_append, h.witness.brackets_eq,
    h.symbol.brackets_eq, h.name.brackets_eq, h.description.brackets_eq,
    (isBare_toString _).brackets_eq]
  decide

/-- The struct that an NFT body builds opens in one line and closes in another. -/
theorem Body.balanced_lines {body : Body} (h : ∀ part ∈ body.parts, IsBare part) :
    Balanced (bracketsOf body.lines) := by
  cases body with
  | mintCoin capability amount context =>
      simp only [parts, List.forall_mem_cons] at h
      obtain ⟨hcapability, hamount, hcontext, -⟩ := h
      simp only [lines, bracketsOf_cons, brackets_string_append, hcapability.brackets_eq,
        hamount.brackets_eq, hcontext.brackets_eq]
      decide
  | mintNft capability name url context =>
      simp only [parts, List.forall_mem_append, List.forall_mem_cons] at h
      obtain ⟨hcapability, hname, hurl, hcontext, -⟩ := h
      cases capability with
      | none =>
          simp only [lines, List.nil_append, bracketsOf_cons, brackets_indent,
            brackets_string_append, hname.brackets_eq, hurl.brackets_eq, hcontext.brackets_eq]
          decide
      | some capability =>
          have hpart : IsBare capability := hcapability capability List.mem_cons_self
          simp only [lines, bracketsOf_append, bracketsOf_cons, brackets_indent,
            brackets_string_append, hpart.brackets_eq, hname.brackets_eq, hurl.brackets_eq,
            hcontext.brackets_eq]
          decide
  | transfer object recipient =>
      simp only [parts, List.forall_mem_cons] at h
      obtain ⟨hobject, hrecipient, -⟩ := h
      simp only [lines, bracketsOf_cons, brackets_string_append, hobject.brackets_eq,
        hrecipient.brackets_eq]
      decide
  | placeholder text =>
      have hnone : bracketsOf [text] = [] := bracketsOf_eq_nil h
      rw [lines, hnone]
      rfl

structure FunctionDecl.IsBare (f : FunctionDecl) : Prop where
  name : Move.IsBare f.name
  params : ∀ p ∈ f.params, Move.IsBare p.name ∧ Move.IsBare p.resolved
  body : ∀ part ∈ f.body.parts, Move.IsBare part

theorem FunctionDecl.balanced_lines {f : FunctionDecl} (h : f.IsBare) :
    Balanced (bracketsOf f.lines) := by
  have hparams : Move.IsBare (commaSeparated (f.params.map paramText)) := by
    refine isBare_commaSeparated (List.forall_mem_map.mpr fun p hp => ?_)
    obtain ⟨hname, hresolved⟩ := h.params p hp
    exact isBare_append_iff.mpr ⟨isBare_append_iff.mpr ⟨hname, by decide⟩, hresolved⟩
  have hfirst : brackets (indent 1 (f.signature ++ " \x7b")).toList = ['(', ')', '\x7b'] := by
    rw [brackets_indent, signature_eq]
    simp only [brackets_string_append, h.name.brackets_eq, hparams.brackets_eq]
    decide
  have hlast : bracketsOf [indent 1 "\x7d"] = ['\x7d'] := by decide
  have hrow : Balanced ['(', ')'] := by decide
  rw [lines, bracketsOf_append, bracketsOf_cons, hfirst, bracketsOf_map_indent, hlast]
  exact hrow.append (Body.balanced_lines h.body).braces

def Declaration.IsBare : Declaration → Prop
  | .struct decl => decl.IsBare
  | .init planned => IsBareInit planned
  | .function decl => decl.IsBare

theorem Declaration.balanced_lines {decl : Declaration} (h : decl.IsBare) :
    Balanced (bracketsOf decl.lines) := by
  cases decl with
  | struct decl =>
      rw [lines, StructDecl.bracketsOf_lines h]
      decide
  | init planned => exact balanced_initLines h
  | function decl => exact FunctionDecl.balanced_lines h

theorem Module.isBlock_text {m : Module} (hname : IsBare m.name)
    (hdeclarations : ∀ decl ∈ m.declarations, decl.IsBare) : Text.IsBlock m.text.toList := by
  have htext : m.text.toList = ("module " ++ m.name ++ "::" ++ m.name ++ " ").toList ++
      ('\x7b' :: ("\n" ++ unlines (useLines ++
        (m.declarations.map Declaration.lines).flatMap (· ++ [""]))).toList ++ ['\x7d']) := by
    rw [text, lines_eq, List.cons_append, unlines_cons]
    simp [opening]
  have hhead : IsBare ("module " ++ m.name ++ "::" ++ m.name ++ " ") := by
    simp only [isBare_append_iff, hname]
    decide
  have huse : Balanced (bracketsOf useLines) := by decide
  rw [htext]
  apply Text.isBlock_of_balanced hhead.brackets_eq
  rw [← balanced_brackets_iff, brackets_string_append, brackets_unlines, bracketsOf_append]
  refine Balanced.append (by decide) (huse.append ?_)
  rw [bracketsOf, List.flatMap_assoc, List.flatMap_map]
  apply Text.balanced_flatMap
  intro decl hdecl
  have hlines := Declaration.balanced_lines (hdeclarations decl hdecl)
  show Balanced (bracketsOf (decl.lines ++ [""]))
  rw [bracketsOf_append]
  exact hlines.append (by decide)

/-- The texts that stand in a module as they are in its plan and in the defaults. -/
structure IsBarePlan (plan : Plan) (defaults : Defaults) : Prop where
  moduleName : IsBare plan.moduleName
  witness : IsBare plan.witness.name
  structs : ∀ s ∈ plan.structs, IsBare s.name ∧ ∀ f ∈ s.fields, IsBare f.name ∧ IsBare f.type
  init : ∀ init ∈ plan.init, IsBareInit init
  functions : ∀ f ∈ plan.functions,
    IsBare f.name ∧ ∀ p ∈ f.params, IsBare p.name ∧ IsBare p.resolved
  placeholder : IsBare defaults.placeholderBody

/-- The text of a module is one balanced block from the brace in its first line to its end. -/
theorem isBlock_text_ofPlan {plan : Plan} {defaults : Defaults} (h : IsBarePlan plan defaults) :
    Text.IsBlock (Module.ofPlan plan defaults).text.toList := by
  apply Module.isBlock_text h.moduleName
  apply Module.forall_mem_declarations
  case hstructs => exact fun s hs => ⟨(h.structs s hs).1, (h.structs s hs).2⟩
  case hwitness => exact ⟨h.witness, List.forall_mem_nil _⟩
  case hnft => exact ⟨by decide, by decide⟩
  case hinit => exact h.init
  case hfunctions =>
    intro f hf
    obtain ⟨hname, hparams⟩ := h.functions f hf
    exact ⟨hname, hparams, Body.forall_mem_parts (fun p hp => (hparams p hp).1) (by decide)
      h.placeholder⟩

theorem isBlock_text_ofPlan_gold :
    let plan : Plan := ⟨"gold", ⟨"GOLD", .default⟩,
      [⟨"s-1", "Vault", .keyStore, [⟨"id", "UID"⟩, ⟨"names", "vector<String>"⟩], false⟩],
      true, true, some ⟨"i-1", "GOLD", 2, "G", "Gold", "b\"x\""⟩,
      [⟨"f-1", "mint", .mintNft, [⟨"cap", "T", "&mut TreasuryCap<GOLD>"⟩], false⟩,
        ⟨"f-2", "burn", .unrecognized, [], false⟩]⟩
    IsBarePlan plan .builtIn ∧ Text.IsBlock (Module.ofPlan plan .builtIn).text.toList := by
  intro plan
  have hplain : IsBarePlan plan .builtIn :=
    { moduleName := by decide
      witness := by decide
      structs := by decide
      init := fun _ hmem =>
        Option.some.inj hmem ▸ ⟨by decide, by decide, by decide, by decide⟩
      functions := by decide
      placeholder := by decide }
  exact ⟨hplain, isBlock_text_ofPlan hplain⟩

end MoveCanvas.Move
