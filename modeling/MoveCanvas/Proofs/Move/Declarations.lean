import Mathlib
import MoveCanvas.Move.Module
import MoveCanvas.Proofs.Move.Lines

/-! # What the lines of a declaration tell

The lines of a struct tell its name, abilities and fields, those of an initializer all its data, and
those of a function its name and its parameters. It is asked that names are words, that other texts
take one line, and that no parameter type holds the joint of a row. The body of a function need not
be read: its lines are told from the lines of other declarations by the empty line that ends a
declaration. -/

namespace MoveCanvas.Move

/-! ## Structs -/

namespace StructDecl

structure IsLegible (s : StructDecl) : Prop where
  name : IsWord s.name
  fields : ∀ f ∈ s.fields, IsWord f.name ∧ OneLine f.type

theorem isPart_of_mem_names {abilities : Abilities} {name : String} (h : name ∈ abilities.names) :
    IsPart name ∧ OneLine name := by
  have hall : ∀ name ∈ ["key", "store", "copy", "drop"],
      name ≠ "" ∧ ¬ ", ".toList <:+: name.toList ∧ OneLine name := by decide
  have hmem : name ∈ ["key", "store", "copy", "drop"] := by
    obtain ⟨key, store, copy, drop⟩ := abilities
    simp only [Abilities.names, List.mem_append] at h
    rcases h with ((h | h) | h) | h
    all_goals
      split at h
      · simp only [List.mem_singleton] at h
        simp [h]
      · cases h
  obtain ⟨hne, hjoint, hone⟩ := hall name hmem
  exact ⟨⟨hne, hjoint⟩, hone⟩

theorem abilityClause_of_nonempty {abilities : Abilities} (h : abilities.isEmpty = false) :
    abilityClause abilities = " has " ++ commaSeparated abilities.names := by
  rw [abilityClause, h]
  rfl

theorem abilityClause_inj {abilities abilities' : Abilities}
    (h : abilityClause abilities = abilityClause abilities') : abilities = abilities' := by
  have hempty {a b : Abilities} (ha : a.isEmpty = true) (hb : b.isEmpty = false) :
      abilityClause a ≠ abilityClause b := by
    rw [abilityClause_of_nonempty hb, abilityClause, if_pos ha]
    intro heq
    exact absurd (String.append_eq_empty_iff.mp heq.symm).1 (by decide)
  cases ha : abilities.isEmpty <;> cases hb : abilities'.isEmpty
  · rw [abilityClause_of_nonempty ha, abilityClause_of_nonempty hb, String.append_right_inj] at h
    have hnames := commaSeparated_inj (fun _ hmem => (isPart_of_mem_names hmem).1)
      (fun _ hmem => (isPart_of_mem_names hmem).1) h
    rw [← abilities.ofNames_names, hnames, abilities'.ofNames_names]
  · exact absurd h.symm (hempty hb ha)
  · exact absurd h (hempty ha hb)
  · rw [Abilities.isEmpty_iff.mp ha, Abilities.isEmpty_iff.mp hb]

theorem oneLine_abilityClause (abilities : Abilities) : OneLine (abilityClause abilities) := by
  unfold abilityClause
  split
  · decide
  · exact OneLine.append (by decide)
      (oneLine_commaSeparated fun _ hmem => (isPart_of_mem_names hmem).2)

theorem endsWord_abilityClause {mark : String} (hmark : endsWord mark = true)
    (abilities : Abilities) : endsWord (abilityClause abilities ++ mark) = true := by
  unfold abilityClause
  split
  · rwa [String.empty_append]
  · exact endsWord_append (endsWord_append (by decide) _) _

def head (name : String) (abilities : Abilities) : String :=
  indent 1 ("struct " ++ name ++ abilityClause abilities)

theorem lines_nil (name : String) (abilities : Abilities) :
    lines ⟨name, abilities, []⟩ = [head name abilities ++ " \x7b\x7d"] := rfl

theorem lines_cons (name : String) (abilities : Abilities) (field : Member) (fields : List Member) :
    lines ⟨name, abilities, field :: fields⟩ = (head name abilities ++ " \x7b") ::
      (field :: fields).map fieldLine ++ [indent 1 "\x7d"] := rfl

theorem head_append_inj {name name' mark : String} {abilities abilities' : Abilities}
    (hname : IsWord name) (hname' : IsWord name') (hmark : endsWord mark = true)
    (h : head name abilities ++ mark = head name' abilities' ++ mark) :
    name = name' ∧ abilities = abilities' := by
  rw [String.append_left_inj, head, head, indent_inj, String.append_assoc, String.append_assoc,
    String.append_right_inj] at h
  have hmarked : name ++ (abilityClause abilities ++ mark) =
      name' ++ (abilityClause abilities' ++ mark) := by
    rw [← String.append_assoc, h, String.append_assoc]
  obtain ⟨rfl, hclause⟩ := hname.append_inj hname' (endsWord_abilityClause hmark abilities)
    (endsWord_abilityClause hmark abilities') hmarked
  exact ⟨rfl, abilityClause_inj ((String.append_left_inj mark).mp hclause)⟩

theorem fieldLine_inj {field field' : Member} (h : IsWord field.name) (h' : IsWord field'.name)
    (heq : fieldLine field = fieldLine field') : field = field' := by
  obtain ⟨name, type⟩ := field
  obtain ⟨name', type'⟩ := field'
  simp only [fieldLine, indent_inj, String.append_assoc] at heq
  obtain ⟨rfl, htype⟩ := h.append_inj h' (endsWord_append (by decide) _)
    (endsWord_append (by decide) _) heq
  rw [String.append_right_inj, String.append_left_inj] at htype
  rw [htype]

theorem lines_inj {s s' : StructDecl} (h : s.IsLegible) (h' : s'.IsLegible)
    (heq : s.lines = s'.lines) : s = s' := by
  obtain ⟨name, abilities, fields⟩ := s
  obtain ⟨name', abilities', fields'⟩ := s'
  cases fields with
  | nil =>
      cases fields' with
      | nil =>
          rw [lines_nil, lines_nil] at heq
          obtain ⟨rfl, rfl⟩ :=
            head_append_inj h.name h'.name (by decide) (List.singleton_inj.mp heq)
          rfl
      | cons field' fields' => simp [lines_nil, lines_cons] at heq
  | cons field fields =>
      cases fields' with
      | nil => simp [lines_nil, lines_cons] at heq
      | cons field' fields' =>
          rw [lines_cons, lines_cons] at heq
          obtain ⟨hhead, hrest⟩ := List.cons.inj heq
          obtain ⟨rfl, rfl⟩ := head_append_inj h.name h'.name (by decide) hhead
          have hfields := map_eq_of_map_eq (g := id) (fun f hf f' hf' =>
            fieldLine_inj (h.fields f hf).1 (h'.fields f' hf').1) (List.append_cancel_right hrest)
          rw [List.map_id, List.map_id] at hfields
          exact congrArg (StructDecl.mk name abilities) hfields

theorem isLine_of_mem_lines {s : StructDecl} (h : s.IsLegible) : ∀ line ∈ s.lines, IsLine line := by
  obtain ⟨name, abilities, fields⟩ := s
  have hhead : IsLine (head name abilities) :=
    isLine_indent ((OneLine.append (by decide) h.name.oneLine).append (oneLine_abilityClause _)) 0
  cases fields with
  | nil =>
      rw [lines_nil]
      exact List.forall_mem_singleton.mpr (hhead.append (by decide))
  | cons field fields =>
      rw [lines_cons, List.cons_append]
      refine List.forall_mem_cons.mpr ⟨hhead.append (by decide), ?_⟩
      refine List.forall_mem_append.mpr ⟨List.forall_mem_map.mpr fun f hf => ?_, ?_⟩
      · obtain ⟨hname, htype⟩ := h.fields f hf
        exact isLine_indent (((hname.oneLine.append (by decide)).append htype).append (by decide)) 1
      · exact List.forall_mem_singleton.mpr (isLine_indent (by decide) 0)

end StructDecl

/-! ## Initializers -/

theorem length_argumentLines (depth : Nat) (arguments : List String) :
    (argumentLines depth arguments).length = arguments.length := by
  fun_induction argumentLines depth arguments with
  | case1 => rfl
  | case2 argument => rfl
  | case3 argument arguments hne ih => rw [List.length_cons, ih, List.length_cons]

theorem argumentLines_inj {depth : Nat} {arguments arguments' : List String}
    (h : argumentLines depth arguments = argumentLines depth arguments') :
    arguments = arguments' := by
  have hlength : arguments.length = arguments'.length := by
    rw [← length_argumentLines depth arguments, h, length_argumentLines]
  fun_induction argumentLines depth arguments generalizing arguments' with
  | case1 => exact (List.length_eq_zero_iff.mp hlength.symm).symm
  | case2 argument =>
      obtain ⟨argument', rfl⟩ := List.length_eq_one_iff.mp hlength.symm
      rw [indent_inj.mp (List.singleton_inj.mp h)]
  | case3 argument arguments hne ih =>
      match arguments' with
      | [] => cases hlength
      | [argument'] => exact absurd (List.length_eq_zero_iff.mp (Nat.succ.inj hlength)) hne
      | argument' :: next :: arguments' =>
          obtain ⟨hhead, htail⟩ := List.cons.inj h
          rw [indent_inj, String.append_left_inj] at hhead
          rw [hhead, ih htail (Nat.succ.inj hlength)]

theorem isLine_of_mem_argumentLines {depth : Nat} {arguments : List String}
    (h : ∀ argument ∈ arguments, OneLine argument) :
    ∀ line ∈ argumentLines (depth + 1) arguments, IsLine line := by
  fun_induction argumentLines (depth + 1) arguments with
  | case1 => exact List.forall_mem_nil _
  | case2 argument =>
      exact List.forall_mem_singleton.mpr (isLine_indent (h argument List.mem_cons_self) depth)
  | case3 argument arguments hne ih =>
      obtain ⟨hargument, harguments⟩ := List.forall_mem_cons.mp h
      exact List.forall_mem_cons.mpr
        ⟨isLine_indent (hargument.append (by decide)) depth, ih harguments⟩

theorem byteString_inj {s s' : String} (h : byteString s = byteString s') : s = s' := by
  rwa [byteString, byteString, String.append_left_inj, String.append_right_inj] at h

theorem oneLine_byteString {s : String} (h : OneLine s) : OneLine (byteString s) :=
  OneLine.append (OneLine.append (by decide) h) (by decide)

theorem oneLine_toString (n : Nat) : OneLine (toString n) := by
  intro hmem
  have hdigit : '\n' ∈ Nat.toDigits 10 n := by simpa using hmem
  exact absurd (Nat.isDigit_of_mem_toDigits (by decide) (by decide) hdigit) (by decide)

/-- An initializer apart from the node it is planned for. -/
def unplaced (init : Plan.Init) : Plan.Init := { init with node := "" }

/-- The inverted commas need no escape for this: every argument has a line of its own. -/
theorem initLines_inj {init init' : Plan.Init} (h : initLines init = initLines init') :
    unplaced init = unplaced init' := by
  obtain ⟨node, witness, decimals, symbol, name, description⟩ := init
  obtain ⟨node', witness', decimals', symbol', name', description'⟩ := init'
  rw [initLines, initLines] at h
  obtain ⟨hhead, hlines⟩ := List.cons.inj (List.append_cancel_right h)
  rw [indent_inj, String.append_left_inj, String.append_right_inj] at hhead
  have harguments := argumentLines_inj (List.cons.inj hlines).2
  simp only [currencyArguments, List.cons.injEq, true_and, and_true] at harguments
  obtain ⟨hdecimals, hsymbol, hname, hdescription⟩ := harguments
  obtain rfl : witness = witness' := hhead
  obtain rfl : decimals = decimals' := UInt8.toNat_inj.mp (Nat.repr_inj.mp hdecimals)
  obtain rfl := byteString_inj hsymbol
  obtain rfl := byteString_inj hname
  obtain rfl := byteString_inj hdescription
  rfl

structure IsLegibleInit (init : Plan.Init) : Prop where
  witness : IsWord init.witness
  symbol : OneLine init.symbol
  name : OneLine init.name
  description : OneLine init.description

theorem isLine_of_mem_initLines {init : Plan.Init} (h : IsLegibleInit init) :
    ∀ line ∈ initLines init, IsLine line := by
  have hhead : OneLine ("fun init(witness: " ++ init.witness ++ ", ctx: &mut TxContext) \x7b") :=
    (OneLine.append (by decide) h.witness.oneLine).append (by decide)
  have harguments : ∀ argument ∈ currencyArguments init, OneLine argument := by
    simp only [currencyArguments, List.forall_mem_cons]
    exact ⟨by decide, oneLine_toString _, oneLine_byteString h.symbol, oneLine_byteString h.name,
      oneLine_byteString h.description, by decide, by decide, List.forall_mem_nil _⟩
  unfold initLines
  refine List.forall_mem_append.mpr ⟨List.forall_mem_append.mpr ⟨?_, ?_⟩, ?_⟩
  · exact List.forall_mem_cons.mpr ⟨isLine_indent hhead 0,
      List.forall_mem_singleton.mpr (isLine_indent (by decide) 1)⟩
  · exact isLine_of_mem_argumentLines harguments
  · simp only [List.forall_mem_cons]
    exact ⟨isLine_indent (by decide) 1, isLine_indent (by decide) 1, isLine_indent (by decide) 1,
      isLine_indent (by decide) 0, List.forall_mem_nil _⟩

/-! ## Functions -/

def Body.parts : Body → List String
  | .mintCoin capability amount context => [capability, amount, context]
  | .mintNft capability name url context => capability.toList ++ [name, url, context]
  | .transfer object recipient => [object, recipient]
  | .placeholder text => [text]

theorem Body.oneLine_of_mem_lines {body : Body} (h : ∀ part ∈ body.parts, OneLine part) :
    ∀ line ∈ body.lines, OneLine line := by
  cases body with
  | mintCoin capability amount context =>
      simp only [parts, List.forall_mem_cons] at h
      obtain ⟨hcapability, hamount, hcontext, -⟩ := h
      simp only [lines, List.forall_mem_cons, oneLine_append_iff, hcapability, hamount, hcontext]
      decide
  | mintNft capability name url context =>
      simp only [parts, List.forall_mem_append, List.forall_mem_cons] at h
      obtain ⟨hcapability, hname, hurl, hcontext, -⟩ := h
      refine List.forall_mem_append.mpr ⟨?_, ?_⟩
      · cases capability with
        | none => exact List.forall_mem_nil _
        | some capability =>
            have hname : OneLine capability := hcapability capability List.mem_cons_self
            simp only [List.forall_mem_cons, oneLine_append_iff, hname]
            decide
      · simp only [List.forall_mem_cons, indent, oneLine_append_iff, hname, hurl, hcontext]
        decide
  | transfer object recipient =>
      simp only [parts, List.forall_mem_cons] at h
      obtain ⟨hobject, hrecipient, -⟩ := h
      simp only [lines, List.forall_mem_cons, oneLine_append_iff, hobject, hrecipient]
      decide
  | placeholder text => exact h

def Body.conventional : List String :=
  ["cap", "amount", "ctx", "name", "url", "obj", "recipient"]

theorem Body.forall_mem_parts {p : String → Prop} {f : Plan.Function} {placeholder : String}
    (hparams : ∀ param ∈ f.params, p param.name) (hconventional : ∀ name ∈ conventional, p name)
    (hplaceholder : p placeholder) : ∀ part ∈ (ofPlan f placeholder).parts, p part := by
  have hfound (test : Plan.Param → Bool) :
      ∀ name ∈ (f.params.find? test).map (·.name), p name := by
    intro name hmem
    obtain ⟨param, hparam, rfl⟩ := Option.map_eq_some_iff.mp hmem
    exact hparams param (List.mem_of_find?_eq_some hparam)
  have hchosen (test : Plan.Param → Bool) {default : String} (h : default ∈ conventional) :
      p (((f.params.find? test).map (·.name)).getD default) := by
    cases hname : (f.params.find? test).map (·.name) with
    | none => exact hconventional default h
    | some name => exact hfound test name hname
  have hcontext : p (contextOf f) := hchosen _ (by decide)
  unfold ofPlan
  cases f.intent with
  | mintCoin =>
      simp only [parts, List.forall_mem_cons]
      exact ⟨hchosen _ (by decide), hchosen _ (by decide), hcontext, List.forall_mem_nil _⟩
  | mintNft =>
      simp only [parts, List.forall_mem_append, List.forall_mem_cons, Option.mem_toList]
      exact ⟨hfound _, hchosen _ (by decide), hchosen _ (by decide), hcontext,
        List.forall_mem_nil _⟩
  | transfer =>
      simp only [parts, List.forall_mem_cons]
      exact ⟨hchosen _ (by decide), hchosen _ (by decide), List.forall_mem_nil _⟩
  | unrecognized => exact List.forall_mem_singleton.mpr hplaceholder

namespace FunctionDecl

def paramText (p : Plan.Param) : String :=
  p.name ++ ": " ++ p.resolved

/-- A parameter as its function states it: without the type declared on the canvas. -/
def stated (p : Plan.Param) : Member := ⟨p.name, p.resolved⟩

structure IsLegibleParam (p : Plan.Param) : Prop where
  name : IsWord p.name
  resolved : OneLine p.resolved
  no_joint : ¬ ", ".toList <:+: p.resolved.toList

theorem isPart_paramText {p : Plan.Param} (h : IsLegibleParam p) : IsPart (paramText p) where
  ne_empty := by
    rw [paramText, Ne, String.append_eq_empty_iff, String.append_eq_empty_iff]
    exact fun hempty => absurd hempty.1.2 (by decide)
  no_joint := by
    have hlist : (paramText p).toList = p.name.toList ++ ':' :: ' ' :: p.resolved.toList := by
      simp [paramText]
    rw [hlist, Text.infix_append_cons_iff (by decide), List.infix_cons_iff]
    rintro (hname | hblank | hresolved)
    · exact h.name.not_mem (by decide) (hname.mem List.mem_cons_self)
    · exact absurd (List.cons_prefix_cons.mp hblank).1 (by decide)
    · exact h.no_joint hresolved

theorem oneLine_paramText {p : Plan.Param} (h : IsLegibleParam p) : OneLine (paramText p) :=
  (h.name.oneLine.append (by decide)).append h.resolved

theorem paramText_inj {p p' : Plan.Param} (h : IsWord p.name) (h' : IsWord p'.name)
    (heq : paramText p = paramText p') : stated p = stated p' := by
  rw [paramText, paramText, String.append_assoc, String.append_assoc] at heq
  obtain ⟨hname, hresolved⟩ := h.append_inj h' (endsWord_append (by decide) _)
    (endsWord_append (by decide) _) heq
  rw [stated, stated, hname, (String.append_right_inj _).mp hresolved]

structure IsLegible (f : FunctionDecl) : Prop where
  name : IsWord f.name
  params : ∀ p ∈ f.params, IsLegibleParam p
  body : ∀ part ∈ f.body.parts, OneLine part

theorem signature_eq (f : FunctionDecl) : f.signature = "public entry fun " ++
    (f.name ++ ("(" ++ (commaSeparated (f.params.map paramText) ++ ")"))) := by
  have hparts : f.signature = "public entry fun " ++ f.name ++ "(" ++
      commaSeparated (f.params.map paramText) ++ ")" := rfl
  rw [hparts, String.append_assoc, String.append_assoc, String.append_assoc]

theorem signature_inj {f f' : FunctionDecl} (h : f.IsLegible) (h' : f'.IsLegible)
    (heq : f.signature = f'.signature) :
    f.name = f'.name ∧ f.params.map stated = f'.params.map stated := by
  rw [signature_eq, signature_eq, String.append_right_inj] at heq
  obtain ⟨hname, hrow⟩ := h.name.append_inj h'.name (endsWord_append (by decide) _)
    (endsWord_append (by decide) _) heq
  rw [String.append_right_inj, String.append_left_inj] at hrow
  have hparts (f : FunctionDecl) (h : f.IsLegible) : ∀ part ∈ f.params.map paramText, IsPart part :=
    List.forall_mem_map.mpr fun p hp => isPart_paramText (h.params p hp)
  have hparams := commaSeparated_inj (hparts f h) (hparts f' h') hrow
  exact ⟨hname, map_eq_of_map_eq (fun p hp p' hp' =>
    paramText_inj (h.params p hp).name (h'.params p' hp').name) hparams⟩

/-- A type that holds the joint of a row passes for two parameters. -/
example : signature ⟨"f", [⟨"a", "", "u8, b: u64"⟩], .placeholder ""⟩ =
    signature ⟨"f", [⟨"a", "", "u8"⟩, ⟨"b", "", "u64"⟩], .placeholder ""⟩ := by decide

/-- The first line tells it; the lines of the body need not be read. -/
theorem lines_inj {f f' : FunctionDecl} (h : f.IsLegible) (h' : f'.IsLegible)
    (heq : f.lines = f'.lines) : f.name = f'.name ∧ f.params.map stated = f'.params.map stated := by
  have hhead : indent 1 (f.signature ++ " \x7b") = indent 1 (f'.signature ++ " \x7b") :=
    (List.cons.inj heq).1
  rw [indent_inj, String.append_left_inj] at hhead
  exact signature_inj h h' hhead

theorem isLine_of_mem_lines {f : FunctionDecl} (h : f.IsLegible) :
    ∀ line ∈ f.lines, IsLine line := by
  have hrow : OneLine (commaSeparated (f.params.map paramText)) :=
    oneLine_commaSeparated (List.forall_mem_map.mpr fun p hp => oneLine_paramText (h.params p hp))
  have hsignature : OneLine f.signature := by
    rw [signature_eq]
    exact OneLine.append (by decide)
      (h.name.oneLine.append (OneLine.append (by decide) (hrow.append (by decide))))
  rw [lines, List.cons_append]
  refine List.forall_mem_cons.mpr ⟨isLine_indent (hsignature.append (by decide)) 0, ?_⟩
  refine List.forall_mem_append.mpr ⟨List.forall_mem_map.mpr fun line hline => ?_, ?_⟩
  · exact isLine_indent (Body.oneLine_of_mem_lines h.body line hline) 1
  · exact List.forall_mem_singleton.mpr (isLine_indent (by decide) 0)

end FunctionDecl

/-! ## All declarations of a module -/

theorem Module.forall_mem_declarations {p : Declaration → Prop} {plan : Plan} {defaults : Defaults}
    (hstructs : ∀ s ∈ plan.structs, p (.struct (.ofPlan s)))
    (hwitness : p (.struct (.witness plan.witness.name))) (hnft : p (.struct .nft))
    (hinit : ∀ init ∈ plan.init, p (.init init))
    (hfunctions : ∀ f ∈ plan.functions, p (.function (.ofPlan f defaults.placeholderBody))) :
    ∀ decl ∈ (ofPlan plan defaults).declarations, p decl := by
  refine List.forall_mem_append.mpr ⟨List.forall_mem_append.mpr ⟨?_, ?_⟩, ?_⟩
  · refine List.forall_mem_map.mpr (List.forall_mem_append.mpr
      ⟨List.forall_mem_append.mpr ⟨List.forall_mem_map.mpr hstructs, ?_⟩, ?_⟩)
    · split
      · exact List.forall_mem_singleton.mpr hwitness
      · exact List.forall_mem_nil _
    · split
      · exact List.forall_mem_singleton.mpr hnft
      · exact List.forall_mem_nil _
  · exact List.forall_mem_map.mpr fun init hmem => hinit init (Option.mem_toList.mp hmem)
  · exact List.forall_mem_map.mpr (List.forall_mem_map.mpr hfunctions)

end MoveCanvas.Move
