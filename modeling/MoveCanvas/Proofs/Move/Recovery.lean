import MoveCanvas.Proofs.Move.Declarations

/-! # Plans recovered from the text of a module

Two plans with the same text agree in all that a module states: its name, the structs it declares
(the added ones too), the initializer, and the names and parameters of its functions. The text has
one line for each line of the module, no declaration has an empty line, and the first word of a
declaration tells which kind it is. -/

namespace MoveCanvas.Move

inductive Outline
  | struct (decl : StructDecl)
  | init (planned : Plan.Init)
  | function (signature : String × List Member)
deriving DecidableEq, Repr

namespace Declaration

def outline : Declaration → Outline
  | .struct decl => .struct decl
  | .init planned => .init (unplaced planned)
  | .function decl => .function (decl.name, decl.params.map FunctionDecl.stated)

def IsLegible : Declaration → Prop
  | .struct decl => decl.IsLegible
  | .init planned => IsLegibleInit planned
  | .function decl => decl.IsLegible

theorem isLine_of_mem_lines {decl : Declaration} (h : decl.IsLegible) :
    ∀ line ∈ decl.lines, IsLine line := by
  cases decl with
  | struct decl => exact StructDecl.isLine_of_mem_lines h
  | init planned => exact isLine_of_mem_initLines h
  | function decl => exact FunctionDecl.isLine_of_mem_lines h

/-- The first character of the keyword that opens the declaration. -/
def initial : Declaration → Char
  | .struct _ => 's'
  | .init _ => 'f'
  | .function _ => 'p'

theorem initial_lines (decl : Declaration) :
    decl.lines.head?.bind (·.toList[4]?) = some decl.initial := by
  cases decl with
  | struct decl =>
      obtain ⟨name, abilities, fields⟩ := decl
      cases fields with
      | nil => simp [lines, StructDecl.lines_nil, StructDecl.head, indent, level, initial]
      | cons field fields =>
          simp [lines, StructDecl.lines_cons, StructDecl.head, indent, level, initial]
  | init planned => simp [lines, initLines, indent, level, initial]
  | function decl =>
      simp [lines, FunctionDecl.lines, FunctionDecl.signature_eq, indent, level, initial]

theorem outline_eq_of_lines_eq {decl decl' : Declaration} (h : decl.IsLegible)
    (h' : decl'.IsLegible) (heq : decl.lines = decl'.lines) : decl.outline = decl'.outline := by
  have hinitial : decl.initial = decl'.initial :=
    Option.some.inj (by rw [← initial_lines, heq, initial_lines])
  cases decl with
  | struct s =>
      cases decl' with
      | struct s' => exact congrArg Outline.struct (StructDecl.lines_inj h h' heq)
      | init _ | function _ => simp [initial] at hinitial
  | init planned =>
      cases decl' with
      | init planned' => exact congrArg Outline.init (initLines_inj heq)
      | struct _ | function _ => simp [initial] at hinitial
  | function f =>
      cases decl' with
      | function f' =>
          obtain ⟨hname, hparams⟩ := FunctionDecl.lines_inj h h' heq
          rw [outline, outline, hname, hparams]
      | struct _ | init _ => simp [initial] at hinitial

end Declaration

namespace Module

structure IsLegible (m : Module) : Prop where
  name : IsWord m.name
  declarations : ∀ decl ∈ m.declarations, decl.IsLegible

def opening (name : String) : String :=
  "module " ++ (name ++ ("::" ++ (name ++ " \x7b")))

def useLines : List String :=
  imports.map (fun path => indent 1 ("use " ++ path ++ ";")) ++ [""]

theorem lines_eq (m : Module) : m.lines =
    opening m.name :: useLines ++ (m.declarations.map Declaration.lines).flatMap (· ++ [""]) := by
  have hopening : opening m.name = "module " ++ m.name ++ "::" ++ m.name ++ " \x7b" := by
    rw [opening, String.append_assoc, String.append_assoc, String.append_assoc]
  rw [hopening, List.flatMap_map]
  rfl

theorem oneLine_of_mem_lines {m : Module} (h : m.IsLegible) : ∀ line ∈ m.lines, OneLine line := by
  have hname := h.name.oneLine
  have hopening : OneLine (opening m.name) := OneLine.append (by decide)
    (hname.append (OneLine.append (by decide) (hname.append (by decide))))
  have huse : ∀ line ∈ useLines, OneLine line := by decide
  rw [lines_eq]
  refine List.forall_mem_append.mpr ⟨List.forall_mem_cons.mpr ⟨hopening, huse⟩, fun line hmem => ?_⟩
  obtain ⟨_, hblock, hline⟩ := List.mem_flatMap.mp hmem
  obtain ⟨decl, hdecl, rfl⟩ := List.mem_map.mp hblock
  rcases List.mem_append.mp hline with hline | hline
  · exact (Declaration.isLine_of_mem_lines (h.declarations decl hdecl) line hline).one
  · obtain rfl := List.mem_singleton.mp hline
    decide

theorem outline_eq_of_text_eq {m m' : Module} (h : m.IsLegible) (h' : m'.IsLegible)
    (heq : m.text = m'.text) : m.name = m'.name ∧
      m.declarations.map Declaration.outline = m'.declarations.map Declaration.outline := by
  have hlines : m.lines = m'.lines := unlines_inj (oneLine_of_mem_lines h)
    (oneLine_of_mem_lines h') ((String.append_left_inj "\x7d").mp heq)
  rw [lines_eq, lines_eq, List.cons_append, List.cons_append] at hlines
  obtain ⟨hopening, hrest⟩ := List.cons.inj hlines
  have hname : m.name = m'.name :=
    (h.name.append_inj h'.name (endsWord_append (by decide) _) (endsWord_append (by decide) _)
      ((String.append_right_inj _).mp hopening)).1
  -- An empty line ends each declaration and stands in none.
  have hunbroken (m : Module) (h : m.IsLegible) :
      ∀ lines ∈ m.declarations.map Declaration.lines, "" ∉ lines :=
    List.forall_mem_map.mpr fun decl hdecl hmem =>
      (Declaration.isLine_of_mem_lines (h.declarations decl hdecl) _ hmem).ne_empty rfl
  have hblocks := flatMap_ended_inj (hunbroken m h) (hunbroken m' h')
    (List.append_cancel_left hrest)
  exact ⟨hname, map_eq_of_map_eq (fun decl hdecl decl' hdecl' =>
    Declaration.outline_eq_of_lines_eq (h.declarations decl hdecl) (h'.declarations decl' hdecl'))
    hblocks⟩

end Module

structure IsLegiblePlan (plan : Plan) : Prop where
  moduleName : IsWord plan.moduleName
  witness : IsWord plan.witness.name
  structs : ∀ s ∈ plan.structs, IsWord s.name ∧ ∀ f ∈ s.fields, IsWord f.name ∧ OneLine f.type
  init : ∀ init ∈ plan.init, IsLegibleInit init
  functions : ∀ f ∈ plan.functions, IsWord f.name ∧ ∀ p ∈ f.params, FunctionDecl.IsLegibleParam p

theorem IsLegiblePlan.ofPlan {plan : Plan} (h : IsLegiblePlan plan) {defaults : Defaults}
    (hplaceholder : OneLine defaults.placeholderBody) :
    (Module.ofPlan plan defaults).IsLegible where
  name := h.moduleName
  declarations := by
    apply Module.forall_mem_declarations
    case hstructs => exact fun s hs => ⟨(h.structs s hs).1, (h.structs s hs).2⟩
    case hwitness => exact ⟨h.witness, List.forall_mem_nil _⟩
    case hnft => exact ⟨by decide, by decide⟩
    case hinit => exact h.init
    case hfunctions =>
      intro f hf
      obtain ⟨hname, hparams⟩ := h.functions f hf
      exact ⟨hname, hparams, Body.forall_mem_parts (fun p hp => (hparams p hp).name.oneLine)
        (by decide) hplaceholder⟩

def statedFunction (f : Plan.Function) : String × List Member :=
  (f.name, f.params.map FunctionDecl.stated)

theorem outlines_ofPlan (plan : Plan) (defaults : Defaults) :
    (Module.ofPlan plan defaults).declarations.map Declaration.outline =
      (structsOf plan).map .struct ++ (plan.init.map unplaced).toList.map .init ++
        (plan.functions.map statedFunction).map .function := by
  simp only [Module.ofPlan, functionsOf, List.map_append, List.map_map, Option.toList_map]
  rfl

theorem outlines_inj {structs structs' : List StructDecl} {init init' : Option Plan.Init}
    {functions functions' : List (String × List Member)}
    (h : structs.map Outline.struct ++ init.toList.map .init ++ functions.map .function =
      structs'.map Outline.struct ++ init'.toList.map .init ++ functions'.map .function) :
    structs = structs' ∧ init = init' ∧ functions = functions' := by
  rw [List.append_assoc, List.append_assoc] at h
  obtain ⟨rfl, hrest⟩ := map_append_inj (fun _ _ => Outline.struct.inj) (by simp) (by simp) h
  obtain ⟨hinit, hfunctions⟩ :=
    map_append_inj (fun _ _ => Outline.init.inj) (by simp) (by simp) hrest
  exact ⟨rfl, by simpa using congrArg List.head? hinit,
    List.map_injective_iff.mpr (fun _ _ => Outline.function.inj) hfunctions⟩

/-- The text of a module decides all that its plan states. Nodes, declared types and the edges to
transfers are not stated. -/
theorem stated_eq_of_text_eq {plan plan' : Plan} {defaults : Defaults} (h : IsLegiblePlan plan)
    (h' : IsLegiblePlan plan') (hplaceholder : OneLine defaults.placeholderBody)
    (heq : (Module.ofPlan plan defaults).text = (Module.ofPlan plan' defaults).text) :
    plan.moduleName = plan'.moduleName ∧ structsOf plan = structsOf plan' ∧
      plan.init.map unplaced = plan'.init.map unplaced ∧
      plan.functions.map statedFunction = plan'.functions.map statedFunction := by
  obtain ⟨hname, houtlines⟩ :=
    Module.outline_eq_of_text_eq (h.ofPlan hplaceholder) (h'.ofPlan hplaceholder) heq
  rw [outlines_ofPlan, outlines_ofPlan] at houtlines
  exact ⟨hname, outlines_inj houtlines⟩

/-- Two plans with one text. In the first the witness is a planned struct, in the second it is
added, and the plans differ in their nodes, in a declared type and in an edge to a transfer. -/
theorem stated_eq_of_text_eq_gold :
    let vault : Plan.Struct := ⟨"s-2", "Vault", .keyStore, [⟨"id", "UID"⟩], false⟩
    let plan : Plan := ⟨"gold", ⟨"GOLD", .firstStruct "s-1"⟩,
      [vault, ⟨"s-1", "GOLD", .dropOnly, [], true⟩], false, false,
      some ⟨"i-1", "GOLD", 2, "G", "Gold", "b\"x\""⟩,
      [⟨"f-1", "pay", .transfer,
        [⟨"coin", "T", "Coin<GOLD>"⟩, ⟨"to", "address", "address"⟩], false⟩]⟩
    let plan' : Plan := ⟨"gold", ⟨"GOLD", .default⟩, [vault], true, false,
      some ⟨"i-2", "GOLD", 2, "G", "Gold", "b\"x\""⟩,
      [⟨"f-2", "pay", .transfer,
        [⟨"coin", "Coin", "Coin<GOLD>"⟩, ⟨"to", "address", "address"⟩], true⟩]⟩
    (Module.ofPlan plan .builtIn).text = (Module.ofPlan plan' .builtIn).text ∧
      plan.moduleName = plan'.moduleName ∧ structsOf plan = structsOf plan' ∧
      plan.init.map unplaced = plan'.init.map unplaced ∧
      plan.functions.map statedFunction = plan'.functions.map statedFunction := by
  intro vault plan plan'
  have htext : (Module.ofPlan plan .builtIn).text = (Module.ofPlan plan' .builtIn).text := rfl
  have hwords : ∀ name ∈ ["GOLD", "pay", "coin", "to"], IsWord name := by decide
  have htexts : ∀ s ∈ ["G", "Gold", "b\"x\""], OneLine s := by decide
  have htypes : ∀ type ∈ ["Coin<GOLD>", "address"],
      OneLine type ∧ ¬ Text.occursIn ", ".toList type.toList = true := by decide
  have hinit (node : String) : IsLegibleInit ⟨node, "GOLD", 2, "G", "Gold", "b\"x\""⟩ :=
    ⟨hwords _ (by simp), htexts _ (by simp), htexts _ (by simp), htexts _ (by simp)⟩
  have hparam (name declared resolved : String) (hname : name ∈ ["GOLD", "pay", "coin", "to"])
      (hresolved : resolved ∈ ["Coin<GOLD>", "address"]) :
      FunctionDecl.IsLegibleParam ⟨name, declared, resolved⟩ :=
    ⟨hwords name hname, (htypes resolved hresolved).1,
      fun hjoint => (htypes resolved hresolved).2 (Text.occursIn_iff.mpr hjoint)⟩
  have hparams (declared : String) : ∀ p ∈ ([⟨"coin", declared, "Coin<GOLD>"⟩,
      ⟨"to", "address", "address"⟩] : List Plan.Param), FunctionDecl.IsLegibleParam p :=
    List.forall_mem_cons.mpr ⟨hparam _ _ _ (by simp) (by simp),
      List.forall_mem_singleton.mpr (hparam _ _ _ (by simp) (by simp))⟩
  have hlegible : IsLegiblePlan plan :=
    { moduleName := by decide
      witness := by decide
      structs := by decide
      init := fun _ hmem => Option.some.inj hmem ▸ hinit "i-1"
      functions := List.forall_mem_singleton.mpr ⟨by decide, hparams "T"⟩ }
  have hlegible' : IsLegiblePlan plan' :=
    { moduleName := by decide
      witness := by decide
      structs := by decide
      init := fun _ hmem => Option.some.inj hmem ▸ hinit "i-2"
      functions := List.forall_mem_singleton.mpr ⟨by decide, hparams "Coin"⟩ }
  exact ⟨htext, stated_eq_of_text_eq hlegible hlegible' (by decide) htext⟩

end MoveCanvas.Move
