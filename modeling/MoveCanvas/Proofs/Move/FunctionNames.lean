import Mathlib.Data.List.Forall2
import MoveCanvas.Proofs.Move.Recovery
import MoveCanvas.Proofs.Text.CallableNames

/-! # Names of functions

Every function node is planned by itself, under the callable name of its label, and nothing compares
these names with each other or with the initializer's. The lines that open the functions of a module
state their names in order. The names are distinct exactly if no two labels collide and, beside an
initializer, no label is a spelling of `init`. -/

namespace MoveCanvas

theorem Graph.isSome_of_singleInit {graph : Graph} {init : Option (Graph.Node × Currency)}
    (h : graph.singleInit = .ok init) : init.isSome = true ↔ graph.inits ≠ [] := by
  unfold singleInit at h
  split at h
  · next hinits =>
    obtain rfl := Except.ok.inj h
    simp [hinits]
  · next hinits =>
    obtain rfl := Except.ok.inj h
    simp [hinits]
  · cases h

namespace Move

def Declaration.functionName? : Declaration → Option String
  | .struct _ => none
  | .init _ => some "init"
  | .function decl => some decl.name

def visibilities : List String :=
  ["", "public entry "]

def OpensFunction (line : String) : Prop :=
  ∃ visibility ∈ visibilities, (indent 1 (visibility ++ "fun ")).toList <+: line.toList

instance (line : String) : Decidable (OpensFunction line) :=
  inferInstanceAs (Decidable (∃ visibility ∈ visibilities, _))

/-- The line opens a function and states its name in front of the parameters. -/
def StatesName (name line : String) : Prop :=
  ∃ visibility ∈ visibilities, ∃ rest, line = indent 1 (visibility ++ "fun " ++ name ++ "(" ++ rest)

theorem StatesName.opensFunction {name line : String} (h : StatesName name line) :
    OpensFunction line := by
  obtain ⟨visibility, hvisibility, rest, rfl⟩ := h
  refine ⟨visibility, hvisibility, (name ++ "(" ++ rest).toList, ?_⟩
  rw [← String.toList_append]
  simp only [indent, String.append_assoc]

/-- The character behind the indentation tells most lines from those that open a function. -/
theorem not_opensFunction {line : String} {c : Char} (hc : line.toList[4]? = some c)
    (hkeyword : c ∉ ['f', 'p']) : ¬ OpensFunction line := by
  rintro ⟨visibility, hvisibility, rest, hline⟩
  have hinitial : ∀ visibility ∈ visibilities, ∃ c ∈ ['f', 'p'],
      (indent 1 (visibility ++ "fun ")).toList[4]? = some c := by
    simp [visibilities, indent, level]
  obtain ⟨c', hmem, hc'⟩ := hinitial visibility hvisibility
  rw [← hline, List.getElem?_append_left (List.getElem?_eq_some_iff.mp hc').1, hc'] at hc
  exact hkeyword (Option.some.inj hc ▸ hmem)

theorem not_opensFunction_nested (part : String) : ¬ OpensFunction (indent 2 part) :=
  not_opensFunction (c := ' ') (by simp [indent, level]) (by decide)

namespace Declaration

theorem not_opensFunction_of_mem_tail (decl : Declaration) :
    ∀ line ∈ decl.lines.tail, ¬ OpensFunction line := by
  -- behind its first line a declaration stands two levels in until it ends
  have hblock (parts : List String) :
      ∀ line ∈ parts.map (indent 2) ++ [indent 1 "\x7d"], ¬ OpensFunction line := by
    refine List.forall_mem_append.mpr ⟨List.forall_mem_map.mpr fun part _ => ?_, by decide⟩
    exact not_opensFunction_nested part
  cases decl with
  | struct decl =>
      obtain ⟨name, abilities, fields⟩ := decl
      cases fields with
      | nil => exact List.forall_mem_nil _
      | cons field fields =>
          have htail : (struct ⟨name, abilities, field :: fields⟩).lines.tail =
              ((field :: fields).map fun f => f.name ++ ": " ++ f.type ++ ",").map (indent 2) ++
                [indent 1 "\x7d"] := by
            rw [List.map_map]
            rfl
          rw [htail]
          exact hblock _
  | init planned =>
      exact hblock ("let (treasury, metadata) = coin::create_currency(" ::
        argumentLines 1 (currencyArguments planned) ++ [");",
          "transfer::public_freeze_object(metadata);",
          "transfer::public_transfer(treasury, tx_context::sender(ctx));"])
  | function decl => exact hblock decl.body.lines

theorem exists_statesName {decl : Declaration} {name : String}
    (h : decl.functionName? = some name) :
    ∃ line, decl.lines.head? = some line ∧ StatesName name line := by
  cases decl with
  | struct decl => cases h
  | init planned =>
      obtain rfl : "init" = name := Option.some.inj h
      have hhead : (init planned).lines.head? = some (indent 1
          ("fun init(witness: " ++ planned.witness ++ ", ctx: &mut TxContext) \x7b")) := rfl
      have hlead : "fun init(witness: " = "" ++ "fun " ++ "init" ++ "(" ++ "witness: " := by decide
      refine ⟨_, hhead, "", by decide,
        "witness: " ++ planned.witness ++ ", ctx: &mut TxContext) \x7b", ?_⟩
      rw [hlead]
      simp only [String.append_assoc]
  | function decl =>
      obtain rfl : decl.name = name := Option.some.inj h
      have hhead : (function decl).lines.head? = some (indent 1 (decl.signature ++ " \x7b")) := rfl
      have hlead : "public entry fun " = "public entry " ++ "fun " := by decide
      have hsignature := decl.signature_eq
      generalize commaSeparated _ = row at hsignature
      refine ⟨_, hhead, "public entry ", by decide, row ++ (")" ++ " \x7b"), ?_⟩
      simp only [hsignature, hlead, String.append_assoc]

theorem forall₂_statesName (decl : Declaration) :
    List.Forall₂ StatesName decl.functionName?.toList (decl.lines.filter (OpensFunction ·)) := by
  obtain ⟨line, hhead, hinitial⟩ := Option.bind_eq_some_iff.mp decl.initial_lines
  obtain ⟨rest, hlines⟩ := List.head?_eq_some_iff.mp hhead
  have hrest : rest.filter (OpensFunction ·) = [] := by
    refine List.filter_eq_nil_iff.mpr fun line hline => ?_
    rw [decide_eq_true_eq]
    exact decl.not_opensFunction_of_mem_tail line (by rwa [hlines])
  rw [hlines]
  cases hname : decl.functionName? with
  | none =>
      cases decl with
      | struct decl =>
          have hstruct : ¬ OpensFunction line := not_opensFunction hinitial (by simp [initial])
          rw [List.filter_cons_of_neg (by rwa [decide_eq_true_eq]), hrest]
          exact .nil
      | init _ | function _ => cases hname
  | some name =>
      obtain ⟨line', hhead', hstates⟩ := exists_statesName hname
      obtain rfl : line = line' := Option.some.inj (hhead.symm.trans hhead')
      rw [List.filter_cons_of_pos (by exact decide_eq_true hstates.opensFunction), hrest]
      exact .cons hstates .nil

end Declaration

def Module.functionNames (m : Module) : List String :=
  m.declarations.filterMap Declaration.functionName?

/-- The lines that open the functions of a module state their names, one by one and in order. -/
theorem Module.forall₂_statesName (m : Module) :
    List.Forall₂ StatesName m.functionNames (m.lines.filter (OpensFunction ·)) := by
  have hopening : ¬ OpensFunction (opening m.name) :=
    not_opensFunction (c := 'l') (by simp [opening]) (by decide)
  have huse : useLines.filter (OpensFunction ·) = [] := by decide
  have hend : [""].filter (OpensFunction ·) = [] := by decide
  rw [lines_eq, List.cons_append, List.filter_cons_of_neg (by rwa [decide_eq_true_eq]),
    List.filter_append, huse, List.nil_append, functionNames]
  induction m.declarations with
  | nil => exact .nil
  | cons decl declarations ih =>
      have hnames : (decl :: declarations).filterMap Declaration.functionName? =
          decl.functionName?.toList ++ declarations.filterMap Declaration.functionName? := by
        rw [List.filterMap_cons]
        cases decl.functionName? <;> rfl
      rw [hnames, List.map_cons, List.flatMap_cons, List.filter_append, List.filter_append, hend,
        List.append_nil]
      exact List.rel_append decl.forall₂_statesName ih

theorem functionNames_ofPlan (plan : Plan) (defaults : Defaults) :
    (Module.ofPlan plan defaults).functionNames =
      (plan.init.map fun _ => "init").toList ++ plan.functions.map (·.name) := by
  have hstructs : ((structsOf plan).map Declaration.struct).filterMap Declaration.functionName? =
      [] := by
    rw [List.filterMap_map, List.filterMap_eq_nil_iff]
    intro decl _
    rfl
  have hinit : (plan.init.toList.map Declaration.init).filterMap Declaration.functionName? =
      (plan.init.map fun _ => "init").toList := by
    cases plan.init with
    | none => rfl
    | some init => rfl
  have hfunctions : ((functionsOf plan defaults).map Declaration.function).filterMap
      Declaration.functionName? = plan.functions.map (·.name) := by
    rw [functionsOf, List.map_map, List.filterMap_map, ← List.filterMap_eq_map]
    rfl
  rw [Module.functionNames, Module.ofPlan, List.filterMap_append, List.filterMap_append, hstructs,
    hinit, hfunctions, List.nil_append]

variable {name : String} {graph : Graph} {defaults : Defaults} {intents : Intent.Table}
  {witness : Witness} {init : Option (Graph.Node × Currency)}

theorem nodup_callable_iff :
    ((graph.functions.map fun f => Identifier.callable f.1.label)).Nodup ↔
      graph.functions.Pairwise fun f f' => ¬ Identifier.Collide f.1.label f'.1.label := by
  rw [List.Nodup, List.pairwise_map]
  simp only [ne_eq, Identifier.callable_eq_iff]

theorem nodup_functionNames_assemble_iff :
    (Module.ofPlan (Plan.assemble name graph defaults intents witness init)
        defaults).functionNames.Nodup ↔
      (graph.functions.Pairwise fun f f' => ¬ Identifier.Collide f.1.label f'.1.label) ∧
        (init.isSome = true → ∀ f ∈ graph.functions, f.1.label.toLower ≠ "init") := by
  have hnames : (Plan.assemble name graph defaults intents witness init).functions.map (·.name) =
      graph.functions.map fun f => Identifier.callable f.1.label := by
    show (graph.functions.map _).map _ = _
    rw [List.map_map]
    rfl
  rw [functionNames_ofPlan, hnames]
  cases init with
  | none =>
      rw [← nodup_callable_iff]
      simp [Plan.assemble]
  | some init =>
      have hinit : ("init" ∉ graph.functions.map fun f => Identifier.callable f.1.label) ↔
          ∀ f ∈ graph.functions, f.1.label.toLower ≠ "init" := by
        simp only [List.mem_map, not_exists, not_and, Identifier.callable_eq_init_iff, ne_eq]
      show ("init" :: graph.functions.map fun f => Identifier.callable f.1.label).Nodup ↔ _
      rw [List.nodup_cons, hinit, nodup_callable_iff]
      simp [and_comm]

/-- The functions of a module have distinct names exactly if no two labels of function nodes collide
and, beside an initializer, none is a spelling of `init`. -/
theorem nodup_functionNames_iff {plan : Plan}
    (h : Plan.ofGraph name graph defaults intents = .ok plan) :
    (Module.ofPlan plan defaults).functionNames.Nodup ↔
      (graph.functions.Pairwise fun f f' => ¬ Identifier.Collide f.1.label f'.1.label) ∧
        (graph.inits ≠ [] → ∀ f ∈ graph.functions, f.1.label.toLower ≠ "init") := by
  obtain ⟨witness, init, -, hinit, rfl⟩ := Plan.ofGraph_eq_ok_iff.mp h
  rw [nodup_functionNames_assemble_iff, Graph.isSome_of_singleInit hinit]

theorem nodup_functionNames_gallery :
    let graph : Graph := ⟨[⟨"i-1", "CoinInit", none, .init ⟨"", "", none, ""⟩⟩,
      ⟨"f-1", "coin::mint", none, .function [⟨"amount", "u64"⟩]⟩,
      ⟨"f-2", "coin::mint<T>", none, .function []⟩,
      ⟨"f-3", "Coin::burn", none, .function []⟩,
      ⟨"f-4", "init::setup", none, .function []⟩], []⟩
    ∃ plan, Plan.ofGraph "m" graph .builtIn .empty = .ok plan ∧
      (Module.ofPlan plan .builtIn).functionNames =
        ["init", "coin_mint", "coin::mint<T>", "coin_burn", "init_setup"] ∧
      (Module.ofPlan plan .builtIn).functionNames.Nodup := by
  intro graph
  obtain ⟨plan, h, hnames⟩ : ∃ plan, Plan.ofGraph "m" graph .builtIn .empty = .ok plan ∧
      (Module.ofPlan plan .builtIn).functionNames =
        ["init", "coin_mint", "coin::mint<T>", "coin_burn", "init_setup"] :=
      ⟨_, rfl, by decide +kernel⟩
  refine ⟨plan, h, hnames, (nodup_functionNames_iff h).mpr ⟨?_, fun _ => ?_⟩⟩
  all_goals decide +kernel

/-- Two nodes whose labels differ in letter case alone, and a label called like the initializer. -/
theorem not_nodup_functionNames_case :
    let graph : Graph := ⟨[⟨"f-1", "Reset", none, .function []⟩,
      ⟨"f-2", "reset", none, .function []⟩], []⟩
    let clash : Graph := ⟨[⟨"i-1", "CoinInit", none, .init ⟨"", "", none, ""⟩⟩,
      ⟨"f-1", "Init", none, .function []⟩], []⟩
    (graph.nodes.map (·.id)).Nodup ∧ (clash.nodes.map (·.id)).Nodup ∧
      (∃ plan, Plan.ofGraph "m" graph .builtIn .empty = .ok plan ∧
        (Module.ofPlan plan .builtIn).functionNames = ["reset", "reset"] ∧
        ¬ (Module.ofPlan plan .builtIn).functionNames.Nodup) ∧
      ∃ plan, Plan.ofGraph "m" clash .builtIn .empty = .ok plan ∧
        (Module.ofPlan plan .builtIn).functionNames = ["init", "init"] := by
  intro graph clash
  exact ⟨by decide, by decide, ⟨_, rfl, by decide, by decide⟩, _, rfl, by decide⟩

end Move

end MoveCanvas
