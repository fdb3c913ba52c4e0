import Mathlib
import MoveCanvas.Proofs.Cli.Installation
import MoveCanvas.Proofs.Project.Reloading

/-! # Reports of all modules

A report has a block of rows for each module: the summary of its plan, or one row that says why
there is none. A module whose graph cannot be planned has its row and the report goes on, but at a
module without a graph it ends. So it covers the modules before the first one without a graph, and
all modules exactly if each has a graph. -/

namespace MoveCanvas.Cli

open Project (Tab)

/-- The block that is due for a module. Nothing is said of how a row puts it that there is no
graph. -/
inductive Reports (tab : Tab) : List String → Prop
  | plan {graph : Graph} {plan : Plan} (hgraph : tab.graph = .ok graph)
      (hplan : Plan.ofGraph tab.name graph .builtIn .empty = .ok plan) :
      Reports tab (planLines plan)
  | noPlan {graph : Graph} {error : CompileError} (hgraph : tab.graph = .ok graph)
      (herror : Plan.ofGraph tab.name graph .builtIn .empty = .error error) :
      Reports tab [tab.name ++ ": error: " ++ error.message]
  | noGraph {error : ConversionError} (hgraph : tab.graph = .error error) (text : String) :
      Reports tab [tab.name ++ ": error: " ++ text]

def ReportsAll (tabs : List Tab) (output : String) : Prop :=
  ∃ blocks, List.Forall₂ Reports tabs blocks ∧ output = lines blocks.flatten

/-- The tabs up to the first without a graph are `front`; there the report fails, if there is such a
tab. -/
structure EndsAfter (tabs front : List Tab) (failure : Option Failure) : Prop where
  graphs : ∀ tab ∈ front, ∃ graph, tab.graph = .ok graph
  ended : (tabs = front ∧ failure = none) ∨
    ∃ tab back error, tabs = front ++ tab :: back ∧ tab.graph = .error error ∧
      failure = some (.conversion error)

section Rows

variable {tab : Tab} {tabs front : List Tab} {graph : Graph} {rows : List String}
  {blocks : List (List String)} {failure : Option Failure}

theorem Reports.ne_nil (h : Reports tab rows) : rows ≠ [] := by
  cases h with
  | plan => exact List.cons_ne_nil _ _
  | noPlan => exact List.cons_ne_nil _ _
  | noGraph => exact List.cons_ne_nil _ _

theorem reports_iff_of_graph (hgraph : tab.graph = .ok graph) :
    Reports tab rows ↔ rows = moduleLines tab.name graph := by
  constructor
  · intro h
    cases h with
    | plan hgraph' hplan =>
        obtain rfl : graph = _ := Except.ok.inj (hgraph.symm.trans hgraph')
        rw [moduleLines, hplan]
    | noPlan hgraph' herror =>
        obtain rfl : graph = _ := Except.ok.inj (hgraph.symm.trans hgraph')
        rw [moduleLines, herror]
    | noGraph hgraph' =>
        rw [hgraph] at hgraph'
        cases hgraph'
  · rintro rfl
    unfold moduleLines
    cases hplan : Plan.ofGraph tab.name graph .builtIn .empty with
    | ok plan => exact .plan hgraph hplan
    | error error => exact .noPlan hgraph hplan

theorem exists_rest_of_graphs {all : List (List String)}
    (hgraphs : ∀ tab ∈ front, ∃ graph, tab.graph = .ok graph)
    (hblocks : List.Forall₂ Reports front blocks)
    (hall : List.Forall₂ Reports (front ++ tabs) all) :
    ∃ rest, List.Forall₂ Reports tabs rest ∧ all = blocks ++ rest := by
  induction hblocks generalizing all with
  | nil => exact ⟨all, hall, rfl⟩
  | cons hblock _ ih =>
      obtain ⟨⟨graph, hgraph⟩, hgraphs⟩ := List.forall_mem_cons.mp hgraphs
      cases hall with
      | cons hblock' htail =>
          obtain ⟨rest, hrest, rfl⟩ := ih hgraphs htail
          -- With a graph only one block is due.
          rw [reports_iff_of_graph hgraph] at hblock hblock'
          exact ⟨rest, hrest, by rw [hblock, hblock', List.cons_append]⟩

theorem lines_append (rows more : List String) :
    lines (rows ++ more) = lines rows ++ lines more := by
  simp [lines, String.join_append]

theorem lines_ne_empty (h : rows ≠ []) : lines rows ≠ "" := by
  cases rows with
  | nil => exact absurd rfl h
  | cons row rows => simp [lines, String.join_cons]

/-- The report goes module after module, and each block hangs on its own module only. -/
theorem checkModules_spec (tabs : List Tab) : ∃ front blocks,
    EndsAfter tabs front (checkModules tabs).2 ∧ List.Forall₂ Reports front blocks ∧
      (checkModules tabs).1 = blocks.flatten := by
  induction tabs with
  | nil => exact ⟨[], [], ⟨List.forall_mem_nil _, .inl ⟨rfl, rfl⟩⟩, .nil, rfl⟩
  | cons tab tabs ih =>
      obtain ⟨front, blocks, ⟨hgraphs, hended⟩, hblocks, hrows⟩ := ih
      cases hgraph : tab.graph with
      | error error =>
          rw [checkModules, hgraph]
          exact ⟨[], [],
            ⟨List.forall_mem_nil _, .inr ⟨tab, tabs, error, rfl, hgraph, rfl⟩⟩, .nil, rfl⟩
      | ok graph =>
          rw [checkModules, hgraph]
          refine ⟨tab :: front, moduleLines tab.name graph :: blocks,
            ⟨List.forall_mem_cons.mpr ⟨⟨graph, hgraph⟩, hgraphs⟩, ?_⟩,
            .cons ((reports_iff_of_graph hgraph).mpr rfl) hblocks, ?_⟩
          · rcases hended with ⟨rfl, hnone⟩ | ⟨last, back, error, rfl, herror, hsome⟩
            · exact .inl ⟨rfl, hnone⟩
            · exact .inr ⟨last, back, error, rfl, herror, hsome⟩
          · rw [List.flatten_cons, ← hrows]

theorem EndsAfter.reportsAll_iff (h : EndsAfter tabs front failure)
    (hblocks : List.Forall₂ Reports front blocks) :
    ReportsAll tabs (lines blocks.flatten) ↔ ∀ tab ∈ tabs, ∃ graph, tab.graph = .ok graph := by
  obtain ⟨hgraphs, ⟨rfl, -⟩ | ⟨tab, back, error, rfl, herror, -⟩⟩ := h
  · exact iff_of_true ⟨blocks, hblocks, rfl⟩ hgraphs
  · refine iff_of_false ?_ ?_
    · rintro ⟨all, hall, houtput⟩
      obtain ⟨rest, hrest, rfl⟩ := exists_rest_of_graphs hgraphs hblocks hall
      -- The module without a graph would have a row of its own behind the rows that are given.
      cases hrest with
      | @cons _ block _ blocks' hblock _ =>
          have hmissed : lines (block ++ blocks'.flatten) = "" := by
            rw [List.flatten_append, List.flatten_cons, lines_append] at houtput
            exact ((String.append_right_inj _).mp (String.append_empty.trans houtput)).symm
          exact lines_ne_empty (List.append_ne_nil_of_left_ne_nil hblock.ne_nil _) hmissed
    · intro hall
      obtain ⟨graph, hgraph⟩ := hall tab (List.mem_append_right _ List.mem_cons_self)
      rw [hgraph] at herror
      cases herror

end Rows

section Command

variable {folder : Folder} {path text : String} {project : Project}

theorem run_check (hread : folder.read path = .ok text)
    (hproject : Project.ofText text = .ok project) :
    ((Command.check path).run Folder.files).run folder = (checkReport project, folder) := by
  have hfound : projectOf path ((Folder.files.read path).run folder).1 = .ok project :=
    projectOf_eq_ok_iff.mpr ⟨text, hread, hproject⟩
  change (runCheck Folder.files path).run folder = _
  rw [runCheck, StateT.run_bind]
  -- Reading leaves the folder, so that what follows runs in it.
  change StateT.run _ folder = _
  rw [hfound]
  rfl

/-- Nothing is written, and the report has a block for each module up to the first without a graph,
at which the command fails. So every module is reported exactly if each has a graph, whatever else
is wrong with it. -/
theorem run_check_reports (hread : folder.read path = .ok text)
    (hproject : Project.ofText text = .ok project) :
    let (report, after) := ((Command.check path).run Folder.files).run folder
    after = folder ∧
      (∃ front, EndsAfter project.modules front report.failure ∧ ReportsAll front report.output) ∧
      (ReportsAll project.modules report.output ↔
        ∀ tab ∈ project.modules, ∃ graph, tab.graph = .ok graph) := by
  rw [run_check hread hproject]
  obtain ⟨front, blocks, hends, hblocks, hrows⟩ := checkModules_spec project.modules
  have houtput : (checkReport project).output = lines blocks.flatten := by
    rw [← hrows]
    rfl
  refine ⟨rfl, ⟨front, hends, blocks, hblocks, houtput⟩, ?_⟩
  rw [houtput]
  exact hends.reportsAll_iff hblocks

end Command

def Folder.withText (text : String) : Folder :=
  Folder.empty.put (Folder.home ++ ["p"]) (.file text.toUTF8)

theorem Folder.read_withText (text : String) : (Folder.withText text).read "p" = .ok text := by
  have hpath : Path.ofText "p" = .ok ⟨false, ["p"]⟩ := by cbv
  exact read_of_find (bind_eq_ok_iff.mpr ⟨_, hpath, rfl⟩) (fromUTF8?_toUTF8 text)

theorem isStored_nodeWithoutId (id name : String) : Tab.IsStored ⟨id, name, [.obj []], []⟩ where
  nodes := by
    have hempty : Json.Ascending [] := by decide
    exact List.forall_mem_singleton.mpr ⟨hempty, trivial⟩
  edges := List.forall_mem_nil _

/-- The second module has two initializers and gets its row; the third has no graph, and the fourth
has one. -/
theorem run_check_reports_mixed :
    let init (id : String) : Json := .obj [("data", .obj [("label", .str "CoinInit")]),
      ("id", .str id), ("type", .str "initNode")]
    let project : Project := ⟨"1.0", [.bare "mod-1" "a", ⟨"mod-2", "b", [init "i", init "j"], []⟩,
      ⟨"mod-3", "c", [.obj []], []⟩, .bare "mod-4" "d"]⟩
    let folder := Folder.withText project.toText
    let (report, after) := ((Command.check "p").run Folder.files).run folder
    folder.read "p" = .ok project.toText ∧ Project.ofText project.toText = .ok project ∧
      after = folder ∧
      (∃ front, EndsAfter project.modules front report.failure ∧ ReportsAll front report.output) ∧
      (ReportsAll project.modules report.output ↔
        ∀ tab ∈ project.modules, ∃ graph, tab.graph = .ok graph) := by
  intro init project folder
  have hinit (id : String) : (init id).Everywhere Json.Number.IsWord Json.Ascending := by
    have hkeys : Json.Ascending ["data", "id", "type"] := by decide
    have hdata : Json.Ascending ["label"] := by decide
    exact ⟨hkeys, ⟨hdata, trivial, trivial⟩, trivial, trivial, trivial⟩
  have hstored : ∀ tab ∈ project.modules, tab.IsStored := by
    refine List.forall_mem_cons.mpr ⟨Project.isStored_bare _ _, List.forall_mem_cons.mpr ⟨⟨?_, ?_⟩,
      List.forall_mem_cons.mpr ⟨isStored_nodeWithoutId _ _,
        List.forall_mem_singleton.mpr (Project.isStored_bare _ _)⟩⟩⟩
    · exact List.forall_mem_cons.mpr ⟨hinit "i", List.forall_mem_singleton.mpr (hinit "j")⟩
    · exact List.forall_mem_nil _
  have hproject := Project.ofText_toText hstored (by decide)
  have hread : folder.read "p" = .ok project.toText := Folder.read_withText project.toText
  -- The run is given by its report alone; its steps are not to be computed.
  clear_value folder
  have hreport := run_check_reports hread hproject
  generalize ((Command.check "p").run Folder.files).run folder = outcome at hreport ⊢
  obtain ⟨report, after⟩ := outcome
  exact ⟨hread, hproject, hreport⟩

/-- A module without a graph silences itself and the module after it, whose canvas is empty. -/
theorem not_reportsAll_nodeWithoutId :
    let project : Project :=
      ⟨"1.0", [⟨"mod-1", "a", [.obj []], []⟩, ⟨"mod-2", "b", [], []⟩]⟩
    let folder := Folder.withText project.toText
    folder.read "p" = .ok project.toText ∧ Project.ofText project.toText = .ok project ∧
      ¬ ReportsAll project.modules
        (((Command.check "p").run Folder.files).run folder).1.output := by
  intro project folder
  have hstored : ∀ tab ∈ project.modules, tab.IsStored :=
    List.forall_mem_cons.mpr ⟨isStored_nodeWithoutId _ _, List.forall_mem_singleton.mpr
      ⟨List.forall_mem_nil _, List.forall_mem_nil _⟩⟩
  have hread := Folder.read_withText project.toText
  have hproject := Project.ofText_toText hstored (by decide)
  refine ⟨hread, hproject, ?_⟩
  rw [run_check hread hproject]
  have hnothing : (checkReport project).output = "" := by decide
  rintro ⟨blocks, hblocks, houtput⟩
  rw [hnothing] at houtput
  cases hblocks with
  | cons hblock _ =>
      exact lines_ne_empty (List.append_ne_nil_of_left_ne_nil hblock.ne_nil _) houtput.symm

end MoveCanvas.Cli
