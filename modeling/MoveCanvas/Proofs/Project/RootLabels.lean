import MoveCanvas.Proofs.Project.ModuleNames

/-! # The name on the canvas

A module without a canvas of the user's has one node, the root, whose label is the name of the
module, so that the name is kept twice. Both are alike in a new and in a cleared module. A renaming
changes the name of the module and not the label: from then on the root carries the name that the
module had when it was last bare. -/

namespace MoveCanvas.Project

/-- The canvas is a single node, the root, and its label is the name of the module. -/
def Tab.CarriesName (tab : Tab) : Prop :=
  ∃ node, tab.nodes = [node] ∧ node.get? "id" = some (.str "module-root") ∧
    (node.get? "data").bind (·.get? "label") = some (.str tab.name)

def CarriesNames (p : Project) : Prop :=
  ∀ tab ∈ p.modules, tab.CarriesName

structure Tab.IsRooted (tab : Tab) (label : String) : Prop where
  nodes : tab.nodes = [rootNode label]
  edges : tab.edges = []

/-- The operation puts no canvas of the user's into a module. -/
def Operation.IsPlain (operation : Operation) : Prop :=
  ∀ name canvas, operation ≠ .replace name canvas

def Operation.ChangesName (operation : Operation) (p : Project) : Prop :=
  ∃ name newName, operation = .rename name newName ∧ name ∈ p.names ∧ newName ≠ name

variable {p : Project} {operation : Operation} {operations : List Operation}

theorem Tab.isRooted_bare (id name : String) : (Tab.bare id name).IsRooted name :=
  ⟨rfl, rfl⟩

theorem Tab.IsRooted.carriesName_iff {tab : Tab} {label : String} (h : tab.IsRooted label) :
    tab.CarriesName ↔ tab.name = label := by
  constructor
  · rintro ⟨node, hnode, -, hlabel⟩
    obtain rfl : rootNode label = node := List.head_eq_of_cons_eq (h.nodes.symm.trans hnode)
    exact (Json.str.inj (Option.some.inj hlabel)).symm
  · rintro rfl
    exact ⟨rootNode tab.name, h.nodes, rfl, rfl⟩

theorem Tab.carriesName_bare (id name : String) : (Tab.bare id name).CarriesName :=
  (isRooted_bare id name).carriesName_iff.mpr rfl

theorem exists_isRooted (hplain : ∀ operation ∈ operations, operation.IsPlain) :
    ∀ tab ∈ (session operations).modules, ∃ label stage, tab.IsRooted label ∧
      stage <+: operations ∧ .bare tab.id label ∈ (session stage).modules := by
  induction operations using List.reverseRecOn with
  | nil =>
      intro tab htab
      obtain rfl : tab = .bare "mod-1" "my_coin" := List.mem_singleton.mp htab
      exact ⟨_, [], Tab.isRooted_bare _ _, List.prefix_refl _, htab⟩
  | append_singleton operations operation ih =>
      have hbefore := ih fun earlier hmem => hplain earlier (List.mem_append_left _ hmem)
      have hlonger {stage : List Operation} (h : stage <+: operations) :
          stage <+: operations ++ [operation] := h.trans (List.prefix_append _ _)
      intro tab htab
      have hafter : tab ∈ ((session operations).after operation).modules :=
        session_concat operations operation ▸ htab
      rcases mem_modules_after hafter with hold | ⟨-, id, name, rfl⟩ | ⟨old, hold, hchange⟩
      · obtain ⟨label, stage, hrooted, hstage, hbare⟩ := hbefore tab hold
        exact ⟨label, stage, hrooted, hlonger hstage, hbare⟩
      · exact ⟨name, _, Tab.isRooted_bare id name, List.prefix_refl _, htab⟩
      · rcases hchange with ⟨newName, -, rfl⟩ | ⟨-, rfl⟩ | ⟨canvas, hreplace, -⟩
        · obtain ⟨label, stage, hrooted, hstage, hbare⟩ := hbefore old hold
          exact ⟨label, stage, ⟨hrooted.nodes, hrooted.edges⟩, hlonger hstage, hbare⟩
        · exact ⟨old.name, _, Tab.isRooted_bare _ _, List.prefix_refl _, htab⟩
        · exact absurd hreplace (hplain operation List.mem_concat_self _ _)

theorem carriesNames_after_iff (hplain : operation.IsPlain)
    (hrooted : ∀ tab ∈ p.modules, ∃ label, tab.IsRooted label) (h : p.CarriesNames) :
    (p.after operation).CarriesNames ↔ ¬ operation.ChangesName p := by
  constructor
  · rintro hafter ⟨name, newName, rfl, hname, hne⟩
    obtain ⟨front, tab, back, htab⟩ := exists_firstNamed hname
    have hmem : tab ∈ p.modules := by
      rw [htab.split]
      exact List.mem_append_right _ List.mem_cons_self
    have hrenamed : { tab with name := newName } ∈ (p.after (.rename name newName)).modules := by
      rw [after, rename, update, htab.updateFirst_eq]
      exact List.mem_append_right _ List.mem_cons_self
    obtain ⟨label, hlabel⟩ := hrooted tab hmem
    have hlabel' : Tab.IsRooted { tab with name := newName } label := ⟨hlabel.nodes, hlabel.edges⟩
    have hold : tab.name = label := hlabel.carriesName_iff.mp (h tab hmem)
    have hnew : newName = label := hlabel'.carriesName_iff.mp (hafter _ hrenamed)
    exact hne (hnew.trans (hold.symm.trans htab.named))
  · intro hsame tab htab
    rcases mem_modules_after htab with hold | ⟨-, id, name, rfl⟩ | ⟨old, hold, hchange⟩
    · exact h tab hold
    · exact Tab.carriesName_bare id name
    · rcases hchange with ⟨newName, rfl, rfl⟩ | ⟨-, rfl⟩ | ⟨canvas, hreplace, -⟩
      · obtain rfl : newName = old.name := by
          by_contra hne
          exact hsame ⟨old.name, newName, rfl, List.mem_map_of_mem hold, hne⟩
        exact h old hold
      · exact Tab.carriesName_bare old.id old.name
      · exact absurd hreplace (hplain _ _)

/-- In a session without canvases of the user's every module is its root alone, under the name that
the module had when it was last bare. The labels are the names throughout the session exactly if no
renaming in it changes the name of a module. -/
theorem carriesNames_session_iff (hplain : ∀ operation ∈ operations, operation.IsPlain) :
    (∀ tab ∈ (session operations).modules, ∃ label, tab.IsRooted label ∧
        (tab.CarriesName ↔ tab.name = label) ∧
        ∃ stage, stage <+: operations ∧ .bare tab.id label ∈ (session stage).modules) ∧
      ((∀ stage, stage <+: operations → (session stage).CarriesNames) ↔
        ∀ stage operation, stage ++ [operation] <+: operations →
          ¬ operation.ChangesName (session stage)) := by
  constructor
  · intro tab htab
    obtain ⟨label, stage, hrooted, hstage, hbare⟩ := exists_isRooted hplain tab htab
    exact ⟨label, hrooted, hrooted.carriesName_iff, stage, hstage, hbare⟩
  · refine forall_stages_iff ?_ fun stage operation hstage hbefore => ?_
    · exact List.forall_mem_singleton.mpr (Tab.carriesName_bare _ _)
    · have hmem : ∀ earlier ∈ stage ++ [operation], earlier.IsPlain :=
        fun earlier hearlier => hplain earlier (hstage.subset hearlier)
      refine carriesNames_after_iff (hmem operation List.mem_concat_self) (fun tab htab => ?_) hbefore
      obtain ⟨label, _, hrooted, -⟩ :=
        exists_isRooted (fun earlier h => hmem earlier (List.mem_append_left _ h)) tab htab
      exact ⟨label, hrooted⟩

theorem carriesNames_session_cleared :
    let operations : List Operation := [.rename "my_coin" "gold", .clear "gold"]
    (∀ operation ∈ operations, operation.IsPlain) ∧
      (session operations).modules = [.bare "mod-1" "gold"] ∧
      ¬ ∀ stage, stage <+: operations → (session stage).CarriesNames := by
  intro operations
  have hplain : ∀ operation ∈ operations, operation.IsPlain :=
    List.forall_mem_cons.mpr ⟨nofun, List.forall_mem_singleton.mpr nofun⟩
  refine ⟨hplain, rfl, fun hnames => ?_⟩
  have hkept := (carriesNames_session_iff hplain).2.mp hnames [] _ (List.prefix_append [_] [_])
  exact hkept ⟨"my_coin", "gold", rfl, List.mem_cons_self, by decide⟩

/-- The renamed module has the root of its old name. -/
theorem not_carriesNames_renamed :
    let p := session [.rename "my_coin" "gold"]
    p.modules = [{ Tab.bare "mod-1" "my_coin" with name := "gold" }] ∧ ¬ p.CarriesNames := by
  intro p
  refine ⟨rfl, fun hnames => ?_⟩
  have hrooted : Tab.IsRooted { Tab.bare "mod-1" "my_coin" with name := "gold" } "my_coin" :=
    ⟨rfl, rfl⟩
  have hname := hrooted.carriesName_iff.mp (hnames _ List.mem_cons_self)
  exact absurd hname (by decide)

end MoveCanvas.Project
