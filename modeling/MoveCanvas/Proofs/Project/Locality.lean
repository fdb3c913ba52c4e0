import MoveCanvas.Proofs.Project.ModuleNames

/-! # Operations on one module

An operation looks up its module by name and meets the first module of that name. It changes this
one module or fails, and then the project stays as it was. Edits under two names can change places,
unless one of them renames a module into the other's name: the name then leads to another module. -/

namespace MoveCanvas.Project

/-- What the operations on a name make of a project in which `tab` is the first module that has
it. -/
structure ActsOn (p : Project) (name : String) (front : List Tab) (tab : Tab) (back : List Tab) :
    Prop where
  first : FirstNamed name p.modules front tab back
  rename : ∀ newName, p.rename name newName =
    .ok { p with modules := front ++ { tab with name := newName } :: back }
  clear : p.clear name =
    .ok { p with modules := front ++ { tab with nodes := [rootNode name], edges := [] } :: back }
  replace : ∀ canvas, p.replaceCanvas name canvas =
    .ok { p with modules := front ++ tab.withCanvas canvas :: back }
  remove : p.remove name =
    if front ++ back = [] then .error .lastModule
    else .ok ({ p with modules := front ++ back }, tab)

/-- No module has the name. A removal says so as well, however few modules there are. -/
structure Misses (p : Project) (name : String) : Prop where
  absent : name ∉ p.names
  rename : ∀ newName, p.rename name newName = .error (.unknownModule name)
  clear : p.clear name = .error (.unknownModule name)
  replace : ∀ canvas, p.replaceCanvas name canvas = .error (.unknownModule name)
  remove : p.remove name = .error (.unknownModule name)

def call (p : Project) : Operation → Except ProjectError Project
  | .add => .ok p.add.1
  | .rename name newName => p.rename name newName
  | .remove name => (p.remove name).map (·.1)
  | .clear name => p.clear name
  | .replace name canvas => p.replaceCanvas name canvas

inductive Operation.Edits (name : String) : Operation → Prop
  | rename (newName : String) : Edits name (.rename name newName)
  | clear : Edits name (.clear name)
  | replace (canvas : Canvas) : Edits name (.replace name canvas)

def Operation.edit : Operation → Tab → Tab
  | .rename _ newName, tab => { tab with name := newName }
  | .clear _, tab => { tab with nodes := [rootNode tab.name], edges := [] }
  | .replace _ canvas, tab => tab.withCanvas canvas
  | .add, tab | .remove _, tab => tab

/-- The operation is a renaming that gives the name to a module or takes it from one. -/
def Operation.Moves (operation : Operation) (name : String) (p : Project) : Prop :=
  ∃ old newName, operation = .rename old newName ∧ old ∈ p.names ∧ old ≠ newName ∧
    (name = old ∨ name = newName)

variable {p : Project} {name : String} {f : Tab → Tab} {operation : Operation}

theorem updateFirst_eq_none (h : name ∉ p.names) (f : Tab → Tab) :
    updateFirst name f p.modules = none := by
  cases hfound : updateFirst name f p.modules with
  | none => rfl
  | some tabs => exact absurd (mem_names_of_updateFirst hfound) h

theorem update_of_not_mem (h : name ∉ p.names) (f : Tab → Tab) :
    p.update name f = .error (.unknownModule name) := by
  rw [update, updateFirst_eq_none h]

theorem misses_of_not_mem (h : name ∉ p.names) : p.Misses name where
  absent := h
  rename _ := update_of_not_mem h _
  clear := update_of_not_mem h _
  replace _ := update_of_not_mem h _
  remove := by
    have hnone : p.modules.find? (·.name = name) = none := by
      rw [List.find?_eq_none]
      intro tab htab hname
      exact h (List.mem_map.mpr ⟨tab, htab, of_decide_eq_true hname⟩)
    rw [Project.remove, hnone]

theorem actsOn_of_firstNamed {front back : List Tab} {tab : Tab}
    (h : FirstNamed name p.modules front tab back) : p.ActsOn name front tab back where
  first := h
  rename newName := h.update_eq _
  clear := by
    rw [Project.clear, h.update_eq, h.named]
  replace canvas := h.update_eq _
  remove := h.remove_eq

theorem misses_or_actsOn (p : Project) (name : String) :
    p.Misses name ∨ ∃ front tab back, p.ActsOn name front tab back := by
  by_cases h : name ∈ p.names
  · obtain ⟨front, tab, back, hfirst⟩ := exists_firstNamed h
    exact .inr ⟨front, tab, back, actsOn_of_firstNamed hfirst⟩
  · exact .inl (misses_of_not_mem h)

theorem after_eq_orSame_call (p : Project) (operation : Operation) :
    p.after operation = p.orSame (p.call operation) := by
  cases operation <;> rfl

theorem after_of_call_eq_error {error : ProjectError} (h : p.call operation = .error error) :
    p.after operation = p := by
  rw [after_eq_orSame_call, h]
  rfl

/-- The tabs after an edit, or the same tabs if none has the name. -/
def edited (name : String) (f : Tab → Tab) (tabs : List Tab) : List Tab :=
  (updateFirst name f tabs).getD tabs

section Edited

variable {a b : String} {g : Tab → Tab} {tab : Tab} {tabs : List Tab}

theorem edited_cons_of_eq (h : tab.name = name) : edited name f (tab :: tabs) = f tab :: tabs := by
  rw [edited, updateFirst, if_pos h]
  rfl

theorem edited_cons_of_ne (h : tab.name ≠ name) :
    edited name f (tab :: tabs) = tab :: edited name f tabs := by
  rw [edited, updateFirst, if_neg h, edited]
  cases updateFirst name f tabs <;> rfl

theorem mem_names_edited_iff (hab : a ≠ b) (hf : ∀ tab ∈ tabs, tab.name = a → (f tab).name ≠ b) :
    b ∈ (edited a f tabs).map (·.name) ↔ b ∈ tabs.map (·.name) := by
  induction tabs with
  | nil => exact Iff.rfl
  | cons tab tabs ih =>
      obtain ⟨htab, htabs⟩ := List.forall_mem_cons.mp hf
      by_cases ha : tab.name = a
      · rw [edited_cons_of_eq ha, List.map_cons, List.map_cons, List.mem_cons, List.mem_cons,
          or_iff_right (htab ha).symm, or_iff_right (ha ▸ hab.symm)]
      · rw [edited_cons_of_ne ha, List.map_cons, List.map_cons, List.mem_cons, List.mem_cons,
          ih htabs]

theorem edited_comm (hab : a ≠ b) (hf : ∀ tab ∈ tabs, tab.name = a → (f tab).name ≠ b)
    (hg : ∀ tab ∈ tabs, tab.name = b → (g tab).name ≠ a) :
    edited b g (edited a f tabs) = edited a f (edited b g tabs) := by
  -- Whichever name comes first, its edit is done there and the other one goes on behind it.
  induction tabs with
  | nil => rfl
  | cons tab tabs ih =>
      obtain ⟨hftab, hftabs⟩ := List.forall_mem_cons.mp hf
      obtain ⟨hgtab, hgtabs⟩ := List.forall_mem_cons.mp hg
      by_cases ha : tab.name = a
      · have hb : tab.name ≠ b := ha ▸ hab
        rw [edited_cons_of_eq ha, edited_cons_of_ne (hftab ha), edited_cons_of_ne hb,
          edited_cons_of_eq ha]
      · by_cases hb : tab.name = b
        · rw [edited_cons_of_ne ha, edited_cons_of_eq hb, edited_cons_of_eq hb,
            edited_cons_of_ne (hgtab hb)]
        · rw [edited_cons_of_ne ha, edited_cons_of_ne hb, edited_cons_of_ne hb,
            edited_cons_of_ne ha, ih hftabs hgtabs]

end Edited

theorem Operation.Edits.call_eq (h : operation.Edits name) (p : Project) :
    p.call operation = p.update name operation.edit := by
  cases h <;> rfl

theorem Operation.Edits.after_eq (h : operation.Edits name) (p : Project) :
    p.after operation = { p with modules := edited name operation.edit p.modules } := by
  rw [after_eq_orSame_call, h.call_eq, update, edited]
  cases updateFirst name operation.edit p.modules <;> rfl

theorem Operation.Edits.call_eq_error_iff (h : operation.Edits name) {error : ProjectError} :
    p.call operation = .error error ↔ name ∉ p.names ∧ error = .unknownModule name := by
  rw [h.call_eq]
  by_cases hname : name ∈ p.names
  · obtain ⟨front, tab, back, hfirst⟩ := exists_firstNamed hname
    rw [hfirst.update_eq]
    exact iff_of_false nofun fun hmissing => hmissing.1 hname
  · rw [update_of_not_mem hname, Except.error.injEq, and_iff_right hname, eq_comm]

theorem Operation.Edits.name_edit_ne {a b : String} (h : operation.Edits a) (hab : a ≠ b)
    (hmoves : ¬ operation.Moves b p) :
    ∀ tab ∈ p.modules, tab.name = a → (operation.edit tab).name ≠ b := by
  rintro tab htab rfl
  cases h with
  | rename newName =>
      rintro rfl
      exact hmoves ⟨_, _, rfl, List.mem_map_of_mem htab, hab, .inr rfl⟩
  | clear => exact hab
  | replace canvas => exact hab

theorem Operation.Edits.call_after_eq_error_iff {a b : String} {other : Operation}
    (h : operation.Edits a) (hother : other.Edits b) (hab : a ≠ b) (hmoves : ¬ operation.Moves b p)
    {error : ProjectError} :
    (p.after operation).call other = .error error ↔ p.call other = .error error := by
  have hnames : b ∈ (p.after operation).names ↔ b ∈ p.names := by
    rw [h.after_eq]
    exact mem_names_edited_iff hab (h.name_edit_ne hab hmoves)
  rw [hother.call_eq_error_iff, hother.call_eq_error_iff, hnames]

theorem Operation.Edits.after_comm {a b : String} {other : Operation} (h : operation.Edits a)
    (hother : other.Edits b) (hab : a ≠ b) (hmoves : ¬ operation.Moves b p)
    (hmoves' : ¬ other.Moves a p) :
    (p.after operation).after other = (p.after other).after operation := by
  rw [hother.after_eq, h.after_eq, h.after_eq, hother.after_eq]
  refine Project.ext rfl ?_
  exact edited_comm hab (h.name_edit_ne hab hmoves) (hother.name_edit_ne hab.symm hmoves')

/-- An operation on a name fails as no module has it, or acts on the first module that does, and a
failed call leaves the project as it was. Two edits under different names come to the same in either
order, and each of them fails in either order or in none, if no renaming moves the name under which
the other one looks up its module. -/
theorem calls_local_and_commute (p : Project) :
    (∀ name, p.Misses name ∨ ∃ front tab back, p.ActsOn name front tab back) ∧
      (∀ operation error, p.call operation = .error error → p.after operation = p) ∧
      ∀ a b operation other, a ≠ b → Operation.Edits a operation → Operation.Edits b other →
        ¬ operation.Moves b p → ¬ other.Moves a p →
        (p.after operation).after other = (p.after other).after operation ∧
          ∀ error,
            ((p.after operation).call other = .error error ↔ p.call other = .error error) ∧
            ((p.after other).call operation = .error error ↔ p.call operation = .error error) := by
  refine ⟨p.misses_or_actsOn, fun _ _ => after_of_call_eq_error, ?_⟩
  intro a b operation other hab h hother hmoves hmoves'
  exact ⟨h.after_comm hother hab hmoves hmoves', fun error =>
    ⟨h.call_after_eq_error_iff hother hab hmoves,
      hother.call_after_eq_error_iff h hab.symm hmoves'⟩⟩

/-- Two modules have the first name, and the one that is renamed uncovers the other. The renaming
takes a name that a third module has. No module has the name of the clearing. -/
theorem calls_local_and_commute_shadowed :
    let p : Project := ⟨"1.0",
      [.bare "mod-1" "gold", .bare "mod-2" "vault", .bare "mod-3" "gold", .bare "mod-4" "gem"]⟩
    p.call (.clear "silver") = .error (.unknownModule "silver") ∧ p.after (.clear "silver") = p ∧
      ¬ Operation.Moves (.rename "gold" "gem") "vault" p ∧
      ¬ Operation.Moves (.rename "vault" "gem") "gold" p ∧
      (p.after (.rename "gold" "gem")).after (.rename "vault" "gem") =
        (p.after (.rename "vault" "gem")).after (.rename "gold" "gem") := by
  intro p
  have hmoves : ¬ Operation.Moves (.rename "gold" "gem") "vault" p := by
    rintro ⟨old, newName, heq, -, -, hname⟩
    cases heq
    exact absurd hname (by decide)
  have hmoves' : ¬ Operation.Moves (.rename "vault" "gem") "gold" p := by
    rintro ⟨old, newName, heq, -, -, hname⟩
    cases heq
    exact absurd hname (by decide)
  have hsilver : p.call (.clear "silver") = .error (.unknownModule "silver") := by decide
  obtain ⟨-, hfailed, hcomm⟩ := calls_local_and_commute p
  exact ⟨hsilver, hfailed _ _ hsilver, hmoves, hmoves',
    (hcomm "gold" "vault" _ _ (by decide) (.rename _) (.rename _) hmoves hmoves').1⟩

/-- A renaming into the name that the other edit looks up has to keep its place. -/
example :
    let p : Project := ⟨"1.0", [.bare "mod-1" "gold", .bare "mod-2" "vault"]⟩
    (p.after (.rename "gold" "vault")).after (.clear "vault") ≠
      (p.after (.clear "vault")).after (.rename "gold" "vault") := by decide

end MoveCanvas.Project
