import MoveCanvas.Project

/-! # Sessions of a project

A session starts from a new project and carries out operations one after the other. An operation
that fails leaves the project as it was. What one operation can do to the tabs is said once, in
`mem_modules_after`; an invariant of tabs then holds after every session. -/

namespace MoveCanvas.Project

/-- Of the tabs, `tab` is the first that has the name. -/
structure FirstNamed (name : String) (tabs front : List Tab) (tab : Tab) (back : List Tab) : Prop where
  split : tabs = front ++ tab :: back
  others : ∀ other ∈ front, other.name ≠ name
  named : tab.name = name

section FirstNamed

variable {name : String} {f : Tab → Tab} {tabs tabs' front back : List Tab} {tab tab' : Tab}

theorem FirstNamed.cons (h : FirstNamed name tabs front tab back) {first : Tab}
    (hfirst : first.name ≠ name) : FirstNamed name (first :: tabs) (first :: front) tab back where
  split := by rw [h.split, List.cons_append]
  others := List.forall_mem_cons.mpr ⟨hfirst, h.others⟩
  named := h.named

theorem FirstNamed.replace (h : FirstNamed name tabs front tab back) (hname : tab'.name = name) :
    FirstNamed name (front ++ tab' :: back) front tab' back where
  split := rfl
  others := h.others
  named := hname

theorem exists_firstNamed (h : name ∈ tabs.map (·.name)) :
    ∃ front tab back, FirstNamed name tabs front tab back := by
  induction tabs with
  | nil => cases h
  | cons first tabs ih =>
      by_cases hfirst : first.name = name
      · exact ⟨[], first, tabs, rfl, fun _ hmem => absurd hmem List.not_mem_nil, hfirst⟩
      · have hrest : name ∈ tabs.map (·.name) :=
          (List.mem_cons.mp h).resolve_left fun heq => hfirst heq.symm
        obtain ⟨front, tab, back, hsplit⟩ := ih hrest
        exact ⟨first :: front, tab, back, hsplit.cons hfirst⟩

theorem FirstNamed.find?_eq (h : FirstNamed name tabs front tab back) :
    tabs.find? (·.name = name) = some tab := by
  rw [List.find?_eq_some_iff_append]
  refine ⟨by simpa using h.named, front, back, h.split, fun other hother => ?_⟩
  simpa using h.others other hother

theorem FirstNamed.updateFirst_eq (h : FirstNamed name tabs front tab back) (f : Tab → Tab) :
    updateFirst name f tabs = some (front ++ f tab :: back) := by
  obtain ⟨rfl, hothers, hname⟩ := h
  induction front with
  | nil => rw [List.nil_append, updateFirst, if_pos hname, List.nil_append]
  | cons first front ih =>
      obtain ⟨hfirst, hfront⟩ := List.forall_mem_cons.mp hothers
      rw [List.cons_append, updateFirst, if_neg hfirst, ih hfront]
      rfl

theorem FirstNamed.eraseP_eq (h : FirstNamed name tabs front tab back) :
    tabs.eraseP (·.name = name) = front ++ back := by
  rw [h.split, List.eraseP_append_right _ fun _ hother => by simpa using h.others _ hother,
    List.eraseP_cons_of_pos (by simpa using h.named)]

theorem FirstNamed.update_eq {p : Project} (h : FirstNamed name p.modules front tab back)
    (f : Tab → Tab) : p.update name f = .ok { p with modules := front ++ f tab :: back } := by
  rw [update, h.updateFirst_eq]

theorem FirstNamed.remove_eq {p : Project} (h : FirstNamed name p.modules front tab back) :
    p.remove name = if front ++ back = [] then .error .lastModule
      else .ok ({ p with modules := front ++ back }, tab) := by
  have honly : p.modules.length ≤ 1 ↔ front ++ back = [] := by
    rw [h.split, ← List.length_eq_zero_iff, List.length_append, List.length_append, List.length_cons]
    omega
  simp only [Project.remove, h.find?_eq, h.eraseP_eq, honly]

theorem mem_names_of_updateFirst (h : updateFirst name f tabs = some tabs') :
    name ∈ tabs.map (·.name) := by
  induction tabs generalizing tabs' with
  | nil => cases h
  | cons first tabs ih =>
      rw [updateFirst] at h
      split at h
      · next hfirst => exact List.mem_cons.mpr (Or.inl hfirst.symm)
      · obtain ⟨rest, hrest, -⟩ := Option.map_eq_some_iff.mp h
        exact List.mem_cons_of_mem _ (ih hrest)

theorem mem_updateFirst (h : updateFirst name f tabs = some tabs') (hmem : tab ∈ tabs') :
    tab ∈ tabs ∨ ∃ old ∈ tabs, old.name = name ∧ tab = f old := by
  obtain ⟨front, old, back, hold⟩ := exists_firstNamed (mem_names_of_updateFirst h)
  rw [hold.updateFirst_eq f] at h
  cases h
  rw [hold.split]
  rcases List.mem_append.mp hmem with hfront | hmem
  · exact Or.inl (List.mem_append_left _ hfront)
  · rcases List.mem_cons.mp hmem with rfl | hback
    · exact Or.inr ⟨old, List.mem_append_right _ List.mem_cons_self, hold.named, rfl⟩
    · exact Or.inl (List.mem_append_right _ (List.mem_cons_of_mem _ hback))

end FirstNamed

inductive Operation
  | add
  | rename (name newName : String)
  | remove (name : String)
  | clear (name : String)
  | replace (name : String) (canvas : Canvas)

def orSame (p : Project) : Except ProjectError Project → Project
  | .ok next => next
  | .error _ => p

def after (p : Project) : Operation → Project
  | .add => p.add.1
  | .rename name newName => p.orSame (p.rename name newName)
  | .remove name => p.orSame ((p.remove name).map (·.1))
  | .clear name => p.orSame (p.clear name)
  | .replace name canvas => p.orSame (p.replaceCanvas name canvas)

def session (operations : List Operation) : Project :=
  operations.foldl after new

def Tab.withCanvas (tab : Tab) (canvas : Canvas) : Tab :=
  { tab with nodes := canvas.nodes.map Canvas.Node.toValue
             edges := canvas.edges.map Canvas.Edge.toValue }

theorem mem_modules_update {p : Project} {name : String} {f : Tab → Tab} {tab : Tab}
    (hmem : tab ∈ (p.orSame (p.update name f)).modules) :
    tab ∈ p.modules ∨ ∃ old ∈ p.modules, old.name = name ∧ tab = f old := by
  unfold update at hmem
  split at hmem
  · next tabs htabs => exact mem_updateFirst htabs hmem
  · exact Or.inl hmem

theorem mem_modules_after {p : Project} {operation : Operation} {tab : Tab}
    (hmem : tab ∈ (p.after operation).modules) :
    tab ∈ p.modules ∨
      (operation = .add ∧ ∃ id name, tab = .bare id name) ∨
      ∃ old ∈ p.modules,
        (∃ newName, operation = .rename old.name newName ∧ tab = { old with name := newName }) ∨
        (operation = .clear old.name ∧ tab = .bare old.id old.name) ∨
        ∃ canvas, operation = .replace old.name canvas ∧ tab = old.withCanvas canvas := by
  cases operation with
  | add =>
      rcases List.mem_append.mp hmem with hmem | hmem
      · exact Or.inl hmem
      · exact Or.inr (Or.inl ⟨rfl, _, _, List.mem_singleton.mp hmem⟩)
  | rename name newName =>
      rcases mem_modules_update hmem with hmem | ⟨old, hold, rfl, rfl⟩
      · exact Or.inl hmem
      · exact Or.inr (Or.inr ⟨old, hold, Or.inl ⟨newName, rfl, rfl⟩⟩)
  | remove name =>
      refine Or.inl ?_
      rw [after, remove] at hmem
      split at hmem
      · exact hmem
      · split at hmem
        · exact hmem
        · exact List.mem_of_mem_eraseP hmem
  | clear name =>
      rcases mem_modules_update hmem with hmem | ⟨old, hold, rfl, rfl⟩
      · exact Or.inl hmem
      · exact Or.inr (Or.inr ⟨old, hold, Or.inr (Or.inl ⟨rfl, rfl⟩)⟩)
  | replace name canvas =>
      rcases mem_modules_update hmem with hmem | ⟨old, hold, rfl, rfl⟩
      · exact Or.inl hmem
      · exact Or.inr (Or.inr ⟨old, hold, Or.inr (Or.inr ⟨canvas, rfl, rfl⟩)⟩)

/-- A condition on tabs that bare tabs satisfy, that no new name breaks and that the canvases of
the session establish, holds of every tab at the end of the session. -/
theorem forall_modules_session {q : Tab → Prop} (hbare : ∀ id name, q (.bare id name))
    (hrename : ∀ tab newName, q tab → q { tab with name := newName })
    {operations : List Operation}
    (hcanvas : ∀ name canvas, .replace name canvas ∈ operations →
      ∀ tab : Tab, q (tab.withCanvas canvas)) :
    ∀ tab ∈ (session operations).modules, q tab := by
  -- The induction is on the operations, over every project they may start from.
  have hrun : ∀ p : Project, (∀ tab ∈ p.modules, q tab) →
      ∀ tab ∈ (operations.foldl after p).modules, q tab := by
    induction operations with
    | nil => exact fun p hp => hp
    | cons operation operations ih =>
        intro p hp
        refine ih (fun name canvas hmem => hcanvas name canvas (List.mem_cons_of_mem _ hmem)) _ ?_
        intro tab hmem
        rcases mem_modules_after hmem with hmem | ⟨-, id, name, rfl⟩ | ⟨old, hold, hchange⟩
        · exact hp tab hmem
        · exact hbare id name
        · rcases hchange with ⟨newName, -, rfl⟩ | ⟨-, rfl⟩ | ⟨canvas, rfl, rfl⟩
          · exact hrename old newName (hp old hold)
          · exact hbare old.id old.name
          · exact hcanvas old.name canvas List.mem_cons_self old
  refine hrun new ?_
  intro tab hmem
  rw [List.mem_singleton.mp hmem]
  exact hbare _ _

end MoveCanvas.Project
