import MoveCanvas.Proofs.Project.FreeSlots
import MoveCanvas.Proofs.Project.Session

/-! # Names of modules

A module is looked up by its name, and the first one of that name is found. The ids of a session's
modules stay distinct, so that every module is found under its own name exactly if the names are
distinct as well. A new module takes a name that is free. A renaming does not look whether its name
is taken: it is the one operation that brings two modules under one name. -/

namespace MoveCanvas.Project

def names (p : Project) : List String :=
  p.modules.map (·.name)

def ids (p : Project) : List String :=
  p.modules.map (·.id)

def IsAddressable (p : Project) : Prop :=
  ∀ tab ∈ p.modules, p.module? tab.name = .ok tab

def Operation.Clashes (operation : Operation) (p : Project) : Prop :=
  ∃ name newName, operation = .rename name newName ∧ name ∈ p.names ∧ newName ∈ p.names ∧
    newName ≠ name

variable {p : Project}

theorem isAddressable_iff (hids : p.ids.Nodup) : p.IsAddressable ↔ p.names.Nodup := by
  constructor
  · intro h
    refine List.Nodup.map_on (fun tab htab other hother hname => ?_) (List.Nodup.of_map _ hids)
    have hfound := h other hother
    rw [← hname, h tab htab] at hfound
    exact Except.ok.inj hfound
  · intro h tab htab
    obtain ⟨front, first, back, hfirst⟩ := exists_firstNamed (List.mem_map_of_mem htab)
    have hmem : first ∈ p.modules := by
      rw [hfirst.split]
      exact List.mem_append_right _ List.mem_cons_self
    obtain rfl : first = tab := List.inj_on_of_nodup_map h hmem htab hfirst.named
    rw [module?, hfirst.find?_eq]

section Operation

variable {name newName : String} {f : Tab → Tab}

theorem map_modules_update {part : Tab → String} (hpart : ∀ tab, part (f tab) = part tab) :
    (p.orSame (p.update name f)).modules.map part = p.modules.map part := by
  unfold update
  split
  · next tabs htabs =>
    obtain ⟨front, tab, back, htab⟩ := exists_firstNamed (mem_names_of_updateFirst htabs)
    rw [htab.updateFirst_eq] at htabs
    cases htabs
    show (front ++ f tab :: back).map part = p.modules.map part
    rw [htab.split, List.map_append, List.map_append, List.map_cons, List.map_cons, hpart]
  · rfl

theorem sublist_modules_remove (p : Project) (name : String) :
    (p.after (.remove name)).modules.Sublist p.modules := by
  rw [after, remove]
  split
  · exact List.Sublist.refl _
  · split
    · exact List.Sublist.refl _
    · exact List.eraseP_sublist

theorem names_add (p : Project) : (p.after .add).names = p.names ++ [slotName p.freeSlot] :=
  List.map_append

theorem ids_add (p : Project) : (p.after .add).ids = p.ids ++ [slotId p.freeSlot] :=
  List.map_append

theorem names_rename (h : name ∈ p.names) (newName : String) :
    ∃ front back, p.names = front ++ name :: back ∧
      (p.after (.rename name newName)).names = front ++ newName :: back := by
  obtain ⟨front, tab, back, htab⟩ := exists_firstNamed h
  refine ⟨front.map (·.name), back.map (·.name), ?_, ?_⟩
  · rw [names, htab.split, List.map_append, List.map_cons, htab.named]
  · rw [after, rename, update, htab.updateFirst_eq]
    exact List.map_append

theorem after_rename_of_not_mem (h : name ∉ p.names) : p.after (.rename name newName) = p := by
  rw [after, rename, update]
  split
  · next htabs => exact absurd (mem_names_of_updateFirst htabs) h
  · rfl

theorem nodup_ids_after (h : p.ids.Nodup) (operation : Operation) :
    (p.after operation).ids.Nodup := by
  cases operation with
  | add =>
      rw [ids_add, ← List.concat_eq_append]
      exact h.concat (isFreeSlot_iff.mp p.isFreeSlot_freeSlot).2
  | remove name => exact h.sublist ((p.sublist_modules_remove name).map _)
  | rename | clear | replace =>
      refine Eq.subst (motive := List.Nodup) (Eq.symm ?_) h
      exact map_modules_update fun _ => rfl

theorem nodup_names_rename_iff (h : p.names.Nodup) :
    (p.after (.rename name newName)).names.Nodup ↔
      ¬ (name ∈ p.names ∧ newName ∈ p.names ∧ newName ≠ name) := by
  by_cases hname : name ∈ p.names
  · obtain ⟨front, back, hnames, hafter⟩ := names_rename hname newName
    rw [hafter]
    rw [hnames, List.nodup_middle, List.nodup_cons] at h
    rw [hnames, List.nodup_middle, List.nodup_cons]
    have hmiddle : newName ∈ front ++ name :: back ↔ newName = name ∨ newName ∈ front ++ back := by
      rw [List.mem_append, List.mem_cons, List.mem_append, or_left_comm]
    rw [hmiddle, and_iff_left h.2]
    constructor
    · rintro hnew ⟨-, hmem, hne⟩
      exact hnew (hmem.resolve_left hne)
    · intro hclash hnew
      refine hclash ⟨List.mem_append_right _ List.mem_cons_self, .inr hnew, ?_⟩
      rintro rfl
      exact h.1 hnew
  · rw [after_rename_of_not_mem hname]
    exact iff_of_true h fun hclash => hname hclash.1

theorem nodup_names_after_iff (h : p.names.Nodup) (operation : Operation) :
    (p.after operation).names.Nodup ↔ ¬ operation.Clashes p := by
  have hother (hrename : ∀ name newName, operation ≠ .rename name newName) :
      ¬ operation.Clashes p := by
    rintro ⟨name, newName, heq, -⟩
    exact hrename name newName heq
  cases operation with
  | add =>
      rw [names_add, ← List.concat_eq_append]
      exact iff_of_true (h.concat (isFreeSlot_iff.mp p.isFreeSlot_freeSlot).1) (hother nofun)
  | rename name newName =>
      rw [nodup_names_rename_iff h]
      apply not_congr
      constructor
      · rintro ⟨hname, hnew, hne⟩
        exact ⟨name, newName, rfl, hname, hnew, hne⟩
      · rintro ⟨_, _, heq, hclash⟩
        cases heq
        exact hclash
  | remove name =>
      exact iff_of_true (h.sublist ((p.sublist_modules_remove name).map _)) (hother nofun)
  | clear | replace =>
      refine iff_of_true ?_ (hother nofun)
      refine Eq.subst (motive := List.Nodup) (Eq.symm ?_) h
      exact map_modules_update fun _ => rfl

end Operation

theorem session_concat (operations : List Operation) (operation : Operation) :
    session (operations ++ [operation]) = (session operations).after operation :=
  List.foldl_concat ..

theorem nodup_ids_session (operations : List Operation) : (session operations).ids.Nodup := by
  induction operations using List.reverseRecOn with
  | nil => exact List.nodup_singleton _
  | append_singleton operations operation ih =>
      rw [session_concat]
      exact nodup_ids_after ih operation

/-- A condition that a new project satisfies, and that an operation keeps exactly if it does not
break it, holds throughout a session exactly if no operation in it breaks the condition. -/
theorem forall_stages_iff {q : Project → Prop} {breaks : Operation → Project → Prop}
    {operations : List Operation} (hnew : q new)
    (hstep : ∀ stage operation, stage ++ [operation] <+: operations → q (session stage) →
      (q ((session stage).after operation) ↔ ¬ breaks operation (session stage))) :
    (∀ stage, stage <+: operations → q (session stage)) ↔
      ∀ stage operation, stage ++ [operation] <+: operations →
        ¬ breaks operation (session stage) := by
  constructor
  · intro h stage operation hstage
    have hbefore : q (session stage) := h stage ((List.prefix_append _ _).trans hstage)
    rw [← hstep stage operation hstage hbefore, ← session_concat]
    exact h _ hstage
  · intro h stage hstage
    induction stage using List.reverseRecOn with
    | nil => exact hnew
    | append_singleton stage operation ih =>
        have hbefore : q (session stage) := ih ((List.prefix_append _ _).trans hstage)
        rw [session_concat, hstep stage operation hstage hbefore]
        exact h stage operation hstage

theorem nodup_names_session_iff (operations : List Operation) :
    (∀ stage, stage <+: operations → (session stage).names.Nodup) ↔
      ∀ stage operation, stage ++ [operation] <+: operations →
        ¬ operation.Clashes (session stage) :=
  forall_stages_iff (q := (·.names.Nodup)) (List.nodup_singleton _)
    fun _ operation _ hbefore => nodup_names_after_iff hbefore operation

/-- After every session the modules are found under their names exactly if the names are distinct.
They are so throughout a session exactly if no renaming takes the name of another module. -/
theorem isAddressable_session_iff (operations : List Operation) :
    ((session operations).IsAddressable ↔ (session operations).names.Nodup) ∧
      ((∀ stage, stage <+: operations → (session stage).IsAddressable) ↔
        ∀ stage operation, stage ++ [operation] <+: operations →
          ¬ operation.Clashes (session stage)) := by
  have hnames (operations : List Operation) :
      (session operations).IsAddressable ↔ (session operations).names.Nodup :=
    isAddressable_iff (nodup_ids_session operations)
  refine ⟨hnames operations, ?_⟩
  simp only [hnames]
  exact nodup_names_session_iff operations

/-- The second module is renamed after the first and found no more. -/
theorem not_isAddressable_renamed :
    let p := session [.add, .rename "module_2" "my_coin"]
    p.names = ["my_coin", "my_coin"] ∧ p.ids = ["mod-1", "mod-2"] ∧
      p.module? "my_coin" = .ok (.bare "mod-1" "my_coin") ∧ ¬ p.IsAddressable := by
  intro p
  refine ⟨rfl, rfl, rfl, ?_⟩
  rw [isAddressable_iff (nodup_ids_session _)]
  decide

end MoveCanvas.Project
