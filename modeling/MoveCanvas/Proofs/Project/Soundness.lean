import MoveCanvas.Proofs.Project.ModuleNames

/-! # Sound projects

A project is sound if it has a module, the ids of its modules are distinct and its version is the
one that is written. Every operation keeps a project sound, whether or not it fails: the last module
cannot be removed, and the id of a new module is free even where earlier removals and renamings have
left ids and names that the number of modules does not show. -/

namespace MoveCanvas.Project

structure Sound (p : Project) : Prop where
  inhabited : p.modules ≠ []
  distinct : p.ids.Nodup
  version : p.version = "1.0"

variable {p : Project} {name : String} {f : Tab → Tab}

theorem version_update (p : Project) (name : String) (f : Tab → Tab) :
    (p.orSame (p.update name f)).version = p.version := by
  unfold update
  split <;> rfl

theorem version_after (p : Project) (operation : Operation) :
    (p.after operation).version = p.version := by
  cases operation with
  | add => rfl
  | remove name =>
      rw [after, remove]
      split
      · rfl
      · split <;> rfl
  | rename | clear | replace => exact p.version_update _ _

theorem modules_update_ne_nil (h : p.modules ≠ []) (hid : ∀ tab, (f tab).id = tab.id) :
    (p.orSame (p.update name f)).modules ≠ [] := by
  have hids : (p.orSame (p.update name f)).modules.map (·.id) = p.modules.map (·.id) :=
    map_modules_update hid
  intro hnil
  rw [hnil, List.map_nil] at hids
  exact h (List.map_eq_nil_iff.mp hids.symm)

theorem modules_remove_ne_nil (h : p.modules ≠ []) (name : String) :
    (p.after (.remove name)).modules ≠ [] := by
  rw [after, remove]
  split
  · exact h
  · split
    · exact h
    · next tab hfound hmany =>
      have hmem : tab ∈ p.modules := List.mem_of_find?_eq_some hfound
      have hname : tab.name = name := by simpa using List.find?_some hfound
      have hlength : (p.modules.eraseP (·.name = name)).length = p.modules.length - 1 :=
        List.length_eraseP_of_mem hmem (by simpa using hname)
      refine List.ne_nil_of_length_pos ?_
      show 0 < (p.modules.eraseP (·.name = name)).length
      omega

theorem modules_after_ne_nil (h : p.modules ≠ []) (operation : Operation) :
    (p.after operation).modules ≠ [] := by
  cases operation with
  | add => exact List.append_ne_nil_of_right_ne_nil _ (List.cons_ne_nil _ _)
  | remove name => exact modules_remove_ne_nil h name
  | rename | clear | replace => exact modules_update_ne_nil h fun _ => rfl

theorem Sound.after (h : p.Sound) (operation : Operation) : (p.after operation).Sound where
  inhabited := modules_after_ne_nil h.inhabited operation
  distinct := nodup_ids_after h.distinct operation
  version := (p.version_after operation).trans h.version

theorem sound_new : new.Sound where
  inhabited := List.cons_ne_nil _ _
  distinct := List.nodup_singleton _
  version := rfl

/-- Every session ends with a sound project, and no operation on a sound project, whatever its
arguments, makes it unsound. -/
theorem sound_session : (∀ operations, (session operations).Sound) ∧
    ∀ p : Project, p.Sound → ∀ operation, (p.after operation).Sound := by
  refine ⟨fun operations => ?_, fun p hp operation => hp.after operation⟩
  induction operations using List.reverseRecOn with
  | nil => exact sound_new
  | append_singleton operations operation ih =>
      rw [session_concat]
      exact ih.after operation

theorem sound_session_leftover :
    let p : Project := ⟨"1.0", [.bare "mod-4" "vault", .bare "mod-3" "vault"]⟩
    p.Sound ∧ (p.after .add).Sound ∧ (p.after .add).ids = ["mod-4", "mod-3", "mod-5"] := by
  intro p
  have hp : p.Sound := ⟨List.cons_ne_nil _ _, by decide, rfl⟩
  exact ⟨hp, sound_session.2 p hp .add, by decide⟩

end MoveCanvas.Project
