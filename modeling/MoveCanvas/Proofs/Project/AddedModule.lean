import MoveCanvas.Proofs.Project.ModuleNames

/-! # Adding a module

The search for a free slot passes taken slots one after another and has no bound of its own. Since
the modules take at most two slots each, it stops all the same, at the first free slot. The added
module stands behind all others and alone has its name: to take it out again by this name gives the
project back. -/

namespace MoveCanvas.Project

/-- The search that is at slot `n` stops at slot `m`. -/
inductive Search (p : Project) : (n m : Nat) → Prop
  | stop {n : Nat} (hfree : p.isFreeSlot n = true) : Search p n n
  | pass {n m : Nat} (htaken : p.isFreeSlot n = false) (hsearch : Search p (n + 1) m) : Search p n m

def LeavesFree (p : Project) (n : Nat) : Prop :=
  slotName n ∉ p.names ∧ slotId n ∉ p.ids

variable {p : Project} {n m : Nat}

theorem search_iff : p.Search n m ↔ IsLeast {k | n ≤ k ∧ p.LeavesFree k} m := by
  constructor
  · intro h
    induction h with
    | stop hfree => exact ⟨⟨le_rfl, isFreeSlot_iff.mp hfree⟩, fun _ hk => hk.1⟩
    | @pass n m htaken hsearch ih =>
        obtain ⟨⟨hle, hfree⟩, hleast⟩ := ih
        refine ⟨⟨Nat.le_of_succ_le hle, hfree⟩, fun k hk => hleast ⟨?_, hk.2⟩⟩
        rcases Nat.eq_or_lt_of_le hk.1 with rfl | hlt
        · exact absurd (isFreeSlot_iff.mpr hk.2) (by simp [htaken])
        · exact hlt
  · rintro ⟨⟨hle, hfree⟩, hleast⟩
    -- The slots below the least free one are passed, counted down from it.
    induction hle using Nat.decreasingInduction with
    | self => exact .stop (isFreeSlot_iff.mpr hfree)
    | of_succ n hlt ih =>
        refine .pass ?_ (ih fun k hk => hleast ⟨Nat.le_of_succ_le hk.1, hk.2⟩)
        rw [Bool.eq_false_iff]
        intro htrue
        exact absurd (hleast ⟨le_rfl, isFreeSlot_iff.mp htrue⟩) (Nat.not_le.mpr hlt)

theorem freeSlot_mem_range (p : Project) :
    p.modules.length + 1 ≤ p.freeSlot ∧ p.freeSlot ≤ 3 * p.modules.length + 1 := by
  have hmem := List.mem_of_find?_eq_some p.find?_isFreeSlot
  rw [List.mem_range'_1] at hmem
  omega

theorem isLeast_freeSlot (p : Project) :
    IsLeast {k | p.modules.length + 1 ≤ k ∧ p.LeavesFree k} p.freeSlot := by
  obtain ⟨hfree, -, hbelow⟩ := List.find?_range'_eq_some.mp p.find?_isFreeSlot
  refine ⟨⟨p.freeSlot_mem_range.1, isFreeSlot_iff.mp hfree⟩, fun k hk => ?_⟩
  by_contra hlt
  have htaken := hbelow k hk.1 (Nat.not_le.mp hlt)
  rw [isFreeSlot_iff.mpr hk.2] at htaken
  cases htaken

theorem firstNamed_concat {tab : Tab} (h : tab.name ∉ p.names) :
    FirstNamed tab.name (p.modules ++ [tab]) p.modules tab [] where
  split := rfl
  others _ hother hname := h (hname ▸ List.mem_map_of_mem hother)
  named := rfl

theorem remove_concat {tab : Tab} (h : tab.name ∉ p.names) :
    Project.remove { p with modules := p.modules ++ [tab] } tab.name =
      if p.modules = [] then .error .lastModule else .ok (p, tab) := by
  rw [(firstNamed_concat h).remove_eq (p := { p with modules := p.modules ++ [tab] }),
    List.append_nil]

/-- The search from the slot after as many as there are modules stops, at one slot only: the least
from there on whose name and id no module has, at most twice as many slots further on. The new
module has the name and the id of this slot and stands behind the others, which stay as they are.
To remove the name that was given leaves the project as it was, or is refused where the new module
is the only one. -/
theorem add_takes_least_slot (p : Project) :
    ∃ n, (∀ m, p.Search (p.modules.length + 1) m ↔ m = n) ∧
      IsLeast {k | p.modules.length + 1 ≤ k ∧ p.LeavesFree k} n ∧
      n ≤ 3 * p.modules.length + 1 ∧
      p.add = (⟨p.version, p.modules ++ [.bare (slotId n) (slotName n)]⟩, slotName n) ∧
      p.add.1.remove p.add.2 = if p.modules = [] then .error .lastModule
        else .ok (p, .bare (slotId n) (slotName n)) := by
  have hleast := p.isLeast_freeSlot
  refine ⟨p.freeSlot, fun m => ?_, hleast, p.freeSlot_mem_range.2, rfl, ?_⟩
  · rw [search_iff]
    constructor
    · exact fun hm => hm.unique hleast
    · rintro rfl
      exact hleast
  · exact remove_concat hleast.1.2.1

/-- The name of the first slot is taken and so is the id of the second. -/
example : (Project.mk "1.0" [.bare "a" "module_3", .bare "mod-4" "b"]).add.2 = "module_5" := by
  decide +kernel

end MoveCanvas.Project
