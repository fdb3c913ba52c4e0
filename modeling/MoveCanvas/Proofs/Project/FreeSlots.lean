import Mathlib
import MoveCanvas.Project

/-! # Free slots

A slot has a name and an id of its own, so that a module takes at most two slots, one by its name
and one by its id. Among more than twice as many slots as there are modules one is free, and the
search for a slot ends there. -/

namespace MoveCanvas.Project

theorem slotName_injective : Function.Injective slotName := fun _ _ h =>
  Nat.repr_inj.mp ((String.append_right_inj _).mp h)

theorem slotId_injective : Function.Injective slotId := fun _ _ h =>
  Nat.repr_inj.mp ((String.append_right_inj _).mp h)

variable {p : Project}

theorem isFreeSlot_iff {n : Nat} : p.isFreeSlot n = true ↔
    slotName n ∉ p.modules.map (·.name) ∧ slotId n ∉ p.modules.map (·.id) := by
  simp only [isFreeSlot, Bool.not_eq_true', List.any_eq_false, Bool.or_eq_true, decide_eq_true_eq,
    not_or, List.mem_map, not_exists, not_and]
  exact forall₂_and

/-- Distinct slots have distinct texts, so that texts take no more slots than there are texts. -/
theorem countP_slot_mem_le {f : Nat → String} (hf : Function.Injective f) {slots : List Nat}
    (hslots : slots.Nodup) (texts : List String) :
    slots.countP (f · ∈ texts) ≤ texts.length := by
  rw [List.countP_eq_length_filter, ← List.length_map f]
  have hdistinct : ((slots.filter (f · ∈ texts)).map f).Nodup := List.Nodup.map hf (hslots.filter _)
  refine (List.subperm_of_subset hdistinct ?_).length_le
  intro text htext
  obtain ⟨n, hn, rfl⟩ := List.mem_map.mp htext
  exact of_decide_eq_true (List.mem_filter.mp hn).2

theorem exists_isFreeSlot {slots : List Nat} (hslots : slots.Nodup)
    (hlength : 2 * p.modules.length < slots.length) : ∃ n ∈ slots, p.isFreeSlot n = true := by
  by_contra hnone
  have hnames : slots.countP (slotName · ∈ p.modules.map (·.name)) ≤ p.modules.length :=
    (countP_slot_mem_le slotName_injective hslots _).trans_eq (List.length_map _)
  have hids : slots.countP (slotId · ∈ p.modules.map (·.id)) ≤ p.modules.length :=
    (countP_slot_mem_le slotId_injective hslots _).trans_eq (List.length_map _)
  -- A slot that no name takes is taken by an id.
  have hrest : slots.countP (fun n => ¬ slotName n ∈ p.modules.map (·.name)) ≤
      slots.countP (slotId · ∈ p.modules.map (·.id)) := by
    refine List.countP_mono_left fun n hn hname => decide_eq_true ?_
    by_contra hid
    exact hnone ⟨n, hn, isFreeSlot_iff.mpr ⟨of_decide_eq_true hname, hid⟩⟩
  have hsplit := List.length_eq_countP_add_countP (slotName · ∈ p.modules.map (·.name)) (l := slots)
  simp only [decide_eq_true_eq] at hsplit
  omega

theorem find?_isFreeSlot (p : Project) :
    (List.range' (p.modules.length + 1) (2 * p.modules.length + 1)).find? p.isFreeSlot =
      some p.freeSlot := by
  have hfound : ((List.range' (p.modules.length + 1) (2 * p.modules.length + 1)).find?
      p.isFreeSlot).isSome = true := by
    rw [List.find?_isSome]
    exact exists_isFreeSlot List.nodup_range' (by rw [List.length_range']; omega)
  obtain ⟨n, hn⟩ := Option.isSome_iff_exists.mp hfound
  rw [freeSlot, hn]
  rfl

theorem isFreeSlot_freeSlot (p : Project) : p.isFreeSlot p.freeSlot = true :=
  List.find?_some p.find?_isFreeSlot

end MoveCanvas.Project
