import Mathlib.Data.String.Basic
import MoveCanvas.Json.Value

/-! # Conditions on the parts of a value

How deep a value nests, and what holds of every number and of the keys of every object in it. The
constructors promise nothing about keys. Sorting makes them ascending everywhere, keeps what holds
of the numbers and nests no deeper; where no key is repeated it only changes the order. -/

namespace MoveCanvas.Json

mutual

def depth : Json → Nat
  | .arr items => depthItems items + 1
  | .obj members => depthMembers members + 1
  | _ => 0

def depthItems : List Json → Nat
  | [] => 0
  | item :: items => max (depth item) (depthItems items)

def depthMembers : List (String × Json) → Nat
  | [] => 0
  | (_, value) :: members => max (depth value) (depthMembers members)

end

theorem depthItems_le_iff {items : List Json} {n : Nat} :
    depthItems items ≤ n ↔ ∀ item ∈ items, item.depth ≤ n := by
  induction items with
  | nil => simp [depthItems]
  | cons item items ih => simp [depthItems, ih]

theorem depthMembers_le_iff {members : List (String × Json)} {n : Nat} :
    depthMembers members ≤ n ↔ ∀ member ∈ members, member.2.depth ≤ n := by
  induction members with
  | nil => simp [depthMembers]
  | cons member members ih => simp [depthMembers, ih]

mutual

/-- Every number satisfies the first condition, and the keys of every object the second. -/
def Everywhere (number : Number → Prop) (keys : List String → Prop) : Json → Prop
  | .num n => number n
  | .arr items => EverywhereItems number keys items
  | .obj members => keys (members.map (·.1)) ∧ EverywhereMembers number keys members
  | _ => True

def EverywhereItems (number : Number → Prop) (keys : List String → Prop) : List Json → Prop
  | [] => True
  | item :: items => Everywhere number keys item ∧ EverywhereItems number keys items

def EverywhereMembers (number : Number → Prop) (keys : List String → Prop) :
    List (String × Json) → Prop
  | [] => True
  | (_, value) :: members => Everywhere number keys value ∧ EverywhereMembers number keys members

end

def AnyKeys (_ : List String) : Prop := True

def Ascending (keys : List String) : Prop := keys.Pairwise (· < ·)

instance : DecidablePred Ascending := fun keys =>
  inferInstanceAs (Decidable (keys.Pairwise (· < ·)))

section

variable {number number' : Number → Prop} {keys keys' : List String → Prop}

theorem everywhereItems_iff {items : List Json} :
    EverywhereItems number keys items ↔ ∀ item ∈ items, item.Everywhere number keys := by
  induction items with
  | nil => simp [EverywhereItems]
  | cons item items ih => simp [EverywhereItems, ih]

theorem everywhereMembers_iff {members : List (String × Json)} :
    EverywhereMembers number keys members ↔
      ∀ member ∈ members, member.2.Everywhere number keys := by
  induction members with
  | nil => simp [EverywhereMembers]
  | cons member members ih => simp [EverywhereMembers, ih]

mutual

theorem Everywhere.mono (hnumber : ∀ n, number n → number' n) (hkeys : ∀ ks, keys ks → keys' ks) :
    (v : Json) → v.Everywhere number keys → v.Everywhere number' keys'
  | .null, _ | .bool _, _ | .str _, _ => trivial
  | .num n, h => hnumber n h
  | .arr items, h => EverywhereItems.mono hnumber hkeys items h
  | .obj members, ⟨hks, h⟩ => ⟨hkeys _ hks, EverywhereMembers.mono hnumber hkeys members h⟩

theorem EverywhereItems.mono (hnumber : ∀ n, number n → number' n)
    (hkeys : ∀ ks, keys ks → keys' ks) : (items : List Json) →
      EverywhereItems number keys items → EverywhereItems number' keys' items
  | [], _ => trivial
  | item :: items, ⟨hitem, h⟩ =>
    ⟨Everywhere.mono hnumber hkeys item hitem, EverywhereItems.mono hnumber hkeys items h⟩

theorem EverywhereMembers.mono (hnumber : ∀ n, number n → number' n)
    (hkeys : ∀ ks, keys ks → keys' ks) : (members : List (String × Json)) →
      EverywhereMembers number keys members → EverywhereMembers number' keys' members
  | [], _ => trivial
  | (_, value) :: members, ⟨hvalue, h⟩ =>
    ⟨Everywhere.mono hnumber hkeys value hvalue, EverywhereMembers.mono hnumber hkeys members h⟩

end

mutual

theorem Everywhere.and : (v : Json) → v.Everywhere number keys → v.Everywhere number' keys' →
    v.Everywhere (fun n => number n ∧ number' n) keys
  | .null, _, _ | .bool _, _, _ | .str _, _, _ => trivial
  | .num _, h, h' => ⟨h, h'⟩
  | .arr items, h, h' => EverywhereItems.and items h h'
  | .obj members, ⟨hks, h⟩, ⟨_, h'⟩ => ⟨hks, EverywhereMembers.and members h h'⟩

theorem EverywhereItems.and : (items : List Json) → EverywhereItems number keys items →
    EverywhereItems number' keys' items →
      EverywhereItems (fun n => number n ∧ number' n) keys items
  | [], _, _ => trivial
  | item :: items, ⟨hitem, h⟩, ⟨hitem', h'⟩ =>
    ⟨Everywhere.and item hitem hitem', EverywhereItems.and items h h'⟩

theorem EverywhereMembers.and : (members : List (String × Json)) →
    EverywhereMembers number keys members → EverywhereMembers number' keys' members →
      EverywhereMembers (fun n => number n ∧ number' n) keys members
  | [], _, _ => trivial
  | (_, value) :: members, ⟨hvalue, h⟩, ⟨hvalue', h'⟩ =>
    ⟨Everywhere.and value hvalue hvalue', EverywhereMembers.and members h h'⟩

end

end

theorem mem_insertMember {key : String} {value : Json} {members : List (String × Json)}
    {member : String × Json} (h : member ∈ insertMember key value members) :
    member = (key, value) ∨ member ∈ members := by
  induction members with
  | nil => exact Or.inl (List.mem_singleton.mp h)
  | cons head members ih =>
      obtain ⟨k, v⟩ := head
      unfold insertMember at h
      split at h
      · exact List.mem_cons.mp h
      · split at h
        · exact (List.mem_cons.mp h).imp_right (List.mem_cons_of_mem _)
        · rcases List.mem_cons.mp h with rfl | h
          · exact Or.inr List.mem_cons_self
          · exact (ih h).imp_right (List.mem_cons_of_mem _)

theorem ascending_insertMember {key : String} {value : Json} {members : List (String × Json)}
    (h : Ascending (members.map (·.1))) : Ascending ((insertMember key value members).map (·.1)) := by
  induction members with
  | nil => exact List.pairwise_singleton _ _
  | cons head members ih =>
      obtain ⟨k, v⟩ := head
      obtain ⟨hhead, htail⟩ := List.pairwise_cons.mp h
      unfold insertMember
      split
      · next hlt =>
        refine List.pairwise_cons.mpr ⟨?_, h⟩
        intro other hother
        rcases List.mem_cons.mp hother with rfl | hother
        · exact hlt
        · exact lt_trans hlt (hhead other hother)
      · next hnlt =>
        split
        · next heq => exact List.pairwise_cons.mpr ⟨heq ▸ hhead, htail⟩
        · next hne =>
          refine List.pairwise_cons.mpr ⟨?_, ih htail⟩
          intro other hother
          obtain ⟨member, hmember, rfl⟩ := List.mem_map.mp hother
          rcases mem_insertMember hmember with rfl | hmember
          · exact lt_of_le_of_ne (not_lt.mp hnlt) (Ne.symm hne)
          · exact hhead member.1 (List.mem_map_of_mem hmember)

theorem sortMembers_eq_foldl (members : List (String × Json)) : sortMembers members =
    members.foldl (fun sorted member => insertMember member.1 member.2 sorted) [] := rfl

theorem ascending_sortMembers (members : List (String × Json)) :
    Ascending ((sortMembers members).map (·.1)) := by
  have hfold (acc : List (String × Json)) (h : Ascending (acc.map (·.1))) : Ascending
      ((members.foldl (fun sorted member => insertMember member.1 member.2 sorted) acc).map (·.1)) := by
    induction members generalizing acc with
    | nil => exact h
    | cons member members ih => exact ih _ (ascending_insertMember h)
  rw [sortMembers_eq_foldl]
  exact hfold [] List.Pairwise.nil

theorem mem_foldl_insertMember {members acc : List (String × Json)} {member : String × Json}
    (h : member ∈ members.foldl (fun sorted member => insertMember member.1 member.2 sorted) acc) :
    member ∈ acc ∨ member ∈ members := by
  induction members generalizing acc with
  | nil => exact Or.inl h
  | cons head members ih =>
      rcases ih h with h | h
      · rcases mem_insertMember h with rfl | h
        · exact Or.inr List.mem_cons_self
        · exact Or.inl h
      · exact Or.inr (List.mem_cons_of_mem _ h)

theorem mem_sortMembers {members : List (String × Json)} {member : String × Json}
    (h : member ∈ sortMembers members) : member ∈ members := by
  rw [sortMembers_eq_foldl] at h
  exact (mem_foldl_insertMember h).resolve_left List.not_mem_nil

theorem insertMember_eq_append {key : String} {value : Json} {members : List (String × Json)}
    (h : ∀ other ∈ members.map (·.1), other < key) :
    insertMember key value members = members ++ [(key, value)] := by
  induction members with
  | nil => rfl
  | cons head members ih =>
      obtain ⟨k, v⟩ := head
      have hk : k < key := h k List.mem_cons_self
      rw [insertMember, if_neg (lt_asymm hk), if_neg (ne_of_gt hk),
        ih fun other hother => h other (List.mem_cons_of_mem _ hother), List.cons_append]

theorem foldl_insertMember_eq_append {members acc : List (String × Json)}
    (h : Ascending ((acc ++ members).map (·.1))) :
    members.foldl (fun sorted member => insertMember member.1 member.2 sorted) acc =
      acc ++ members := by
  induction members generalizing acc with
  | nil => exact (List.append_nil acc).symm
  | cons member members ih =>
      have hbefore : ∀ other ∈ acc.map (·.1), other < member.1 := by
        intro other hother
        rw [List.map_append] at h
        exact (List.pairwise_append.mp h).2.2 other hother member.1 List.mem_cons_self
      rw [List.append_cons] at h ⊢
      rw [List.foldl_cons, insertMember_eq_append hbefore, ih h]

theorem sortMembers_eq_self {members : List (String × Json)} (h : Ascending (members.map (·.1))) :
    sortMembers members = members := by
  rw [sortMembers_eq_foldl]
  exact foldl_insertMember_eq_append h

theorem insertMember_perm {key : String} {value : Json} {members : List (String × Json)}
    (h : key ∉ members.map (·.1)) :
    (insertMember key value members).Perm ((key, value) :: members) := by
  induction members with
  | nil => exact List.Perm.refl _
  | cons head members ih =>
      obtain ⟨k, v⟩ := head
      obtain ⟨hhead, htail⟩ : key ≠ k ∧ key ∉ members.map (·.1) := by
        rwa [List.map_cons, List.mem_cons, not_or] at h
      rw [insertMember, if_neg hhead]
      split
      · exact List.Perm.refl _
      · exact ((ih htail).cons (k, v)).trans (List.Perm.swap ..)

theorem foldl_insertMember_perm {members acc : List (String × Json)}
    (h : ((acc ++ members).map (·.1)).Nodup) :
    (members.foldl (fun sorted member => insertMember member.1 member.2 sorted) acc).Perm
      (acc ++ members) := by
  induction members generalizing acc with
  | nil => rw [List.append_nil, List.foldl_nil]
  | cons member members ih =>
      have hmiddle : (acc ++ member :: members).Perm (member :: acc ++ members) := List.perm_middle
      have hnodup := (hmiddle.map (·.1)).nodup_iff.mp h
      have hnew : member.1 ∉ acc.map (·.1) := by
        rw [List.cons_append, List.map_cons, List.nodup_cons, List.map_append] at hnodup
        exact fun hmem => hnodup.1 (List.mem_append_left _ hmem)
      have hinsert : (insertMember member.1 member.2 acc ++ members).Perm
          (member :: acc ++ members) := (insertMember_perm hnew).append_right members
      rw [List.foldl_cons]
      exact (ih ((hinsert.map (·.1)).nodup_iff.mpr hnodup)).trans (hinsert.trans hmiddle.symm)

/-- Sorting loses a member only where another one has its key. -/
theorem sortMembers_perm {members : List (String × Json)} (h : (members.map (·.1)).Nodup) :
    (sortMembers members).Perm members := by
  rw [sortMembers_eq_foldl]
  exact foldl_insertMember_perm h

theorem sortedItems_eq_map (items : List Json) : sortedItems items = items.map sorted := by
  induction items with
  | nil => rfl
  | cons item items ih => rw [sortedItems, ih, List.map_cons]

theorem sortedMembers_eq_map (members : List (String × Json)) :
    sortedMembers members = members.map fun member => (member.1, member.2.sorted) := by
  induction members with
  | nil => rfl
  | cons member members ih => rw [sortedMembers, ih, List.map_cons]

mutual

theorem sorted_eq_self {number : Number → Prop} :
    (v : Json) → v.Everywhere number Ascending → v.sorted = v
  | .null, _ | .bool _, _ | .num _, _ | .str _, _ => rfl
  | .arr items, h => congrArg Json.arr (sortedItems_eq_self items h)
  | .obj members, ⟨hkeys, h⟩ => by
    rw [sorted, sortedMembers_eq_self members h, sortMembers_eq_self hkeys]

theorem sortedItems_eq_self {number : Number → Prop} :
    (items : List Json) → EverywhereItems number Ascending items → sortedItems items = items
  | [], _ => rfl
  | item :: items, ⟨hitem, h⟩ => by
    rw [sortedItems, sorted_eq_self item hitem, sortedItems_eq_self items h]

theorem sortedMembers_eq_self {number : Number → Prop} :
    (members : List (String × Json)) → EverywhereMembers number Ascending members →
      sortedMembers members = members
  | [], _ => rfl
  | (_, value) :: members, ⟨hvalue, h⟩ => by
    rw [sortedMembers, sorted_eq_self value hvalue, sortedMembers_eq_self members h]

end

mutual

theorem everywhere_sorted {number : Number → Prop} {keys : List String → Prop} :
    (v : Json) → v.Everywhere number keys → v.sorted.Everywhere number Ascending
  | .null, _ | .bool _, _ | .str _, _ => trivial
  | .num _, h => h
  | .arr items, h => everywhereItems_sorted items h
  | .obj members, ⟨_, h⟩ => by
    refine ⟨ascending_sortMembers _, everywhereMembers_iff.mpr fun member hmember => ?_⟩
    exact everywhereMembers_iff.mp (everywhereMembers_sorted members h) member
      (mem_sortMembers hmember)

theorem everywhereItems_sorted {number : Number → Prop} {keys : List String → Prop} :
    (items : List Json) → EverywhereItems number keys items →
      EverywhereItems number Ascending (sortedItems items)
  | [], _ => trivial
  | item :: items, ⟨hitem, h⟩ => ⟨everywhere_sorted item hitem, everywhereItems_sorted items h⟩

theorem everywhereMembers_sorted {number : Number → Prop} {keys : List String → Prop} :
    (members : List (String × Json)) → EverywhereMembers number keys members →
      EverywhereMembers number Ascending (sortedMembers members)
  | [], _ => trivial
  | (_, value) :: members, ⟨hvalue, h⟩ =>
    ⟨everywhere_sorted value hvalue, everywhereMembers_sorted members h⟩

end

/-- A member that a later one of the same key replaces may have been the deepest. -/
theorem depthMembers_sortMembers_le (members : List (String × Json)) :
    depthMembers (sortMembers members) ≤ depthMembers members :=
  depthMembers_le_iff.mpr fun member hmember =>
    depthMembers_le_iff.mp (Nat.le_refl _) member (mem_sortMembers hmember)

mutual

theorem depth_sorted_le : (v : Json) → v.sorted.depth ≤ v.depth
  | .null | .bool _ | .num _ | .str _ => Nat.le_refl _
  | .arr items => Nat.succ_le_succ (depthItems_sorted_le items)
  | .obj members =>
    Nat.succ_le_succ (le_trans (depthMembers_sortMembers_le _) (depthMembers_sorted_le members))

theorem depthItems_sorted_le : (items : List Json) →
    depthItems (sortedItems items) ≤ depthItems items
  | [] => Nat.le_refl _
  | item :: items => max_le_max (depth_sorted_le item) (depthItems_sorted_le items)

theorem depthMembers_sorted_le : (members : List (String × Json)) →
    depthMembers (sortedMembers members) ≤ depthMembers members
  | [] => Nat.le_refl _
  | (_, value) :: members => max_le_max (depth_sorted_le value) (depthMembers_sorted_le members)

end

end MoveCanvas.Json
