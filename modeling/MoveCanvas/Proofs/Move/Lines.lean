import Mathlib.Data.List.Basic
import MoveCanvas.Move.Layout

/-! # Texts that come apart again

What has been joined can be told apart if no part holds a joint: lines at their ends, blocks of
lines at empty lines, the parts of a row at a comma with a blank, and a word at the first character
that no word has. -/

namespace MoveCanvas.Move

theorem append_cons_inj {mark : α} {front front' back back' : List α} (h : mark ∉ front)
    (h' : mark ∉ front') (heq : front ++ mark :: back = front' ++ mark :: back') :
    front = front' ∧ back = back' := by
  induction front generalizing front' with
  | nil =>
      cases front' with
      | nil => exact ⟨rfl, (List.cons.inj heq).2⟩
      | cons a front' =>
          obtain ⟨rfl, -⟩ := List.cons.inj heq
          exact absurd List.mem_cons_self h'
  | cons a front ih =>
      cases front' with
      | nil =>
          obtain ⟨rfl, -⟩ := List.cons.inj heq
          exact absurd List.mem_cons_self h
      | cons b front' =>
          obtain ⟨rfl, htail⟩ := List.cons.inj heq
          obtain ⟨rfl, rfl⟩ := ih (fun hmem => h (List.mem_cons_of_mem _ hmem))
            (fun hmem => h' (List.mem_cons_of_mem _ hmem)) htail
          exact ⟨rfl, rfl⟩

theorem flatMap_ended_inj {mark : α} {parts parts' : List (List α)}
    (h : ∀ part ∈ parts, mark ∉ part) (h' : ∀ part ∈ parts', mark ∉ part)
    (heq : parts.flatMap (· ++ [mark]) = parts'.flatMap (· ++ [mark])) : parts = parts' := by
  have hcons (part : List α) (parts : List (List α)) : (part :: parts).flatMap (· ++ [mark]) =
      part ++ mark :: parts.flatMap (· ++ [mark]) := by
    rw [List.flatMap_cons, List.append_assoc, List.singleton_append]
  induction parts generalizing parts' with
  | nil =>
      cases parts' with
      | nil => rfl
      | cons part' parts' => simp at heq
  | cons part parts ih =>
      cases parts' with
      | nil => simp at heq
      | cons part' parts' =>
          obtain ⟨hpart, hparts⟩ := List.forall_mem_cons.mp h
          obtain ⟨hpart', hparts'⟩ := List.forall_mem_cons.mp h'
          rw [hcons, hcons] at heq
          obtain ⟨rfl, htail⟩ := append_cons_inj hpart hpart' heq
          rw [ih hparts hparts' htail]

theorem map_append_inj {f : α → β} (hf : Function.Injective f) {xs xs' : List α}
    {back back' : List β} (h : ∀ x, f x ∉ back) (h' : ∀ x, f x ∉ back')
    (heq : xs.map f ++ back = xs'.map f ++ back') : xs = xs' ∧ back = back' := by
  induction xs generalizing xs' with
  | nil =>
      cases xs' with
      | nil => exact ⟨rfl, heq⟩
      | cons x xs' =>
          have hback : back = f x :: (xs'.map f ++ back') := heq
          exact absurd (hback ▸ List.mem_cons_self) (h x)
  | cons x xs ih =>
      cases xs' with
      | nil =>
          have hback : f x :: (xs.map f ++ back) = back' := heq
          exact absurd (hback ▸ List.mem_cons_self) (h' x)
      | cons x' xs' =>
          obtain ⟨hhead, htail⟩ := List.cons.inj heq
          obtain ⟨rfl, hback⟩ := ih htail
          exact ⟨congrArg (· :: xs) (hf hhead), hback⟩

theorem map_eq_of_map_eq {f : α → β} {g : α → γ} {xs ys : List α}
    (hfg : ∀ x ∈ xs, ∀ y ∈ ys, f x = f y → g x = g y) (h : xs.map f = ys.map f) :
    xs.map g = ys.map g := by
  induction xs generalizing ys with
  | nil =>
      cases ys with
      | nil => rfl
      | cons y ys => cases h
  | cons x xs ih =>
      cases ys with
      | nil => cases h
      | cons y ys =>
          obtain ⟨hhead, htail⟩ := List.cons.inj h
          obtain ⟨hx, hxs⟩ := List.forall_mem_cons.mp hfg
          rw [List.map_cons, List.map_cons, hx y List.mem_cons_self hhead,
            ih (fun x hmem y hmem' => hxs x hmem y (List.mem_cons_of_mem _ hmem')) htail]

def OneLine (s : String) : Prop := '\n' ∉ s.toList

instance (s : String) : Decidable (OneLine s) :=
  inferInstanceAs (Decidable ('\n' ∉ s.toList))

theorem oneLine_append_iff {s t : String} : OneLine (s ++ t) ↔ OneLine s ∧ OneLine t := by
  simp [OneLine]

theorem OneLine.append {s t : String} (hs : OneLine s) (ht : OneLine t) : OneLine (s ++ t) :=
  oneLine_append_iff.mpr ⟨hs, ht⟩

theorem oneLine_indent {line : String} (h : OneLine line) (depth : Nat) :
    OneLine (indent depth line) := by
  induction depth with
  | zero => exact h
  | succ depth ih => exact OneLine.append (by decide) ih

theorem oneLine_commaSeparated {parts : List String} (h : ∀ part ∈ parts, OneLine part) :
    OneLine (commaSeparated parts) := by
  induction parts with
  | nil => decide
  | cons part parts ih =>
      obtain ⟨hpart, hparts⟩ := List.forall_mem_cons.mp h
      cases parts with
      | nil => exact hpart
      | cons next parts =>
          rw [commaSeparated, String.intercalate_cons_cons]
          exact (hpart.append (by decide)).append (ih hparts)

theorem toList_unlines (lines : List String) :
    (unlines lines).toList = (lines.map String.toList).flatMap (· ++ ['\n']) := by
  rw [unlines, String.toList_join, List.flatMap_map, List.flatMap_map]
  congr 1
  funext line
  rw [String.toList_append]
  rfl

theorem unlines_inj {lines lines' : List String} (h : ∀ line ∈ lines, OneLine line)
    (h' : ∀ line ∈ lines', OneLine line) (heq : unlines lines = unlines lines') :
    lines = lines' := by
  have hlist := congrArg String.toList heq
  rw [toList_unlines, toList_unlines] at hlist
  have hmap := flatMap_ended_inj (List.forall_mem_map.mpr h) (List.forall_mem_map.mpr h') hlist
  exact List.map_injective_iff.mpr (fun _ _ => String.toList_inj.mp) hmap

/-- A line inside a block, which an empty line ends. -/
structure IsLine (line : String) : Prop where
  one : OneLine line
  ne_empty : line ≠ ""

theorem isLine_indent {line : String} (h : OneLine line) (depth : Nat) :
    IsLine (indent (depth + 1) line) where
  one := oneLine_indent h (depth + 1)
  ne_empty := by
    rw [indent, Ne, String.append_eq_empty_iff]
    exact fun hempty => absurd hempty.1 (by decide)

theorem IsLine.append {line s : String} (h : IsLine line) (hs : OneLine s) :
    IsLine (line ++ s) where
  one := h.one.append hs
  ne_empty := by
    rw [Ne, String.append_eq_empty_iff]
    exact fun hempty => h.ne_empty hempty.1

theorem indent_inj {depth : Nat} {line line' : String} :
    indent depth line = indent depth line' ↔ line = line' := by
  induction depth with
  | zero => exact Iff.rfl
  | succ depth ih => rw [indent, indent, String.append_right_inj, ih]

/-- A part of a row is not empty and holds no joint. -/
structure IsPart (s : String) : Prop where
  ne_empty : s ≠ ""
  no_joint : ¬ ", ".toList <:+: s.toList

/-- The first joint ends the first part: a joint cannot begin inside a part and end after it. -/
theorem append_joint_inj {front front' back back' : List Char} (h : ¬ [',', ' '] <:+: front)
    (h' : ¬ [',', ' '] <:+: front')
    (heq : front ++ ',' :: ' ' :: back = front' ++ ',' :: ' ' :: back') :
    front = front' ∧ back = back' := by
  have hstart (cs back back' : List Char) (hcs : ¬ [',', ' '] <:+: cs)
      (heq : ',' :: ' ' :: back = cs ++ ',' :: ' ' :: back') : cs = [] := by
    match cs with
    | [] => rfl
    | [c] => simp at heq
    | c :: d :: cs =>
        simp only [List.cons_append, List.cons.injEq] at heq
        obtain ⟨rfl, rfl, -⟩ := heq
        exact absurd ⟨[], cs, rfl⟩ hcs
  induction front generalizing front' with
  | nil =>
      obtain rfl := hstart front' back back' h' heq
      exact ⟨rfl, by simpa using heq⟩
  | cons c front ih =>
      cases front' with
      | nil => exact absurd (hstart (c :: front) back' back h heq.symm) (List.cons_ne_nil _ _)
      | cons d front' =>
          obtain ⟨rfl, htail⟩ := List.cons.inj heq
          obtain ⟨rfl, rfl⟩ := ih (fun hin => h (hin.trans (List.suffix_cons _ _).isInfix))
            (fun hin => h' (hin.trans (List.suffix_cons _ _).isInfix)) htail
          exact ⟨rfl, rfl⟩

theorem commaSeparated_cons_cons (part next : String) (parts : List String) :
    commaSeparated (part :: next :: parts) = part ++ ", " ++ commaSeparated (next :: parts) :=
  String.intercalate_cons_cons

theorem commaSeparated_cons_ne_empty {part : String} (h : IsPart part) (parts : List String) :
    commaSeparated (part :: parts) ≠ "" := by
  intro hempty
  cases parts with
  | nil => exact h.ne_empty hempty
  | cons next parts =>
      rw [commaSeparated_cons_cons, String.append_eq_empty_iff,
        String.append_eq_empty_iff] at hempty
      exact h.ne_empty hempty.1.1

theorem IsPart.ne_row {part : String} (h : IsPart part) (first next : String)
    (parts : List String) : part ≠ commaSeparated (first :: next :: parts) := by
  rintro rfl
  refine h.no_joint ⟨first.toList, (commaSeparated (next :: parts)).toList, ?_⟩
  rw [commaSeparated_cons_cons, String.toList_append, String.toList_append]

theorem commaSeparated_inj {parts parts' : List String} (h : ∀ part ∈ parts, IsPart part)
    (h' : ∀ part ∈ parts', IsPart part) (heq : commaSeparated parts = commaSeparated parts') :
    parts = parts' := by
  induction parts generalizing parts' with
  | nil =>
      cases parts' with
      | nil => rfl
      | cons part' parts' =>
          exact absurd heq.symm (commaSeparated_cons_ne_empty (h' _ List.mem_cons_self) parts')
  | cons part parts ih =>
      obtain ⟨hpart, hparts⟩ := List.forall_mem_cons.mp h
      cases parts' with
      | nil => exact absurd heq (commaSeparated_cons_ne_empty hpart parts)
      | cons part' parts' =>
          obtain ⟨hpart', hparts'⟩ := List.forall_mem_cons.mp h'
          rcases parts with _ | ⟨next, parts⟩ <;> rcases parts' with _ | ⟨next', parts'⟩
          · exact congrArg (fun part => [part]) heq
          · exact absurd heq (hpart.ne_row _ _ _)
          · exact absurd heq.symm (hpart'.ne_row _ _ _)
          · rw [commaSeparated_cons_cons, commaSeparated_cons_cons] at heq
            have hlist : part.toList ++ ',' :: ' ' :: (commaSeparated (next :: parts)).toList =
                part'.toList ++ ',' :: ' ' :: (commaSeparated (next' :: parts')).toList := by
              simpa using congrArg String.toList heq
            obtain ⟨hfirst, hrest⟩ := append_joint_inj hpart.no_joint hpart'.no_joint hlist
            rw [String.toList_inj.mp hfirst, ih hparts hparts' (String.toList_inj.mp hrest)]

/-- Letters, digits and the underscore. Every character beyond ASCII passes for a letter. -/
def isWordChar (c : Char) : Bool :=
  c.isAlphanum || c == '_' || 128 ≤ c.toNat

def IsWord (s : String) : Prop := ∀ c ∈ s.toList, isWordChar c = true

instance (s : String) : Decidable (IsWord s) :=
  decidable_of_iff (s.toList.all isWordChar = true) List.all_eq_true

theorem IsWord.not_mem {s : String} (h : IsWord s) {c : Char} (hc : isWordChar c = false) :
    c ∉ s.toList := by
  intro hmem
  rw [h c hmem] at hc
  cases hc

theorem IsWord.oneLine {s : String} (h : IsWord s) : OneLine s :=
  h.not_mem (by decide)

def endsWord (s : String) : Bool :=
  s.toList.head?.any fun c => !isWordChar c

theorem endsWord_append {s : String} (h : endsWord s = true) (t : String) :
    endsWord (s ++ t) = true := by
  unfold endsWord at h ⊢
  rw [String.toList_append]
  cases hs : s.toList with
  | nil => simp [hs] at h
  | cons c cs => simpa [hs] using h

theorem IsWord.takeWhile_append {s t : String} (hs : IsWord s) (ht : endsWord t = true) :
    (s ++ t).toList.takeWhile isWordChar = s.toList := by
  rw [String.toList_append, List.takeWhile_append_of_pos hs]
  unfold endsWord at ht
  cases hlist : t.toList with
  | nil => simp [hlist] at ht
  | cons c cs =>
      have hc : isWordChar c = false := by simpa [hlist] using ht
      rw [List.takeWhile_cons_of_neg (by simp [hc]), List.append_nil]

theorem IsWord.append_inj {s s' t t' : String} (hs : IsWord s) (hs' : IsWord s')
    (ht : endsWord t = true) (ht' : endsWord t' = true) (heq : s ++ t = s' ++ t') :
    s = s' ∧ t = t' := by
  have hword : s.toList = s'.toList := by
    rw [← hs.takeWhile_append ht, heq, hs'.takeWhile_append ht']
  obtain rfl := String.toList_inj.mp hword
  exact ⟨rfl, (String.append_right_inj s).mp heq⟩

end MoveCanvas.Move
