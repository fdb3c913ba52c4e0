/-! # Values by key

An index holds one value for each of its keys. It is built from a list by entering the values one
after another, where the first value of a key stays, so that a lookup finds what a search through
the list finds. -/

namespace MoveCanvas

/-- The order of the entries carries no meaning. -/
structure Index (α : Type u) where
  entries : List (String × α)
  nodup_keys : (entries.map Prod.fst).Nodup

namespace Index

variable {α : Type u} {index : Index α} {key key' : String} {value : α}

def keys (index : Index α) : List String :=
  index.entries.map Prod.fst

def empty : Index α :=
  ⟨[], List.nodup_nil⟩

def get? (index : Index α) (key : String) : Option α :=
  index.entries.lookup key

/-- Enters the value unless the key has one already. -/
def enter (index : Index α) (key : String) (value : α) : Index α :=
  if h : key ∈ index.keys then index
  else ⟨(key, value) :: index.entries, List.nodup_cons.mpr ⟨h, index.nodup_keys⟩⟩

def ofList (key : α → String) (values : List α) : Index α :=
  values.foldl (fun index value => index.enter (key value) value) empty

theorem get?_eq_none_iff : index.get? key = none ↔ key ∉ index.keys := by
  simp only [get?, keys, List.lookup_eq_none_iff, bne_iff_ne, List.mem_map, not_exists, not_and,
    ne_eq]
  constructor
  · intro h entry hentry heq
    exact h entry hentry heq.symm
  · intro h entry hentry heq
    exact h entry hentry heq.symm

theorem get?_enter (index : Index α) (key key' : String) (value : α) :
    (index.enter key value).get? key' =
      (index.get? key').or (if key = key' then some value else none) := by
  unfold enter
  split
  · next hmem =>
    cases hget : index.get? key' with
    | some found => rw [Option.some_or]
    | none =>
        have hne : key ≠ key' := by
          rintro rfl
          exact get?_eq_none_iff.mp hget hmem
        rw [Option.none_or, if_neg hne]
  · next hnew =>
    by_cases heq : key = key'
    · subst heq
      rw [get?_eq_none_iff.mpr hnew, Option.none_or, if_pos rfl, get?, List.lookup_cons_self]
    · have hne : (key' == key) = false := beq_false_of_ne (Ne.symm heq)
      rw [if_neg heq, Option.or_none, get?, List.lookup_cons, hne]
      rfl

theorem get?_foldl_enter (key : α → String) (values : List α) (index : Index α) (k : String) :
    (values.foldl (fun index value => index.enter (key value) value) index).get? k =
      (index.get? k).or (values.find? (key · = k)) := by
  induction values generalizing index with
  | nil => rw [List.foldl_nil, List.find?_nil, Option.or_none]
  | cons value values ih =>
      rw [List.foldl_cons, ih, get?_enter, Option.or_assoc, List.find?_cons]
      congr 1
      by_cases h : key value = k
      · simp [h]
      · simp [h]

/-- An index finds the first value of a key, as a search through the list does. -/
theorem get?_ofList (key : α → String) (values : List α) (k : String) :
    (ofList key values).get? k = values.find? (key · = k) :=
  get?_foldl_enter key values empty k

end Index

end MoveCanvas
