/-! # Abilities

The four abilities of a declared type. They are always listed in the order key, store, copy,
drop. -/

namespace MoveCanvas

structure Abilities where
  key : Bool
  store : Bool
  copy : Bool
  drop : Bool
deriving DecidableEq, Repr

namespace Abilities

def none : Abilities := ⟨false, false, false, false⟩

/-- What a struct has when the canvas states no abilities for it. -/
def keyStore : Abilities := ⟨true, true, false, false⟩

def dropOnly : Abilities := ⟨false, false, false, true⟩

def names (abilities : Abilities) : List String :=
  (if abilities.key then ["key"] else []) ++ (if abilities.store then ["store"] else []) ++
    (if abilities.copy then ["copy"] else []) ++ (if abilities.drop then ["drop"] else [])

def ofNames (names : List String) : Abilities :=
  ⟨names.contains "key", names.contains "store", names.contains "copy", names.contains "drop"⟩

def isEmpty (abilities : Abilities) : Bool :=
  !(abilities.key || abilities.store || abilities.copy || abilities.drop)

theorem ofNames_names (abilities : Abilities) : ofNames abilities.names = abilities := by
  obtain ⟨key, store, copy, drop⟩ := abilities
  revert key store copy drop
  decide

theorem isEmpty_iff {abilities : Abilities} : abilities.isEmpty = true ↔ abilities = none := by
  obtain ⟨key, store, copy, drop⟩ := abilities
  revert key store copy drop
  decide

end Abilities

end MoveCanvas
