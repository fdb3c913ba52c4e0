import MoveCanvas.Text.Blank
import MoveCanvas.Text.Lowercase

/-! # Identifiers from labels

A label typed on the canvas may carry a path separator or blanks, which identifiers may not. A
label with an angle bracket is a type expression and keeps its spelling. Only module names are
restricted to a fixed alphabet; declaration and callable names keep every other character of the
label. -/

namespace MoveCanvas.Identifier

/-- Stands for a label of which nothing is left. -/
def fallback : String := "unknown"

/-- Writes one underscore for each pair of colons, from left to right. -/
def joinPath : List Char → List Char
  | ':' :: ':' :: cs => '_' :: joinPath cs
  | c :: cs => c :: joinPath cs
  | [] => []

def fillBlank (c : Char) : Char :=
  if Text.isBlank c then '_' else c

def joined (cs : List Char) : List Char :=
  (joinPath cs).map fillBlank

/-- The name of a declared type: the label's path joined by underscores, in the label's case. -/
def declaration (label : String) : String :=
  if label = "" then fallback
  else if '<' ∈ label.toList then label
  else String.ofList (joined label.toList)

/-- The name of a function: as for a type, in lower case. -/
def callable (label : String) : String :=
  if label = "" then fallback
  else if '<' ∈ label.toList then label
  else String.ofList (Text.lowercase (joined label.toList))

def isModuleChar (c : Char) : Bool :=
  ('a' ≤ c && c ≤ 'z') || ('0' ≤ c && c ≤ '9') || c == '_'

/-- The name of a module and of its package: lower case letters, digits and underscores. -/
def moduleName (label : String) : String :=
  match (Text.lowercase (declaration label).toList).filter isModuleChar with
  | [] => fallback
  | cs => String.ofList cs

theorem fillBlank_not_isBlank (c : Char) : Text.isBlank (fillBlank c) = false := by
  unfold fillBlank
  split
  · rfl
  · next h => simpa using h

theorem joinPath_eq_nil_iff {cs : List Char} : joinPath cs = [] ↔ cs = [] := by
  fun_cases joinPath cs <;> simp

theorem joined_eq_nil_iff {cs : List Char} : joined cs = [] ↔ cs = [] :=
  List.map_eq_nil_iff.trans joinPath_eq_nil_iff

theorem isModuleChar_of_mem_moduleName {label : String} {c : Char}
    (h : c ∈ (moduleName label).toList) : isModuleChar c = true := by
  unfold moduleName at h
  split at h
  · exact List.all_eq_true.mp (by decide : fallback.toList.all isModuleChar = true) c h
  · next cs _ =>
    rw [String.toList_ofList] at h
    exact (List.mem_filter.mp h).2

end MoveCanvas.Identifier
