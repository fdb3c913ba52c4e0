import MoveCanvas.Move.Module
import MoveCanvas.Proofs.Text.BareNames

/-! # Headers of declarations

The header of a struct, of a function or of a module states a name behind a keyword, and the header
of a module states it twice. A reader takes the name to reach as far as the characters of
identifiers do, so that it finds the stated name only if that is a bare identifier. -/

namespace MoveCanvas.Move

open Identifier (IsIdentifier IsBarePath DropsToDigit isNameChar)

/-- The name that is read behind the keyword. -/
def nameBehind? (keyword line : String) : Option String := do
  let rest ← Text.after? keyword.toList line.toList
  let word := rest.takeWhile isNameChar
  if IsIdentifier word then some (String.ofList word) else none

def headName? (keyword : String) (lines : List String) : Option String :=
  lines.head?.bind (nameBehind? keyword)

theorem nameBehind?_append_iff {keyword name rest : String}
    (hrest : ∀ c ∈ rest.toList.head?, isNameChar c = false) :
    nameBehind? keyword (keyword ++ name ++ rest) = some name ↔ IsIdentifier name.toList := by
  have hafter : Text.after? keyword.toList (keyword ++ name ++ rest).toList =
      some (name.toList ++ rest.toList) := by
    rw [Text.after?_eq_some_iff, String.toList_append, String.toList_append, List.append_assoc]
  have hreads (word : List Char) : (if IsIdentifier word then some (String.ofList word) else none) =
      some name ↔ word = name.toList ∧ IsIdentifier name.toList := by
    rw [Option.ite_none_right_eq_some, Option.some.injEq, ← String.toList_inj, String.toList_ofList]
    constructor
    · rintro ⟨hbare, rfl⟩
      exact ⟨rfl, hbare⟩
    · rintro ⟨rfl, hbare⟩
      exact ⟨hbare, rfl⟩
  have hread : nameBehind? keyword (keyword ++ name ++ rest) = some name ↔
      (name.toList ++ rest.toList).takeWhile isNameChar = name.toList ∧ IsIdentifier name.toList := by
    rw [← hreads, nameBehind?, hafter]
    rfl
  rw [hread]
  refine and_iff_right_of_imp fun hbare => ?_
  rw [List.takeWhile_append_of_pos (Identifier.isIdentifier_iff.mp hbare).2.1]
  have hstop : rest.toList.takeWhile isNameChar = [] := by
    cases hcs : rest.toList with
    | nil => rfl
    | cons c cs =>
        rw [hcs] at hrest
        exact List.takeWhile_cons_of_neg (Bool.eq_false_iff.mp (hrest c rfl))
  rw [hstop, List.append_nil]

namespace StructDecl

theorem headName?_lines_iff (s : StructDecl) :
    headName? (indent 1 "struct ") s.lines = some s.name ↔ IsIdentifier s.name.toList := by
  obtain ⟨name, abilities, fields⟩ := s
  -- behind the name stands a blank, be it that of the abilities or that of the bracket
  have hblank (mark : String) (hmark : mark.toList.head? = some ' ') :
      ∀ c ∈ (abilityClause abilities ++ mark).toList.head?, isNameChar c = false := by
    have hhead : (abilityClause abilities ++ mark).toList.head? = some ' ' := by
      unfold abilityClause
      split
      · rwa [String.empty_append]
      · rw [String.append_assoc, String.toList_append]
        rfl
    intro c hc
    rw [hhead] at hc
    cases hc
    rfl
  have hline (mark : String) : indent 1 ("struct " ++ name ++ abilityClause abilities) ++ mark =
      indent 1 "struct " ++ name ++ (abilityClause abilities ++ mark) := by
    simp only [indent, String.append_assoc]
  cases fields with
  | nil =>
      show nameBehind? _
        (indent 1 ("struct " ++ name ++ abilityClause abilities) ++ " \x7b\x7d") = _ ↔ _
      rw [hline]
      exact nameBehind?_append_iff (hblank _ rfl)
  | cons field fields =>
      show nameBehind? _
        (indent 1 ("struct " ++ name ++ abilityClause abilities) ++ " \x7b") = _ ↔ _
      rw [hline]
      exact nameBehind?_append_iff (hblank _ rfl)

end StructDecl

theorem FunctionDecl.headName?_lines_iff (f : FunctionDecl) :
    headName? (indent 1 "public entry fun ") f.lines = some f.name ↔ IsIdentifier f.name.toList := by
  have hline : indent 1 (f.signature ++ " \x7b") = indent 1 "public entry fun " ++ f.name ++
      ("(" ++ (commaSeparated (f.params.map fun p => p.name ++ ": " ++ p.resolved) ++
        (")" ++ " \x7b"))) := by
    unfold signature
    generalize commaSeparated _ = row
    simp only [indent, String.append_assoc]
  show nameBehind? _ (indent 1 (f.signature ++ " \x7b")) = _ ↔ _
  rw [hline]
  refine nameBehind?_append_iff fun c hc => ?_
  rw [String.toList_append] at hc
  cases hc
  rfl

theorem Module.headName?_header_iff (name : String) :
    (headName? "module " (header name) = some name ∧
      headName? ("module " ++ name ++ "::") (header name) = some name) ↔ IsIdentifier name.toList := by
  have hfirst : headName? "module " (header name) = some name ↔ IsIdentifier name.toList := by
    have hline : "module " ++ name ++ "::" ++ name ++ " \x7b" =
        "module " ++ name ++ ("::" ++ name ++ " \x7b") := by
      simp only [String.append_assoc]
    show nameBehind? _ ("module " ++ name ++ "::" ++ name ++ " \x7b") = _ ↔ _
    rw [hline]
    refine nameBehind?_append_iff fun c hc => ?_
    rw [String.append_assoc, String.toList_append] at hc
    cases hc
    rfl
  have hsecond : headName? ("module " ++ name ++ "::") (header name) = some name ↔
      IsIdentifier name.toList := by
    refine nameBehind?_append_iff fun c hc => ?_
    cases hc
    rfl
  rw [hfirst, hsecond, and_self_iff]

section

open Identifier (declaration callable moduleName isIdentifier_declaration_iff isIdentifier_callable_iff
  isIdentifier_moduleName_iff)

/-- What a label without an angle bracket must be for each of its names to be a bare identifier, and
for the headers with these names to be read. -/
theorem names_bare_iff {label : String} (h : '<' ∉ label.toList) :
    (IsIdentifier (declaration label).toList ↔ IsBarePath [] label.toList) ∧
    (IsIdentifier (callable label).toList ↔ IsBarePath ['\u212A'] label.toList) ∧
    (IsIdentifier (moduleName label).toList ↔ ¬ DropsToDigit label.toList) ∧
    (∀ s : StructDecl, s.name = declaration label →
      (headName? (indent 1 "struct ") s.lines = some s.name ↔ IsBarePath [] label.toList)) ∧
    (∀ f : FunctionDecl, f.name = callable label →
      (headName? (indent 1 "public entry fun ") f.lines = some f.name ↔
        IsBarePath ['\u212A'] label.toList)) ∧
    ((headName? "module " (Module.header (moduleName label)) = some (moduleName label) ∧
      headName? ("module " ++ moduleName label ++ "::") (Module.header (moduleName label)) =
        some (moduleName label)) ↔ ¬ DropsToDigit label.toList) := by
  refine ⟨isIdentifier_declaration_iff h, isIdentifier_callable_iff h, isIdentifier_moduleName_iff h,
    fun s hname => ?_, fun f hname => ?_, ?_⟩
  · rw [s.headName?_lines_iff, hname, isIdentifier_declaration_iff h]
  · rw [f.headName?_lines_iff, hname, isIdentifier_callable_iff h]
  · rw [Module.headName?_header_iff, isIdentifier_moduleName_iff h]

theorem names_bare_iff_vault :
    let label := "coin::Vault 2"
    '<' ∉ label.toList ∧ IsBarePath [] label.toList ∧ IsBarePath ['\u212A'] label.toList ∧
      ¬ DropsToDigit label.toList ∧
      headName? (indent 1 "struct ") (StructDecl.witness (declaration label)).lines =
        some "coin_Vault_2" := by
  intro label
  have h : '<' ∉ label.toList := by decide
  obtain ⟨hdeclared, hcalled, hmodule, hstruct, -⟩ := names_bare_iff h
  have hpath : IsBarePath [] label.toList := hdeclared.mp (by decide +kernel)
  exact ⟨h, hpath, hcalled.mp (by decide +kernel), hmodule.mp (by decide +kernel),
    ((hstruct (.witness (declaration label)) rfl).mpr hpath).trans (by decide +kernel)⟩

/-- Punctuation stays in the names of types and functions, and a digit may lead a module name, so
that no name is read in the headers. -/
theorem not_isIdentifier_punctuated :
    ('<' ∉ "coin-v2!".toList ∧ ¬ IsIdentifier (declaration "coin-v2!").toList ∧
      ¬ IsIdentifier (callable "coin-v2!").toList) ∧
    ('<' ∉ "2 coins".toList ∧ ¬ IsIdentifier (moduleName "2 coins").toList ∧
      headName? "module " (Module.header (moduleName "2 coins")) = none) ∧
    ¬ ∀ label : String, '<' ∉ label.toList → IsIdentifier (declaration label).toList ∧
      IsIdentifier (callable label).toList ∧ IsIdentifier (moduleName label).toList := by
  have hdeclared : ¬ IsIdentifier (declaration "coin-v2!").toList := by decide +kernel
  have hcalled : ¬ IsIdentifier (callable "coin-v2!").toList := by decide +kernel
  have hmodule : ¬ IsIdentifier (moduleName "2 coins").toList := by decide +kernel
  exact ⟨⟨by decide, hdeclared, hcalled⟩, ⟨by decide, hmodule, by decide +kernel⟩,
    fun h => hdeclared (h "coin-v2!" (by decide)).1⟩

end

end MoveCanvas.Move
