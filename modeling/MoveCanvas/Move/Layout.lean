/-! # Lines of source text

Source text is a list of lines. Declarations of a module stand one level in, statements two. -/

namespace MoveCanvas.Move

def unlines (lines : List String) : String :=
  String.join (lines.map (· ++ "\n"))

def level : String := "    "

def indent : Nat → String → String
  | 0, line => line
  | depth + 1, line => level ++ indent depth line

def commaSeparated (parts : List String) : String :=
  String.intercalate ", " parts

theorem unlines_nil : unlines [] = "" := rfl

theorem unlines_cons (line : String) (lines : List String) :
    unlines (line :: lines) = line ++ "\n" ++ unlines lines := by
  simp [unlines, String.join_cons]

theorem unlines_append (lines more : List String) :
    unlines (lines ++ more) = unlines lines ++ unlines more := by
  simp [unlines, String.join_append]

end MoveCanvas.Move
