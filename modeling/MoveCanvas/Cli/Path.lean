import MoveCanvas.FileError

/-! # Paths

A path is a row of steps between slashes. A step may stay in its place or go up; an empty step
stays, so a slash at the end leads to where a folder has to be. The lengths of a path and of each
step are limited. -/

namespace MoveCanvas.Cli

def joinPath (folder name : String) : String :=
  if folder.toList.getLast? = some '/' then folder ++ name else folder ++ "/" ++ name

structure Path where
  /-- Whether the steps begin at the root and not where the command runs. -/
  fromRoot : Bool
  steps : List String
deriving DecidableEq, Repr

namespace Path

def sizeLimit : Nat := 4096

def stepSize : Nat := 255

/-- The texts between slashes. -/
def parts (text : String) : List String :=
  (text.toList.splitOn '/').map String.ofList

def ofText (text : String) : Except FileError Path :=
  if '\x00' ∈ text.toList then .error .nulCharacter
  else if text = "" then .error .notFound
  else if sizeLimit ≤ text.utf8ByteSize then .error .nameTooLong
  else match parts text with
    | "" :: steps => .ok ⟨true, steps⟩
    | steps => .ok ⟨false, steps⟩

def withoutEmptyEnd (steps : List String) : List String :=
  (steps.reverse.dropWhile (· = "")).reverse

def leading (path : Path) : List String :=
  (withoutEmptyEnd path.steps).dropLast

/-- The name at the end, unless the path can only lead to a folder. -/
def fileName? (path : Path) : Option String :=
  path.steps.getLast?.filter fun name => name ≠ "" ∧ name ≠ "." ∧ name ≠ ".."

/-- The place one step away, where a place is the row of names that leads to it from the root. -/
def stepFrom (place : List String) (step : String) : List String :=
  if step = "" ∨ step = "." then place
  else if step = ".." then place.dropLast
  else place ++ [step]

def isTooLong (step : String) : Bool :=
  stepSize < step.utf8ByteSize

end Path

end MoveCanvas.Cli
