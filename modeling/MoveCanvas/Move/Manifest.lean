import MoveCanvas.Defaults
import MoveCanvas.Move.Layout

/-! # Manifests

The manifest of a package that is named like its module. -/

namespace MoveCanvas.Move

/-- A key with a quoted value. Quotes in the value are not escaped. -/
def entry (key value : String) : String :=
  key ++ " = \"" ++ value ++ "\""

def frameworkSource (defaults : Defaults) : String :=
  commaSeparated [entry "git" defaults.frameworkGit, entry "subdir" defaults.frameworkSubdir,
    entry "rev" defaults.frameworkRev]

def manifest (name : String) (defaults : Defaults) : String :=
  unlines [
    "[package]",
    entry "name" name,
    entry "version" defaults.packageVersion,
    "",
    "[dependencies]",
    "Sui = \x7b " ++ frameworkSource defaults ++ " \x7d",
    "",
    "[addresses]",
    entry name defaults.packageAddress]

end MoveCanvas.Move
