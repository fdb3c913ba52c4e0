import MoveCanvas.Cli.Run

/-! # The program

Runs one command on the files of the system. -/

namespace MoveCanvas.Cli

def fileError : IO.Error → FileError
  | .noFileOrDirectory .. => .notFound
  | .alreadyExists .. => .exists
  | .inappropriateType _ 21 _ => .isDirectory
  | .inappropriateType .. => .notDirectory
  | .invalidArgument _ 36 _ => .nameTooLong
  | error => .other (toString error)

/-- The result of a file operation, its error taken as data. -/
def attempt (operation : IO α) : IO (Except FileError α) := do
  match ← operation.toBaseIO with
  | .ok result => return .ok result
  | .error error => return .error (fileError error)

def readText (path : String) : IO (Except FileError String) := do
  match ← attempt (IO.FS.readBinFile path) with
  | .error error => return .error error
  | .ok bytes =>
    match String.fromUTF8? bytes with
    | some text => return .ok text
    | none => return .error .notUtf8

def isThere (path : String) : IO Bool := do
  return (← attempt (IO.FS.realPath path)).isOk

def systemFiles : Files IO where
  read := readText
  present := isThere
  write path text := attempt (IO.FS.writeFile path text)
  makeFolders path := attempt (IO.FS.createDirAll path)

def usage : String :=
  lines [
    "Commands:",
    "  export PROJECT [-m MODULE] [-o OUT] [-d DEFAULTS] [--stdout]",
    "  import RESPONSE [-p PROJECT] [-m MODULE]",
    "  check PROJECT",
    "  palette"]

end MoveCanvas.Cli

open MoveCanvas.Cli in
def main (args : List String) : IO UInt32 := do
  match Request.ofArgs args with
  | .run command =>
    let report ← command.run systemFiles
    IO.print report.output
    if let some failure := report.failure then IO.eprintln failure.logText
    return report.exitCode.toUInt32
  | .help =>
    IO.print usage
    return 0
  | .version =>
    IO.println versionLine
    return 0
  | .misuse =>
    IO.eprint usage
    return 2
