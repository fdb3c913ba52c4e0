import MoveCanvas.Cli.Command
import MoveCanvas.Cli.Files
import MoveCanvas.Import.Response
import MoveCanvas.Project
import MoveCanvas.Text.Logged

/-! # Running commands

A command gives an output and perhaps a failure. Only the report of all modules has an output
before it fails; every other command prints at its end. Installing a response writes the project
once, after everything else has succeeded. -/

namespace MoveCanvas.Cli

inductive Failure
  | file (cause : FileError)
  | defaults (cause : Json.DecodeError)
  | project (cause : ProjectError)
  | noModules
  | response (cause : ImportError)
  | conversion (cause : ConversionError)
  | compilation (cause : CompileError)
deriving DecidableEq

def Failure.message : Failure → String
  | .file cause => cause.message
  | .defaults cause => cause.message
  | .project cause => cause.message
  | .noModules => "project contains no modules"
  | .response cause => cause.message
  | .conversion cause => cause.message
  | .compilation cause => cause.message

def Failure.logText (failure : Failure) : String :=
  Text.logged ("Command failed: " ++ failure.message)

structure Report where
  output : String
  failure : Option Failure
deriving DecidableEq

def Report.exitCode (report : Report) : UInt8 :=
  if report.failure.isSome then 1 else 0

def Report.ofResult : Except Failure String → Report
  | .ok output => ⟨output, none⟩
  | .error failure => ⟨"", some failure⟩

def lines (rows : List String) : String :=
  String.join (rows.map (· ++ "\n"))

def versionLine : String := "movesketch 0.1.0"

/-! ## Palette -/

def padded (width : Nat) (s : String) : String :=
  s ++ String.ofList (List.replicate (width - s.length) ' ')

def templateLine (t : Template) : String :=
  "  " ++ padded 24 t.label ++ " " ++ padded 10 t.kind.name ++ " " ++ t.description ++
    (if t.imported then " (imported)" else "")

/-- The templates, each category announced before its first template in a row. -/
def paletteLines (category : String) : List Template → List String
  | [] => []
  | t :: templates =>
    (if t.category = category then [] else [t.category]) ++
      templateLine t :: paletteLines t.category templates

/-! ## Checks -/

def sourceText : Witness.Source → String
  | .connected node => "Connected \x7b node_id: " ++ Text.quoted node ++ " \x7d"
  | .firstStruct node => "FirstStruct \x7b node_id: " ++ Text.quoted node ++ " \x7d"
  | .default => "Default"

def planLines (plan : Plan) : List String :=
  [plan.moduleName ++ ":",
    "  witness: " ++ plan.witness.name ++ " (" ++ sourceText plan.witness.source ++ ")",
    "  structs: " ++ toString plan.structs.length,
    "  init: " ++ (if plan.init.isSome then "yes" else "no")] ++
  plan.functions.map fun f => "  fun " ++ f.name ++ " -> " ++ f.intent.name

def moduleLines (name : String) (graph : Graph) : List String :=
  match Plan.ofGraph name graph .builtIn .empty with
  | .ok plan => planLines plan
  | .error error => [name ++ ": error: " ++ error.message]

/-- Reports module after module up to the first whose canvas has no graph. -/
def checkModules : List Project.Tab → List String × Option Failure
  | [] => ([], none)
  | tab :: tabs =>
    match tab.graph with
    | .error error => ([], some (.conversion error))
    | .ok graph =>
      let (rows, failure) := checkModules tabs
      (moduleLines tab.name graph ++ rows, failure)

def checkReport (project : Project) : Report :=
  let (rows, failure) := checkModules project.modules
  ⟨lines rows, failure⟩

/-! ## Commands with files -/

def selectModule (project : Project) : Option String → Except Failure Project.Tab
  | some name => (project.module? name).mapError .project
  | none =>
    match project.modules with
    | tab :: _ => .ok tab
    | [] => .error .noModules

def projectOf (path : String) : Except FileError String → Except Failure Project
  | .ok text => (Project.ofText text).mapError .project
  | .error error => .error (.project (.file path error))

/-- The project with an accepted response in the place of a module's canvas, and that module. -/
def installed (imported : Imported) (project : Project) (moduleName : Option String) :
    Except Failure (Project × String) := do
  let target ← selectModule project moduleName
  let project ← (project.replaceCanvas target.name imported.canvas).mapError .project
  .ok (project, target.name)

def installedLine (imported : Imported) (target : String) : String :=
  "Imported " ++ toString imported.canvas.nodes.length ++ " nodes and " ++
    toString imported.canvas.edges.length ++ " edges (" ++ toString imported.inferred ++
    " inferred) into module '" ++ target ++ "'"

section Effects

variable {m : Type → Type} [Monad m]

def runInstall (files : Files m) (response project : String) (moduleName : Option String) :
    ExceptT Failure m String := do
  let text ← ExceptT.mk (Except.mapError .file <$> files.read response)
  let imported ← ExceptT.mk (pure ((Response.accept text).mapError .response))
  let before ←
    if ← files.present project then ExceptT.mk (projectOf project <$> files.read project)
    else pure .new
  let (after, target) ← ExceptT.mk (pure (installed imported before moduleName))
  ExceptT.mk (Except.mapError (.project ∘ .file project) <$> files.write project after.toText)
  return lines [installedLine imported target]

def writePackage (files : Files m) (out : String) (package : Package) :
    ExceptT Failure m Unit := do
  let sources := joinPath out "sources"
  ExceptT.mk (Except.mapError .file <$> files.makeFolders sources)
  ExceptT.mk (Except.mapError .file <$>
    files.write (joinPath sources (package.moduleName ++ ".move")) package.source)
  ExceptT.mk (Except.mapError .file <$> files.write (joinPath out "Move.toml") package.manifest)

def defaultsOf (files : Files m) : Option String → ExceptT Failure m Defaults
  | none => pure .builtIn
  | some path => do
    let text ← ExceptT.mk (Except.mapError .file <$> files.read path)
    ExceptT.mk (pure ((Defaults.ofText text).mapError .defaults))

def runPackage (files : Files m) (project : String) (moduleName : Option String) (out : String)
    (defaults : Option String) (toOutput : Bool) : ExceptT Failure m String := do
  let project ← ExceptT.mk (projectOf project <$> files.read project)
  let target ← ExceptT.mk (pure (selectModule project moduleName))
  let defaults ← defaultsOf files defaults
  let package ← ExceptT.mk (pure ((target.package defaults).mapError .compilation))
  if toOutput then return lines [package.source, ""] ++ package.manifest
  else
    writePackage files out package
    return ""

def runCheck (files : Files m) (project : String) : m Report := do
  match projectOf project (← files.read project) with
  | .ok project => return checkReport project
  | .error failure => return ⟨"", some failure⟩

def Command.run (files : Files m) : Command → m Report
  | .package project moduleName out defaults toOutput =>
    .ofResult <$> (runPackage files project moduleName out defaults toOutput).run
  | .install response project moduleName =>
    .ofResult <$> (runInstall files response project moduleName).run
  | .check project => runCheck files project
  | .palette => pure ⟨lines (paletteLines "" Palette.templates), none⟩

end Effects

end MoveCanvas.Cli
