import MoveCanvas.Cli.Path

/-! # Files

What the commands do with files, and a folder kept in memory that does the same. The folder lies in
a system that has only its standard folders besides. -/

namespace MoveCanvas.Cli

/-- The file operations that commands use, in the effects `m`. -/
structure Files (m : Type → Type) where
  read : String → m (Except FileError String)
  present : String → m Bool
  write : (path text : String) → m (Except FileError Unit)
  makeFolders : String → m (Except FileError Unit)

/-! ## Folders in memory -/

inductive Entry
  | file (bytes : ByteArray)
  /-- A file that stays empty. -/
  | sink
  | folder

/-- The entries of a system, each at its place. A newer entry stands before the older entries of
the same place. -/
structure Folder where
  entries : List (List String × Entry)

namespace Folder

/-- The place of the folder in which commands run. Its own name is one that no step of a path can
be, so nothing depends on the name. -/
def home : List String := ["tmp", "/"]

def standardFolders : List String :=
  ["bin", "boot", "dev", "etc", "home", "lib", "media", "mnt", "opt", "proc", "root", "run",
    "sbin", "srv", "sys", "tmp", "usr", "var"]

def empty : Folder :=
  ⟨(home, .folder) :: (["dev", "null"], .sink) ::
    standardFolders.map fun name => ([name], .folder)⟩

def entry? (folder : Folder) (place : List String) : Option Entry :=
  if place = [] then some .folder else folder.entries.lookup place

def put (folder : Folder) (place : List String) (entry : Entry) : Folder :=
  ⟨(place, entry) :: folder.entries⟩

def start (path : Path) : List String :=
  if path.fromRoot then [] else home

/-- The place that steps lead to. Each step starts in a folder. -/
def walk (folder : Folder) (place : List String) : List String → Except FileError (List String)
  | [] => .ok place
  | step :: steps =>
    match folder.entry? place with
    | some .folder =>
      if Path.isTooLong step then .error .nameTooLong
      else walk folder (Path.stepFrom place step) steps
    | some _ => .error .notDirectory
    | none => .error .notFound

def find (folder : Folder) (path : String) : Except FileError Entry := do
  let path ← Path.ofText path
  let place ← folder.walk (start path) path.steps
  match folder.entry? place with
  | some entry => .ok entry
  | none => .error .notFound

def read (folder : Folder) (path : String) : Except FileError String := do
  match ← folder.find path with
  | .folder => .error .isDirectory
  | .sink => .ok ""
  | .file bytes =>
    match String.fromUTF8? bytes with
    | some text => .ok text
    | none => .error .notUtf8

def present (folder : Folder) (path : String) : Bool :=
  (folder.find path).isOk

/-- Writes a file. The path to it has to lead through folders, as a step that stays shows; the end
of the path has to be a name, and the name that of no folder. -/
def write (folder : Folder) (path text : String) : Except FileError Folder := do
  let path ← Path.ofText path
  let place ← folder.walk (start path) (path.leading ++ ["."])
  match path.fileName? with
  | none => .error .isDirectory
  | some name =>
    if Path.isTooLong name then .error .nameTooLong
    else match folder.entry? (place ++ [name]) with
      | some .folder => .error .isDirectory
      | some .sink => .ok folder
      | _ => .ok (folder.put (place ++ [name]) (.file text.toUTF8))

/-- Creates every folder that the steps lead through; `created` says whether one before them had to
be created. A file among the steps ends the first way through them, but once a folder had to be
created the steps are taken again one by one, and then the file stands where a folder is due. -/
def makeFoldersFrom (folder : Folder) (place : List String) (created : Bool) :
    List String → Except FileError Folder
  | [] => .ok folder
  | step :: steps =>
    if Path.isTooLong step then .error .nameTooLong
    else
      let next := Path.stepFrom place step
      match folder.entry? next with
      | some .folder => makeFoldersFrom folder next created steps
      | some _ => .error (if created ∨ steps = [] then .exists else .notDirectory)
      | none => makeFoldersFrom (folder.put next .folder) next true steps

def makeFolders (folder : Folder) (path : String) : Except FileError Folder := do
  let path ← Path.ofText path
  folder.makeFoldersFrom (start path) false path.steps

def withFile (folder : Folder) (path : String) (bytes : ByteArray) : Folder :=
  let place := (Path.parts path).foldl Path.stepFrom home
  let around := (List.range (place.length - 1)).map fun n => place.take (n + 1)
  (around.foldl (fun folder place => folder.put place .folder) folder).put place (.file bytes)

def pathOf? (place : List String) : Option String :=
  if place.take home.length = home then
    some (String.intercalate "/" (place.drop home.length))
  else none

/-- The texts of all files in the folder in which commands run, each under its path. -/
def texts (folder : Folder) : List (String × String) :=
  (folder.entries.map (·.1)).eraseDups.filterMap fun place =>
    match pathOf? place, folder.entry? place with
    | some path, some (.file bytes) => (String.fromUTF8? bytes).map (path, ·)
    | _, _ => none

def change (operation : Folder → Except FileError Folder) : StateM Folder (Except FileError Unit) :=
  fun folder =>
    match operation folder with
    | .ok folder => (.ok (), folder)
    | .error error => (.error error, folder)

def files : Files (StateM Folder) where
  read path := fun folder => (folder.read path, folder)
  present path := fun folder => (folder.present path, folder)
  write path text := change (·.write path text)
  makeFolders path := change (·.makeFolders path)

end Folder

end MoveCanvas.Cli
