import MoveCanvas.FileError
import MoveCanvas.Json.Printer
import MoveCanvas.Package

/-! # Projects

A project is a saved session of the editor: modules in the order of their tabs, each with a canvas
whose nodes and edges are kept as raw values. An operation on a module acts on the first module of
the given name; if it fails the project stays as it was. -/

namespace MoveCanvas

open Json (Shape Fields Presence DecodeError)

@[ext]
structure Project.Tab where
  id : String
  name : String
  nodes : List Json
  edges : List Json
deriving DecidableEq

@[ext]
structure Project where
  version : String
  modules : List Project.Tab
deriving DecidableEq

inductive ProjectError
  | file (path : String) (cause : FileError)
  | malformed (cause : DecodeError)
  | unknownModule (name : String)
  | lastModule
deriving DecidableEq

def ProjectError.message : ProjectError → String
  | .file path cause => "Could not access project file '" ++ path ++ "': " ++ cause.message
  | .malformed cause => "Project file is not valid JSON: " ++ cause.message
  | .unknownModule name => "Module '" ++ name ++ "' not found in project"
  | .lastModule => "The last module of a project cannot be removed"

namespace Project

/-! ## Format -/

def Tab.shape : Shape :=
  .record "ModuleTab"
    (.cons "id" [] .required .text
    (.cons "name" [] .required .text
    (.cons "nodes" [] .optional (.list .raw)
    (.cons "edges" [] .optional (.list .raw) .nil))))

def Tab.ofRecord : Tab.shape.Val → Tab
  | (id, name, nodes, edges, ()) => ⟨id, name, nodes.getD [], edges.getD []⟩

def Tab.toRecord (t : Tab) : Tab.shape.Val :=
  (t.id, t.name, some t.nodes, some t.edges, ())

def shape : Shape :=
  .record "Project"
    (.cons "version" [] .required .text
    (.cons "modules" [] .required (.list Tab.shape) .nil))

def ofRecord : shape.Val → Project
  | (version, modules, ()) => ⟨version, modules.map Tab.ofRecord⟩

def toRecord (p : Project) : shape.Val :=
  (p.version, p.modules.map Tab.toRecord, ())

theorem ofRecord_toRecord (p : Project) : ofRecord p.toRecord = p := by
  apply Project.ext
  case version => rfl
  case modules => exact (List.map_map ..).trans (List.map_id _)

def ofText (text : String) : Except ProjectError Project :=
  (ofRecord <$> shape.ofText text).mapError .malformed

def toText (p : Project) : String :=
  (shape.encode p.toRecord).pretty

/-! ## Modules -/

def currentVersion : String := "1.0"

/-- The hidden node that carries the name of its module. -/
def rootNode (moduleName : String) : Json :=
  .obj [
    ("data", .obj [("label", .str moduleName), ("type", .str "moduleName")]),
    ("hidden", .bool true),
    ("id", .str "module-root"),
    ("position", .obj [("x", .num (.int (-100))), ("y", .num (.int (-100)))]),
    ("type", .str Canvas.plainType)]

/-- A module whose canvas is bare. -/
def Tab.bare (id name : String) : Tab :=
  ⟨id, name, [rootNode name], []⟩

def new : Project :=
  ⟨currentVersion, [.bare "mod-1" "my_coin"]⟩

def module? (p : Project) (name : String) : Except ProjectError Tab :=
  match p.modules.find? (·.name = name) with
  | some tab => .ok tab
  | none => .error (.unknownModule name)

def updateFirst (name : String) (f : Tab → Tab) : List Tab → Option (List Tab)
  | [] => none
  | tab :: tabs =>
    if tab.name = name then some (f tab :: tabs)
    else (updateFirst name f tabs).map (tab :: ·)

def update (p : Project) (name : String) (f : Tab → Tab) : Except ProjectError Project :=
  match updateFirst name f p.modules with
  | some modules => .ok { p with modules }
  | none => .error (.unknownModule name)

def slotName (n : Nat) : String := "module_" ++ toString n

def slotId (n : Nat) : String := "mod-" ++ toString n

/-- Whether no module has the name or the id of the `n`-th slot. -/
def isFreeSlot (p : Project) (n : Nat) : Bool :=
  !p.modules.any fun tab => tab.name = slotName n || tab.id = slotId n

/-- The first free slot after as many as there are modules. Each module takes at most two slots,
so the search ends within its range. -/
def freeSlot (p : Project) : Nat :=
  let count := p.modules.length
  ((List.range' (count + 1) (2 * count + 1)).find? p.isFreeSlot).getD (3 * count + 1)

/-- Appends a bare module and gives its name. -/
def add (p : Project) : Project × String :=
  let n := p.freeSlot
  ({ p with modules := p.modules ++ [.bare (slotId n) (slotName n)] }, slotName n)

def rename (p : Project) (name newName : String) : Except ProjectError Project :=
  p.update name fun tab => { tab with name := newName }

/-- Takes out a module, unless it is the only one. -/
def remove (p : Project) (name : String) : Except ProjectError (Project × Tab) :=
  match p.modules.find? (·.name = name) with
  | none => .error (.unknownModule name)
  | some tab =>
    if p.modules.length ≤ 1 then .error .lastModule
    else .ok ({ p with modules := p.modules.eraseP (·.name = name) }, tab)

def clear (p : Project) (name : String) : Except ProjectError Project :=
  p.update name fun tab => { tab with nodes := [rootNode tab.name], edges := [] }

def replaceCanvas (p : Project) (name : String) (canvas : Canvas) : Except ProjectError Project :=
  p.update name fun tab =>
    { tab with nodes := canvas.nodes.map Canvas.Node.toValue
               edges := canvas.edges.map Canvas.Edge.toValue }

/-! ## Canvases -/

def Tab.canvasValue (t : Tab) : Json :=
  .obj [("edges", .arr t.edges), ("nodes", .arr t.nodes)]

def Tab.canvas (t : Tab) : Except ConversionError Canvas :=
  (Canvas.ofValue t.canvasValue).mapError (.malformedModule t.name)

def Tab.graph (t : Tab) : Except ConversionError Graph := do
  (← t.canvas).toGraph

def Tab.package (t : Tab) (defaults : Defaults) : Except CompileError Package := do
  let graph ← t.graph.mapError .invalidGraph
  Package.ofGraph t.name graph defaults .empty

end Project

end MoveCanvas
