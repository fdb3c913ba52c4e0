/-! # Commands

The command line names one command, then its operands and options in any order. An option takes
its value from the same word or from the next; a next word that begins with a dash is no value,
unless it is the dash alone. Two dashes end the options. -/

namespace MoveCanvas.Cli

inductive Command
  | package (project : String) (moduleName : Option String) (out : String)
      (defaults : Option String) (toOutput : Bool)
  | install (response project : String) (moduleName : Option String)
  | check (project : String)
  | palette
deriving DecidableEq, Repr

inductive Request
  | run (command : Command)
  | help
  | version
  | misuse
deriving DecidableEq, Repr

/-! ## Words -/

inductive Argument
  | none
  | text
  /-- A text that is not empty. -/
  | path
deriving DecidableEq, Repr

def Argument.accepts : Argument → String → Bool
  | .path, value => value ≠ ""
  | _, _ => true

/-- An option of a command with its letter. -/
structure OptionSpec where
  name : String
  letter : Option Char
  argument : Argument
deriving DecidableEq, Repr

structure Spec where
  options : List OptionSpec
  operands : Nat

/-- The operands and options read so far, each option at most once. -/
structure Words where
  operands : List String
  values : List (String × String)

def Words.empty : Words := ⟨[], []⟩

def Words.has (words : Words) (name : String) : Bool :=
  words.values.any (·.1 = name)

def Words.get? (words : Words) (name : String) : Option String :=
  words.values.lookup name

def Words.addOperand (words : Words) (operand : String) : Words :=
  { words with operands := words.operands ++ [operand] }

/-- Records an option, which may not be given before, with a value that it accepts. -/
def Words.addOption (words : Words) (option : OptionSpec) (value : String) :
    Except Request Words :=
  if words.has option.name ∨ ¬ option.argument.accepts value then .error .misuse
  else .ok { words with values := words.values ++ [(option.name, value)] }

inductive Word
  | operand (value : String)
  | endOfOptions
  | help
  | flag (option : OptionSpec)
  | option (option : OptionSpec) (value : Option String)
  | unknown
deriving DecidableEq, Repr

def splitAtEquals (cs : List Char) : List Char × Option (List Char) :=
  match cs.span (· != '=') with
  | (name, '=' :: value) => (name, some value)
  | (name, _) => (name, none)

def Spec.longWord (spec : Spec) (cs : List Char) : Word :=
  let (name, value) := splitAtEquals cs
  let name := String.ofList name
  match spec.options.find? (·.name = name) with
  | some option =>
    if option.argument ≠ .none then .option option (value.map String.ofList)
    else if value = none then .flag option
    else .unknown
  | none => if name = "help" ∧ value = none then .help else .unknown

/-- A letter, its value directly after it or after an equals sign. -/
def Spec.shortWord (spec : Spec) (letter : Char) (cs : List Char) : Word :=
  match spec.options.find? (·.letter = some letter) with
  | some option =>
    match cs with
    | [] => .option option none
    | '=' :: value => .option option (some (String.ofList value))
    | value => .option option (some (String.ofList value))
  | none => if letter = 'h' then .help else .unknown

def Spec.word (spec : Spec) (word : String) : Word :=
  match word.toList with
  | ['-', '-'] => .endOfOptions
  | '-' :: '-' :: cs => spec.longWord cs
  | '-' :: letter :: cs => spec.shortWord letter cs
  | _ => .operand word

def isValue (word : String) : Bool :=
  match word.toList with
  | '-' :: _ :: _ => false
  | _ => true

def Spec.read (spec : Spec) (words : Words) : List String → Except Request Words
  | [] => .ok words
  | word :: rest =>
    match spec.word word with
    | .operand value =>
      if words.operands.length < spec.operands then spec.read (words.addOperand value) rest
      else .error .misuse
    | .endOfOptions =>
      if words.operands.length + rest.length ≤ spec.operands then
        .ok (rest.foldl Words.addOperand words)
      else .error .misuse
    | .help => .error .help
    | .flag option => do spec.read (← words.addOption option "") rest
    | .option option (some value) => do spec.read (← words.addOption option value) rest
    | .option option none =>
      match rest with
      | value :: rest =>
        if isValue value then do spec.read (← words.addOption option value) rest
        else .error .misuse
      | [] => .error .misuse
    | .unknown => .error .misuse

/-! ## Commands -/

def moduleOption : OptionSpec := ⟨"module", some 'm', .text⟩

def packageSpec : Spec :=
  ⟨[moduleOption, ⟨"out", some 'o', .path⟩, ⟨"defaults", some 'd', .text⟩,
    ⟨"stdout", none, .none⟩], 1⟩

def installSpec : Spec :=
  ⟨[⟨"project", some 'p', .text⟩, moduleOption], 1⟩

def checkSpec : Spec := ⟨[], 1⟩

def paletteSpec : Spec := ⟨[], 0⟩

def Command.ofWords? (name : String) (words : Words) : Option Command :=
  match name, words.operands with
  | "export", [project] =>
    some (.package project (words.get? "module") ((words.get? "out").getD ".")
      (words.get? "defaults") (words.has "stdout"))
  | "import", [response] =>
    some (.install response ((words.get? "project").getD "move_project.json") (words.get? "module"))
  | "check", [project] => some (.check project)
  | "palette", [] => some .palette
  | _, _ => none

def specOf? (name : String) : Option Spec :=
  if name = "export" then some packageSpec
  else if name = "import" then some installSpec
  else if name = "check" then some checkSpec
  else if name = "palette" then some paletteSpec
  else none

def requestOf (name : String) (spec : Spec) (args : List String) : Request :=
  match spec.read .empty args with
  | .error request => request
  | .ok words =>
    match Command.ofWords? name words with
    | some command => .run command
    | none => .misuse

def requestNamed (name : String) (args : List String) : Request :=
  if name = "--help" then .help
  else if name = "--version" then .version
  else if name = "help" then
    match args with
    | [] => .help
    | [topic] => if (specOf? topic).isSome ∨ topic = "help" then .help else .misuse
    | _ => .misuse
  else match specOf? name with
    | some spec => requestOf name spec args
    | none => .misuse

/-- What the words of a command line ask for. A letter for help or the version decides whatever
follows it. -/
def Request.ofArgs : List String → Request
  | [] => .misuse
  | name :: args =>
    match name.toList with
    | '-' :: 'h' :: _ => .help
    | '-' :: 'V' :: _ => .version
    | _ => requestNamed name args

end MoveCanvas.Cli
