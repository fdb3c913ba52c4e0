import MoveCanvas.Text.Blank
import MoveCanvas.Text.Search

/-! # Parameter types

The type of a function parameter is resolved against the module's witness. Capabilities, coins and
the bare placeholder receive the witness as their argument, a transaction context is always
borrowed mutably, and every other declared type keeps its spelling. -/

namespace MoveCanvas.ParamType

inductive Reference
  | value
  | shared
  | exclusive
deriving DecidableEq, Repr

def Reference.mark : Reference → String
  | .value => ""
  | .shared => "&"
  | .exclusive => "&mut "

/-- What a declared type is recognised as. -/
inductive Form
  | capability (reference : Reference)
  | coin (reference : Reference)
  | context
  | verbatim
deriving DecidableEq, Repr

/-- Separates a leading reference mark from the type it borrows. -/
def splitReference : List Char → Reference × List Char
  | '&' :: cs =>
    match Text.after? "mut ".toList (Text.trimStart cs) with
    | some inner => (.exclusive, Text.trimStart inner)
    | none => (.shared, Text.trimStart cs)
  | cs => (.value, cs)

/-- The name of a type and, after an opening bracket, its argument. The closing bracket may be
absent. -/
def splitArgument (core : List Char) : List Char × Option (List Char) :=
  match Text.cutFirst? '<' core with
  | some (base, rest) =>
    (Text.trim base, some (Text.trim ((Text.before? ['>'] rest).getD rest)))
  | none => (core, none)

def isOpen (argument : Option (List Char)) : Bool :=
  argument == none || argument == some ['T']

/-- A capability is borrowed mutably unless it is declared as a shared reference. -/
def capabilityReference : Reference → Reference
  | .shared => .shared
  | _ => .exclusive

def form (declared : List Char) : Form :=
  let (reference, core) := splitReference (Text.trim declared)
  let (base, argument) := splitArgument core
  if base = "TreasuryCap".toList ∧ isOpen argument then .capability (capabilityReference reference)
  else if (base = "Coin".toList ∧ isOpen argument) ∨ core = ['T'] then .coin reference
  else if base = "TxContext".toList ∧ argument = none then .context
  else .verbatim

def Form.render (witness declared : String) : Form → String
  | .capability reference => reference.mark ++ "TreasuryCap<" ++ witness ++ ">"
  | .coin reference => reference.mark ++ "Coin<" ++ witness ++ ">"
  | .context => "&mut TxContext"
  | .verbatim => declared

def resolve (declared witness : String) : String :=
  (form declared.toList).render witness declared

theorem resolve_eq_of_verbatim {declared : String} (witness : String)
    (h : form declared.toList = .verbatim) : resolve declared witness = declared := by
  simp only [resolve, h, Form.render]

end MoveCanvas.ParamType
