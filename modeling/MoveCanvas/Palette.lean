import MoveCanvas.Canvas.Basic

/-! # The palette

The built-in templates of the editor's sidebar, in the order in which it shows them. The imported
struct templates are also the list of framework types: a struct with the name of one of them is
never declared by a generated module. -/

namespace MoveCanvas

inductive Template.Kind
  | struct
  | function
  | init
deriving DecidableEq, Repr

structure Template where
  tool : String
  category : String
  kind : Template.Kind
  label : String
  description : String
  imported : Bool := false
  members : List Member := []
  abilities : Option Abilities := none
deriving DecidableEq, Repr

namespace Template

def Kind.name : Kind → String
  | .struct => "Struct"
  | .function => "Function"
  | .init => "Init"

def Kind.nodeType : Kind → String
  | .struct => Canvas.structType
  | .function => Canvas.functionType
  | .init => Canvas.initType

def Kind.idStem : Kind → String
  | .struct => "s"
  | .function => "f"
  | .init => "i"

def data (t : Template) : Canvas.Data :=
  let plain : Canvas.Data :=
    { Canvas.Data.ofLabel t.label with imported := t.imported, abilities := t.abilities }
  match t.kind with
  | .struct => { plain with fields := some t.members }
  | .function => { plain with params := some t.members }
  | .init =>
    { plain with coinName := some "", coinSymbol := some "", coinDecimals := some (.num (.int 9)) }

def instantiate (t : Template) (id : String) (position : Json) : Canvas.Node :=
  { id, type := some t.kind.nodeType, position, data := t.data, hidden := false }

end Template

namespace Palette

open Template

def templates : List Template := [
  ⟨"tool-init", "Project Setup", .init, "CoinInit", "Init function: bootstraps the coin", false, [],
    none⟩,
  ⟨"tool-treasury", "Financial Assets", .struct, "TreasuryCap",
    "Permission to mint and burn a coin", true, [], none⟩,
  ⟨"tool-coin", "Financial Assets", .struct, "Coin", "A fungible coin", true, [⟨"value", "u64"⟩],
    none⟩,
  ⟨"tool-balance", "Financial Assets", .struct, "Balance", "A raw balance amount", true,
    [⟨"value", "u64"⟩], none⟩,
  ⟨"tool-mint", "Mint Operations", .function, "coin::mint", "Mints new coins", false,
    [⟨"cap", "&mut TreasuryCap"⟩, ⟨"amount", "u64"⟩, ⟨"ctx", "&mut TxContext"⟩], none⟩,
  ⟨"tool-burn", "Mint Operations", .function, "coin::burn", "Destroys coins", false,
    [⟨"cap", "&mut TreasuryCap"⟩, ⟨"c", "Coin<T>"⟩], none⟩,
  ⟨"tool-join", "Mint Operations", .function, "coin::join", "Merges two coins", false,
    [⟨"self", "&mut Coin<T>"⟩, ⟨"c", "Coin<T>"⟩], none⟩,
  ⟨"tool-split", "Mint Operations", .function, "coin::split", "Splits a coin", false,
    [⟨"self", "&mut Coin<T>"⟩, ⟨"split_amount", "u64"⟩, ⟨"ctx", "&mut TxContext"⟩], none⟩,
  ⟨"tool-transfer", "Transfer & Sharing", .function, "transfer::transfer",
    "Hands an object to an address", false, [⟨"obj", "T"⟩, ⟨"recipient", "address"⟩], none⟩,
  ⟨"tool-share", "Transfer & Sharing", .function, "transfer::share_object",
    "Makes an object shared", false, [⟨"obj", "T"⟩], none⟩,
  ⟨"tool-freeze", "Transfer & Sharing", .function, "transfer::freeze_object",
    "Makes an object immutable", false, [⟨"obj", "T"⟩], none⟩,
  ⟨"tool-emit", "Transfer & Sharing", .function, "event::emit", "Emits an event", false,
    [⟨"event", "T"⟩], none⟩,
  ⟨"tool-nft-template", "NFT Workshop", .struct, "SimpleNFT", "A minimal NFT", false,
    [⟨"id", "UID"⟩, ⟨"name", "String"⟩, ⟨"url", "Url"⟩], some .keyStore⟩,
  ⟨"tool-nft-mint", "NFT Workshop", .function, "nft::mint", "Mints an NFT", false,
    [⟨"name", "vector<u8>"⟩, ⟨"url", "vector<u8>"⟩, ⟨"ctx", "&mut TxContext"⟩], none⟩,
  ⟨"tool-uid", "Basic Data Types", .struct, "UID", "Unique object identity", true, [], none⟩,
  ⟨"tool-string", "Basic Data Types", .struct, "String", "UTF-8 text", true, [], none⟩,
  ⟨"tool-url", "Basic Data Types", .struct, "Url", "A web address", true, [], none⟩,
  ⟨"tool-option", "Basic Data Types", .struct, "Option", "An optional value", true, [], none⟩,
  ⟨"tool-vector", "Basic Data Types", .struct, "Vector", "A list of values", true, [], none⟩,
  ⟨"tool-clock", "Storage & System", .struct, "Clock", "On-chain time", true, [], none⟩,
  ⟨"tool-timestamp", "Storage & System", .function, "clock::timestamp_ms", "Reads the clock", false,
    [⟨"clock", "&Clock"⟩], none⟩,
  ⟨"tool-table", "Storage & System", .struct, "Table", "Large key-value storage", true, [], none⟩,
  ⟨"tool-table-new", "Storage & System", .function, "table::new", "Creates a table", false,
    [⟨"ctx", "&mut TxContext"⟩], none⟩,
  ⟨"tool-table-add", "Storage & System", .function, "table::add", "Inserts into a table", false,
    [⟨"table", "&mut Table"⟩, ⟨"k", "K"⟩, ⟨"v", "V"⟩], none⟩,
  ⟨"tool-bag", "Storage & System", .struct, "Bag", "Heterogeneous storage", true, [], none⟩,
  ⟨"tool-txcontext", "Storage & System", .struct, "TxContext", "Transaction context", true, [],
    none⟩]

def find? (label : String) : Option Template :=
  templates.find? (·.label = label)

def isFrameworkType (name : String) : Bool :=
  templates.any fun t => t.kind = .struct && t.imported && t.label = name

def frameworkTypes : List String :=
  (templates.filter fun t => t.kind = .struct && t.imported).map (·.label)

theorem isFrameworkType_iff {name : String} : isFrameworkType name = true ↔ name ∈ frameworkTypes := by
  simp [isFrameworkType, frameworkTypes, and_assoc]

/-- The id of a new node: the stem of its kind, a time and a random part. -/
def freshId (stem time random : String) : String :=
  stem ++ "-" ++ time ++ "-" ++ random

end Palette

end MoveCanvas
