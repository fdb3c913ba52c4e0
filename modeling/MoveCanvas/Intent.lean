import MoveCanvas.Identifier
import MoveCanvas.Text.Search

/-! # Intents of functions

The intent of a function decides which body it receives. It is read off the label by marker rules,
unless a table of mappings names that label. -/

namespace MoveCanvas

inductive Intent
  | mintCoin
  | mintNft
  | transfer
  | unrecognized
deriving DecidableEq, Repr

namespace Intent

def name : Intent → String
  | .mintCoin => "mint-coin"
  | .mintNft => "mint-nft"
  | .transfer => "transfer"
  | .unrecognized => "unrecognized"

/-- A rule applies to a label whose lower case contains every marker. -/
structure Rule where
  intent : Intent
  markers : List String

def Rule.applies (rule : Rule) (lowered : List Char) : Bool :=
  rule.markers.all fun marker => Text.occursIn marker.toList lowered

/-- The first rule that applies decides. -/
def rules : List Rule := [
  ⟨.mintCoin, ["mint", "coin::"]⟩,
  ⟨.mintNft, ["mint", "nft::"]⟩,
  ⟨.transfer, ["transfer::transfer"]⟩,
  ⟨.transfer, ["transfer::public_transfer"]⟩]

def ofLabel (label : String) : Intent :=
  match rules.find? (·.applies (Text.lowercase label.toList)) with
  | some rule => rule.intent
  | none =>
    if Identifier.callable label = "transfer_transfer" then .transfer else .unrecognized

/-- Intents given to exact labels. A later mapping of a label replaces an earlier one. -/
structure Table where
  entries : List (String × Intent)

namespace Table

def empty : Table := ⟨[]⟩

def insert (table : Table) (label : String) (intent : Intent) : Table :=
  ⟨(label, intent) :: table.entries⟩

def ofList (mappings : List (String × Intent)) : Table :=
  mappings.foldl (fun table (label, intent) => table.insert label intent) empty

def classify (table : Table) (label : String) : Intent :=
  (table.entries.lookup label).getD (ofLabel label)

theorem classify_empty (label : String) : empty.classify label = ofLabel label := rfl

theorem classify_insert (table : Table) (label other : String) (intent : Intent) :
    (table.insert label intent).classify other =
      if other = label then intent else table.classify other := by
  by_cases h : other = label
  · simp [classify, insert, h]
  · have hb : (other == label) = false := by simpa using h
    simp [classify, insert, h, hb, List.lookup_cons]

end Table

end Intent

end MoveCanvas
