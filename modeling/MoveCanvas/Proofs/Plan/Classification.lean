import Mathlib.Data.List.Basic
import Mathlib.Data.List.Induction
import MoveCanvas.Intent
import MoveCanvas.Proofs.Text.CallableNames

/-! # Intents and letter case

The marker rules look at the lower case of a label. The last rule looks at the callable name, which
is joined before it is lowered; the one name it looks for can be read off the lower case all the
same. So the built-in intent of a label depends on its lower case alone. A mapping names a label
exactly: the last one of a label decides, and mappings of other labels may stand anywhere. -/

namespace MoveCanvas.Intent

def ofLowered (lowered : List Char) : Intent :=
  match rules.find? (·.applies lowered) with
  | some rule => rule.intent
  | none =>
    if Identifier.joined lowered = "transfer_transfer".toList then .transfer else .unrecognized

theorem callable_eq_transfer_iff {label : String} :
    Identifier.callable label = "transfer_transfer" ↔
      Identifier.joined (Text.lowercase label.toList) = "transfer_transfer".toList := by
  have hall : "transfer_transfer".toList.all
      (fun d => d.toNat < 128 ∧ d ≠ 'k' ∧ d ≠ '<') = true := by decide
  have hletters : ∀ d ∈ "transfer_transfer".toList, d.toNat < 128 ∧ d ≠ 'k' ∧ d ≠ '<' :=
    fun d hmem => of_decide_eq_true (List.all_eq_true.mp hall d hmem)
  rw [← Identifier.callable_eq_ofList_iff (by decide) hletters, String.ofList_toList]

theorem ofLabel_eq_ofLowered (label : String) :
    ofLabel label = ofLowered (Text.lowercase label.toList) := by
  unfold ofLabel ofLowered
  cases rules.find? (·.applies (Text.lowercase label.toList)) with
  | some rule => rfl
  | none => exact if_congr callable_eq_transfer_iff rfl rfl

namespace Table

variable {mappings mappings' : List (String × Intent)} {label : String}

theorem ofList_concat (mappings : List (String × Intent)) (mapping : String × Intent) :
    ofList (mappings ++ [mapping]) = (ofList mappings).insert mapping.1 mapping.2 :=
  List.foldl_concat ..

theorem classify_ofList (mappings : List (String × Intent)) (label : String) :
    (ofList mappings).classify label =
      ((mappings.filter (·.1 = label)).getLast?.map (·.2)).getD (ofLabel label) := by
  induction mappings using List.reverseRecOn with
  | nil => exact classify_empty label
  | append_singleton mappings mapping ih =>
      rw [ofList_concat, classify_insert, List.filter_append]
      by_cases h : mapping.1 = label
      · rw [if_pos h.symm, List.filter_cons_of_pos (by simpa using h), List.filter_nil,
          List.getLast?_concat]
        rfl
      · rw [if_neg (Ne.symm h), List.filter_cons_of_neg (by simpa using h), List.filter_nil,
          List.append_nil, ih]

theorem filter_eq_nil_of_forall_ne (h : ∀ mapping ∈ mappings, mapping.1 ≠ label) :
    mappings.filter (·.1 = label) = [] := by
  rw [List.filter_eq_nil_iff]
  intro mapping hmem
  simpa using h mapping hmem

theorem classify_ofList_last {front back : List (String × Intent)} (intent : Intent)
    (hback : ∀ mapping ∈ back, mapping.1 ≠ label) :
    (ofList (front ++ (label, intent) :: back)).classify label = intent := by
  rw [classify_ofList, List.filter_append, List.filter_cons_of_pos (by simp),
    filter_eq_nil_of_forall_ne hback, List.getLast?_concat]
  rfl

theorem classify_ofList_of_forall_ne (h : ∀ mapping ∈ mappings, mapping.1 ≠ label) :
    (ofList mappings).classify label = ofLabel label := by
  rw [classify_ofList, filter_eq_nil_of_forall_ne h]
  rfl

theorem classify_ofList_congr
    (h : mappings.filter (·.1 = label) = mappings'.filter (·.1 = label)) :
    (ofList mappings).classify label = (ofList mappings').classify label := by
  rw [classify_ofList, classify_ofList, h]

end Table

/-- Labels of one lower case have one built-in intent, and both or neither have the callable name of
a transfer. A table gives a label the intent of its last mapping, and its built-in intent if it has
none. Two rows of mappings with the same mappings of each label, in the same order, give every label
the same intent. -/
theorem lowercase_and_last_mapping_decide :
    (∀ a b : String, Text.lowercase a.toList = Text.lowercase b.toList →
      ofLabel a = ofLabel b ∧ (Identifier.callable a = "transfer_transfer" ↔
        Identifier.callable b = "transfer_transfer")) ∧
    (∀ mappings label,
      (∀ front intent back, mappings = front ++ (label, intent) :: back →
        (∀ mapping ∈ back, mapping.1 ≠ label) → (Table.ofList mappings).classify label = intent) ∧
      ((∀ mapping ∈ mappings, mapping.1 ≠ label) →
        (Table.ofList mappings).classify label = ofLabel label)) ∧
    ∀ mappings mappings' : List (String × Intent),
      (∀ label, mappings.filter (·.1 = label) = mappings'.filter (·.1 = label)) →
      ∀ label,
        (Table.ofList mappings).classify label = (Table.ofList mappings').classify label := by
  refine ⟨fun a b h => ⟨?_, ?_⟩, fun mappings label => ⟨?_, ?_⟩,
    fun mappings mappings' h label => ?_⟩
  · rw [ofLabel_eq_ofLowered, ofLabel_eq_ofLowered, h]
  · rw [callable_eq_transfer_iff, callable_eq_transfer_iff, h]
  · rintro front intent back rfl hback
    exact Table.classify_ofList_last intent hback
  · exact Table.classify_ofList_of_forall_ne
  · exact Table.classify_ofList_congr (h label)

/-- An ideographic space between the words leaves the label to the callable name. The mappings of
one label keep their order, and a mapping of the other case is passed over. -/
theorem lowercase_and_last_mapping_decide_spaced :
    let mappings : List (String × Intent) :=
      [("Pay", .mintNft), ("pay", .mintCoin), ("Pay", .transfer)]
    let mappings' : List (String × Intent) :=
      [("pay", .mintCoin), ("Pay", .mintNft), ("Pay", .transfer)]
    ofLabel "transfer\u3000transfer" = .transfer ∧ ofLabel "TRANSFER\u3000Transfer" = .transfer ∧
      (Table.ofList mappings).classify "Pay" = .transfer ∧
      (Table.ofList mappings').classify "Pay" = .transfer ∧
      (Table.ofList mappings).classify "PAY" = ofLabel "PAY" := by
  intro mappings mappings'
  obtain ⟨hcase, hlast, horder⟩ := lowercase_and_last_mapping_decide
  have hlower : ofLabel "transfer\u3000transfer" = .transfer := by decide +kernel
  have hupper : ofLabel "TRANSFER\u3000Transfer" = .transfer :=
    (hcase _ _ (by decide +kernel)).1.trans hlower
  have hpay : (Table.ofList mappings).classify "Pay" = .transfer :=
    (hlast mappings "Pay").1 [("Pay", .mintNft), ("pay", .mintCoin)] _ [] rfl
      (List.forall_mem_nil _)
  have hmoved : ∀ label, mappings.filter (·.1 = label) = mappings'.filter (·.1 = label) := by
    intro label
    by_cases hlabel : label = "pay"
    · subst hlabel
      rfl
    · simp [mappings, mappings', List.filter_cons, Ne.symm hlabel]
  exact ⟨hlower, hupper, hpay, (horder _ _ hmoved "Pay").symm.trans hpay,
    (hlast mappings "PAY").2 (by decide)⟩

end MoveCanvas.Intent
