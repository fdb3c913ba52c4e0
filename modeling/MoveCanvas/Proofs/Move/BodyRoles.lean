import Mathlib.Data.List.Forall2
import MoveCanvas.Move.Function
import MoveCanvas.Proofs.ParamType.Forms

/-! # What a function body takes from the name of the witness

The parameters that play a part in a body are found by tests on resolved types, and a resolved type
may carry the witness as its argument. A name that itself mentions a capability or a context turns
every coin of the witness into one. Bodies agree under two witnesses exactly if the two names agree
on both mentions; signatures never differ beyond the type arguments. -/

namespace MoveCanvas

namespace Move

namespace Body

/-- A test on types that no declared type passes under one witness and fails under the other. -/
def Agrees (test : String → Bool) (w w' : String) : Prop :=
  ∀ declared, test (ParamType.resolve declared w) = test (ParamType.resolve declared w')

variable {w w' : String}

theorem agrees_plain {plain : String} (h : '<' ∉ plain.toList) (w w' : String) :
    Agrees (· = plain) w w' := by
  intro declared
  rcases ParamType.resolve_alike declared w w' with heq | ⟨lead, hw, hw'⟩
  · rw [heq]
  · have hne := ParamType.argument_ne h lead w
    have hne' := ParamType.argument_ne h lead w'
    simp only [hw, hw', hne, hne']

theorem resolve_placeholder (w : String) :
    ParamType.resolve "T" w = "Coin" ++ "<" ++ w ++ ">" := by
  have hform : ParamType.form "T".toList = .coin .value := by decide
  rw [ParamType.resolve, hform, ParamType.render_coin]
  rfl

theorem occursIn_placeholder {mark : List Char} (hopen : '<' ∉ mark) (hclose : '>' ∉ mark)
    (hne : mark ≠ []) (hcoin : Text.occursIn mark "Coin".toList = false) (w : String) :
    Text.occursIn mark (ParamType.resolve "T" w).toList = Text.occursIn mark w.toList := by
  rw [resolve_placeholder, ParamType.occursIn_argument hopen hclose hne, hcoin, Bool.false_or]

theorem isCapability_placeholder (w : String) :
    isCapability (ParamType.resolve "T" w) = isCapability w :=
  occursIn_placeholder (by decide) (by decide) (by decide) (by decide) w

theorem isObject_placeholder (w : String) :
    isObject (ParamType.resolve "T" w) = !isContext w := by
  have hcontext : isContext (ParamType.resolve "T" w) = isContext w :=
    occursIn_placeholder (by decide) (by decide) (by decide) (by decide) w
  have haddress : ParamType.resolve "T" w ≠ "address" := by
    rw [resolve_placeholder]
    exact ParamType.argument_ne (by decide) "Coin" w
  simp only [isObject, hcontext, bne_iff_ne.mpr haddress, Bool.true_and]

/-- For a mark without brackets it is the mentions in the two names that decide. -/
theorem agrees_mark_iff {mark : List Char} (hopen : '<' ∉ mark) (hclose : '>' ∉ mark)
    (hne : mark ≠ []) (hcoin : Text.occursIn mark "Coin".toList = false) :
    Agrees (Text.occursIn mark ·.toList) w w' ↔
      Text.occursIn mark w.toList = Text.occursIn mark w'.toList := by
  constructor
  · intro h
    rw [← occursIn_placeholder hopen hclose hne hcoin w,
      ← occursIn_placeholder hopen hclose hne hcoin w']
    exact h "T"
  · intro h declared
    show Text.occursIn mark (ParamType.resolve declared w).toList =
      Text.occursIn mark (ParamType.resolve declared w').toList
    rcases ParamType.resolve_alike declared w w' with heq | ⟨lead, hw, hw'⟩
    · rw [heq]
    · rw [hw, hw', ParamType.occursIn_argument hopen hclose hne,
        ParamType.occursIn_argument hopen hclose hne, h]

theorem agrees_isCapability_iff : Agrees isCapability w w' ↔ isCapability w = isCapability w' :=
  agrees_mark_iff (by decide) (by decide) (by decide) (by decide)

theorem agrees_isContext_iff : Agrees isContext w w' ↔ isContext w = isContext w' :=
  agrees_mark_iff (by decide) (by decide) (by decide) (by decide)

theorem Agrees.isObject (h : Agrees isContext w w') : Agrees isObject w w' := by
  intro declared
  have haddress : decide (ParamType.resolve declared w = "address") =
      decide (ParamType.resolve declared w' = "address") := agrees_plain (by decide) w w' declared
  have hcontext := h declared
  simp only [decide_eq_decide] at haddress
  simp only [Body.isObject, bne, hcontext, beq_eq_decide, haddress]

end Body

open Body

variable {w w' : String}

structure SameMarks (w w' : String) : Prop where
  capability : isCapability w = isCapability w'
  context : isContext w = isContext w'

section Planned

variable (graph : Graph) (intents : Intent.Table) (node : Graph.Node) (params : List Member)

theorem paramOfType?_congr {test : String → Bool} (h : Agrees test w w') :
    (Plan.Function.ofNode graph intents w node params).paramOfType? test =
      (Plan.Function.ofNode graph intents w' node params).paramOfType? test := by
  have htest : (test ·.resolved) ∘ Plan.Param.ofMember w =
      (test ·.resolved) ∘ Plan.Param.ofMember w' := by
    funext member
    simp only [Function.comp_apply, Plan.Param.ofMember, h member.type]
  simp only [Plan.Function.paramOfType?, Plan.Function.ofNode, List.find?_map, htest,
    Option.map_map]
  rfl

theorem name_param?_congr (w w' name : String) :
    ((Plan.Function.ofNode graph intents w node params).param? name).map (·.name) =
      ((Plan.Function.ofNode graph intents w' node params).param? name).map (·.name) := by
  simp only [Plan.Function.param?, Plan.Function.ofNode, List.find?_map, Option.map_map]
  rfl

end Planned

/-- The parameters of a function that a body may name by their types. -/
structure Roles where
  capability : Option String
  amount : Option String
  context : Option String
  object : Option String
  recipient : Option String
deriving DecidableEq, Repr

def Roles.of (f : Plan.Function) : Roles :=
  { capability := f.paramOfType? isCapability
    amount := f.paramOfType? (· = "u64")
    context := f.paramOfType? isContext
    object := f.paramOfType? isObject
    recipient := f.paramOfType? (· = "address") }

def SameRoles (w w' : String) : Prop :=
  ∀ graph intents node params, Roles.of (.ofNode graph intents w node params) =
    Roles.of (.ofNode graph intents w' node params)

def SameBodies (w w' : String) : Prop :=
  ∀ graph intents node params placeholder,
    (FunctionDecl.ofPlan (.ofNode graph intents w node params) placeholder).body.lines =
      (FunctionDecl.ofPlan (.ofNode graph intents w' node params) placeholder).body.lines

theorem SameMarks.sameRoles (h : SameMarks w w') : SameRoles w w' := by
  intro graph intents node params
  have hcontext : Agrees isContext w w' := agrees_isContext_iff.mpr h.context
  have hcapability : Agrees isCapability w w' := agrees_isCapability_iff.mpr h.capability
  simp only [Roles.of, Roles.mk.injEq]
  exact ⟨paramOfType?_congr _ _ _ _ hcapability, paramOfType?_congr _ _ _ _ (agrees_plain (by decide) w w'),
    paramOfType?_congr _ _ _ _ hcontext, paramOfType?_congr _ _ _ _ hcontext.isObject,
    paramOfType?_congr _ _ _ _ (agrees_plain (by decide) w w')⟩

theorem SameRoles.sameBodies (h : SameRoles w w') : SameBodies w w' := by
  intro graph intents node params placeholder
  have hroles := h graph intents node params
  simp only [Roles.of, Roles.mk.injEq] at hroles
  obtain ⟨hcapability, hamount, hcontext, hobject, hrecipient⟩ := hroles
  have hbody : (FunctionDecl.ofPlan (.ofNode graph intents w node params) placeholder).body =
      (FunctionDecl.ofPlan (.ofNode graph intents w' node params) placeholder).body := by
    simp only [FunctionDecl.ofPlan, Body.ofPlan, Body.contextOf, hcapability, hamount, hcontext, hobject,
      hrecipient, name_param?_congr graph intents node params w w']
    rfl
  rw [hbody]

def coinProbe (intent : Intent) (w : String) : Plan.Function :=
  .ofNode ⟨[], []⟩ (Intent.Table.empty.insert "f" intent) w ⟨"f-1", "f", none, .function []⟩
    [⟨"x", "T"⟩]

theorem intent_coinProbe (intent : Intent) (w : String) : (coinProbe intent w).intent = intent := by
  show (Intent.Table.empty.insert "f" intent).classify "f" = intent
  rw [Intent.Table.classify_insert, if_pos rfl]

theorem paramOfType?_coinProbe (intent : Intent) (w : String) (test : String → Bool) :
    (coinProbe intent w).paramOfType? test =
      if test (ParamType.resolve "T" w) then some "x" else none := by
  have hparams : (coinProbe intent w).params = [⟨"x", "T", ParamType.resolve "T" w⟩] := rfl
  rw [Plan.Function.paramOfType?, hparams]
  cases h : test (ParamType.resolve "T" w) with
  | true => simp [h]
  | false => simp [h]

theorem length_lines_coinProbe (w placeholder : String) :
    (Body.ofPlan (coinProbe .mintNft w) placeholder).lines.length =
      if isCapability w then 7 else 6 := by
  rw [Body.ofPlan, intent_coinProbe, paramOfType?_coinProbe, isCapability_placeholder]
  cases isCapability w with
  | true => rfl
  | false => rfl

theorem lines_coinProbe_transfer (w placeholder : String) :
    (Body.ofPlan (coinProbe .transfer w) placeholder).lines =
      if isContext w then ["transfer::public_transfer(obj, recipient);"]
      else ["transfer::public_transfer(x, recipient);"] := by
  have haddress : ParamType.resolve "T" w ≠ "address" := by
    rw [resolve_placeholder]
    exact ParamType.argument_ne (by decide) "Coin" w
  rw [Body.ofPlan, intent_coinProbe]
  dsimp only
  rw [paramOfType?_coinProbe, paramOfType?_coinProbe, isObject_placeholder, decide_eq_false haddress]
  cases isContext w with
  | true => decide
  | false => decide

theorem SameBodies.lines_coinProbe (h : SameBodies w w') (intent : Intent) (placeholder : String) :
    (Body.ofPlan (coinProbe intent w) placeholder).lines =
      (Body.ofPlan (coinProbe intent w') placeholder).lines :=
  h ⟨[], []⟩ (Intent.Table.empty.insert "f" intent) ⟨"f-1", "f", none, .function []⟩
    [⟨"x", "T"⟩] placeholder

theorem SameBodies.sameMarks (h : SameBodies w w') : SameMarks w w' where
  -- The body that mints an NFT has one line more where it has a capability to mention.
  capability := by
    have hlength := congrArg List.length (h.lines_coinProbe .mintNft "")
    rw [length_lines_coinProbe, length_lines_coinProbe] at hlength
    cases hw : isCapability w <;> cases hw' : isCapability w' <;> simp [hw, hw'] at hlength ⊢
  context := by
    have hlines := h.lines_coinProbe .transfer ""
    rw [lines_coinProbe_transfer, lines_coinProbe_transfer] at hlines
    cases hw : isContext w <;> cases hw' : isContext w' <;> simp [hw, hw'] at hlines ⊢

/-- Equal names, and parameters of equal names whose types differ at most in the witness as type
argument. -/
structure FunctionDecl.SameSignature (w w' : String) (f f' : FunctionDecl) : Prop where
  name : f.name = f'.name
  params : List.Forall₂ (fun p p' : Plan.Param => p.name = p'.name ∧ p.declared = p'.declared ∧
    (p.resolved = p'.resolved ∨ ∃ lead, p.resolved = lead ++ "<" ++ w ++ ">" ∧
      p'.resolved = lead ++ "<" ++ w' ++ ">")) f.params f'.params

theorem sameSignature_ofNode (w w' : String) (graph : Graph) (intents : Intent.Table)
    (node : Graph.Node) (params : List Member) (placeholder : String) :
    FunctionDecl.SameSignature w w'
      (.ofPlan (.ofNode graph intents w node params) placeholder)
      (.ofPlan (.ofNode graph intents w' node params) placeholder) where
  name := rfl
  params := by
    show List.Forall₂ _ (params.map (Plan.Param.ofMember w)) (params.map (Plan.Param.ofMember w'))
    rw [List.forall₂_map_left_iff, List.forall₂_map_right_iff, List.forall₂_same]
    intro member _
    refine ⟨rfl, rfl, ?_⟩
    simp only [Plan.Param.ofMember]
    exact ParamType.resolve_alike member.type w w'

/-- The bodies of all functions, and the parts that their parameters play, are the same under two
witnesses exactly if the two names mention the same marks. Signatures differ at most in type
arguments, whatever the names. -/
theorem sameBodies_iff_sameMarks (w w' : String) :
    (SameBodies w w' ↔ SameMarks w w') ∧ (SameRoles w w' ↔ SameMarks w w') ∧
      ∀ graph intents node params placeholder, FunctionDecl.SameSignature w w'
        (.ofPlan (.ofNode graph intents w node params) placeholder)
        (.ofPlan (.ofNode graph intents w' node params) placeholder) := by
  have hback : SameBodies w w' → SameMarks w w' := SameBodies.sameMarks
  have hroles : SameMarks w w' → SameRoles w w' := SameMarks.sameRoles
  have hbodies : SameRoles w w' → SameBodies w w' := SameRoles.sameBodies
  exact ⟨⟨hback, fun h => hbodies (hroles h)⟩, ⟨fun h => hback (hbodies h), hroles⟩,
    sameSignature_ofNode w w'⟩

/-- A coin of the witness GoldTreasuryCap passes for a capability. -/
theorem not_sameBodies_capability_name :
    let params : List Member := [⟨"paid", "Coin<T>"⟩, ⟨"cap", "&mut TreasuryCap"⟩,
      ⟨"amount", "u64"⟩, ⟨"ctx", "&mut TxContext"⟩]
    let body (witness : String) : Body := (FunctionDecl.ofPlan (.ofNode ⟨[], []⟩ .empty witness
      ⟨"f-1", "coin::mint", none, .function params⟩ params) "").body
    body "GOLD" = .mintCoin "cap" "amount" "ctx" ∧
      body "GoldTreasuryCap" = .mintCoin "paid" "amount" "ctx" ∧
      (body "GoldTreasuryCap").lines ≠ (body "GOLD").lines ∧
      ¬ SameBodies "GoldTreasuryCap" "GOLD" := by
  intro params body
  have hgold : body "GOLD" = .mintCoin "cap" "amount" "ctx" := by decide
  have hcap : body "GoldTreasuryCap" = .mintCoin "paid" "amount" "ctx" := by decide
  have hlines : (body "GoldTreasuryCap").lines ≠ (body "GOLD").lines := by
    rw [hgold, hcap]
    decide
  exact ⟨hgold, hcap, hlines, fun h => hlines (h _ _ _ _ _)⟩

end Move

end MoveCanvas
