import MoveCanvas.Proofs.Move.BodyRoles
import MoveCanvas.Proofs.Move.Declarations

/-! # The parameters that a function body names

A body names one parameter for each role it has to fill. A role asks for a kind of parameter, told
from the declared type or from the name; the body looks for it with a test on the resolved type. A
padded `u64` or `address` escapes the test, and a type that merely mentions a capability or a context
passes it. The body names the first parameter of the kind wherever the first parameter that is of
the kind or passes the test does both. Where no parameter passes, the body falls back to a
conventional name, which may or may not be declared. -/

namespace MoveCanvas

namespace Move

inductive Role
  | capability
  | amount
  | context
  | object
  | recipient
  | called (name : String)
deriving DecidableEq, Repr

namespace Role

/-- The test by which a body looks for the parameter of a role. -/
def finds : Role → Plan.Param → Bool
  | .capability, p => Body.isCapability p.resolved
  | .amount, p => p.resolved = "u64"
  | .context, p => Body.isContext p.resolved
  | .object, p => Body.isObject p.resolved
  | .recipient, p => p.resolved = "address"
  | .called name, p => p.name = name

def spells (word declared : String) : Bool :=
  Text.trim declared.toList = word.toList

/-- The type has this name, whatever its reference mark, its argument and the blanks around it. -/
def isNamed (name declared : String) : Bool :=
  ParamType.base declared.toList = name.toList

def suits : Role → Plan.Param → Bool
  | .capability, p => isNamed "TreasuryCap" p.declared
  | .amount, p => spells "u64" p.declared
  | .context, p => isNamed "TxContext" p.declared
  | .object, p => !spells "address" p.declared && !isNamed "TxContext" p.declared
  | .recipient, p => spells "address" p.declared
  | .called name, p => p.name = name

def conventional : Role → String
  | .capability => "cap"
  | .amount => "amount"
  | .context => "ctx"
  | .object => "obj"
  | .recipient => "recipient"
  | .called name => name

/-- The first parameter that is of the kind or passes the test does both. -/
def IsFoundFirst (role : Role) (params : List Plan.Param) : Prop :=
  ∃ p, params.find? (fun p => role.finds p || role.suits p) = some p ∧ role.finds p = true ∧
    role.suits p = true

/-- No parameter passes the test, and the first of the kind has the conventional name. -/
def IsNamedByConvention (role : Role) (params : List Plan.Param) : Prop :=
  params.find? role.finds = none ∧
    (params.find? role.suits).map (·.name) = some role.conventional

end Role

/-- The identifiers of a body, each with the role it stands for. -/
def Body.uses : Body → List (Role × String)
  | .mintCoin capability amount context =>
    [(.capability, capability), (.amount, amount), (.context, context)]
  | .mintNft capability name url context =>
    capability.toList.map (Role.capability, ·) ++
      [(.called "name", name), (.called "url", url), (.context, context)]
  | .transfer object recipient => [(.object, object), (.recipient, recipient)]
  | .placeholder _ => []

/-- Every identifier of the body is a declared name, and the first parameter of the kind that its place
asks for has this name. -/
structure FunctionDecl.NamesFirst (decl : FunctionDecl) : Prop where
  declared : ∀ part ∈ decl.body.parts, part ∈ decl.params.map (·.name)
  first : ∀ use ∈ decl.body.uses, (decl.params.find? use.1.suits).map (·.name) = some use.2

def needs : Intent → List Role
  | .mintCoin => [.capability, .amount, .context]
  | .mintNft => [.called "name", .called "url", .context]
  | .transfer => [.object, .recipient]
  | .unrecognized => []

/-- The function has a body of its own and declares a parameter for each role that it needs. -/
structure IsSupplied (f : Plan.Function) : Prop where
  recognized : f.intent ≠ .unrecognized
  supplied : ∀ role ∈ needs f.intent, ∃ p ∈ f.params, role.suits p = true

/-! ## What a body looks for -/

section Lookup

variable {α : Type} {p q : α → Bool} {l : List α} {a : α}

theorem find?_of_find?_or (h : l.find? (fun a => p a || q a) = some a) (hp : p a = true) :
    l.find? p = some a := by
  obtain ⟨-, before, after, rfl, hbefore⟩ := List.find?_eq_some_iff_append.mp h
  refine List.find?_eq_some_iff_append.mpr ⟨hp, before, after, rfl, ?_⟩
  intro b hb
  have hneither := hbefore b hb
  rw [Bool.not_or, Bool.and_eq_true] at hneither
  exact hneither.1

theorem find?_or_of_find? (hp : l.find? p = some a) (hq : l.find? q = some a) :
    l.find? (fun a => p a || q a) = some a := by
  obtain ⟨hpa, before, after, rfl, hbefore⟩ := List.find?_eq_some_iff_append.mp hp
  -- A hit of `q` before it would be `a` itself, and so a hit of `p`.
  have hnone : before.find? q = none := by
    cases hfound : before.find? q with
    | none => rfl
    | some b =>
        rw [List.find?_append, hfound] at hq
        obtain rfl := Option.some.inj hq
        have hnot := hbefore b (List.mem_of_find?_eq_some hfound)
        rw [hpa] at hnot
        cases hnot
  refine List.find?_eq_some_iff_append.mpr ⟨by rw [hpa, Bool.true_or], before, after, rfl, ?_⟩
  intro b hb
  rw [Bool.not_or, Bool.and_eq_true, hbefore b hb, Bool.not_eq_true']
  exact ⟨rfl, by simpa using List.find?_eq_none.mp hnone b hb⟩

end Lookup

namespace Role

variable {role : Role} {params : List Plan.Param}

theorem IsFoundFirst.exists_find? (h : role.IsFoundFirst params) :
    ∃ p, params.find? role.finds = some p ∧ params.find? role.suits = some p := by
  obtain ⟨p, hfirst, hfinds, hsuits⟩ := h
  have hswap : params.find? (fun p => role.suits p || role.finds p) = some p := by
    simpa only [Bool.or_comm] using hfirst
  exact ⟨p, find?_of_find?_or hfirst hfinds, find?_of_find?_or hswap hsuits⟩

def identifier (role : Role) (params : List Plan.Param) : String :=
  ((params.find? role.finds).map (·.name)).getD role.conventional

theorem name_suits_eq_identifier (h : role.IsFoundFirst params ∨ role.IsNamedByConvention params) :
    (params.find? role.suits).map (·.name) = some (role.identifier params) := by
  rcases h with hfound | ⟨hnone, hname⟩
  · obtain ⟨p, hfinds, hsuits⟩ := hfound.exists_find?
    rw [identifier, hfinds, hsuits]
    rfl
  · rw [identifier, hnone, hname]
    rfl

theorem found_or_conventional (hnames : (params.map (·.name)).Nodup)
    (h : (params.find? role.suits).map (·.name) = some (role.identifier params)) :
    role.IsFoundFirst params ∨ role.IsNamedByConvention params := by
  cases hfound : params.find? role.finds with
  | none =>
      rw [identifier, hfound] at h
      exact Or.inr ⟨hfound, h⟩
  | some p =>
      left
      obtain ⟨q, hq, hname⟩ := Option.map_eq_some_iff.mp h
      rw [identifier, hfound] at hname
      obtain rfl : q = p := List.inj_on_of_nodup_map hnames (List.mem_of_find?_eq_some hq)
        (List.mem_of_find?_eq_some hfound) hname
      exact ⟨q, find?_or_of_find? hfound hq, List.find?_some hfound, List.find?_some hq⟩

end Role

theorem Body.mem_uses_ofPlan {f : Plan.Function} {placeholder : String} {use : Role × String}
    (h : use ∈ (Body.ofPlan f placeholder).uses) :
    use.2 = use.1.identifier f.params ∧
      (use.1 ∈ needs f.intent ∨ ∃ p ∈ f.params, use.1.finds p = true) := by
  unfold ofPlan at h
  cases hintent : f.intent with
  | mintCoin =>
      rw [hintent] at h
      simp only [uses, List.mem_cons, List.not_mem_nil, or_false] at h
      rcases h with rfl | rfl | rfl
      all_goals exact ⟨rfl, Or.inl (by simp [needs])⟩
  | mintNft =>
      rw [hintent] at h
      simp only [uses, List.mem_append, List.mem_map, Option.mem_toList] at h
      rcases h with ⟨name, hname, rfl⟩ | h
      -- The capability is not needed, and the body mentions it only where it is found.
      · obtain ⟨p, hp, -⟩ := Option.map_eq_some_iff.mp hname
        refine ⟨?_, Or.inr ⟨p, List.mem_of_find?_eq_some hp, List.find?_some hp⟩⟩
        show name = ((f.params.find? _).map _).getD _
        exact (congrArg (Option.getD · _) hname).symm
      · simp only [List.mem_cons, List.not_mem_nil, or_false] at h
        rcases h with rfl | rfl | rfl
        all_goals exact ⟨rfl, Or.inl (by simp [needs])⟩
  | transfer =>
      rw [hintent] at h
      simp only [uses, List.mem_cons, List.not_mem_nil, or_false] at h
      rcases h with rfl | rfl
      all_goals exact ⟨rfl, Or.inl (by simp [needs])⟩
  | unrecognized =>
      rw [hintent] at h
      cases h

theorem Body.mem_roles_of_mem_needs {f : Plan.Function} {role : Role} (placeholder : String)
    (h : role ∈ needs f.intent) : role ∈ (Body.ofPlan f placeholder).uses.map (·.1) := by
  unfold ofPlan
  cases hintent : f.intent with
  | mintCoin =>
      rw [hintent] at h
      exact h
  | mintNft =>
      rw [hintent] at h
      rw [uses, List.map_append]
      exact List.mem_append_right _ h
  | transfer =>
      rw [hintent] at h
      exact h
  | unrecognized =>
      rw [hintent] at h
      cases h

theorem Body.parts_ofPlan {f : Plan.Function} {placeholder : String}
    (h : f.intent ≠ .unrecognized) :
    (Body.ofPlan f placeholder).parts = (Body.ofPlan f placeholder).uses.map (·.2) := by
  unfold ofPlan
  cases hintent : f.intent with
  | mintCoin => rfl
  | mintNft =>
      simp only [parts, uses, List.map_append, List.map_map]
      rw [Function.comp_def, List.map_id']
      rfl
  | transfer => rfl
  | unrecognized => exact absurd hintent h

theorem FunctionDecl.namesFirst_iff {f : Plan.Function} {placeholder : String}
    (h : f.intent ≠ .unrecognized) :
    (ofPlan f placeholder).NamesFirst ↔ ∀ use ∈ (ofPlan f placeholder).body.uses,
      (f.params.find? use.1.suits).map (·.name) = some (use.1.identifier f.params) := by
  constructor
  · intro hnames use huse
    rw [← (Body.mem_uses_ofPlan huse).1]
    exact hnames.first use huse
  · intro hfirst
    have hall : ∀ use ∈ (ofPlan f placeholder).body.uses,
        (f.params.find? use.1.suits).map (·.name) = some use.2 := by
      intro use huse
      rw [(Body.mem_uses_ofPlan huse).1]
      exact hfirst use huse
    refine ⟨?_, hall⟩
    intro part hpart
    have hparts : (ofPlan f placeholder).body.parts =
        (ofPlan f placeholder).body.uses.map (·.2) := Body.parts_ofPlan h
    rw [hparts] at hpart
    obtain ⟨use, huse, rfl⟩ := List.mem_map.mp hpart
    obtain ⟨p, hp, hname⟩ := Option.map_eq_some_iff.mp (hall use huse)
    exact List.mem_map.mpr ⟨p, List.mem_of_find?_eq_some hp, hname⟩

/-! ## Types that no test misreads -/

/-- A type that is no padded word, and that mentions no capability or context unless it is one. -/
structure IsPlain (declared : String) : Prop where
  unpadded : ∀ word ∈ ["u64", "address"], Role.spells word declared = true → declared = word
  unmarked : ∀ mark ∈ ["TreasuryCap", "TxContext"],
    Text.occursIn mark.toList declared.toList = true → Role.isNamed mark declared = true

def IsUnmarked (w : String) : Prop :=
  ∀ mark ∈ ["TreasuryCap", "TxContext"], Text.occursIn mark.toList w.toList = false

section Plain

variable {declared w word mark : String}

theorem resolve_eq_word_iff (h : word ∈ ["u64", "address"]) :
    ParamType.resolve declared w = word ↔ declared = word := by
  have htable : ∀ word ∈ ["u64", "address"], '<' ∉ word.toList ∧ "&mut TxContext" ≠ word ∧
      ParamType.form word.toList = .verbatim := by decide
  obtain ⟨hopen, hcontext, hverbatim⟩ := htable word h
  constructor
  · intro hresolve
    unfold ParamType.resolve at hresolve
    rcases ParamType.form_cases declared.toList with
      ⟨reference, hform, -⟩ | ⟨reference, hform, -⟩ | ⟨hform, -⟩ | hform
    · rw [hform, ParamType.render_capability] at hresolve
      exact absurd hresolve (ParamType.argument_ne hopen _ w)
    · rw [hform, ParamType.render_coin] at hresolve
      exact absurd hresolve (ParamType.argument_ne hopen _ w)
    · rw [hform] at hresolve
      exact absurd hresolve hcontext
    · rw [hform] at hresolve
      exact hresolve
  · rintro rfl
    exact ParamType.resolve_eq_of_verbatim w hverbatim

theorem IsPlain.decide_resolve (hplain : IsPlain declared) (h : word ∈ ["u64", "address"]) :
    decide (ParamType.resolve declared w = word) = Role.spells word declared := by
  have htrim : ∀ word ∈ ["u64", "address"], Role.spells word word = true := by decide
  rw [Bool.eq_iff_iff, decide_eq_true_eq, resolve_eq_word_iff h]
  constructor
  · rintro rfl
    exact htrim declared h
  · exact hplain.unpadded word h

theorem occursIn_of_isNamed (h : Role.isNamed mark declared = true) :
    Text.occursIn mark.toList declared.toList = true := by
  rw [Text.occursIn_iff, ← of_decide_eq_true h]
  exact ParamType.base_infix_self declared.toList

theorem IsPlain.occursIn_resolve (hplain : IsPlain declared) (hw : IsUnmarked w)
    (h : mark ∈ ["TreasuryCap", "TxContext"]) :
    Text.occursIn mark.toList (ParamType.resolve declared w).toList =
      Role.isNamed mark declared := by
  have htable : ∀ mark ∈ ["TreasuryCap", "TxContext"],
      '<' ∉ mark.toList ∧ '>' ∉ mark.toList ∧ mark.toList ≠ [] ∧
        "Coin".toList ≠ mark.toList ∧ "T".toList ≠ mark.toList ∧
        Text.occursIn mark.toList "&mut TxContext".toList =
          decide ("TxContext".toList = mark.toList) := by decide
  obtain ⟨hopen, hclose, hne, hcoin, hplaceholder, hcontext⟩ := htable mark h
  unfold ParamType.resolve
  rcases ParamType.form_cases declared.toList with
    ⟨reference, hform, hbase⟩ | ⟨reference, hform, hbase⟩ | ⟨hform, hbase⟩ | hform
  · have hlead : ∀ mark ∈ ["TreasuryCap", "TxContext"],
        Text.occursIn mark.toList (reference.mark ++ "TreasuryCap").toList =
          decide ("TreasuryCap".toList = mark.toList) := by
      cases reference <;> decide
    rw [hform, ParamType.render_capability, ParamType.occursIn_argument hopen hclose hne,
      hlead mark h, hw mark h, Bool.or_false, Role.isNamed, hbase]
  · have hlead : ∀ mark ∈ ["TreasuryCap", "TxContext"],
        Text.occursIn mark.toList (reference.mark ++ "Coin").toList = false := by
      cases reference <;> decide
    have hnot : Role.isNamed mark declared = false := by
      rcases hbase with hbase | hbase
      · rw [Role.isNamed, hbase, decide_eq_false hcoin]
      · rw [Role.isNamed, hbase, decide_eq_false hplaceholder]
    rw [hform, ParamType.render_coin, ParamType.occursIn_argument hopen hclose hne,
      hlead mark h, hw mark h, hnot, Bool.or_false]
  · rw [hform, Role.isNamed, hbase]
    exact hcontext
  · rw [hform, Bool.eq_iff_iff]
    exact ⟨hplain.unmarked mark h, occursIn_of_isNamed⟩

theorem IsPlain.finds_eq_suits {member : Member} (hplain : IsPlain member.type)
    (hw : IsUnmarked w) (role : Role) :
    role.finds (.ofMember w member) = role.suits (.ofMember w member) := by
  have hcapability : Body.isCapability (ParamType.resolve member.type w) =
      Role.isNamed "TreasuryCap" member.type := hplain.occursIn_resolve hw List.mem_cons_self
  have hcontext : Body.isContext (ParamType.resolve member.type w) =
      Role.isNamed "TxContext" member.type :=
    hplain.occursIn_resolve hw (List.mem_cons_of_mem _ List.mem_cons_self)
  have hamount : decide (ParamType.resolve member.type w = "u64") =
      Role.spells "u64" member.type := hplain.decide_resolve List.mem_cons_self
  have haddress : decide (ParamType.resolve member.type w = "address") =
      Role.spells "address" member.type :=
    hplain.decide_resolve (List.mem_cons_of_mem _ List.mem_cons_self)
  cases role with
  | capability => simp only [Role.finds, Role.suits, Plan.Param.ofMember, hcapability]
  | amount =>
      simp only [Role.finds, Role.suits, Plan.Param.ofMember]
      exact hamount
  | context => simp only [Role.finds, Role.suits, Plan.Param.ofMember, hcontext]
  | object =>
      simp only [Role.finds, Role.suits, Plan.Param.ofMember, Body.isObject, bne, beq_eq_decide,
        hcontext, haddress]
  | recipient =>
      simp only [Role.finds, Role.suits, Plan.Param.ofMember]
      exact haddress
  | called name => rfl

end Plain

theorem Role.isFoundFirst_of_agree {role : Role} {params : List Plan.Param}
    (hagree : ∀ p ∈ params, role.finds p = role.suits p)
    (hsuits : ∃ p ∈ params, role.suits p = true) : role.IsFoundFirst params := by
  obtain ⟨p, hp, hsuits⟩ := hsuits
  obtain ⟨first, hfirst⟩ : ∃ first,
      params.find? (fun p => role.finds p || role.suits p) = some first := by
    rw [← Option.isSome_iff_exists, List.find?_isSome]
    exact ⟨p, hp, by rw [hsuits, Bool.or_true]⟩
  have hsame := hagree first (List.mem_of_find?_eq_some hfirst)
  have hboth : role.suits first = true := by
    simpa [hsame] using List.find?_some hfirst
  exact ⟨first, hfirst, hsame.trans hboth, hboth⟩

theorem Role.isFoundFirst_of_mem_uses {f : Plan.Function} {placeholder : String}
    {use : Role × String} (h : IsSupplied f) (huse : use ∈ (Body.ofPlan f placeholder).uses)
    (hagree : ∀ p ∈ f.params, use.1.finds p = use.1.suits p) : use.1.IsFoundFirst f.params := by
  apply isFoundFirst_of_agree hagree
  rcases (Body.mem_uses_ofPlan huse).2 with hneeded | ⟨p, hp, hfound⟩
  · exact h.supplied use.1 hneeded
  · exact ⟨p, hp, hagree p hp ▸ hfound⟩

/-- A body fills each role it needs. Where these parameters are declared it names, for each role, the
first of the kind if this one is found first, or if it has the conventional name while none is found.
Among distinct names there is no other way. Under an unmarked witness plain types suffice. -/
theorem namesFirst_ofNode (graph : Graph) (intents : Intent.Table) (w : String) (node : Graph.Node)
    (params : List Member) (placeholder : String)
    (h : IsSupplied (.ofNode graph intents w node params)) :
    let f : Plan.Function := .ofNode graph intents w node params
    let decl := FunctionDecl.ofPlan f placeholder
    (∀ role ∈ needs f.intent, role ∈ decl.body.uses.map (·.1)) ∧
      ((∀ use ∈ decl.body.uses,
        use.1.IsFoundFirst f.params ∨ use.1.IsNamedByConvention f.params) → decl.NamesFirst) ∧
      ((params.map (·.name)).Nodup → decl.NamesFirst → ∀ use ∈ decl.body.uses,
        use.1.IsFoundFirst f.params ∨ use.1.IsNamedByConvention f.params) ∧
      ((∀ member ∈ params, IsPlain member.type) → IsUnmarked w → decl.NamesFirst) := by
  intro f decl
  have hfirst : decl.NamesFirst ↔ ∀ use ∈ decl.body.uses,
      (f.params.find? use.1.suits).map (·.name) = some (use.1.identifier f.params) :=
    FunctionDecl.namesFirst_iff h.recognized
  have hsufficient : (∀ use ∈ decl.body.uses,
      use.1.IsFoundFirst f.params ∨ use.1.IsNamedByConvention f.params) → decl.NamesFirst := by
    intro hroles
    apply hfirst.mpr
    intro use huse
    exact Role.name_suits_eq_identifier (hroles use huse)
  refine ⟨fun role => Body.mem_roles_of_mem_needs placeholder, hsufficient, ?_, ?_⟩
  · intro hnodup hnames use huse
    apply Role.found_or_conventional
    · show ((params.map _).map _).Nodup
      rw [List.map_map]
      exact hnodup
    · exact hfirst.mp hnames use huse
  · intro hplain hw
    apply hsufficient
    intro use huse
    left
    apply Role.isFoundFirst_of_mem_uses h huse
    intro p hp
    obtain ⟨member, hmember, rfl⟩ := List.mem_map.mp hp
    exact (hplain member hmember).finds_eq_suits hw use.1

theorem namesFirst_ofNode_treasury :
    let params : List Member := [⟨"context", " TxContext "⟩, ⟨"fee", "Coin<T>"⟩,
      ⟨"value", "u64"⟩, ⟨"treasury", "TreasuryCap<GOLD>"⟩, ⟨"spare", "&TreasuryCap"⟩]
    let f : Plan.Function := .ofNode ⟨[], []⟩ .empty "GOLD"
      ⟨"f-1", "coin::mint", none, .function params⟩ params
    IsSupplied f ∧ (FunctionDecl.ofPlan f "").body = .mintCoin "treasury" "value" "context" ∧
      (FunctionDecl.ofPlan f "").NamesFirst := by
  intro params f
  have hsupplied : IsSupplied f := ⟨by decide, by decide⟩
  refine ⟨hsupplied, by decide, (namesFirst_ofNode _ _ _ _ params "" hsupplied).2.2.2 ?_ ?_⟩
  · have hplain : ∀ member ∈ params,
        (∀ word ∈ ["u64", "address"],
          Role.spells word member.type = true → member.type = word) ∧
        ∀ mark ∈ ["TreasuryCap", "TxContext"],
          Text.occursIn mark.toList member.type.toList = true →
            Role.isNamed mark member.type = true := by decide
    intro member hmember
    exact ⟨(hplain member hmember).1, (hplain member hmember).2⟩
  · have hw : ∀ mark ∈ ["TreasuryCap", "TxContext"],
        Text.occursIn mark.toList "GOLD".toList = false := by decide
    exact hw

/-- A padded amount is not found, and the body names one that is not declared. -/
theorem not_namesFirst_padded_amount :
    let params : List Member := [⟨"cap", "&mut TreasuryCap"⟩, ⟨"qty", " u64 "⟩,
      ⟨"ctx", "&mut TxContext"⟩]
    let f : Plan.Function := .ofNode ⟨[], []⟩ .empty "GOLD"
      ⟨"f-1", "coin::mint", none, .function params⟩ params
    IsSupplied f ∧ (FunctionDecl.ofPlan f "").body = .mintCoin "cap" "amount" "ctx" ∧
      ¬ (FunctionDecl.ofPlan f "").NamesFirst := by
  intro params f
  have hbody : (FunctionDecl.ofPlan f "").body = .mintCoin "cap" "amount" "ctx" := by decide
  refine ⟨⟨by decide, by decide⟩, hbody, ?_⟩
  intro hnames
  have hamount : "amount" ∈ (FunctionDecl.ofPlan f "").params.map (·.name) := by
    apply hnames.declared
    rw [hbody]
    decide
  exact absurd hamount (by decide)

end Move

end MoveCanvas
