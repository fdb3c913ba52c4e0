import Mathlib.Data.List.Nodup
import MoveCanvas.Proofs.Plan.Classification
import MoveCanvas.Proofs.Plan.NodeOrder

/-! # Functions that feed a transfer

A plan flags a function if an edge leads from it to a node whose label contains the word `transfer`.
The intents of the same plan tell by other means which functions are transfers: by marker rules on
the lower case of the label and by mappings, and of function nodes alone. The flag and the intents
agree where both tests have the same outcome at the ends of a function's edges. By the built-in
rules every transfer has the word in the lower case of its label. -/

namespace MoveCanvas

theorem Intent.transfer_infix_of_ofLabel {label : String} (h : ofLabel label = .transfer) :
    "transfer".toList <:+: Text.lowercase label.toList := by
  rw [ofLabel_eq_ofLowered] at h
  unfold ofLowered at h
  split at h
  · next rule hfound =>
    have hmarkers : ∀ rule ∈ rules, rule.intent = .transfer →
        ∃ marker ∈ rule.markers, Text.occursIn "transfer".toList marker.toList = true := by decide
    obtain ⟨marker, hmarker, hword⟩ := hmarkers rule (List.mem_of_find?_eq_some hfound) h
    have hrule : rule.applies (Text.lowercase label.toList) = true := by
      simpa using List.find?_some hfound
    have happlies : Text.occursIn marker.toList (Text.lowercase label.toList) = true :=
      List.all_eq_true.mp hrule marker hmarker
    exact (Text.occursIn_iff.mp hword).trans (Text.occursIn_iff.mp happlies)
  · split at h
    · next hjoined =>
      have hword : Identifier.joined (Text.lowercase label.toList) =
          "transfer".toList ++ "_transfer".toList := hjoined
      have hall : "transfer".toList.all (decide <| Identifier.IsKept ·) = true := by decide
      have hkept : ∀ c ∈ "transfer".toList, Identifier.IsKept c :=
        fun c hmem => of_decide_eq_true (List.all_eq_true.mp hall c hmem)
      exact (Identifier.prefix_of_joined_eq_append hkept hword).isInfix
    · cases h

namespace Graph

/-- The node that a plan takes for a transfer when it follows an edge. -/
def Node.MentionsTransfer (node : Node) : Prop :=
  "transfer".toList <:+: node.label.toList

def Node.IsTransfer (intents : Intent.Table) (node : Node) : Prop :=
  (∃ params, node.kind = .function params) ∧ intents.classify node.label = .transfer

def Leads (graph : Graph) (id : String) (target : Node) : Prop :=
  target ∈ graph.nodes ∧ ∃ edge ∈ graph.edges, edge.source = id ∧ edge.target = target.id

variable {graph : Graph} {node target : Node}

theorem mem_functions_iff {params : List Member} :
    (node, params) ∈ graph.functions ↔ node ∈ graph.nodes ∧ node.kind = .function params := by
  have hkind : node.kind.params? = some params ↔ node.kind = .function params := by
    cases node.kind <;> simp [Kind.params?]
  rw [functions, mem_filterMap_kind_iff, hkind]

theorem leads_single_iff (hids : (graph.nodes.map (·.id)).Nodup) (hmem : node ∈ graph.nodes)
    {id : String} {sourceHandle targetHandle : Handle} :
    Leads ⟨graph.nodes, [⟨id, sourceHandle, node.id, targetHandle⟩]⟩ id target ↔ target = node := by
  constructor
  · rintro ⟨htarget, edge, hedge, -, hid⟩
    rw [List.mem_singleton.mp hedge] at hid
    exact List.inj_on_of_nodup_map hids htarget hmem hid.symm
  · rintro rfl
    exact ⟨hmem, _, List.mem_singleton_self _, rfl, rfl⟩

end Graph

namespace Plan

def Feeds (plan : Plan) (graph : Graph) (f : Function) : Prop :=
  ∃ edge ∈ graph.edges, edge.source = f.node ∧
    ∃ g ∈ plan.functions, g.node = edge.target ∧ g.intent = .transfer

/-- Exactly the functions that feed a transfer are flagged. -/
def FlagsTransfers (plan : Plan) (graph : Graph) : Prop :=
  ∀ f ∈ plan.functions, f.feedsTransfer = true ↔ plan.Feeds graph f

variable {name : String} {graph : Graph} {defaults : Defaults} {intents : Intent.Table}
  {plan : Plan} {id : String}

theorem reachesTransfer_iff (hids : (graph.nodes.map (·.id)).Nodup) :
    reachesTransfer graph id = true ↔
      ∃ target, graph.Leads id target ∧ target.MentionsTransfer := by
  simp only [reachesTransfer_eq_any, Graph.outgoing, List.any_filter, List.any_eq_true,
    Bool.and_eq_true, decide_eq_true_eq, Option.any_eq_true, Graph.node?_eq_some_iff hids, Text.occursIn_iff]
  constructor
  · rintro ⟨edge, hedge, hsource, target, ⟨htarget, hid⟩, hlabel⟩
    exact ⟨target, ⟨htarget, edge, hedge, hsource, hid.symm⟩, hlabel⟩
  · rintro ⟨target, ⟨htarget, edge, hedge, hsource, hid⟩, hlabel⟩
    exact ⟨edge, hedge, hsource, target, ⟨htarget, hid.symm⟩, hlabel⟩

theorem functions_of_ofGraph (h : ofGraph name graph defaults intents = .ok plan) :
    plan.functions = functionsOf graph intents plan.witness.name := by
  obtain ⟨witness, init, -, -, rfl⟩ := ofGraph_eq_ok_iff.mp h
  rfl

theorem forall_functions_iff (h : ofGraph name graph defaults intents = .ok plan)
    {q : Function → Prop} : (∀ f ∈ plan.functions, q f) ↔
      ∀ node params, (node, params) ∈ graph.functions →
        q (.ofNode graph intents plan.witness.name node params) := by
  rw [functions_of_ofGraph h, functionsOf, List.forall_mem_map]
  exact Prod.forall

theorem feeds_iff (h : ofGraph name graph defaults intents = .ok plan) (f : Function) :
    plan.Feeds graph f ↔ ∃ target, graph.Leads f.node target ∧ target.IsTransfer intents := by
  constructor
  · rintro ⟨edge, hedge, hsource, g, hg, hnode, hintent⟩
    rw [functions_of_ofGraph h] at hg
    obtain ⟨⟨target, params⟩, hmem, rfl⟩ := List.mem_map.mp hg
    obtain ⟨htarget, hkind⟩ := Graph.mem_functions_iff.mp hmem
    exact ⟨target, ⟨htarget, edge, hedge, hsource, hnode.symm⟩, ⟨params, hkind⟩, hintent⟩
  · rintro ⟨target, ⟨htarget, edge, hedge, hsource, hid⟩, ⟨params, hkind⟩, hintent⟩
    refine ⟨edge, hedge, hsource, .ofNode graph intents plan.witness.name target params, ?_,
      hid.symm, hintent⟩
    rw [functions_of_ofGraph h]
    exact List.mem_map.mpr ⟨(target, params), Graph.mem_functions_iff.mpr ⟨htarget, hkind⟩, rfl⟩

theorem flagsTransfers_iff_leads (hids : (graph.nodes.map (·.id)).Nodup)
    (h : ofGraph name graph defaults intents = .ok plan) :
    plan.FlagsTransfers graph ↔ ∀ node params, (node, params) ∈ graph.functions →
      ((∃ target, graph.Leads node.id target ∧ target.MentionsTransfer) ↔
        ∃ target, graph.Leads node.id target ∧ target.IsTransfer intents) := by
  rw [FlagsTransfers, forall_functions_iff h]
  refine forall₃_congr fun node params _ => ?_
  rw [feeds_iff h, ← reachesTransfer_iff hids]
  rfl

/-- Edges into parameters alone leave the witness to the fallback, so that there is a plan. -/
theorem exists_ofGraph_of_params (h : ofGraph name graph defaults intents = .ok plan)
    {edges : List Graph.Edge} (hedges : ∀ edge ∈ edges, edge.targetHandle = .param 0) :
    ∃ other, ofGraph name ⟨graph.nodes, edges⟩ defaults intents = .ok other := by
  cases hother : ofGraph name ⟨graph.nodes, edges⟩ defaults intents with
  | ok other => exact ⟨other, rfl⟩
  | error error =>
      rcases ofGraph_eq_error_iff.mp hother with ⟨hinits⟩ | ⟨-, hseveral⟩
      · have hinits' : graph.inits = _ := hinits
        rw [ofGraph_eq_error_iff.mpr (.severalInits hinits')] at h
        cases h
      · have hslot (init : String) : Graph.slotEdges ⟨graph.nodes, edges⟩ init = [] := by
          rw [Graph.slotEdges, List.filter_eq_nil_iff]
          intro edge hedge
          simp [hedges edge hedge]
        rw [hslot] at hseveral
        exact absurd hseveral (by decide)

theorem forall_edges_flagsTransfers_iff (hids : (graph.nodes.map (·.id)).Nodup)
    (h : ofGraph name graph defaults intents = .ok plan) :
    (∀ edges other, ofGraph name ⟨graph.nodes, edges⟩ defaults intents = .ok other →
        other.FlagsTransfers ⟨graph.nodes, edges⟩) ↔
      graph.functions = [] ∨
        ∀ node ∈ graph.nodes, (node.MentionsTransfer ↔ node.IsTransfer intents) := by
  have hids' (edges : List Graph.Edge) :
      ((Graph.mk graph.nodes edges).nodes.map (·.id)).Nodup := hids
  constructor
  · intro hall
    by_cases hnone : graph.functions = []
    · exact .inl hnone
    · refine .inr fun node hnode => ?_
      -- A single edge from any of the functions puts the node to both tests.
      obtain ⟨⟨source, params⟩, hsource⟩ := List.exists_mem_of_ne_nil _ hnone
      let edge : Graph.Edge := ⟨source.id, .returnValue, node.id, .param 0⟩
      have hparam : ∀ e ∈ [edge], e.targetHandle = .param 0 := List.forall_mem_singleton.mpr rfl
      obtain ⟨other, hother⟩ := exists_ofGraph_of_params h hparam
      have htests := (flagsTransfers_iff_leads (hids' [edge]) hother).mp (hall _ _ hother)
        source params hsource
      have hleads (target : Graph.Node) :
          Graph.Leads ⟨graph.nodes, [edge]⟩ source.id target ↔ target = node :=
        Graph.leads_single_iff hids hnode
      simpa only [hleads, exists_eq_left] using htests
  · rintro hnodes edges other hother
    refine (flagsTransfers_iff_leads (hids' edges) hother).mpr fun node params hfunction => ?_
    rcases hnodes with hnone | hagree
    · have hmem : (node, params) ∈ graph.functions := hfunction
      rw [hnone] at hmem
      cases hmem
    · exact exists_congr fun target => and_congr_right fun hleads => hagree target hleads.1

theorem feedsTransfer_of_feeds (hids : (graph.nodes.map (·.id)).Nodup)
    (h : ofGraph name graph defaults intents = .ok plan)
    (hintents : ∀ label, intents.classify label = .transfer → Intent.ofLabel label = .transfer)
    (hlower : ∀ node params, (node, params) ∈ graph.functions →
      Text.lowercase node.label.toList = node.label.toList) :
    ∀ f ∈ plan.functions, plan.Feeds graph f → f.feedsTransfer = true := by
  rw [forall_functions_iff h]
  intro node params hfunction hfeeds
  obtain ⟨target, hleads, ⟨targetParams, hkind⟩, hintent⟩ := (feeds_iff h _).mp hfeeds
  refine (reachesTransfer_iff hids).mpr ⟨target, hleads, ?_⟩
  have hword := Intent.transfer_infix_of_ofLabel (hintents target.label hintent)
  rwa [hlower target targetParams (Graph.mem_functions_iff.mpr ⟨hleads.1, hkind⟩)] at hword

/-- The flags of a plan are right exactly if, for every function node, an edge leads from it to a
node that mentions a transfer exactly if one leads to a transfer. They are right for whatever edges
exactly if the nodes that mention a transfer are the transfers. No transfer is missed where no
mapping makes one and the labels of the functions are in lower case. -/
theorem flagsTransfers_iff (hids : (graph.nodes.map (·.id)).Nodup)
    (h : ofGraph name graph defaults intents = .ok plan) :
    (plan.FlagsTransfers graph ↔ ∀ node params, (node, params) ∈ graph.functions →
      ((∃ target, graph.Leads node.id target ∧ target.MentionsTransfer) ↔
        ∃ target, graph.Leads node.id target ∧ target.IsTransfer intents)) ∧
    ((∀ edges other, ofGraph name ⟨graph.nodes, edges⟩ defaults intents = .ok other →
        other.FlagsTransfers ⟨graph.nodes, edges⟩) ↔
      graph.functions = [] ∨
        ∀ node ∈ graph.nodes, (node.MentionsTransfer ↔ node.IsTransfer intents)) ∧
    ((∀ label, intents.classify label = .transfer → Intent.ofLabel label = .transfer) →
      (∀ node params, (node, params) ∈ graph.functions →
        Text.lowercase node.label.toList = node.label.toList) →
      ∀ f ∈ plan.functions, plan.Feeds graph f → f.feedsTransfer = true) :=
  ⟨flagsTransfers_iff_leads hids h, forall_edges_flagsTransfers_iff hids h,
    feedsTransfer_of_feeds hids h⟩

/-- The one edge leads to a transfer, so that the flags are right. Another edge could lead to the
struct, whose label has the word too. -/
theorem flagsTransfers_iff_receipt :
    let graph : Graph := ⟨[⟨"f-1", "coin::mint", none, .function []⟩,
      ⟨"f-2", "transfer::transfer", none, .function []⟩,
      ⟨"s-1", "transfer_receipt", none, .struct ⟨[], .keyStore, false⟩⟩],
      [⟨"f-1", .returnValue, "f-2", .param 0⟩]⟩
    ∃ plan, (graph.nodes.map (·.id)).Nodup ∧ ofGraph "m" graph .builtIn .empty = .ok plan ∧
      plan.FlagsTransfers graph ∧
      ¬ ∀ edges other, ofGraph "m" ⟨graph.nodes, edges⟩ .builtIn .empty = .ok other →
        other.FlagsTransfers ⟨graph.nodes, edges⟩ := by
  intro graph
  have hids : (graph.nodes.map (·.id)).Nodup := by decide
  obtain ⟨plan, hplan⟩ : ∃ plan, ofGraph "m" graph .builtIn .empty = .ok plan := ⟨_, rfl⟩
  obtain ⟨hflags, hedges, -⟩ := flagsTransfers_iff hids hplan
  refine ⟨plan, hids, hplan, hflags.mpr fun node params _ => ?_, fun hall => ?_⟩
  · -- The edge leads to the transfer alone, which passes both tests.
    have htarget {target : Graph.Node} (hleads : graph.Leads node.id target) :
        target.MentionsTransfer ∧ target.IsTransfer .empty := by
      obtain ⟨hmem, edge, hedge, -, hid⟩ := hleads
      rw [List.mem_singleton.mp hedge] at hid
      have hnode : target = ⟨"f-2", "transfer::transfer", none, .function []⟩ :=
        List.inj_on_of_nodup_map hids hmem (by decide) hid.symm
      rw [hnode]
      exact ⟨Text.occursIn_iff.mp (by decide), ⟨[], rfl⟩, by decide +kernel⟩
    exact exists_congr fun target => and_congr_right fun hleads =>
      iff_of_true (htarget hleads).1 (htarget hleads).2
  · rcases hedges.mp hall with hnone | hagree
    · exact absurd hnone (by decide)
    · have hreceipt := hagree ⟨"s-1", "transfer_receipt", none, .struct ⟨[], .keyStore, false⟩⟩
        (by decide)
      obtain ⟨⟨params, hkind⟩, -⟩ := hreceipt.mp (Text.occursIn_iff.mp (by decide))
      cases hkind

/-- A label with capitals is one of a transfer, but the function that feeds it is not flagged. -/
theorem not_flagsTransfers_capitals :
    let graph : Graph := ⟨[⟨"f-1", "coin::mint", none, .function []⟩,
      ⟨"f-2", "Transfer::Transfer", none, .function []⟩],
      [⟨"f-1", .returnValue, "f-2", .param 0⟩]⟩
    ∃ plan, (graph.nodes.map (·.id)).Nodup ∧ ofGraph "m" graph .builtIn .empty = .ok plan ∧
      plan.functions.map (·.intent) = [.mintCoin, .transfer] ∧
      plan.functions.map (·.feedsTransfer) = [false, false] ∧ ¬ plan.FlagsTransfers graph := by
  intro graph
  have hintents : (functionsOf graph .empty "MY_COIN").map (·.intent) = [.mintCoin, .transfer] := by
    decide +kernel
  refine ⟨_, by decide, rfl, hintents, rfl, fun hflags => ?_⟩
  have hflag := (hflags _ List.mem_cons_self).mpr ⟨_, List.mem_singleton_self _, rfl, _,
    List.mem_cons_of_mem _ List.mem_cons_self, rfl,
    List.head_eq_of_cons_eq (List.tail_eq_of_cons_eq hintents)⟩
  exact absurd hflag (by decide)

end Plan

end MoveCanvas
