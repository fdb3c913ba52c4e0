import MoveCanvas.Proofs.Import.WrittenCanvas

/-! # Accepting an accepted canvas again

The wiring is a function of the nodes and looks at no edge. It repeats an edge of the response
exactly if the response carries an edge of the wiring, and it is added once more each time that an
accepted canvas is written and accepted again. -/

namespace MoveCanvas

/-- What an edge connects, apart from its id. -/
def Canvas.Edge.ends (edge : Edge) : String × Option String × String × Option String :=
  (edge.source, edge.sourceHandle, edge.target, edge.targetHandle)

namespace Wiring

/-- The ends of the edges that are drawn between nodes: from the first treasury capability to each
coin mint, and from each mint to each transfer. -/
inductive Draws (nodes : List Canvas.Node) : String × Option String × String × Option String → Prop
  | capability {source target : Canvas.Node} (hsource : (capabilities nodes).head? = some source)
      (htarget : target ∈ coinMints nodes) :
      Draws nodes (source.id, some "obj-main", target.id, some "param-0")
  | flow {source target : Canvas.Node}
      (hsource : source ∈ coinMints nodes ∨ source ∈ nftMints nodes)
      (htarget : target ∈ transfers nodes) :
      Draws nodes (source.id, some "return-val", target.id, some "param-0")

variable {nodes sources targets : List Canvas.Node}
  {ends : String × Option String × String × Option String}

theorem mem_ends_join_iff {tag handle : String} :
    ends ∈ (join tag handle sources targets).map Canvas.Edge.ends ↔
      ∃ source ∈ sources, ∃ target ∈ targets,
        ends = (source.id, some handle, target.id, some "param-0") := by
  constructor
  · intro h
    obtain ⟨edge, hedge, rfl⟩ := List.mem_map.mp h
    obtain ⟨source, hsource, hedge⟩ := List.mem_flatMap.mp hedge
    obtain ⟨target, htarget, rfl⟩ := List.mem_map.mp hedge
    exact ⟨source, hsource, target, htarget, rfl⟩
  · rintro ⟨source, hsource, target, htarget, rfl⟩
    refine List.mem_map.mpr ⟨edge tag handle source target, ?_, rfl⟩
    exact List.mem_flatMap.mpr ⟨source, hsource, List.mem_map_of_mem htarget⟩

theorem mem_take_one_iff {source : Canvas.Node} :
    source ∈ sources.take 1 ↔ sources.head? = some source := by
  cases sources with
  | nil => simp
  | cons first sources => simp [eq_comm]

theorem draws_iff : Draws nodes ends ↔ ends ∈ (inferred nodes).map Canvas.Edge.ends := by
  rw [inferred, List.map_append, List.map_append, List.mem_append, List.mem_append,
    mem_ends_join_iff, mem_ends_join_iff, mem_ends_join_iff]
  constructor
  · intro h
    cases h with
    | capability hsource htarget =>
        exact .inl (.inl ⟨_, mem_take_one_iff.mpr hsource, _, htarget, rfl⟩)
    | flow hsource htarget =>
        rcases hsource with hsource | hsource
        · exact .inl (.inr ⟨_, hsource, _, htarget, rfl⟩)
        · exact .inr ⟨_, hsource, _, htarget, rfl⟩
  · rintro ((⟨source, hsource, target, htarget, rfl⟩ | ⟨source, hsource, target, htarget, rfl⟩) |
      ⟨source, hsource, target, htarget, rfl⟩)
    · exact .capability (mem_take_one_iff.mp hsource) htarget
    · exact .flow (.inl hsource) htarget
    · exact .flow (.inr hsource) htarget

theorem repeats_iff (edges : List Canvas.Edge) :
    (∃ edge ∈ inferred nodes, ∃ carried ∈ edges, carried.ends = edge.ends) ↔
      ∃ carried ∈ edges, Draws nodes carried.ends := by
  constructor
  · rintro ⟨edge, hedge, carried, hcarried, hends⟩
    exact ⟨carried, hcarried, draws_iff.mpr (hends ▸ List.mem_map_of_mem hedge)⟩
  · rintro ⟨carried, hcarried, hdraws⟩
    obtain ⟨edge, hedge, hends⟩ := List.mem_map.mp (draws_iff.mp hdraws)
    exact ⟨edge, hedge, carried, hcarried, hends.symm⟩

end Wiring

namespace Response

theorem accept_write {response : String} {canvas : Canvas} {graph : Graph}
    (h : parse response = .ok canvas) (hgraph : canvas.toGraph = .ok graph)
    (hreads : canvas.ReadsBack) {layout : Json.Layout} (hlayout : layout.IsBlank) :
    ∃ again, accept (String.ofList (Json.write layout 0 (wired canvas).toValue)) = .ok again ∧
      again.canvas = wired (wired canvas) ∧
      again.inferred = (Wiring.inferred canvas.nodes).length := by
  have hparse : parse (String.ofList (Json.write layout 0 (wired canvas).toValue)) =
      .ok (wired canvas) := parse_write_of_parse h hreads _ hlayout
  rw [accept_of_parse hparse, toGraph_wired, hgraph]
  exact ⟨_, rfl, rfl, rfl⟩

theorem wired_wired_eq_iff (canvas : Canvas) :
    wired (wired canvas) = wired canvas ↔ (Wiring.inferred canvas.nodes).length = 0 := by
  rw [List.length_eq_zero_iff]
  constructor
  · intro h
    have hedges : (wired canvas).edges ++ Wiring.inferred canvas.nodes = (wired canvas).edges :=
      congrArg Canvas.edges h
    exact List.append_right_eq_self.mp hedges
  · intro h
    have hedges : (wired canvas).edges ++ Wiring.inferred canvas.nodes = (wired canvas).edges :=
      List.append_right_eq_self.mpr h
    exact congrArg (Canvas.mk canvas.nodes) hedges

/-- An accepted canvas has the edges of its response and after them the wiring of its nodes. The
wiring repeats an edge exactly if the response carries an edge that the wiring draws. Written and
accepted again, the canvas gets the same wiring once more; it stays as it is, with no edge inferred,
exactly if none was inferred at first. -/
theorem accept_write_accepted {response : String} {imported : Imported}
    (h : accept response = .ok imported) :
    ∃ own, parse response = .ok own ∧ imported.canvas = wired own ∧
      ((∃ edge ∈ Wiring.inferred own.nodes, ∃ carried ∈ own.edges, carried.ends = edge.ends) ↔
        ∃ carried ∈ own.edges, Wiring.Draws own.nodes carried.ends) ∧
      (imported.canvas.ReadsBack → ∀ layout : Json.Layout, layout.IsBlank →
        ∃ again, accept (String.ofList (Json.write layout 0 imported.canvas.toValue)) = .ok again ∧
          again.canvas.nodes = imported.canvas.nodes ∧
          again.canvas.edges = imported.canvas.edges ++ Wiring.inferred own.nodes ∧
          again.inferred = imported.inferred ∧
          (again.canvas = imported.canvas ∧ again.inferred = 0 ↔ imported.inferred = 0)) := by
  obtain ⟨own, graph, hparse, hgraph, hcanvas, hinferred⟩ := parse_of_accept h
  refine ⟨own, hparse, hcanvas, Wiring.repeats_iff own.edges, fun hreads layout hlayout => ?_⟩
  rw [hcanvas] at hreads ⊢
  obtain ⟨again, haccept, hwired, hcount⟩ := accept_write hparse hgraph hreads hlayout
  refine ⟨again, haccept, by rw [hwired]; rfl, by rw [hwired]; rfl, hcount.trans hinferred.symm, ?_⟩
  rw [hwired, wired_wired_eq_iff, hcount, hinferred, and_self]

theorem accept_write_accepted_flow :
    let canvas : Canvas := ⟨[("f-1", "coin::mint"), ("f-2", "transfer::transfer")].map
      fun (id, label) => ⟨id, some Canvas.functionType, .null, .ofLabel label, false⟩, []⟩
    ∃ imported again, accept canvas.toValue.compact = .ok imported ∧
      imported.canvas.edges.length = 1 ∧ imported.canvas.ReadsBack ∧
      accept imported.canvas.toValue.compact = .ok again ∧ again.canvas.edges.length = 2 := by
  intro canvas
  have hparse : parse canvas.toValue.compact = .ok canvas :=
    parse_write_of_bare (List.cons_ne_nil _ _) (List.forall_mem_map.mpr fun _ _ => ⟨rfl, rfl⟩)
      Json.Layout.isBlank_oneLine
  obtain ⟨imported, haccept⟩ : ∃ imported, accept canvas.toValue.compact = .ok imported :=
    ⟨_, (accept_of_parse hparse).trans rfl⟩
  obtain ⟨own, hown, hcanvas, -, hagain⟩ := accept_write_accepted haccept
  obtain rfl : canvas = own := Except.ok.inj (hparse.symm.trans hown)
  have hreads : imported.canvas.ReadsBack := by
    rw [hcanvas]
    refine List.forall_mem_map.mpr fun _ _ => ?_
    exact List.forall_mem_singleton.mpr trivial
  obtain ⟨again, hwritten, -, hedges, -⟩ := hagain hreads _ Json.Layout.isBlank_oneLine
  refine ⟨imported, again, haccept, by rw [hcanvas]; rfl, hreads, hwritten, ?_⟩
  rw [hedges, hcanvas]
  rfl

theorem exists_accept_of_shown {response shown : String} {count : Nat}
    (h : (accept response).toOption.map
      (fun imported => (imported.canvas.toValue.compact, imported.inferred)) = some (shown, count)) :
    ∃ imported, accept response = .ok imported ∧ imported.canvas.toValue.compact = shown ∧
      imported.inferred = count := by
  cases haccept : accept response with
  | error error =>
      rw [haccept] at h
      cases h
  | ok imported =>
      rw [haccept] at h
      obtain ⟨htext, hcount⟩ := Prod.mk.inj (Option.some.inj h)
      exact ⟨imported, rfl, htext, hcount⟩

def plainText (position : String) : String :=
  "\x7b\"nodes\":[\x7b\"id\":\"\",\"type\":null,\"position\":" ++ position ++
    ",\"data\":\x7b\"label\":\"\"\x7d\x7d],\"edges\":[]\x7d"

/-- A response that carries the edge of the wiring has it twice when it is accepted, and a third
time when it is accepted again. Without any wiring a position may still change, where its text
denotes another number. -/
theorem not_accept_write_unchanged :
    (let ends := ("f-1", some "return-val", "f-2", some "param-0")
      let canvas : Canvas := ⟨[("f-1", "coin::mint"), ("f-2", "transfer::transfer")].map
        fun (id, label) => ⟨id, some Canvas.functionType, .null, .ofLabel label, false⟩,
        [⟨none, "f-1", some "return-val", "f-2", some "param-0"⟩]⟩
      ∃ imported again, accept canvas.toValue.compact = .ok imported ∧ imported.inferred = 1 ∧
        canvas.edges.map Canvas.Edge.ends = [ends] ∧
        imported.canvas.edges.map Canvas.Edge.ends = [ends, ends] ∧
        accept imported.canvas.toValue.compact = .ok again ∧ again.inferred = 1 ∧
        again.canvas.edges.map Canvas.Edge.ends = [ends, ends, ends]) ∧
    ∃ imported again, accept (plainText "0.94527069555392229") = .ok imported ∧
      imported.inferred = 0 ∧ imported.canvas.toValue.compact = plainText "0.9452706955539223" ∧
      accept imported.canvas.toValue.compact = .ok again ∧
      again.canvas.toValue.compact = plainText "0.9452706955539224" ∧
      again.canvas ≠ imported.canvas := by
  constructor
  · intro ends canvas
    have hparse : parse canvas.toValue.compact = .ok canvas :=
      parse_write_of_bare (List.cons_ne_nil _ _) (List.forall_mem_map.mpr fun _ _ => ⟨rfl, rfl⟩)
        Json.Layout.isBlank_oneLine
    have hreads : canvas.ReadsBack :=
      List.forall_mem_map.mpr fun _ _ => List.forall_mem_singleton.mpr trivial
    obtain ⟨graph, hgraph⟩ : ∃ graph, canvas.toGraph = .ok graph := ⟨_, rfl⟩
    obtain ⟨imported, haccept, hcanvas, hcount⟩ : ∃ imported,
        accept canvas.toValue.compact = .ok imported ∧ imported.canvas = wired canvas ∧
          imported.inferred = 1 := ⟨_, (accept_of_parse hparse).trans rfl, rfl, rfl⟩
    obtain ⟨again, hwritten, hagain, hcount'⟩ :=
      accept_write hparse hgraph hreads Json.Layout.isBlank_oneLine
    rw [← hcanvas] at hwritten
    refine ⟨imported, again, haccept, hcount, rfl, by rw [hcanvas]; rfl, hwritten,
      hcount'.trans rfl, by rw [hagain]; rfl⟩
  · obtain ⟨imported, haccept, htext, hcount⟩ : ∃ imported,
        accept (plainText "0.94527069555392229") = .ok imported ∧
          imported.canvas.toValue.compact = plainText "0.9452706955539223" ∧
          imported.inferred = 0 := exists_accept_of_shown (by decide +kernel)
    obtain ⟨again, hagain, hagain_text, -⟩ : ∃ again,
        accept (plainText "0.9452706955539223") = .ok again ∧
          again.canvas.toValue.compact = plainText "0.9452706955539224" ∧
          again.inferred = 0 := exists_accept_of_shown (by decide +kernel)
    refine ⟨imported, again, haccept, hcount, htext, htext ▸ hagain, hagain_text, fun hsame => ?_⟩
    rw [hsame, htext] at hagain_text
    exact absurd hagain_text (by decide)

end Response

end MoveCanvas
