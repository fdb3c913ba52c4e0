import MoveCanvas.Proofs.Canvas.RawValues
import MoveCanvas.Proofs.Project.Session

/-! # Saved projects and their reloading

The text of a project gives the project back exactly if none of its stored values nests too deeply
for the place where the text has it. A canvas is accepted at a place with more room, so that not
every session can be saved and loaded: the positions and numbers of decimals that a node brings
along decide. -/

namespace MoveCanvas.Project

open Json (Shape Number Ascending)

/-- The depth of a value that a text of a project has room for: around it lie the list of values,
the tab, the list of tabs and the project. -/
def storedLimit : Nat := Json.nestingLimit - 4

/-- What the tab stores consists of values that the reader delivers, integers for numbers. -/
structure Tab.IsStored (tab : Tab) : Prop where
  nodes : ∀ v ∈ tab.nodes, v.Everywhere Number.IsWord Ascending
  edges : ∀ v ∈ tab.edges, v.Everywhere Number.IsWord Ascending

theorem Tab.encode_toRecord (tab : Tab) : Tab.shape.encode tab.toRecord = .obj [
    ("id", .str tab.id), ("name", .str tab.name),
    ("nodes", .arr tab.nodes), ("edges", .arr tab.edges)] := by
  have hraw (values : List Json) : values.map Shape.raw.encode = values := List.map_id values
  show Json.obj [("id", .str tab.id), ("name", .str tab.name),
    ("nodes", .arr (tab.nodes.map Shape.raw.encode)),
    ("edges", .arr (tab.edges.map Shape.raw.encode))] = _
  rw [hraw, hraw]

theorem Tab.depth_encode_le_iff {tab : Tab} {n : Nat} :
    (Tab.shape.encode tab.toRecord).depth ≤ n + 2 ↔
      (∀ v ∈ tab.nodes, v.depth ≤ n) ∧ ∀ v ∈ tab.edges, v.depth ≤ n := by
  rw [Tab.encode_toRecord, ← Json.depthItems_le_iff, ← Json.depthItems_le_iff]
  simp only [Json.depth, Json.depthMembers]
  omega

theorem depth_encode_le_iff {p : Project} :
    (shape.encode p.toRecord).depth ≤ Json.nestingLimit ↔
      ∀ tab ∈ p.modules, (∀ v ∈ tab.nodes, v.depth ≤ storedLimit) ∧
        ∀ v ∈ tab.edges, v.depth ≤ storedLimit := by
  have hencode : shape.encode p.toRecord = .obj [("version", .str p.version),
      ("modules", .arr ((p.modules.map Tab.toRecord).map Tab.shape.encode))] := rfl
  have htabs : (shape.encode p.toRecord).depth ≤ Json.nestingLimit ↔
      Json.depthItems ((p.modules.map Tab.toRecord).map Tab.shape.encode) ≤ storedLimit + 2 := by
    rw [hencode]
    simp only [Json.depth, Json.depthMembers, Json.nestingLimit, storedLimit]
    omega
  rw [htabs, Json.depthItems_le_iff]
  simp only [List.map_map, List.forall_mem_map, Function.comp_apply, Tab.depth_encode_le_iff]

section Stored

variable {p : Project} (hstored : ∀ tab ∈ p.modules, tab.IsStored)
include hstored

theorem holds_toRecord : shape.Holds (·.Everywhere Number.IsWord Ascending) p.toRecord := by
  refine ⟨⟨trivial, nofun⟩, ⟨fun record hrecord => ?_, nofun⟩, trivial⟩
  obtain ⟨tab, htab, rfl⟩ := List.mem_map.mp hrecord
  refine ⟨⟨trivial, nofun⟩, ⟨trivial, nofun⟩, ?_, ?_, trivial⟩
  · rintro _ ⟨⟩
    exact ⟨(hstored tab htab).nodes, nofun⟩
  · rintro _ ⟨⟩
    exact ⟨(hstored tab htab).edges, nofun⟩

theorem ofText_toText (hdepth : (shape.encode p.toRecord).depth ≤ Json.nestingLimit) :
    ofText p.toText = .ok p := by
  have hdistinct : shape.isDistinct = true := by decide
  refine mapError_eq_ok_iff.mpr (map_eq_ok_iff.mpr ⟨p.toRecord, ?_, p.ofRecord_toRecord⟩)
  exact Shape.ofText_pretty hdistinct (holds_toRecord hstored) hdepth

theorem depth_le_of_ofText_toText {result : Project} (h : ofText p.toText = .ok result) :
    (shape.encode p.toRecord).depth ≤ Json.nestingLimit := by
  have hdistinct : shape.isDistinct = true := by decide
  obtain ⟨record, hrecord, -⟩ := map_eq_ok_iff.mp (mapError_eq_ok_iff.mp h)
  exact Shape.depth_le_of_ofText_pretty hdistinct (holds_toRecord hstored) hrecord

/-- A project is loaded from its own text exactly if the text has room for its depth. Nothing but
the project itself is ever loaded from there, so that it is written and exported as before. -/
theorem ofText_toText_iff :
    (ofText p.toText = .ok p ↔ (shape.encode p.toRecord).depth ≤ Json.nestingLimit) ∧
      ∀ loaded, ofText p.toText = .ok loaded → loaded = p ∧ loaded.toText = p.toText ∧
        ∀ defaults, loaded.modules.map (·.package defaults) = p.modules.map (·.package defaults) := by
  refine ⟨⟨depth_le_of_ofText_toText hstored, ofText_toText hstored⟩, fun loaded hload => ?_⟩
  have hsame : ofText p.toText = .ok p :=
    ofText_toText hstored (depth_le_of_ofText_toText hstored hload)
  obtain rfl : loaded = p := Except.ok.inj (hload.symm.trans hsame)
  exact ⟨rfl, rfl, fun _ => rfl⟩

end Stored

theorem ofText_toText_values :
    let p : Project := ⟨"1.0", [
      ⟨"mod-1", "a\"\\\x00", [.obj [("", .null), ("z", .arr []), ("é", .obj [])]], [.bool false]⟩,
      ⟨"mod-1", "a\"\\\x00", [.arr [.num (.int (-0x8000000000000000)), .str "\n\t\u2028"]],
        [.num (.int 0xffffffffffffffff)]⟩]⟩
    (∀ tab ∈ p.modules, tab.IsStored) ∧ ofText p.toText = .ok p := by
  intro p
  have hstored : ∀ tab ∈ p.modules, tab.IsStored := by
    have hkeys : Ascending ["", "z", "é"] := by decide
    have hleast : Number.IsWord (.int (-0x8000000000000000)) := by constructor <;> decide
    have hgreatest : Number.IsWord (.int 0xffffffffffffffff) := by constructor <;> decide
    refine List.forall_mem_cons.mpr ⟨⟨?_, ?_⟩, List.forall_mem_singleton.mpr ⟨?_, ?_⟩⟩
    · have hempty : Ascending [] := by decide
      exact List.forall_mem_singleton.mpr
        ⟨hkeys, trivial, trivial, ⟨hempty, trivial⟩, trivial⟩
    · exact List.forall_mem_singleton.mpr trivial
    · exact List.forall_mem_singleton.mpr ⟨hleast, trivial, trivial⟩
    · exact List.forall_mem_singleton.mpr hgreatest
  exact ⟨hstored, (ofText_toText_iff hstored).1.mpr (by decide)⟩

/-- A canvas that is put into a project has been accepted, and its raw values have integers for
numbers. -/
def Operation.IsAdmissible : Operation → Prop
  | .replace _ canvas => canvas.Accepted ∧ canvas.IsIntegral
  | _ => True

theorem isStored_bare (id name : String) : (Tab.bare id name).IsStored where
  nodes := by
    intro v hv
    rw [List.mem_singleton.mp hv]
    have hkeys : Ascending ["data", "hidden", "id", "position", "type"] := by decide
    have hdata : Ascending ["label", "type"] := by decide
    have hposition : Ascending ["x", "y"] := by decide
    have hword : Number.IsWord (.int (-100)) := by constructor <;> decide
    exact ⟨hkeys, ⟨hdata, trivial, trivial, trivial⟩, trivial, trivial,
      ⟨hposition, hword, hword, trivial⟩, trivial, trivial⟩
  edges _ hv := absurd hv List.not_mem_nil

theorem Tab.isStored_withCanvas (tab : Tab) {canvas : Canvas} (haccepted : canvas.Accepted)
    (hintegral : canvas.IsIntegral) : (tab.withCanvas canvas).IsStored where
  nodes := by
    intro v hv
    obtain ⟨n, hn, rfl⟩ := List.mem_map.mp hv
    obtain ⟨hraws, hnull⟩ := haccepted.isWord_raws hintegral n hn
    exact Canvas.Node.everywhere_toValue hraws hnull
  edges := by
    intro v hv
    obtain ⟨e, -, rfl⟩ := List.mem_map.mp hv
    exact e.everywhere_toValue

theorem isStored_of_session {operations : List Operation}
    (h : ∀ operation ∈ operations, operation.IsAdmissible) :
    ∀ tab ∈ (session operations).modules, tab.IsStored ∧ ∀ v ∈ tab.edges, v.depth ≤ 1 := by
  refine forall_modules_session ?_ ?_ ?_
  · exact fun id name => ⟨isStored_bare id name, fun _ hv => absurd hv List.not_mem_nil⟩
  · exact fun tab _ htab => ⟨⟨htab.1.nodes, htab.1.edges⟩, htab.2⟩
  · intro name canvas hmem tab
    obtain ⟨haccepted, hintegral⟩ := h _ hmem
    refine ⟨tab.isStored_withCanvas haccepted hintegral, fun v hv => ?_⟩
    obtain ⟨e, -, rfl⟩ := List.mem_map.mp hv
    exact e.depth_toValue_le

theorem depth_session_le_iff {operations : List Operation}
    (h : ∀ operation ∈ operations, operation.IsAdmissible) :
    (shape.encode (session operations).toRecord).depth ≤ Json.nestingLimit ↔
      ∀ tab ∈ (session operations).modules, ∀ node ∈ tab.nodes, node.depth ≤ storedLimit := by
  rw [depth_encode_le_iff]
  constructor
  · exact fun hdepth tab htab => (hdepth tab htab).1
  · intro hdepth tab htab
    refine ⟨hdepth tab htab, fun v hv => ?_⟩
    -- Edges always fit, because they carry no raw values.
    exact Nat.le_trans ((isStored_of_session h tab htab).2 v hv) (by decide)

/-- The project of a session is loaded from its own text, exactly if no node that it stores nests
deeper than the text has room for. -/
theorem ofText_toText_session_iff {operations : List Operation}
    (h : ∀ operation ∈ operations, operation.IsAdmissible) :
    ofText (session operations).toText = .ok (session operations) ↔
      ∀ tab ∈ (session operations).modules, ∀ node ∈ tab.nodes, node.depth ≤ storedLimit := by
  have hstored : ∀ tab ∈ (session operations).modules, tab.IsStored :=
    fun tab htab => (isStored_of_session h tab htab).1
  rw [← depth_session_le_iff h]
  constructor
  · exact fun hload => depth_le_of_ofText_toText hstored hload
  · exact fun hdepth => ofText_toText hstored hdepth

def nested : Nat → Json
  | 0 => .num (.int 0)
  | n + 1 => .arr [nested n]

def nestedNode (n : Nat) : Canvas.Node :=
  ⟨"s-1", some Canvas.structType, nested n, .ofLabel "Gem", false⟩

theorem nested_ne_null (n : Nat) : nested n ≠ .null := by
  cases n with
  | zero => exact nofun
  | succ n => exact nofun

theorem depth_nested (n : Nat) : (nested n).depth = n := by
  induction n with
  | zero => rfl
  | succ n ih =>
      show max (nested n).depth 0 + 1 = n + 1
      rw [ih, Nat.max_zero]

theorem sorted_nested (n : Nat) : (nested n).sorted = nested n := by
  induction n with
  | zero => rfl
  | succ n ih => exact congrArg (fun v => Json.arr [v]) ih

theorem everywhere_nested {keys : List String → Prop} {p : Number → Prop} (hzero : p (.int 0))
    (n : Nat) : (nested n).Everywhere p keys := by
  induction n with
  | zero => exact hzero
  | succ n ih => exact ⟨ih, trivial⟩

theorem encode_nestedNode (n : Nat) : Canvas.Node.shape.encode (nestedNode n).toRecord =
    .obj [("id", .str "s-1"), ("type", .str Canvas.structType), ("position", nested n),
      ("data", .obj [("label", .str "Gem")])] := by
  have hposition : (if nested n = .null then none else some (nested n)) = some (nested n) :=
    if_neg (nested_ne_null n)
  show Canvas.Node.shape.encode ("s-1", some Canvas.structType,
    (if nested n = .null then none else some (nested n)),
    some (Canvas.Data.ofLabel "Gem").toRecord, none, ()) = _
  rw [hposition]
  rfl

theorem depth_toValue_nestedNode (n : Nat) : (nestedNode n).toValue.depth = max n 1 + 1 := by
  have hvalue : (nestedNode n).toValue = .obj [("data", .obj [("label", .str "Gem")]),
      ("id", .str "s-1"), ("position", (nested n).sorted), ("type", .str Canvas.structType)] := by
    rw [Canvas.Node.toValue, encode_nestedNode]
    rfl
  rw [hvalue, sorted_nested]
  simp only [Json.depth, Json.depthMembers, depth_nested]
  omega

/-- A text of a canvas has room for a position of one container more than the text of a project
has for the whole node. -/
theorem isAdmissible_nestedNode (name : String) {n : Nat} (h : n ≤ storedLimit + 1) :
    (Operation.replace name ⟨[nestedNode n], []⟩).IsAdmissible := by
  have hraws : ∀ node ∈ [nestedNode n],
      (∀ v ∈ node.raws, v.Everywhere Number.IsWord Ascending) ∧
        node.data.coinDecimals ≠ some .null := by
    intro node hnode
    rw [List.mem_singleton.mp hnode]
    refine ⟨fun v hv => ?_, nofun⟩
    rw [List.mem_singleton.mp hv]
    exact everywhere_nested (by constructor <;> decide) n
  have hdepth : (Canvas.toValue ⟨[nestedNode n], []⟩).depth ≤ Json.nestingLimit := by
    have hvalue : Canvas.toValue ⟨[nestedNode n], []⟩ = .obj [
        ("nodes", .arr [Canvas.Node.shape.encode (nestedNode n).toRecord]), ("edges", .arr [])] := rfl
    rw [hvalue, encode_nestedNode]
    simp only [Json.depth, Json.depthMembers, Json.depthItems, depth_nested, storedLimit,
      Json.nestingLimit] at h ⊢
    omega
  refine ⟨Or.inl ⟨_, Canvas.ofText_pretty hraws hdepth⟩, ?_⟩
  intro node hnode v hv
  rw [List.mem_singleton.mp hnode] at hv
  rw [List.mem_singleton.mp hv]
  exact everywhere_nested trivial n

theorem ofText_toText_session_nested :
    let operations : List Operation := [.replace "my_coin" ⟨[nestedNode 122], []⟩, .add]
    (∀ operation ∈ operations, operation.IsAdmissible) ∧
      ofText (session operations).toText = .ok (session operations) := by
  intro operations
  have hadmissible : ∀ operation ∈ operations, operation.IsAdmissible := by
    refine List.forall_mem_cons.mpr ⟨isAdmissible_nestedNode "my_coin" (by decide), ?_⟩
    exact List.forall_mem_singleton.mpr trivial
  refine ⟨hadmissible, (ofText_toText_session_iff hadmissible).mpr ?_⟩
  have hmodules : (session operations).modules =
      [⟨"mod-1", "my_coin", [(nestedNode 122).toValue], []⟩, .bare "mod-2" "module_2"] := rfl
  rw [hmodules]
  intro tab htab node hnode
  rcases List.mem_cons.mp htab with rfl | htab
  · rw [List.mem_singleton.mp hnode, depth_toValue_nestedNode]
    decide
  · rw [List.mem_singleton.mp htab] at hnode
    rw [List.mem_singleton.mp hnode]
    decide

/-- One container deeper the canvas is still accepted, but the project is not loaded again. -/
theorem not_ofText_toText_session_nested :
    let operations : List Operation := [.replace "my_coin" ⟨[nestedNode 123], []⟩]
    (∀ operation ∈ operations, operation.IsAdmissible) ∧
      ∀ result, ofText (session operations).toText ≠ .ok result := by
  intro operations
  have hadmissible : ∀ operation ∈ operations, operation.IsAdmissible :=
    List.forall_mem_singleton.mpr (isAdmissible_nestedNode "my_coin" (by decide))
  refine ⟨hadmissible, fun result hload => ?_⟩
  have hstored : ∀ tab ∈ (session operations).modules, tab.IsStored :=
    fun tab htab => (isStored_of_session hadmissible tab htab).1
  have hdepth := (depth_session_le_iff hadmissible).mp (depth_le_of_ofText_toText hstored hload)
  have hnode := hdepth ⟨"mod-1", "my_coin", [(nestedNode 123).toValue], []⟩ List.mem_cons_self
    (nestedNode 123).toValue List.mem_cons_self
  rw [depth_toValue_nestedNode] at hnode
  exact absurd hnode (by decide)

end MoveCanvas.Project
