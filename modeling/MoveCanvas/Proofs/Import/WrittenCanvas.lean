import MoveCanvas.Proofs.Canvas.RawValues
import MoveCanvas.Proofs.Json.Depth

/-! # Written canvases as responses

A canvas that a response carries can be answered again as its own text, on one line or indented.
The text nests no deeper than a text may: what the canvas adds to a response is flat, and a raw
value stands as deep in the text as in the response. The response carries the same canvas if its
raw numbers are such that their texts denote them. -/

namespace MoveCanvas

open Json (Shape Number Ascending AnyKeys Layout)

namespace Canvas

/-- A text has room for the raw values of the node, three and four containers deep in a canvas. -/
structure Node.Fits (n : Node) : Prop where
  position : n.position.depth ≤ 124
  decimals : ∀ v, n.data.coinDecimals = some v → v.depth ≤ 123

theorem Node.fits_of_readWithin {record : Node.shape.Val} (h : Node.shape.ReadWithin 125 record) :
    (Node.ofRecord record).Fits := by
  obtain ⟨id, type, position, data, hidden, ⟨⟩⟩ := record
  obtain ⟨-, -, hposition, hdata, -, -⟩ := h.fields
  constructor
  case position =>
    cases position with
    | none => exact Nat.zero_le 124
    | some v => exact (hposition v rfl).depth_le
  case decimals =>
    intro v hv
    cases data with
    | none => cases hv
    | some data =>
        obtain ⟨-, -, -, -, -, -, -, -, hdecimals, -⟩ := (hdata data rfl).fields
        exact (hdecimals v hv).depth_le

theorem fits_of_readWithin {record : shape.Val} (h : shape.ReadWithin Json.nestingLimit record) :
    ∀ n ∈ (ofRecord record).nodes, n.Fits := by
  obtain ⟨nodes, edges, ⟨⟩⟩ := record
  obtain ⟨hnodes, -, -⟩ := h.fields
  intro n hn
  obtain ⟨record, hrecord, rfl⟩ := List.mem_map.mp hn
  cases nodes with
  | none => cases hrecord
  | some nodes => exact Node.fits_of_readWithin ((hnodes nodes rfl).items record hrecord)

theorem depth_members_le (members : List Member) :
    ((Shape.list Member.shape).encode (members.map Member.toRecord)).depth ≤ 2 := by
  refine Nat.succ_le_succ (Json.depthItems_le_iff.mpr fun item hitem => ?_)
  rw [List.map_map] at hitem
  obtain ⟨member, -, rfl⟩ := List.mem_map.mp hitem
  exact Nat.le_refl 1

theorem Data.depth_encode_le {d : Data} {n : Nat} (hn : 2 ≤ n)
    (h : ∀ v, d.coinDecimals = some v → v.depth ≤ n) :
    (Data.shape.encode d.toRecord).depth ≤ n + 1 := by
  have hscalar {v : Json} (hv : v.depth = 0) : v.depth ≤ n := hv ▸ Nat.zero_le n
  have hmembers (members : Option (List Member)) : ∀ records,
      members.map (List.map Member.toRecord) = some records →
        ((Shape.list Member.shape).encode records).depth ≤ n := by
    intro records hrecords
    obtain ⟨list, -, rfl⟩ := Option.map_eq_some_iff.mp hrecords
    exact Nat.le_trans (depth_members_le list) hn
  refine Nat.succ_le_succ (Json.Fields.depth_encode_le _ ⟨fun _ _ => hscalar rfl,
    fun _ _ => hscalar rfl, hmembers d.fields, hmembers d.params, ?_, fun _ _ => hscalar rfl,
    fun _ _ => hscalar rfl, fun _ _ => hscalar rfl, h, fun _ _ => hscalar rfl, trivial⟩)
  intro record hrecord
  obtain ⟨abilities, -, rfl⟩ := Option.map_eq_some_iff.mp hrecord
  exact Nat.le_trans (Nat.le_refl 1) (Nat.le_of_succ_le hn)

theorem Node.depth_encode_le {n : Node} {k : Nat} (hk : 2 ≤ k) (hposition : n.position.depth ≤ k + 1)
    (hdecimals : ∀ v, n.data.coinDecimals = some v → v.depth ≤ k) :
    (Node.shape.encode n.toRecord).depth ≤ k + 2 := by
  refine Nat.succ_le_succ (Json.Fields.depth_encode_le _ ⟨Nat.zero_le _,
    fun _ _ => Nat.zero_le _, ?_, ?_, fun _ _ => Nat.zero_le _, trivial⟩)
  · intro v hv
    split at hv
    · cases hv
    · cases hv
      exact hposition
  · rintro _ ⟨⟩
    exact Data.depth_encode_le hk hdecimals

theorem Node.Fits.depth_encode_le {n : Node} (h : n.Fits) :
    (Node.shape.encode n.toRecord).depth ≤ 125 :=
  Node.depth_encode_le (by decide) h.position h.decimals

theorem depth_toValue_le {canvas : Canvas} (h : ∀ n ∈ canvas.nodes, n.Fits) :
    canvas.toValue.depth ≤ Json.nestingLimit := by
  refine Nat.succ_le_succ (Json.Fields.depth_encode_le _ ⟨?_, ?_, trivial⟩)
  · rintro _ ⟨⟩
    refine Nat.succ_le_succ (Json.depthItems_le_iff.mpr fun item hitem => ?_)
    rw [List.map_map] at hitem
    obtain ⟨n, hn, rfl⟩ := List.mem_map.mp hitem
    exact (h n hn).depth_encode_le
  · rintro _ ⟨⟩
    refine Nat.succ_le_succ (Json.depthItems_le_iff.mpr fun item hitem => ?_)
    rw [List.map_map] at hitem
    obtain ⟨e, -, rfl⟩ := List.mem_map.mp hitem
    exact Nat.le_trans e.depth_encode_le (by decide)

theorem nodes_ne_nil_of_ofValue {value : Json} {items : List Json} {canvas : Canvas}
    (h : ofValue value = .ok canvas) (hnodes : value.get? "nodes" = some (.arr items))
    (hitems : items ≠ []) : canvas.nodes ≠ [] := by
  cases value with
  | obj members =>
      obtain ⟨⟨nodes, edges, ⟨⟩⟩, hrecord, rfl⟩ := map_eq_ok_iff.mp h
      have hmember : (some "nodes", Json.Document.ofValue (.arr items)) ∈
          Json.Document.ofMembers members := by
        obtain ⟨front, back, rfl, -⟩ := List.lookup_eq_some_iff.mp hnodes
        rw [Json.Document.ofMembers_eq_map]
        exact List.mem_map_of_mem (List.mem_append_right front List.mem_cons_self)
      obtain ⟨inner, -, hdecode⟩ := Shape.decode_first hrecord hmember
      obtain ⟨records, hrecords, rfl⟩ := map_eq_ok_iff.mp hdecode
      obtain ⟨inner, -, hread⟩ := Shape.decode_items hrecords
      intro hnil
      obtain rfl : records = [] := List.map_eq_nil_iff.mp hnil
      have hnone : Json.Document.ofItems items = [] :=
        List.forall₂_nil_right_iff.mp (mapM_eq_ok_iff.mp hread)
      rw [Json.Document.ofItems_eq_map] at hnone
      exact hitems (List.map_eq_nil_iff.mp hnone)
  | _ => cases hnodes

/-- Every number among the raw values is an integer, or its own text denotes it. -/
def ReadsBack (canvas : Canvas) : Prop :=
  ∀ n ∈ canvas.nodes, ∀ v ∈ n.raws,
    v.Everywhere (fun number => number.IsInteger ∨ number.ReadsBack) AnyKeys

theorem Read.readsBack_raws {canvas : Canvas} (h : canvas.Read) (hreads : canvas.ReadsBack) :
    ∀ n ∈ canvas.nodes, (∀ v ∈ n.raws, v.Everywhere Number.ReadsBack Ascending) ∧
      n.data.coinDecimals ≠ some .null := by
  intro n hn
  obtain ⟨hraws, hnull⟩ := h.raws n hn
  refine ⟨fun v hv => ?_, hnull⟩
  have hboth := Json.Everywhere.and v (hraws v hv) (hreads n hn v hv)
  refine Json.Everywhere.mono (fun number => ?_) (fun _ hkeys => hkeys) v hboth
  rintro ⟨hfits, hinteger | hback⟩
  · exact Number.IsWord.readsBack number (Number.isWord_iff.mpr ⟨hfits, hinteger⟩)
  · exact hback

end Canvas

namespace Response

theorem withoutFence_braces (cs : List Char) :
    withoutFence ('\x7b' :: cs ++ ['\x7d']) = '\x7b' :: cs ++ ['\x7d'] := by
  have htrim : Text.trim ('\x7b' :: cs ++ ['\x7d']) = '\x7b' :: cs ++ ['\x7d'] :=
    Text.trim_eq_self (by decide) (by decide) cs
  have hopen : Text.after? fence ('\x7b' :: cs ++ ['\x7d']) = none := rfl
  rw [withoutFence, htrim, hopen]

theorem withoutFence_write (layout : Layout) (canvas : Canvas) :
    withoutFence (Json.write layout 0 canvas.toValue) = Json.write layout 0 canvas.toValue :=
  withoutFence_braces _

theorem ofText_write {canvas : Canvas} (hreads : canvas.toValue.Everywhere Number.ReadsBack AnyKeys)
    (hdepth : canvas.toValue.depth ≤ Json.nestingLimit) {layout : Layout} (hlayout : layout.IsBlank) :
    Json.ofText (String.ofList (Json.write layout 0 canvas.toValue)) =
      .ok canvas.toValue.sorted := by
  have hroom : (Json.Source.text Json.nestingLimit).Admits canvas.toValue.depth := hdepth
  rw [Json.ofText, Shape.ofText, Json.Document.ofText_write hlayout hreads]
  refine bind_eq_ok_iff.mpr ⟨canvas.toValue.sorted, ?_, rfl⟩
  exact Json.Document.toValue_ofValue_eq_sorted canvas.toValue hroom

theorem parse_write (canvas : Canvas) (hnodes : canvas.nodes ≠ [])
    (hraws : ∀ n ∈ canvas.nodes, (∀ v ∈ n.raws, v.Everywhere Number.ReadsBack Ascending) ∧
      n.data.coinDecimals ≠ some .null)
    (hfits : ∀ n ∈ canvas.nodes, n.Fits) {layout : Layout} (hlayout : layout.IsBlank) :
    parse (String.ofList (Json.write layout 0 canvas.toValue)) = .ok canvas := by
  have hreads : canvas.toValue.Everywhere Number.ReadsBack AnyKeys :=
    Canvas.shape.everywhere_encode (fun n => Number.IsWord.readsBack _ (Number.isWord_byte n))
      (Canvas.holds_toRecord hraws)
  have hkept : canvas.nodes.map Canvas.Node.toValue ≠ [] := mt List.map_eq_nil_iff.mp hnodes
  refine parse_eq_ok_iff.mpr ⟨canvas.toValue.sorted, canvas.nodes.map Canvas.Node.toValue,
    canvas.edges.map Canvas.Edge.toValue, ?_, ?_, ?_, hkept, Canvas.ofValue_sorted hraws⟩
  · rw [String.toList_ofList, withoutFence_write]
    exact ofText_write hreads (Canvas.depth_toValue_le hfits) hlayout
  · rw [canvas.sorted_toValue]
    rfl
  · rw [canvas.sorted_toValue]
    rfl

theorem parse_write_of_bare {canvas : Canvas} (hnodes : canvas.nodes ≠ [])
    (hbare : ∀ n ∈ canvas.nodes, n.position = .null ∧ n.data.coinDecimals = none) {layout : Layout}
    (hlayout : layout.IsBlank) :
    parse (String.ofList (Json.write layout 0 canvas.toValue)) = .ok canvas := by
  refine parse_write canvas hnodes ?_ ?_ hlayout
  · intro n hn
    obtain ⟨hposition, hdecimals⟩ := hbare n hn
    rw [Canvas.Node.raws, hposition, hdecimals]
    exact ⟨List.forall_mem_singleton.mpr trivial, nofun⟩
  · intro n hn
    obtain ⟨hposition, hdecimals⟩ := hbare n hn
    constructor
    · rw [hposition]
      exact Nat.zero_le 124
    · rw [hdecimals]
      exact fun _ hnone => nomatch hnone

theorem parse_write_of_parse {response : String} {canvas : Canvas} (h : parse response = .ok canvas)
    (hreads : canvas.ReadsBack) (edges : List Canvas.Edge) {layout : Layout}
    (hlayout : layout.IsBlank) :
    parse (String.ofList (Json.write layout 0 (Canvas.mk canvas.nodes edges).toValue)) =
      .ok ⟨canvas.nodes, edges⟩ := by
  have hread : canvas.Read := Or.inr ⟨response, h⟩
  obtain ⟨value, nodes, _, hvalue, hnodes, -, hsome, hcanvas⟩ := parse_eq_ok_iff.mp h
  have hkept : canvas.nodes ≠ [] := Canvas.nodes_ne_nil_of_ofValue hcanvas hnodes hsome
  have hfits : ∀ n ∈ canvas.nodes, n.Fits := by
    obtain ⟨record, hrecord, rfl⟩ := map_eq_ok_iff.mp hcanvas
    exact Canvas.fits_of_readWithin ⟨value, Json.depth_le_of_ofText hvalue, hrecord⟩
  exact parse_write ⟨canvas.nodes, edges⟩ hkept (hread.readsBack_raws hreads) hfits hlayout

end Response

end MoveCanvas
