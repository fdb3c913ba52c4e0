import MoveCanvas.Proofs.Canvas.RawValues
import MoveCanvas.Proofs.Project.Session

/-! # Canvases put into a project

A module keeps the nodes and edges of its canvas as values with sorted members. A canvas that has
been read is found again in the module it was put into, with every part and every raw value, so that
to export the module is to compile the canvas under the module's name. -/

namespace MoveCanvas

def Canvas.package (canvas : Canvas) (name : String) (defaults : Defaults) :
    Except CompileError Package := do
  let graph ← canvas.toGraph.mapError .invalidGraph
  Package.ofGraph name graph defaults .empty

namespace Project

theorem Tab.canvasValue_withCanvas (tab : Tab) (canvas : Canvas) :
    (tab.withCanvas canvas).canvasValue = canvas.toValue.sorted :=
  canvas.sorted_toValue.symm

theorem Tab.canvas_withCanvas (tab : Tab) {canvas : Canvas} (h : canvas.Read) :
    (tab.withCanvas canvas).canvas = .ok canvas := by
  rw [Tab.canvas, Tab.canvasValue_withCanvas, Canvas.ofValue_sorted h.raws]
  rfl

theorem Tab.package_of_canvas {tab : Tab} {canvas : Canvas} (h : tab.canvas = .ok canvas)
    (defaults : Defaults) : tab.package defaults = canvas.package tab.name defaults := by
  rw [Tab.package, Tab.graph, h]
  rfl

/-- A canvas that has been read can be put into every module of a project. The module then has
exactly this canvas, and its export is the canvas compiled, or the error of compiling it. -/
theorem replaceCanvas_package {p : Project} {name : String} {canvas : Canvas}
    (hname : name ∈ p.modules.map (·.name)) (hread : canvas.Read) :
    ∃ next tab, p.replaceCanvas name canvas = .ok next ∧ next.module? name = .ok tab ∧
      tab.canvas = .ok canvas ∧
      ∀ defaults, tab.package defaults = canvas.package name defaults := by
  obtain ⟨front, tab, back, htab⟩ := exists_firstNamed hname
  have hcanvas : (tab.withCanvas canvas).canvas = .ok canvas := tab.canvas_withCanvas hread
  have hnext : FirstNamed name (front ++ tab.withCanvas canvas :: back) front
      (tab.withCanvas canvas) back := htab.replace htab.named
  refine ⟨{ p with modules := front ++ tab.withCanvas canvas :: back }, tab.withCanvas canvas,
    ?_, ?_, hcanvas, fun defaults => ?_⟩
  · rw [replaceCanvas, update, htab.updateFirst_eq]
    rfl
  · rw [module?, hnext.find?_eq]
  · rw [Tab.package_of_canvas hcanvas]
    exact congrArg (canvas.package · defaults) htab.named

/-- A canvas whose initializer states too many decimals is put into a module all the same; the
error shows when the module is exported. -/
theorem replaceCanvas_package_decimals :
    let canvas : Canvas := ⟨[
      ⟨"s-1", some Canvas.structType, .obj [("x", .num (.int 40)), ("y", .null)],
        { Canvas.Data.ofLabel "Gem" with fields := some [], abilities := some .none }, true⟩,
      ⟨"i-1", some Canvas.initType, .null,
        { Canvas.Data.ofLabel "CoinInit" with coinDecimals := some (.num (.int 256)) }, false⟩],
      [⟨none, "s-1", none, "i-1", some "witness-input"⟩]⟩
    "my_coin" ∈ new.modules.map (·.name) ∧ canvas.Read ∧
      ∃ next tab, new.replaceCanvas "my_coin" canvas = .ok next ∧
        next.module? "my_coin" = .ok tab ∧ tab.canvas = .ok canvas ∧
        tab.package .builtIn = .error (.invalidGraph (.badDecimals "i-1" "256")) := by
  intro canvas
  have hname : "my_coin" ∈ new.modules.map (·.name) := List.mem_cons_self
  have hraws : ∀ n ∈ canvas.nodes, (∀ v ∈ n.raws, v.Everywhere Json.Number.IsWord Json.Ascending) ∧
      n.data.coinDecimals ≠ some .null := by
    have hword : Json.Number.IsWord (.int 40) ∧ Json.Number.IsWord (.int 256) := by
      constructor <;> constructor <;> decide
    have hkeys : Json.Ascending ["x", "y"] := by decide
    refine List.forall_mem_cons.mpr ⟨⟨?_, nofun⟩, List.forall_mem_singleton.mpr ⟨?_, nofun⟩⟩
    · exact List.forall_mem_singleton.mpr ⟨hkeys, hword.1, trivial, trivial⟩
    · exact List.forall_mem_cons.mpr ⟨trivial, List.forall_mem_singleton.mpr hword.2⟩
  have hread : canvas.Read := Or.inl ⟨_, Canvas.ofText_pretty hraws (by decide)⟩
  obtain ⟨next, tab, hnext, htab, hcanvas, hpackage⟩ := replaceCanvas_package hname hread
  exact ⟨hname, hread, next, tab, hnext, htab, hcanvas, (hpackage .builtIn).trans rfl⟩

end Project

end MoveCanvas
