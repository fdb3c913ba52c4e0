import MoveCanvas.Proofs.Cli.Checking
import MoveCanvas.Proofs.Cli.Installation
import MoveCanvas.Proofs.Cli.Places
import MoveCanvas.Proofs.Text.BareNames

/-! # Writing a package

A module name consists of small letters, digits and underscores. The package of a module has this
one name in its header and in its manifest, and the command that writes it puts the source under the
same name directly into the folder for sources, whatever the module is called. -/

namespace MoveCanvas

def Move.settings (defaults : Defaults) : List String :=
  [entry "version" defaults.packageVersion, "", "[dependencies]",
    "Sui = \x7b " ++ frameworkSource defaults ++ " \x7d", ""]

namespace Package

/-- The name stands in the record, twice in the header, as the name in the manifest and as the key
of its address. -/
structure IsNamed (package : Package) (name : String) (defaults : Defaults) : Prop where
  recorded : package.moduleName = name
  header : ∃ body, package.source = "module " ++ name ++ "::" ++ name ++ " \x7b\n" ++ body
  manifest : package.manifest = Move.unlines
    (["[package]", Move.entry "name" name] ++ Move.settings defaults ++
      ["[addresses]", Move.entry name defaults.packageAddress])

theorem isNamed_ofPlan (plan : Plan) (defaults : Defaults) :
    (ofPlan plan defaults).IsNamed plan.moduleName defaults where
  recorded := rfl
  header := by
    let rest := (Move.Module.ofPlan plan defaults).lines.tail
    have hbreak : " \x7b\n" = " \x7b" ++ "\n" := by decide
    refine ⟨Move.unlines rest ++ "\x7d", ?_⟩
    show Move.unlines
      (("module " ++ plan.moduleName ++ "::" ++ plan.moduleName ++ " \x7b") :: rest) ++ "\x7d" = _
    rw [Move.unlines_cons, hbreak]
    simp only [String.append_assoc]
  manifest := rfl

theorem isNamed_of_ofGraph {name : String} {graph : Graph} {defaults : Defaults}
    {intents : Intent.Table} {package : Package}
    (h : ofGraph name graph defaults intents = .ok package) :
    package.IsNamed (Identifier.moduleName name) defaults := by
  obtain ⟨plan, hplan, h⟩ := bind_eq_ok_iff.mp h
  cases h
  obtain ⟨witness, init, -, -, rfl⟩ := Plan.ofGraph_eq_ok_iff.mp hplan
  exact isNamed_ofPlan _ defaults

end Package

namespace Cli

open Project (Tab)

def defaultsIn (folder : Folder) : Option String → Except Failure Defaults
  | none => .ok .builtIn
  | some path => do
    let text ← (folder.read path).mapError .file
    (Defaults.ofText text).mapError .defaults

/-- What it takes to write a package: the project and the defaults can be had, and the module that
is meant compiles. -/
structure Packaging (folder : Folder) (path : String) (moduleName defaults : Option String) where
  project : Project
  front : List Tab
  tab : Tab
  back : List Tab
  settings : Defaults
  package : Package
  held : ∃ text, folder.read path = .ok text ∧ Project.ofText text = .ok project
  target : IsTarget moduleName project.modules front tab back
  given : defaultsIn folder defaults = .ok settings
  compiled : tab.package settings = .ok package

def packaged (folder : Folder) (path : String) (moduleName defaults : Option String) :
    Except Failure Package := do
  let project ← projectOf path (folder.read path)
  let target ← selectModule project moduleName
  let settings ← defaultsIn folder defaults
  (target.package settings).mapError .compilation

/-- The texts of a package, each with its place, where the package is written under a name. -/
def textsOf (out name : String) (package : Package) : List (List String × String) :=
  [(Folder.placeOf out ++ ["sources", name ++ ".move"], package.source),
    (Folder.placeOf out ++ ["Move.toml"], package.manifest)]

section Packaged

variable {folder : Folder} {path out : String} {moduleName defaults : Option String}
  {package : Package}

theorem packaged_eq_ok_iff : packaged folder path moduleName defaults = .ok package ↔
    ∃ p : Packaging folder path moduleName defaults, package = p.package := by
  simp only [packaged, bind_eq_ok_iff, mapError_eq_ok_iff, projectOf_eq_ok_iff,
    selectModule_eq_ok_iff]
  constructor
  · rintro ⟨project, hheld, tab, ⟨front, back, htarget⟩, settings, hgiven, hcompiled⟩
    exact ⟨⟨project, front, tab, back, settings, package, hheld, htarget, hgiven, hcompiled⟩, rfl⟩
  · rintro ⟨p, rfl⟩
    exact ⟨p.project, p.held, p.tab, ⟨p.front, p.back, p.target⟩, p.settings, p.given, p.compiled⟩

end Packaged

def emit (out : String) (toOutput : Bool) (package : Package) :
    ExceptT Failure (StateM Folder) String :=
  if toOutput then return lines [package.source, ""] ++ package.manifest
  else do
    writePackage Folder.files out package
    return ""

theorem run_defaultsOf (folder : Folder) (defaults : Option String) :
    (defaultsOf Folder.files defaults).run.run folder = (defaultsIn folder defaults, folder) := by
  cases defaults with
  | none => rfl
  | some path =>
      have hread : (ExceptT.mk (Except.mapError Failure.file <$> Folder.files.read path)).run.run
          folder = ((folder.read path).mapError .file, folder) := rfl
      refine (run_bind_of_read hread).trans ?_
      rw [defaultsIn]
      cases folder.read path <;> rfl

theorem run_runPackage (folder : Folder) (path : String) (moduleName : Option String)
    (out : String) (defaults : Option String) (toOutput : Bool) :
    (runPackage Folder.files path moduleName out defaults toOutput).run.run folder =
      proceed folder (packaged folder path moduleName defaults) fun package =>
        (emit out toOutput package).run.run folder := by
  refine run_bind_eq_proceed rfl fun project => ?_
  refine run_bind_eq_proceed rfl fun target => ?_
  refine run_bind_eq_proceed (run_defaultsOf folder defaults) fun settings => ?_
  exact run_bind_of_read rfl

section Written

variable {folder : Folder} {out : String} {package : Package}

/-- The folder for sources and the texts of the package are there, but for texts that the sink
takes. -/
structure IsWritten (folder : Folder) (out name : String) (package : Package) : Prop where
  sources : folder.entry? (Folder.placeOf out ++ ["sources"]) = some .folder
  texts : ∀ item ∈ textsOf out name package, folder.HasText item.1 item.2

/-- Steps from the folder touch only places of the texts and places of new folders, and leave a
folder with the property unless a file cannot be had. -/
structure Runs (texts : List (List String × String)) (folder : Folder) (q : Folder → Prop)
    (x : ExceptT Failure (StateM Folder) α) : Prop where
  puts : Folder.Puts texts folder (x.run.run folder).2
  done : ∀ a, (x.run.run folder).1 = .ok a → q (x.run.run folder).2
  failed : ∀ failure, (x.run.run folder).1 = .error failure → ∃ cause, failure = .file cause

section Runs

variable {β : Type} {texts : List (List String × String)} {p q : Folder → Prop}
  {operation : Folder → Except FileError Folder}

theorem Runs.change (h : ∀ after, operation folder = .ok after →
    Folder.Puts texts folder after ∧ q after) :
    Runs texts folder q (ExceptT.mk (Except.mapError .file <$> Folder.change operation)) := by
  have hrun : (ExceptT.mk (Except.mapError Failure.file <$> Folder.change operation)).run.run
      folder = ((Folder.change operation folder).1.mapError .file,
        (Folder.change operation folder).2) := rfl
  cases hoperation : operation folder with
  | error cause =>
      rw [Folder.change, hoperation] at hrun
      constructor
      · rw [hrun]
        exact .refl folder
      · rw [hrun]
        rintro _ ⟨⟩
      · rw [hrun]
        rintro _ ⟨⟩
        exact ⟨cause, rfl⟩
  | ok after =>
      obtain ⟨hputs, hafter⟩ := h after hoperation
      rw [Folder.change, hoperation] at hrun
      constructor
      · rwa [hrun]
      · rw [hrun]
        exact fun _ _ => hafter
      · rw [hrun]
        rintro _ ⟨⟩

theorem Runs.bind {x : ExceptT Failure (StateM Folder) α}
    {f : α → ExceptT Failure (StateM Folder) β} (hx : Runs texts folder p x)
    (hf : ∀ a after, p after → Runs texts after q (f a)) : Runs texts folder q (x >>= f) := by
  cases hresult : (x.run.run folder).1 with
  | error failure =>
      have hrun : (x >>= f).run.run folder = (.error failure, (x.run.run folder).2) :=
        run_bind_of_error (Prod.ext hresult rfl)
      constructor
      · rw [hrun]
        exact hx.puts
      · rw [hrun]
        rintro _ ⟨⟩
      · rw [hrun]
        rintro _ ⟨⟩
        exact hx.failed failure hresult
  | ok a =>
      have hrun : (x >>= f).run.run folder = (f a).run.run (x.run.run folder).2 :=
        run_bind_of_ok (Prod.ext hresult rfl)
      obtain ⟨hputs, hdone, hfailed⟩ := hf a _ (hx.done a hresult)
      constructor
      · rw [hrun]
        exact hx.puts.trans hputs
      · rwa [hrun]
      · rwa [hrun]

theorem Runs.pure {a : α} (h : q folder) :
    Runs texts folder q (return a : ExceptT Failure (StateM Folder) α) :=
  ⟨.refl _, fun _ _ => h, nofun⟩

end Runs

theorem runs_writePackage (hname : Path.IsName (package.moduleName ++ ".move")) :
    Runs (textsOf out package.moduleName package) folder
      (IsWritten · out package.moduleName package) (writePackage Folder.files out package) := by
  have hsources : Path.IsName "sources" := ⟨by decide, by decide, by decide, by decide⟩
  have hmanifest : Path.IsName "Move.toml" := ⟨by decide, by decide, by decide, by decide⟩
  have hfolderPlace : Folder.placeOf (joinPath out "sources") = Folder.placeOf out ++ ["sources"] :=
    Folder.placeOf_joinPath hsources
  have hsourcePlace :
      Folder.placeOf (joinPath (joinPath out "sources") (package.moduleName ++ ".move")) =
        Folder.placeOf out ++ ["sources", package.moduleName ++ ".move"] := by
    rw [Folder.placeOf_joinPath hname, hfolderPlace, List.append_assoc, List.singleton_append]
  have hmanifestPlace : Folder.placeOf (joinPath out "Move.toml") =
      Folder.placeOf out ++ ["Move.toml"] := Folder.placeOf_joinPath hmanifest
  refine Runs.bind (p := fun made => made.entry? (Folder.placeOf out ++ ["sources"]) = some .folder)
    (Runs.change fun made hmade => ?_) fun _ made hmade => ?_
  · rw [← hfolderPlace]
    exact Folder.puts_makeFolders hmade
  refine Runs.bind (p := fun half =>
    half.entry? (Folder.placeOf out ++ ["sources"]) = some .folder ∧
      half.HasText (Folder.placeOf out ++ ["sources", package.moduleName ++ ".move"])
        package.source)
    (Runs.change fun half hhalf => ?_) fun _ half hhalf => Runs.change fun after hafter => ?_
  · obtain ⟨hputs, htext⟩ := Folder.puts_write hhalf (List.mem_singleton_self _)
    rw [hsourcePlace] at hputs htext
    exact ⟨hputs.mono (by simp [textsOf]), hputs.entry?_eq_some hmade (by simp), htext⟩
  · obtain ⟨hfolder, hsource⟩ := hhalf
    obtain ⟨hputs, htext⟩ := Folder.puts_write hafter (List.mem_singleton_self _)
    rw [hmanifestPlace] at hputs htext
    refine ⟨hputs.mono (by simp [textsOf]), hputs.entry?_eq_some hfolder (by simp), ?_⟩
    exact List.forall_mem_cons.mpr
      ⟨hputs.hasText hsource (by simp), List.forall_mem_singleton.mpr htext⟩

theorem runs_emit (out : String) (hname : Path.IsName (package.moduleName ++ ".move"))
    (toOutput : Bool) :
    Runs (textsOf out package.moduleName package) folder
      (fun after => toOutput = false → IsWritten after out package.moduleName package)
      (emit out toOutput package) := by
  cases toOutput with
  | true => exact Runs.pure nofun
  | false => exact (runs_writePackage hname).bind fun _ _ hwritten => Runs.pure fun _ => hwritten

end Written

theorem isName_source (raw : String) : Path.IsName (Identifier.moduleName raw ++ ".move") := by
  have hne {other : String} (hother : 'm' ∉ other.toList) :
      Identifier.moduleName raw ++ ".move" ≠ other := by
    rintro rfl
    rw [String.toList_append] at hother
    exact hother (List.mem_append_right _ (by decide))
  refine ⟨hne (by decide), hne (by decide), hne (by decide), fun hslash => ?_⟩
  rw [String.toList_append] at hslash
  rcases List.mem_append.mp hslash with hname | hsuffix
  · exact absurd (Identifier.isModuleChar_of_mem_moduleName hname) (by decide)
  · exact absurd hsuffix (by decide)

theorem Packaging.isNamed {folder : Folder} {path : String} {moduleName defaults : Option String}
    (p : Packaging folder path moduleName defaults) :
    p.package.IsNamed (Identifier.moduleName p.tab.name) p.settings := by
  obtain ⟨graph, -, hpackage⟩ := bind_eq_ok_iff.mp p.compiled
  exact Package.isNamed_of_ofGraph hpackage

theorem run_package_cases (folder : Folder) (path : String) (moduleName : Option String)
    (out : String) (defaults : Option String) (toOutput : Bool) :
    let outcome :=
      ((Command.package path moduleName out defaults toOutput).run Folder.files).run folder
    (IsEmpty (Packaging folder path moduleName defaults) ∧
        ∃ failure, outcome = (⟨"", some failure⟩, folder)) ∨
      ∃ p : Packaging folder path moduleName defaults,
        Folder.Puts (textsOf out (Identifier.moduleName p.tab.name) p.package) folder outcome.2 ∧
          (outcome.1.failure = none → toOutput = false →
            IsWritten outcome.2 out (Identifier.moduleName p.tab.name) p.package) ∧
          ∀ failure, outcome.1.failure = some failure → ∃ cause, failure = .file cause := by
  intro outcome
  have houtcome : outcome = Prod.map Report.ofResult id
      ((runPackage Folder.files path moduleName out defaults toOutput).run.run folder) := rfl
  rw [run_runPackage] at houtcome
  cases hpackaged : packaged folder path moduleName defaults with
  | error failure =>
      rw [hpackaged] at houtcome
      refine .inl ⟨⟨fun p => ?_⟩, failure, houtcome⟩
      rw [packaged_eq_ok_iff.mpr ⟨p, rfl⟩] at hpackaged
      cases hpackaged
  | ok package =>
      obtain ⟨p, rfl⟩ := packaged_eq_ok_iff.mp hpackaged
      rw [hpackaged] at houtcome
      change outcome = Prod.map Report.ofResult id
        ((emit out toOutput p.package).run.run folder) at houtcome
      have hname : Path.IsName (p.package.moduleName ++ ".move") := by
        rw [p.isNamed.recorded]
        exact isName_source p.tab.name
      obtain ⟨hputs, hdone, hfailed⟩ : Runs _ folder _ _ := runs_emit out hname toOutput
      rw [p.isNamed.recorded] at hputs hdone
      rw [houtcome]
      refine .inr ⟨p, hputs, ?_⟩
      rw [Prod.map_fst]
      cases hresult : ((emit out toOutput p.package).run.run folder).1 with
      | error failure =>
          refine ⟨nofun, ?_⟩
          rintro _ ⟨⟩
          exact hfailed failure hresult
      | ok output => exact ⟨fun _ => hdone output hresult, nofun⟩

/-- Whatever a label is, its module name is a word of small letters, digits and underscores and its
own module name. The package of a module has this one name everywhere, and the command that writes it
writes the source under the name directly into the folder for sources, the manifest beside that
folder, and nothing else. -/
theorem moduleName_names_package :
    (∀ raw, Identifier.moduleName raw ≠ "" ∧
      (∀ c ∈ (Identifier.moduleName raw).toList, Identifier.isModuleChar c = true) ∧
      Identifier.moduleName (Identifier.moduleName raw) = Identifier.moduleName raw) ∧
    (∀ raw graph defaults intents package,
      Package.ofGraph raw graph defaults intents = .ok package →
        package.IsNamed (Identifier.moduleName raw) defaults) ∧
    ∀ folder path moduleName out defaults toOutput,
      let outcome :=
        ((Command.package path moduleName out defaults toOutput).run Folder.files).run folder
      (IsEmpty (Packaging folder path moduleName defaults) ∧
          ∃ failure, outcome = (⟨"", some failure⟩, folder)) ∨
        ∃ p : Packaging folder path moduleName defaults,
          let name := Identifier.moduleName p.tab.name
          p.package.IsNamed name p.settings ∧
            Folder.Puts (textsOf out name p.package) folder outcome.2 ∧
            (outcome.1.failure = none → toOutput = false →
              IsWritten outcome.2 out name p.package) ∧
            ∀ failure, outcome.1.failure = some failure → ∃ cause, failure = .file cause := by
  refine ⟨fun raw => ⟨?_, fun c hc => ?_, ?_⟩, fun _ _ _ _ _ h => Package.isNamed_of_ofGraph h,
    fun folder path moduleName out defaults toOutput => ?_⟩
  · rw [ne_eq, ← String.toList_eq_nil_iff]
    exact Identifier.moduleName_toList_ne_nil raw
  · exact Identifier.isModuleChar_of_mem_moduleName hc
  · exact Identifier.moduleName_moduleName raw
  · exact (run_package_cases folder path moduleName out defaults toOutput).imp_right
      fun ⟨p, hputs, hwritten⟩ => ⟨p, p.isNamed, hputs, hwritten⟩

/-- Dots and a separator do not lead out of the folder. -/
theorem moduleName_names_package_dots :
    let raw := "../My Coin"
    let folder := Folder.withText
      "\x7b\"version\":\"1.0\",\"modules\":[\x7b\"id\":\"mod-1\",\"name\":\"../My Coin\"\x7d]\x7d"
    let outcome := ((Command.package "p" none "out" none false).run Folder.files).run folder
    Identifier.moduleName raw = "my_coin" ∧
      (∃ package, Package.ofGraph raw ⟨[], []⟩ .builtIn .empty = .ok package ∧
        package.IsNamed "my_coin" .builtIn) ∧
      outcome.1.failure = none ∧ ∃ p : Packaging folder "p" none none,
        p.package.moduleName = "my_coin" ∧ IsWritten outcome.2 "out" "my_coin" p.package := by
  intro raw folder outcome
  have hname : Identifier.moduleName raw = "my_coin" := by decide +kernel
  have hdone : outcome.1.failure = none := Option.isNone_iff_eq_none.mp (by decide +kernel)
  have hpackaged : ((packaged folder "p" none none).map (·.moduleName)).toOption =
      some "my_coin" := by decide +kernel
  obtain ⟨package, hpackage⟩ :
      ∃ package, Package.ofGraph raw ⟨[], []⟩ .builtIn .empty = .ok package := ⟨_, rfl⟩
  obtain ⟨-, hpackages, hruns⟩ := moduleName_names_package
  refine ⟨hname, ⟨package, hpackage, hname ▸ hpackages raw _ _ _ _ hpackage⟩, hdone, ?_⟩
  rcases hruns folder "p" none "out" none false with ⟨-, failure, hfailed⟩ |
    ⟨p, hnamed, -, hwritten, -⟩
  · rw [show outcome = _ from hfailed] at hdone
    cases hdone
  · rw [packaged_eq_ok_iff.mpr ⟨p, rfl⟩] at hpackaged
    have hrecorded : p.package.moduleName = "my_coin" := Option.some.inj hpackaged
    refine ⟨p, hrecorded, ?_⟩
    rw [← hrecorded, hnamed.recorded]
    exact hwritten hdone rfl

end Cli

end MoveCanvas
