import MoveCanvas.Cli.Run
import MoveCanvas.Proofs.Cli.WrittenFiles
import MoveCanvas.Proofs.Project.Session

/-! # Installing a response

The command that installs a response reads it and the project, decides without effects what to
write, and writes the project at the end. So it fails and leaves every file as it was, or it writes
the project in which one module, the first of the given name or the first of all, has the accepted
canvas. -/

namespace MoveCanvas.Cli

open Project (Tab FirstNamed)

/-- Of the tabs, `tab` is the one that a command means: the first of the name, or the first of all
where no name is given. -/
structure IsTarget (moduleName : Option String) (tabs front : List Tab) (tab : Tab)
    (back : List Tab) : Prop where
  split : tabs = front ++ tab :: back
  meant : match moduleName with
    | some name => tab.name = name ∧ ∀ other ∈ front, other.name ≠ name
    | none => front = []

section Target

variable {moduleName : Option String} {project next : Project} {tabs front back : List Tab}
  {tab : Tab} {imported : Imported} {target : String}

theorem IsTarget.firstNamed (h : IsTarget moduleName tabs front tab back) :
    FirstNamed tab.name tabs front tab back := by
  obtain ⟨hsplit, hmeant⟩ := h
  refine ⟨hsplit, fun other hother => ?_, rfl⟩
  cases moduleName with
  | some name =>
      obtain ⟨rfl, hothers⟩ := hmeant
      exact hothers other hother
  | none =>
      obtain rfl : front = [] := hmeant
      cases hother

theorem selectModule_eq_ok_iff : selectModule project moduleName = .ok tab ↔
    ∃ front back, IsTarget moduleName project.modules front tab back := by
  cases moduleName with
  | some name =>
      have hfound : selectModule project (some name) = .ok tab ↔
          project.modules.find? (·.name = name) = some tab := by
        rw [selectModule, mapError_eq_ok_iff, Project.module?]
        cases project.modules.find? (·.name = name) <;> simp
      rw [hfound, List.find?_eq_some_iff_append]
      constructor
      · rintro ⟨hname, front, back, hsplit, hothers⟩
        exact ⟨front, back, hsplit, by simpa using hname, by simpa using hothers⟩
      · rintro ⟨front, back, hsplit, hname, hothers⟩
        exact ⟨by simpa using hname, front, back, hsplit, by simpa using hothers⟩
  | none =>
      rw [selectModule]
      constructor
      · intro h
        split at h
        · next first tabs hmodules =>
          cases h
          exact ⟨[], tabs, hmodules, rfl⟩
        · cases h
      · rintro ⟨front, back, hsplit, hfront⟩
        obtain rfl : front = [] := hfront
        rw [hsplit]
        rfl

theorem IsTarget.replaceCanvas_eq (h : IsTarget moduleName project.modules front tab back)
    (canvas : Canvas) : project.replaceCanvas tab.name canvas =
      .ok { project with modules := front ++ tab.withCanvas canvas :: back } := by
  rw [Project.replaceCanvas, Project.update, h.firstNamed.updateFirst_eq]
  rfl

theorem installed_eq_ok_iff : installed imported project moduleName = .ok (next, target) ↔
    ∃ front tab back, IsTarget moduleName project.modules front tab back ∧ target = tab.name ∧
      next = { project with modules := front ++ tab.withCanvas imported.canvas :: back } := by
  simp only [installed, bind_eq_ok_iff, mapError_eq_ok_iff, selectModule_eq_ok_iff]
  constructor
  · rintro ⟨tab, ⟨front, back, htarget⟩, replaced, hreplaced, h⟩
    rw [htarget.replaceCanvas_eq] at hreplaced
    cases hreplaced
    cases h
    exact ⟨front, tab, back, htarget, rfl, rfl⟩
  · rintro ⟨front, tab, back, htarget, rfl, rfl⟩
    exact ⟨tab, ⟨front, back, htarget⟩, _, htarget.replaceCanvas_eq _, rfl⟩

end Target

/-- The project that a path stands for: the one in the file there, or a new one if there is no
file. -/
def Folder.Holds (folder : Folder) (path : String) (project : Project) : Prop :=
  (folder.present path = false ∧ project = .new) ∨
    ∃ text, folder.read path = .ok text ∧ Project.ofText text = .ok project

/-- What it takes to install a response: the response is accepted, and the project can be had and
has the module that is meant. -/
structure Installation (folder : Folder) (response path : String)
    (moduleName : Option String) where
  imported : Imported
  before : Project
  front : List Tab
  tab : Tab
  back : List Tab
  accepted : ∃ text, folder.read response = .ok text ∧ Response.accept text = .ok imported
  held : folder.Holds path before
  target : IsTarget moduleName before.modules front tab back

namespace Installation

variable {folder : Folder} {response path : String} {moduleName : Option String}

def next (i : Installation folder response path moduleName) : Project :=
  { i.before with modules := i.front ++ i.tab.withCanvas i.imported.canvas :: i.back }

def output (i : Installation folder response path moduleName) : String :=
  lines [installedLine i.imported i.tab.name]

end Installation

def projectAt (folder : Folder) (path : String) : Except Failure Project :=
  if folder.present path then projectOf path (folder.read path) else .ok .new

/-- What the command writes and prints, as it is settled before anything is written. -/
def prepared (folder : Folder) (response path : String) (moduleName : Option String) :
    Except Failure (Project × String) := do
  let text ← (folder.read response).mapError .file
  let imported ← (Response.accept text).mapError .response
  let before ← projectAt folder path
  let (next, target) ← installed imported before moduleName
  .ok (next, lines [installedLine imported target])

section Prepared

variable {folder : Folder} {response path output : String} {moduleName : Option String}
  {project next : Project}

theorem Folder.present_of_read {text : String} (h : folder.read path = .ok text) :
    folder.present path = true := by
  obtain ⟨entry, hfind, -⟩ := bind_eq_ok_iff.mp h
  rw [present, hfind]
  rfl

theorem projectOf_eq_ok_iff {found : Except FileError String} :
    projectOf path found = .ok project ↔ ∃ text, found = .ok text ∧ Project.ofText text = .ok project := by
  cases found with
  | error cause => simp [projectOf]
  | ok text => simp [projectOf, mapError_eq_ok_iff]

theorem projectAt_eq_ok_iff : projectAt folder path = .ok project ↔ folder.Holds path project := by
  unfold projectAt Folder.Holds
  cases hpresent : folder.present path with
  | true => simp [projectOf_eq_ok_iff]
  | false =>
      have hnone : ¬ ∃ text, folder.read path = .ok text ∧ Project.ofText text = .ok project := by
        rintro ⟨text, hread, -⟩
        rw [Folder.present_of_read hread] at hpresent
        cases hpresent
      rw [or_iff_left hnone, if_neg Bool.false_ne_true, Except.ok.injEq, and_iff_right rfl, eq_comm]

theorem prepared_eq_ok_iff : prepared folder response path moduleName = .ok (next, output) ↔
    ∃ i : Installation folder response path moduleName, next = i.next ∧ output = i.output := by
  simp only [prepared, bind_eq_ok_iff, mapError_eq_ok_iff, projectAt_eq_ok_iff]
  constructor
  · rintro ⟨text, hread, imported, haccept, before, hheld, ⟨_, target⟩, hinstalled, h⟩
    obtain ⟨front, tab, back, htarget, rfl, rfl⟩ := installed_eq_ok_iff.mp hinstalled
    cases h
    exact ⟨⟨imported, before, front, tab, back, ⟨text, hread, haccept⟩, hheld, htarget⟩, rfl, rfl⟩
  · rintro ⟨i, rfl, rfl⟩
    obtain ⟨text, hread, haccept⟩ := i.accepted
    have hinstalled : installed i.imported i.before moduleName = .ok (i.next, i.tab.name) :=
      installed_eq_ok_iff.mpr ⟨i.front, i.tab, i.back, i.target, rfl, rfl⟩
    exact ⟨text, hread, i.imported, haccept, i.before, i.held, _, hinstalled, rfl⟩

end Prepared

section Effects

variable {ε σ α β γ : Type} {s s' : σ} {x : ExceptT ε (StateM σ) α} {f : α → ExceptT ε (StateM σ) β}

def proceed (s : σ) (r : Except ε α) (k : α → Except ε β × σ) : Except ε β × σ :=
  match r with
  | .ok a => k a
  | .error e => (.error e, s)

theorem run_bind_of_read {r : Except ε α} (hx : x.run.run s = (r, s)) :
    (x >>= f).run.run s = proceed s r fun a => (f a).run.run s := by
  rw [ExceptT.run_bind, StateT.run_bind, hx]
  cases r <;> rfl

/-- Steps that only read come to what the pure steps with their results come to. -/
theorem run_bind_eq_proceed {r : Except ε α} {g : α → Except ε γ} {k : γ → Except ε β × σ}
    (hx : x.run.run s = (r, s)) (hf : ∀ a, (f a).run.run s = proceed s (g a) k) :
    (x >>= f).run.run s = proceed s (r >>= g) k := by
  rw [run_bind_of_read hx]
  cases r with
  | ok a => exact hf a
  | error e => rfl

theorem run_bind_of_ok {a : α} (hx : x.run.run s = (.ok a, s')) :
    (x >>= f).run.run s = (f a).run.run s' := by
  rw [ExceptT.run_bind, StateT.run_bind, hx]
  rfl

theorem run_bind_of_error {e : ε} (hx : x.run.run s = (.error e, s')) :
    (x >>= f).run.run s = (.error e, s') := by
  rw [ExceptT.run_bind, StateT.run_bind, hx]
  rfl

end Effects

/-- A step that may change the folder fails and leaves it, or goes on in the changed one. -/
theorem run_change_bind {β : Type} {operation : Folder → Except FileError Folder}
    {g : FileError → Failure} {f : Unit → ExceptT Failure (StateM Folder) β} (folder : Folder) :
    (ExceptT.mk (Except.mapError g <$> Folder.change operation) >>= f).run.run folder =
      match operation folder with
      | .ok after => (f ()).run.run after
      | .error cause => (.error (g cause), folder) := by
  have hstep : (ExceptT.mk (Except.mapError g <$> Folder.change operation)).run.run folder =
      ((Folder.change operation folder).1.mapError g, (Folder.change operation folder).2) := rfl
  rw [ExceptT.run_bind, StateT.run_bind, hstep, Folder.change]
  cases operation folder <;> rfl

/-- The end of the command: the project is written, or the folder stays as it is. -/
def finished (folder : Folder) (path output : String) (next : Project) :
    Except Failure String × Folder :=
  match folder.write path next.toText with
  | .ok after => (.ok output, after)
  | .error cause => (.error (.project (.file path cause)), folder)

theorem run_write (folder : Folder) (path output : String) (next : Project) :
    (do
      ExceptT.mk (Except.mapError (Failure.project ∘ ProjectError.file path) <$>
        Folder.files.write path next.toText)
      return output : ExceptT Failure (StateM Folder) String).run.run folder =
    finished folder path output next :=
  run_change_bind folder

theorem run_runInstall (folder : Folder) (response path : String) (moduleName : Option String) :
    (runInstall Folder.files response path moduleName).run.run folder =
      proceed folder (prepared folder response path moduleName) fun (next, output) =>
        finished folder path output next := by
  refine run_bind_eq_proceed rfl fun text => ?_
  refine run_bind_eq_proceed rfl fun imported => ?_
  refine (run_bind_of_ok (a := folder.present path) rfl).trans ?_
  -- From here on it makes no difference how the project has been had.
  have hrest (before : Project) : StateT.run (ExceptT.run (do
      let (next, target) ← ExceptT.mk (pure (installed imported before moduleName))
      ExceptT.mk (Except.mapError (Failure.project ∘ ProjectError.file path) <$>
        Folder.files.write path next.toText)
      return lines [installedLine imported target])) folder =
      proceed folder (do
        let (next, target) ← installed imported before moduleName
        .ok (next, lines [installedLine imported target])) fun (next, output) =>
          finished folder path output next :=
    run_bind_eq_proceed rfl fun (next, target) =>
      run_write folder path (lines [installedLine imported target]) next
  unfold projectAt
  cases folder.present path with
  | true => exact run_bind_eq_proceed rfl hrest
  | false => exact run_bind_eq_proceed rfl hrest

section Outcome

variable {folder after : Folder} {response path : String} {moduleName : Option String}
  {project : Project}

theorem Folder.Holds.find_ne_sink (h : folder.Holds path project) :
    folder.find path ≠ .ok .sink := by
  intro hsink
  rcases h with ⟨hpresent, -⟩ | ⟨text, hread, htext⟩
  · rw [Folder.present, hsink] at hpresent
    cases hpresent
  · -- The sink holds the empty text, and this is no project.
    have hempty : folder.read path = .ok "" := bind_eq_ok_iff.mpr ⟨_, hsink, rfl⟩
    obtain rfl : "" = text := Except.ok.inj (hempty.symm.trans hread)
    have hmalformed : Project.ofText "" = .error (.malformed .malformed) := by cbv
    rw [hmalformed] at htext
    cases htext

theorem Installation.read_next (i : Installation folder response path moduleName)
    (h : folder.write path i.next.toText = .ok after) : after.read path = .ok i.next.toText :=
  Folder.read_write h i.held.find_ne_sink

/-- The command fails, prints nothing and leaves the folder as it was, exactly if there is no
installation that can be written. Otherwise it writes one, and from the path of the project the text
of the project is read in which the module that is meant has the accepted canvas. -/
theorem run_install_cases (folder : Folder) (response path : String) (moduleName : Option String) :
    let outcome := ((Command.install response path moduleName).run Folder.files).run folder
    (∃ failure, outcome = (⟨"", some failure⟩, folder)) ∧
        (∀ (i : Installation folder response path moduleName) after,
          folder.write path i.next.toText ≠ .ok after) ∨
      ∃ (i : Installation folder response path moduleName) (after : Folder),
        outcome = (⟨i.output, none⟩, after) ∧ folder.write path i.next.toText = .ok after ∧
          after.read path = .ok i.next.toText := by
  intro outcome
  have houtcome : outcome = Prod.map Report.ofResult id
      ((runInstall Folder.files response path moduleName).run.run folder) := rfl
  rw [run_runInstall] at houtcome
  cases hprepared : prepared folder response path moduleName with
  | error failure =>
      rw [hprepared] at houtcome
      refine .inl ⟨⟨failure, houtcome⟩, fun i after _ => ?_⟩
      rw [prepared_eq_ok_iff.mpr ⟨i, rfl, rfl⟩] at hprepared
      cases hprepared
  | ok result =>
      obtain ⟨next, output⟩ := result
      obtain ⟨i, rfl, rfl⟩ := prepared_eq_ok_iff.mp hprepared
      rw [hprepared] at houtcome
      change outcome = Prod.map Report.ofResult id (finished folder path i.output i.next) at houtcome
      rw [finished] at houtcome
      cases hwrite : folder.write path i.next.toText with
      | error cause =>
          rw [hwrite] at houtcome
          refine .inl ⟨⟨_, houtcome⟩, fun i' after hwrite' => ?_⟩
          -- Every installation is for the same project.
          rw [prepared_eq_ok_iff.mpr ⟨i', rfl, rfl⟩] at hprepared
          have hsame : i'.next = i.next := congrArg Prod.fst (Except.ok.inj hprepared)
          rw [hsame, hwrite] at hwrite'
          cases hwrite'
      | ok after =>
          rw [hwrite] at houtcome
          exact .inr ⟨i, after, houtcome, hwrite, i.read_next hwrite⟩

end Outcome

end MoveCanvas.Cli
