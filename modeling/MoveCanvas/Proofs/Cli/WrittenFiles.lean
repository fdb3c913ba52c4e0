import MoveCanvas.Cli.Files
import MoveCanvas.Proofs.Except

/-! # Files that have been written

A path leads through folders to the entry at its end. Putting a file where no folder stands changes
none of the ways through folders, so that the path of a file that has been written leads to it, and
the text is read again. The sink takes every text and keeps none. -/

namespace MoveCanvas.Cli

namespace Path

theorem steps_of_fileName? {path : Path} {name : String} (h : path.fileName? = some name) :
    path.steps = path.leading ++ [name] ∧ stepFrom place name = place ++ [name] := by
  obtain ⟨hlast, hname⟩ := Option.filter_eq_some_iff.mp h
  obtain ⟨hempty, hhere, hup⟩ := of_decide_eq_true hname
  obtain ⟨front, hfront⟩ := List.getLast?_eq_some_iff.mp hlast
  constructor
  · have hkept : withoutEmptyEnd path.steps = path.steps := by
      rw [withoutEmptyEnd, hfront, List.reverse_append, List.reverse_singleton,
        List.singleton_append, List.dropWhile_cons_of_neg (by simpa using hempty),
        List.reverse_cons, List.reverse_reverse]
    rw [leading, hkept, hfront, List.dropLast_concat]
  · rw [stepFrom, if_neg (not_or.mpr ⟨hempty, hhere⟩), if_neg hup]

end Path

namespace Folder

variable {folder after : Folder} {path text : String} {place next spot : List String}
  {steps more : List String} {entry : Entry}

theorem entry?_put_self (h : spot ≠ []) : Folder.entry? (folder.put spot entry) spot = some entry := by
  rw [ entry?, if_neg h]
  exact List.lookup_cons_self

theorem entry?_put_of_ne (h : place ≠ spot) :
    Folder.entry? (folder.put spot entry) place = folder.entry? place := by
  have hne : (place == spot) = false := by simpa using h
  unfold entry?
  split
  · rfl
  · simp only [put, List.lookup_cons, hne]

theorem walk_cons_eq_ok_iff {step : String} : folder.walk place (step :: steps) = .ok next ↔
    folder.entry? place = some .folder ∧ Path.isTooLong step = false ∧
      folder.walk (Path.stepFrom place step) steps = .ok next := by
  rw [walk]
  cases hentry : folder.entry? place with
  | none => simp
  | some entry => cases entry <;> cases hlong : Path.isTooLong step <;> simp

theorem walk_append_eq_ok_iff : folder.walk place (steps ++ more) = .ok next ↔
    ∃ middle, folder.walk place steps = .ok middle ∧ folder.walk middle more = .ok next := by
  induction steps generalizing place with
  | nil => simp [walk]
  | cons step steps ih =>
      rw [List.cons_append, walk_cons_eq_ok_iff, ih]
      simp only [walk_cons_eq_ok_iff]
      constructor
      · rintro ⟨hfolder, hlong, middle, hfront, hback⟩
        exact ⟨middle, ⟨hfolder, hlong, hfront⟩, hback⟩
      · rintro ⟨middle, ⟨hfolder, hlong, hfront⟩, hback⟩
        exact ⟨hfolder, hlong, middle, hfront, hback⟩

theorem walk_here_eq_ok_iff :
    folder.walk place ["."] = .ok next ↔ folder.entry? place = some .folder ∧ place = next := by
  have hshort : Path.isTooLong "." = false := by decide
  have hstay : Path.stepFrom place "." = place := if_pos (.inr rfl)
  rw [walk_cons_eq_ok_iff, hstay, walk, Except.ok.injEq, and_iff_right hshort]

theorem walk_put (hspot : folder.entry? spot ≠ some .folder)
    (h : folder.walk place steps = .ok next) : (folder.put spot entry).walk place steps = .ok next := by
  induction steps generalizing place with
  | nil => exact h
  | cons step steps ih =>
      obtain ⟨hfolder, hlong, hrest⟩ := walk_cons_eq_ok_iff.mp h
      have hne : place ≠ spot := by
        rintro rfl
        exact hspot hfolder
      refine walk_cons_eq_ok_iff.mpr ⟨?_, hlong, ih hrest⟩
      rw [entry?_put_of_ne hne, hfolder]

/-- The path leads through folders to this place, at which there may be an entry. -/
def Reaches (folder : Folder) (path : String) (spot : List String) : Prop :=
  ∃ p, Path.ofText path = .ok p ∧ folder.walk (start p) p.steps = .ok spot

theorem Reaches.put (h : folder.Reaches path next) (hspot : folder.entry? spot ≠ some .folder) :
    (folder.put spot entry).Reaches path next := by
  obtain ⟨p, hpath, hwalk⟩ := h
  exact ⟨p, hpath, walk_put hspot hwalk⟩

theorem Reaches.find_eq (h : folder.Reaches path spot) (hentry : folder.entry? spot = some entry) :
    folder.find path = .ok entry := by
  obtain ⟨p, hpath, hwalk⟩ := h
  refine bind_eq_ok_iff.mpr ⟨p, hpath, bind_eq_ok_iff.mpr ⟨spot, hwalk, ?_⟩⟩
  rw [hentry]

theorem reaches_of_write (h : folder.write path text = .ok after) :
    ∃ spot, spot ≠ [] ∧ folder.Reaches path spot ∧ folder.entry? spot ≠ some .folder ∧
      (( folder.entry? spot = some .sink ∧ after = folder) ∨
        after = folder.put spot (.file text.toUTF8)) := by
  obtain ⟨p, hpath, h⟩ := bind_eq_ok_iff.mp h
  obtain ⟨place, hway, h⟩ := bind_eq_ok_iff.mp h
  obtain ⟨place, hwalk, hhere⟩ := walk_append_eq_ok_iff.mp hway
  obtain ⟨hfolder, rfl⟩ := walk_here_eq_ok_iff.mp hhere
  cases hname : p.fileName? with
  | none =>
      rw [hname] at h
      cases h
  | some name =>
      obtain ⟨hsteps, hstep⟩ := Path.steps_of_fileName? hname
      rw [hname] at h
      cases hlong : Path.isTooLong name with
      | true => simp [hlong] at h
      | false =>
          have hreaches : folder.Reaches path (place ++ [name]) := by
            refine ⟨p, hpath, ?_⟩
            rw [hsteps, walk_append_eq_ok_iff]
            refine ⟨place, hwalk, walk_cons_eq_ok_iff.mpr ⟨hfolder, hlong, ?_⟩⟩
            rw [hstep, walk]
          refine ⟨place ++ [name], List.concat_ne_nil _ _, hreaches, ?_⟩
          simp only [hlong, Bool.false_eq_true, ↓reduceIte] at h
          split at h
          · cases h
          · next hsink => exact ⟨by simp [hsink], .inl ⟨hsink, (Except.ok.inj h).symm⟩⟩
          · next hother _ => exact ⟨hother, .inr (Except.ok.inj h).symm⟩

theorem read_of_find {bytes : ByteArray} (h : folder.find path = .ok (.file bytes))
    (htext : String.fromUTF8? bytes = some text) : folder.read path = .ok text := by
  refine bind_eq_ok_iff.mpr ⟨_, h, ?_⟩
  simp only [htext]

theorem fromUTF8?_toUTF8 (text : String) : String.fromUTF8? text.toUTF8 = some text :=
  dif_pos text.isValidUTF8

/-- What has been written to a path is read from it, unless the path leads to the sink. -/
theorem read_write (h : folder.write path text = .ok after) (hsink : folder.find path ≠ .ok .sink) :
    after.read path = .ok text := by
  obtain ⟨spot, hspot, hreaches, hfolder, ⟨hentry, -⟩ | rfl⟩ := reaches_of_write h
  · exact absurd (hreaches.find_eq hentry) hsink
  · exact read_of_find ((hreaches.put hfolder).find_eq (entry?_put_self hspot))
      (fromUTF8?_toUTF8 text)

end Folder

end MoveCanvas.Cli
