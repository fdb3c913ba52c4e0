import MoveCanvas.Proofs.Cli.WrittenFiles

/-! # Places of paths

The steps of a path name a place, whatever stands there. A name that is joined to a path names the
entry of this name at the place of the path. Creating folders and writing files are told by the
places that they touch. -/

namespace MoveCanvas.Cli

namespace Path

def ofParts : List String → Path
  | "" :: steps => ⟨true, steps⟩
  | steps => ⟨false, steps⟩

theorem eq_ofParts_of_ofText {text : String} {p : Path} (h : ofText text = .ok p) :
    p = ofParts (parts text) := by
  unfold ofText at h
  split at h
  · cases h
  · split at h
    · cases h
    · split at h
      · cases h
      · split at h <;> cases h <;> simp_all [ofParts]

theorem parts_ne_nil (text : String) : parts text ≠ [] :=
  mt List.map_eq_nil_iff.mp (List.splitOn_ne_nil _ _)

/-- The name joined to a path is its last part; an empty part in front of it is dropped. -/
theorem parts_joinPath (out : String) {name : String} (hname : '/' ∉ name.toList) :
    ∃ front, front ≠ [] ∧ (parts out = front ∨ parts out = front ++ [""]) ∧
      parts (joinPath out name) = front ++ [name] := by
  have hparts {text : String} {cs : List Char} (h : text.toList = cs ++ '/' :: name.toList) :
      parts text = (cs.splitOn '/').map String.ofList ++ [name] := by
    rw [parts, h, List.splitOn_append_cons_self, List.splitOn_eq_singleton hname, List.map_append,
      List.map_singleton, String.ofList_toList]
  have hne (cs : List Char) : (cs.splitOn '/').map String.ofList ≠ [] :=
    mt List.map_eq_nil_iff.mp (List.splitOn_ne_nil _ _)
  unfold joinPath
  split
  · next hslash =>
    obtain ⟨cs, hcs⟩ := List.getLast?_eq_some_iff.mp hslash
    refine ⟨_, hne cs, .inr ?_, hparts ?_⟩
    · rw [parts, hcs, List.splitOn_append_cons_self, List.splitOn_nil, List.map_append]
      rfl
    · rw [String.toList_append, hcs, List.append_assoc, List.singleton_append]
  · refine ⟨_, hne out.toList, .inl rfl, hparts ?_⟩
    rw [String.toList_append, String.toList_append, List.append_assoc]
    rfl

structure IsName (name : String) : Prop where
  notEmpty : name ≠ ""
  notHere : name ≠ "."
  notUp : name ≠ ".."
  noSlash : '/' ∉ name.toList

theorem IsName.stepFrom_eq {name : String} (h : IsName name) (place : List String) :
    stepFrom place name = place ++ [name] := by
  rw [stepFrom, if_neg (not_or.mpr ⟨h.notEmpty, h.notHere⟩), if_neg h.notUp]

end Path

namespace Folder

variable {folder after : Folder} {path out text name : String} {place next : List String}
  {steps : List String} {texts : List (List String × String)}

def placeOfParts (parts : List String) : List String :=
  (Path.ofParts parts).steps.foldl Path.stepFrom (start (Path.ofParts parts))

def placeOf (path : String) : List String :=
  placeOfParts (Path.parts path)

theorem placeOfParts_concat {front : List String} (h : front ≠ []) (step : String) :
    placeOfParts (front ++ [step]) = Path.stepFrom (placeOfParts front) step := by
  obtain ⟨first, rest, rfl⟩ := List.exists_cons_of_ne_nil h
  unfold placeOfParts
  rw [List.cons_append]
  by_cases hroot : first = ""
  · subst hroot
    exact List.foldl_concat ..
  · have hofParts (rest : List String) : Path.ofParts (first :: rest) = ⟨false, first :: rest⟩ := by
      unfold Path.ofParts
      split <;> simp_all
    rw [hofParts, hofParts]
    exact List.foldl_concat ..

theorem placeOf_joinPath (hname : Path.IsName name) :
    placeOf (joinPath out name) = placeOf out ++ [name] := by
  obtain ⟨front, hfront, hout, hjoined⟩ := Path.parts_joinPath out hname.noSlash
  have hplace : placeOf out = placeOfParts front := by
    rcases hout with hout | hout
    · rw [placeOf, hout]
    · rw [placeOf, hout, placeOfParts_concat hfront]
      exact if_pos (.inl rfl)
  rw [placeOf, hjoined, placeOfParts_concat hfront, hname.stepFrom_eq, hplace]

theorem eq_foldl_of_walk (h : folder.walk place steps = .ok next) :
    next = steps.foldl Path.stepFrom place := by
  induction steps generalizing place with
  | nil => exact (Except.ok.inj h).symm
  | cons step steps ih => exact ih (walk_cons_eq_ok_iff.mp h).2.2

theorem Reaches.eq_placeOf {spot : List String} (h : folder.Reaches path spot) :
    spot = placeOf path := by
  obtain ⟨p, hpath, hwalk⟩ := h
  rw [eq_foldl_of_walk hwalk, Path.eq_ofParts_of_ofText hpath]
  rfl

/-- Every place keeps its entry, but that folders stand where there was nothing, and that some of
the texts are the files at their places. -/
def Puts (texts : List (List String × String)) (before after : Folder) : Prop :=
  ∀ place, after.entry? place = before.entry? place ∨
    ( before.entry? place = none ∧ after.entry? place = some .folder) ∨
    ∃ text, (place, text) ∈ texts ∧ after.entry? place = some (.file text.toUTF8)

/-- The text is the file in the place, or the sink has taken it. -/
def HasText (folder : Folder) (place : List String) (text : String) : Prop :=
  folder.entry? place = some (.file text.toUTF8) ∨ folder.entry? place = some .sink

section Puts

variable {before middle : Folder}

theorem Puts.refl (folder : Folder) : Puts texts folder folder :=
  fun _ => .inl rfl

theorem Puts.mono {texts' : List (List String × String)} (h : Puts texts before after)
    (htexts : texts ⊆ texts') : Puts texts' before after := fun place =>
  (h place).imp_right (Or.imp_right fun ⟨text, hmem, hfile⟩ => ⟨text, htexts hmem, hfile⟩)

theorem Puts.trans (h : Puts texts before middle) (h' : Puts texts middle after) :
    Puts texts before after := by
  intro place
  rcases h' place with hsame | ⟨hnone, hfolder⟩ | htext
  · rw [hsame]
    exact h place
  · rcases h place with hsame' | ⟨-, hfolder'⟩ | ⟨text, -, hfile⟩
    · exact .inr (.inl ⟨hsame' ▸ hnone, hfolder⟩)
    · rw [hnone] at hfolder'
      cases hfolder'
    · rw [hnone] at hfile
      cases hfile
  · exact .inr (.inr htext)

theorem Puts.entry?_eq_some {entry : Entry} (h : Puts texts before after)
    (hentry : before.entry? place = some entry) (htexts : ∀ item ∈ texts, item.1 ≠ place) :
    after.entry? place = some entry := by
  rcases h place with hsame | ⟨hnone, -⟩ | ⟨text, hmem, -⟩
  · rw [hsame, hentry]
  · rw [hentry] at hnone
    cases hnone
  · exact absurd rfl (htexts _ hmem)

theorem Puts.hasText (h : Puts texts before after) (htext : before.HasText place text)
    (htexts : ∀ item ∈ texts, item.1 ≠ place) : after.HasText place text :=
  htext.imp (h.entry?_eq_some · htexts) (h.entry?_eq_some · htexts)

theorem puts_put_folder (hnone : folder.entry? place = none) :
    Puts texts folder (folder.put place .folder) := by
  have hplace : place ≠ [] := by
    rintro rfl
    cases hnone
  intro other
  by_cases hother : other = place
  · subst hother
    exact .inr (.inl ⟨hnone, entry?_put_self hplace⟩)
  · exact .inl (entry?_put_of_ne hother)

theorem puts_put_file (hplace : place ≠ []) (hmem : (place, text) ∈ texts) :
    Puts texts folder (folder.put place (.file text.toUTF8)) := by
  intro other
  by_cases hother : other = place
  · subst hother
    exact .inr (.inr ⟨text, hmem, entry?_put_self hplace⟩)
  · exact .inl (entry?_put_of_ne hother)

end Puts

theorem puts_makeFoldersFrom {created : Bool}
    (h : folder.makeFoldersFrom place created steps = .ok after) :
    Puts texts folder after ∧ (steps ≠ [] ∨ folder.entry? place = some .folder →
      after.entry? (steps.foldl Path.stepFrom place) = some .folder) := by
  induction steps generalizing folder place created with
  | nil =>
      cases h
      exact ⟨.refl _, fun hplace => hplace.resolve_left (· rfl)⟩
  | cons step steps ih =>
      rw [makeFoldersFrom] at h
      split at h
      · cases h
      · dsimp only at h
        split at h
        · next hentry =>
          obtain ⟨hputs, hlast⟩ := ih h
          exact ⟨hputs, fun _ => hlast (.inr hentry)⟩
        · cases h
        · next hentry =>
          obtain ⟨hputs, hlast⟩ := ih h
          have hput : Puts texts folder (folder.put (Path.stepFrom place step) .folder) :=
            puts_put_folder hentry
          have hthere : Folder.entry? (folder.put (Path.stepFrom place step) .folder)
              (Path.stepFrom place step) = some .folder := by
            refine entry?_put_self ?_
            rintro hroot
            rw [hroot] at hentry
            cases hentry
          exact ⟨hput.trans hputs, fun _ => hlast (.inr hthere)⟩

theorem puts_makeFolders (h : folder.makeFolders path = .ok after) :
    Puts texts folder after ∧ after.entry? (placeOf path) = some .folder := by
  obtain ⟨p, hpath, h⟩ := bind_eq_ok_iff.mp h
  obtain rfl := Path.eq_ofParts_of_ofText hpath
  obtain ⟨hputs, hlast⟩ : Puts texts folder after ∧ _ := puts_makeFoldersFrom h
  refine ⟨hputs, hlast ?_⟩
  -- a path without steps is the root
  obtain ⟨first, rest, hparts⟩ := List.exists_cons_of_ne_nil (Path.parts_ne_nil path)
  rw [hparts]
  unfold Path.ofParts
  split
  · exact .inr rfl
  · exact .inl (List.cons_ne_nil _ _)

theorem puts_write (h : folder.write path text = .ok after) (hmem : (placeOf path, text) ∈ texts) :
    Puts texts folder after ∧ after.HasText (placeOf path) text := by
  obtain ⟨spot, hspot, hreaches, -, hwritten⟩ := reaches_of_write h
  obtain rfl := hreaches.eq_placeOf
  obtain ⟨hsink, rfl⟩ | rfl := hwritten
  · exact ⟨.refl _, .inr hsink⟩
  · exact ⟨puts_put_file hspot hmem, .inl (entry?_put_self hspot)⟩

end Folder

end MoveCanvas.Cli
