import MoveCanvas.Import.Response
import MoveCanvas.Proofs.Text.Blanks

/-! # Code fences

A code fence around a text, with or without the tag of the format and with any blanks at its marks,
makes no difference to what is read. Only the first opening and the last closing mark are taken
away, so that the text inside may itself hold or end in such marks. A bare text that begins with the
letters of the tag needs a blank before it. -/

namespace MoveCanvas.Response

open Text (isBlank forall_isBlank)

def formatTag : List Char := "json".toList

theorem withoutFence_of_bare {cs : List Char} (h : ¬ fence <+: Text.trim cs) :
    withoutFence cs = Text.trim cs := by
  rw [withoutFence, Text.after?_eq_none_iff.mpr h]

/-- The marks are no blanks, so that blanks are trimmed as far as the marks only. -/
theorem trim_fenced (body : List Char) :
    Text.trim (fence ++ body ++ fence) = fence ++ body ++ fence := by
  have hmark : isBlank '\x60' = false := by decide
  have hends : fence ++ body ++ fence = '\x60' :: ("\x60\x60".toList ++ body ++ "\x60\x60".toList) ++
      ['\x60'] := by
    simp [fence]
  rw [hends]
  exact Text.trim_eq_self hmark hmark _

section

variable {lead body inner trail : List Char} (hlead : ∀ c ∈ lead, isBlank c = true)
  (htrail : ∀ c ∈ trail, isBlank c = true)
include hlead htrail

theorem withoutFence_fenced (hinner :
      (Text.after? formatTag (body ++ fence)).getD (body ++ fence) = inner ++ fence) :
    withoutFence (lead ++ (fence ++ body ++ fence) ++ trail) = Text.trim inner := by
  have hopen : Text.after? fence (fence ++ body ++ fence) = some (body ++ fence) :=
    Text.after?_eq_some_iff.mpr (List.append_assoc ..)
  have hclose : Text.before? fence (inner ++ fence) = some inner :=
    Text.before?_eq_some_iff.mpr rfl
  rw [withoutFence, Text.trim_between_blanks hlead htrail, trim_fenced, hopen]
  dsimp only
  rw [← formatTag, hinner, hclose]
  rfl

theorem withoutFence_tagged (inner : List Char) :
    withoutFence (lead ++ (fence ++ (formatTag ++ inner) ++ fence) ++ trail) = Text.trim inner := by
  refine withoutFence_fenced hlead htrail ?_
  rw [List.append_assoc, Text.after?_eq_some_iff.mpr rfl]
  rfl

theorem withoutFence_untagged (h : ¬ formatTag <+: inner ++ fence) :
    withoutFence (lead ++ (fence ++ inner ++ fence) ++ trail) = Text.trim inner := by
  refine withoutFence_fenced hlead htrail ?_
  rw [Text.after?_eq_none_iff.mpr h]
  rfl

end

theorem not_formatTag_prefix {before text behind : List Char} (hbefore : ∀ c ∈ before, isBlank c = true)
    (hbehind : ∀ c ∈ behind, isBlank c = true) (h : before ≠ [] ∨ ¬ formatTag <+: text) :
    ¬ formatTag <+: before ++ text ++ behind ++ fence := by
  have hblank {c : Char} (hc : isBlank c = true) : c ∉ formatTag :=
    forall_isBlank (p := (· ∉ formatTag)) (by decide) hc
  cases before with
  | cons c before =>
      have htag : formatTag = 'j' :: "son".toList := by decide
      rw [htag, List.cons_append, List.cons_append, List.cons_append, List.cons_prefix_cons]
      rintro ⟨rfl, -⟩
      exact hblank (hbefore _ List.mem_cons_self) (by decide)
  | nil =>
      have htext : ¬ formatTag <+: text := h.resolve_left fun hne => hne rfl
      obtain ⟨c, rest, hrest, hc⟩ : ∃ c rest, behind ++ fence = c :: rest ∧ c ∉ formatTag := by
        cases behind with
        | nil => exact ⟨_, _, rfl, by decide⟩
        | cons c behind => exact ⟨c, _, rfl, hblank (hbehind c List.mem_cons_self)⟩
      rw [List.nil_append, List.append_assoc, hrest, Text.prefix_append_cons_iff hc]
      exact htext

/-- Of the two responses the same text is read, so that a fault is found at the same place of it, and
the same canvas or error is returned. -/
structure ReadAlike (response response' : String) : Prop where
  text : withoutFence response.toList = withoutFence response'.toList
  parse : parse response = parse response'

theorem ReadAlike.of_text {response response' : String}
    (h : withoutFence response.toList = withoutFence response'.toList) :
    ReadAlike response response' where
  text := h
  parse := by rw [Response.parse, Response.parse, h]

/-- A text that is not fenced itself may be put into a code fence with the tag of the format, with
whatever blanks around it and around the fence: the canvas that is read stays the same, and so does
the error if there is none. The tag may be left out unless the text stands at the mark and begins
with the letters of the tag. -/
theorem readAlike_fenced {text lead gap gap' trail : String}
    (htext : ¬ fence <+: Text.trim text.toList)
    (hblank : ∀ blanks ∈ [lead, gap, gap', trail], ∀ c ∈ blanks.toList, isBlank c = true) :
    ReadAlike (lead ++ "```json" ++ gap ++ text ++ gap' ++ "```" ++ trail) text ∧
      (gap ≠ "" ∨ ¬ "json".toList <+: text.toList →
        ReadAlike (lead ++ "```" ++ gap ++ text ++ gap' ++ "```" ++ trail) text) := by
  simp only [List.forall_mem_cons, List.not_mem_nil, false_implies, implies_true, and_true] at hblank
  obtain ⟨hlead, hgap, hgap', htrail⟩ := hblank
  have hinner : Text.trim (gap.toList ++ text.toList ++ gap'.toList) = withoutFence text.toList := by
    rw [Text.trim_between_blanks hgap hgap', withoutFence_of_bare htext]
  constructor
  · refine .of_text ?_
    rw [← hinner, ← withoutFence_tagged hlead htrail]
    simp [fence, formatTag]
  · intro htag
    have hplain := not_formatTag_prefix hgap hgap'
      (htag.imp_left fun hne hnil => hne (String.toList_eq_nil_iff.mp hnil))
    refine .of_text ?_
    rw [← hinner, ← withoutFence_untagged hlead htrail hplain]
    simp [fence]

theorem readAlike_fenced_noBreak :
    let text := "\x7b\"nodes\":[\x7b\"id\":\"s-1\"\x7d],\"edges\":[]\x7d"
    let canvas : Canvas := ⟨[⟨"s-1", none, .null, .ofLabel "", false⟩], []⟩
    let blanks := ["\n", "\u00a0\n", "\n", ""]
    ¬ fence <+: Text.trim text.toList ∧ ¬ fence <+: Text.trim "json```".toList ∧
      (∀ blank ∈ blanks, ∀ c ∈ blank.toList, isBlank c = true) ∧
      parse ("\n" ++ "```json" ++ "\u00a0\n" ++ text ++ "\n" ++ "```" ++ "") = .ok canvas ∧
      parse ("\n" ++ "```" ++ "\u00a0\n" ++ text ++ "\n" ++ "```" ++ "") = .ok canvas ∧
      parse ("\n" ++ "```json" ++ "\u00a0\n" ++ "json```" ++ "\n" ++ "```" ++ "") =
        .error (.malformedResponse .malformed) := by
  intro text canvas blanks
  have htext : ¬ fence <+: Text.trim text.toList := by decide +kernel
  have hbroken : ¬ fence <+: Text.trim "json```".toList := by decide +kernel
  have hblanks : ∀ blank ∈ blanks, ∀ c ∈ blank.toList, isBlank c = true := by
    simp only [← List.all_eq_true]
    decide
  have hparse : parse text = .ok canvas := by decide +kernel
  have hfault : parse "json```" = .error (.malformedResponse .malformed) := by decide +kernel
  obtain ⟨htagged, hplain⟩ := readAlike_fenced htext hblanks
  refine ⟨htext, hbroken, hblanks, htagged.parse.trans hparse, ?_, ?_⟩
  · exact (hplain (.inl (by decide))).parse.trans hparse
  · exact (readAlike_fenced hbroken hblanks).1.parse.trans hfault

end MoveCanvas.Response
