/-! # Logged text

A log line may be shown by a terminal, so it must not hold the characters that control one. The
bell, the backspace, the form feed, the escape, the delete and the second block of controls are
written by number; tabs, newlines and the other controls stay. -/

namespace MoveCanvas.Text

/-- The controls of the first block on which a terminal acts. -/
def terminalControls : List Char := ['\x07', '\x08', '\x0c', '\x1b', '\x7f']

def isSecondControl (c : Char) : Bool :=
  0x80 ≤ c.toNat && c.toNat < 0xA0

def hexPair (n : Nat) : List Char :=
  [Nat.digitChar (n / 16 % 16), Nat.digitChar (n % 16)]

def logChar (c : Char) : List Char :=
  if isSecondControl c then ['\\', 'u', '\x7b'] ++ hexPair c.toNat ++ ['\x7d']
  else if terminalControls.contains c then ['\\', 'x'] ++ hexPair c.toNat
  else [c]

def logged (s : String) : String :=
  String.ofList (s.toList.flatMap logChar)

def controlsTerminal (c : Char) : Bool :=
  isSecondControl c || terminalControls.contains c

theorem not_controlsTerminal_of_mem_hexPair {n : Nat} {c : Char} (h : c ∈ hexPair n) :
    controlsTerminal c = false := by
  have digits : ∀ d < 16, controlsTerminal (Nat.digitChar d) = false := by decide
  simp only [hexPair, List.mem_cons, List.not_mem_nil, or_false] at h
  rcases h with rfl | rfl
  · exact digits _ (Nat.mod_lt _ (by decide))
  · exact digits _ (Nat.mod_lt _ (by decide))

theorem not_controlsTerminal_of_mem_logChar {c d : Char} (h : d ∈ logChar c) :
    controlsTerminal d = false := by
  unfold logChar at h
  split at h
  · simp only [List.cons_append, List.nil_append, List.mem_cons, List.mem_append,
      List.not_mem_nil, or_false] at h
    rcases h with rfl | rfl | rfl | h | rfl
    · rfl
    · rfl
    · rfl
    · exact not_controlsTerminal_of_mem_hexPair h
    · rfl
  · next hsecond =>
    split at h
    · simp only [List.cons_append, List.nil_append, List.mem_cons] at h
      rcases h with rfl | rfl | h
      · rfl
      · rfl
      · exact not_controlsTerminal_of_mem_hexPair h
    · next hfirst =>
      obtain rfl := List.mem_singleton.mp h
      rw [Bool.not_eq_true] at hsecond hfirst
      rw [controlsTerminal, hsecond, hfirst]
      rfl

/-- A logged text does not control a terminal, whatever stands in it. -/
theorem not_controlsTerminal_of_mem_logged {s : String} {c : Char} (h : c ∈ (logged s).toList) :
    controlsTerminal c = false := by
  rw [logged, String.toList_ofList] at h
  obtain ⟨_, _, h⟩ := List.mem_flatMap.mp h
  exact not_controlsTerminal_of_mem_logChar h

end MoveCanvas.Text
