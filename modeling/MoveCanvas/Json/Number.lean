import MoveCanvas.Decimal.Shortest

/-! # JSON numbers

An integer literal that fits 64 bits stays an integer; every other literal, minus zero included,
is a binary64 number. A literal beyond the range of binary64 denotes nothing. The reading keeps a
64-bit significand and scales it by one power of ten, so its result may differ from the nearest
number in the last place. -/

namespace MoveCanvas.Json

inductive Number
  | int (value : Int)
  | real (value : Float)
deriving DecidableEq, Repr

structure Literal where
  negative : Bool
  whole : List Char
  fraction : List Char
  exponent : Option Int

namespace Literal

def signed (cs : List Char) : Bool × List Char :=
  match cs with
  | '-' :: cs => (true, cs)
  | cs => (false, cs)

/-- A non-empty row of digits without a superfluous leading zero. -/
def whole? (cs : List Char) : Option (List Char × List Char) :=
  match cs.takeWhile Char.isDigit with
  | [] => none
  | '0' :: _ :: _ => none
  | digits => some (digits, cs.dropWhile Char.isDigit)

/-- A point with at least one digit after it, or nothing. -/
def fraction? (cs : List Char) : Option (List Char × List Char) :=
  match cs with
  | '.' :: cs =>
    match cs.takeWhile Char.isDigit with
    | [] => none
    | digits => some (digits, cs.dropWhile Char.isDigit)
  | cs => some ([], cs)

def power? (cs : List Char) : Option (Int × List Char) :=
  let (negative, cs) := match cs with
    | '-' :: cs => (true, cs)
    | '+' :: cs => (false, cs)
    | cs => (false, cs)
  match cs.takeWhile Char.isDigit with
  | [] => none
  | digits =>
    let n : Int := Nat.ofDigitChars 10 digits 0
    some (if negative then -n else n, cs.dropWhile Char.isDigit)

def exponent? (cs : List Char) : Option (Option Int × List Char) :=
  match cs with
  | 'e' :: cs | 'E' :: cs => (power? cs).map fun (n, cs) => (some n, cs)
  | cs => some (none, cs)

def scan? (cs : List Char) : Option (Literal × List Char) :=
  match whole? (signed cs).2 with
  | none => none
  | some (whole, rest) =>
    match fraction? rest with
    | none => none
    | some (fraction, rest) =>
      (exponent? rest).map fun (exponent, rest) =>
        (⟨(signed cs).1, whole, fraction, exponent⟩, rest)

theorem length_dropWhile_le (p : Char → Bool) (cs : List Char) :
    (cs.dropWhile p).length ≤ cs.length :=
  (List.dropWhile_sublist p).length_le

theorem length_signed_le (cs : List Char) : (signed cs).2.length ≤ cs.length := by
  unfold signed
  split <;> simp

theorem length_of_whole? {cs digits rest : List Char} (h : whole? cs = some (digits, rest)) :
    rest.length < cs.length := by
  unfold whole? at h
  split at h
  · cases h
  · cases h
  · next hne _ =>
    cases h
    cases cs with
    | nil => exact absurd rfl hne
    | cons c cs =>
        have hc : c.isDigit = true := by
          cases hc : c.isDigit
          · simp [hc] at hne
          · rfl
        rw [List.dropWhile_cons_of_pos hc]
        exact Nat.lt_succ_of_le (length_dropWhile_le _ _)

theorem length_of_fraction? {cs digits rest : List Char} (h : fraction? cs = some (digits, rest)) :
    rest.length ≤ cs.length := by
  unfold fraction? at h
  split at h
  · split at h
    · cases h
    · cases h
      exact Nat.le_succ_of_le (length_dropWhile_le _ _)
  · cases h
    exact Nat.le_refl _

theorem length_of_power? {cs rest : List Char} {n : Int} (h : power? cs = some (n, rest)) :
    rest.length ≤ cs.length := by
  unfold power? at h
  split at h
  next negative ds hds =>
    have hle : ds.length ≤ cs.length := by
      split at hds <;> cases hds <;> simp
    split at h
    · cases h
    · cases h
      exact Nat.le_trans (length_dropWhile_le _ _) hle

theorem length_of_exponent? {cs rest : List Char} {n : Option Int}
    (h : exponent? cs = some (n, rest)) : rest.length ≤ cs.length := by
  unfold exponent? at h
  split at h
  iterate 2
    obtain ⟨⟨_, _⟩, hpower, he⟩ := Option.map_eq_some_iff.mp h
    cases he
    exact Nat.le_succ_of_le (length_of_power? hpower)
  · cases h
    exact Nat.le_refl _

theorem length_of_scan? {cs rest : List Char} {literal : Literal}
    (h : scan? cs = some (literal, rest)) : rest.length < cs.length := by
  unfold scan? at h
  have hsigned := length_signed_le cs
  split at h
  · cases h
  · next hwhole =>
    have hwhole := length_of_whole? hwhole
    split at h
    · cases h
    · next hfraction =>
      have hfraction := length_of_fraction? hfraction
      obtain ⟨⟨_, _⟩, hexponent, he⟩ := Option.map_eq_some_iff.mp h
      cases he
      have hexponent := length_of_exponent? hexponent
      omega

/-- Significands stay below `2 ^ 64`. -/
def significandLimit : Nat := 0x10000000000000000

/-- Appends digits to a significand while it stays below the limit. The other digits are left. -/
def gather (significand : Nat) : List Char → Nat × List Char
  | [] => (significand, [])
  | d :: ds =>
    let next := significand * 10 + (d.toNat - '0'.toNat)
    if next < significandLimit then gather next ds else (significand, d :: ds)

/-- `x * 10 ^ exponent`, or nothing if that is out of range. Small results become zero. -/
def scale (x : Float) (exponent : Int) : Option Float :=
  if exponent.natAbs ≤ 308 then
    if 0 ≤ exponent then
      let y := x * Float.ofScientific 1 false exponent.natAbs
      if y.isInf then none else some y
    else some (x / Float.ofScientific 1 false exponent.natAbs)
  else if x == 0.0 then some x
  else if 0 ≤ exponent then none
  else scale (x / Float.ofScientific 1 false 308) (exponent + 308)
termination_by exponent.natAbs
decreasing_by omega

/-- Negative integers do not lie below `-2 ^ 63`. -/
def negativeLimit : Nat := 0x8000000000000000

def integer (negative : Bool) (n : Nat) : Number :=
  if negative = false then .int n
  else if n = 0 ∨ negativeLimit < n then .real (-Float.ofNat n)
  else .int (-n)

def number? (literal : Literal) : Option Number :=
  let (leading, dropped) := gather 0 literal.whole
  if dropped = [] ∧ literal.fraction = [] ∧ literal.exponent = none then
    some (integer literal.negative leading)
  else
    let (significand, ignored) := gather leading literal.fraction
    let taken := literal.fraction.length - ignored.length
    let exponent : Int := dropped.length - taken + literal.exponent.getD 0
    (scale (Float.ofNat significand) exponent).map fun x =>
      .real (if literal.negative then -x else x)

end Literal

/-! ## Writing -/

/-- Decimals whose first digit has one of these exponents are written positionally. -/
def isPositional (exponent : Int) : Bool :=
  -5 ≤ exponent && exponent < 16

/-- Positional notation always has a point with a digit on both sides. -/
def positional (digits : List Char) (exponent : Int) : List Char :=
  if exponent < 0 then
    ['0', '.'] ++ List.replicate ((-exponent).toNat - 1) '0' ++ digits
  else
    let places := exponent.toNat + 1
    if digits.length ≤ places then digits ++ List.replicate (places - digits.length) '0' ++ ['.', '0']
    else digits.take places ++ ['.'] ++ digits.drop places

/-- Scientific notation has a point only before a second digit, and always a sign. -/
def scientific (digits : List Char) (exponent : Int) : List Char :=
  digits.take 1 ++ (if digits.length ≤ 1 then [] else '.' :: digits.drop 1) ++
    ['e', if exponent < 0 then '-' else '+'] ++ Nat.toDigits 10 exponent.natAbs

def magnitudeText (bits : Nat) : List Char :=
  if bits = 0 then ['0', '.', '0']
  else
    let d := Decimal.shortest (.ofBits bits)
    if isPositional d.exponent then positional d.digits d.exponent
    else scientific d.digits d.exponent

def integerText (n : Int) : List Char :=
  if n < 0 then '-' :: Nat.toDigits 10 n.natAbs else Nat.toDigits 10 n.natAbs

def signBit : Nat := 0x8000000000000000

def realText (x : Float) : List Char :=
  let bits := x.toBits.toNat
  if bits < signBit then magnitudeText bits else '-' :: magnitudeText (bits - signBit)

def Number.chars : Number → List Char
  | .int n => integerText n
  | .real x => realText x

def Number.text (n : Number) : String :=
  String.ofList n.chars

end MoveCanvas.Json
