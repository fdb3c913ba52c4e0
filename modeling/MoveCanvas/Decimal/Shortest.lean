/-! # Shortest decimals

A binary64 number stands for every real that rounds to it. Of the decimals in that interval this
module finds one with the fewest digits, and of those the nearest to the number itself. All
arithmetic is exact: a positive number is `m * 2 ^ q`, and its interval reaches half way to its two
neighbours, the end points belonging to it iff `m` is even. -/

namespace MoveCanvas.Decimal

/-- The finite non-zero magnitude `mantissa * 2 ^ exponent`. The neighbour below a power of two is
nearer than the one above; `narrow` says that this is the case. -/
structure Magnitude where
  mantissa : Nat
  exponent : Int
  narrow : Bool

def leadingOne : Nat := 0x10000000000000

def Magnitude.ofBits (bits : Nat) : Magnitude :=
  let fraction : Nat := bits % leadingOne
  let field : Nat := bits / leadingOne
  if field = 0 then ⟨fraction, -1074, false⟩
  else ⟨leadingOne + fraction, field - 1075, fraction = 0 ∧ 1 < field⟩

/-- The ends and the value of an interval of reals as fractions over one denominator. -/
structure Interval where
  low : Nat
  value : Nat
  high : Nat
  denominator : Nat
  closed : Bool

def Magnitude.interval (x : Magnitude) : Interval :=
  let scale := Nat.pow 2 (x.exponent - 2).toNat
  { low := (4 * x.mantissa - if x.narrow then 1 else 2) * scale
    value := 4 * x.mantissa * scale
    high := (4 * x.mantissa + 2) * scale
    denominator := Nat.pow 2 (2 - x.exponent).toNat
    closed := x.mantissa % 2 = 0 }

def Interval.dividedBy (i : Interval) (k : Int) : Interval :=
  { low := i.low * Nat.pow 10 (-k).toNat
    value := i.value * Nat.pow 10 (-k).toNat
    high := i.high * Nat.pow 10 (-k).toNat
    denominator := i.denominator * Nat.pow 10 k.toNat
    closed := i.closed }

def Interval.holds (i : Interval) (n : Nat) : Bool :=
  if i.closed then i.low ≤ n * i.denominator && n * i.denominator ≤ i.high
  else i.low < n * i.denominator && n * i.denominator < i.high

/-- A whole number in the interval next to its value: the nearer of two, the even one of two that
are equally near. -/
def Interval.whole? (i : Interval) : Option Nat :=
  let n := i.value / i.denominator
  let rest := i.value % i.denominator
  match i.holds n, i.holds (n + 1) with
  | false, false => none
  | true, false => some n
  | false, true => some (n + 1)
  | true, true =>
    if 2 * rest < i.denominator ∨ (2 * rest = i.denominator ∧ n % 2 = 0) then some n
    else some (n + 1)

def Interval.leadingExponent (i : Interval) : Int :=
  if i.denominator ≤ i.value then (Nat.toDigits 10 (i.value / i.denominator)).length - 1
  else
    let places := (Nat.toDigits 10 (i.denominator / i.value)).length
    if i.denominator ≤ i.value * Nat.pow 10 (places - 1) then -(places - 1 : Int) else -(places : Int)

/-- A decimal `0.d₁d₂… * 10 ^ (exponent + 1)`, given by its digits and the exponent of the first. -/
structure Scientific where
  digits : List Char
  exponent : Int

def withoutTrailingZeros (digits : List Char) : List Char :=
  (digits.reverse.dropWhile (· == '0')).reverse

def Scientific.ofWhole (n : Nat) (k : Int) : Scientific :=
  let digits := Nat.toDigits 10 n
  ⟨withoutTrailingZeros digits, k + digits.length - 1⟩

/-- The shortest decimal of a non-zero magnitude. Seventeen digits always suffice. -/
def shortest (x : Magnitude) : Scientific :=
  let i := x.interval
  let e := i.leadingExponent
  let found := (List.range 17).findSome? fun (places : Nat) =>
    ((i.dividedBy (e - places)).whole?).map fun n => Scientific.ofWhole n (e - places)
  found.getD ⟨['0'], 0⟩

end MoveCanvas.Decimal
