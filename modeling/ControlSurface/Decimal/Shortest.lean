import ControlSurface.Decimal.Binary

/- The shortest decimal that reads back. The reals that round to a double form an interval
   around it, ends included iff its significand is even. Among the decimals in that interval
   the fewest digits win, and among those the nearest to the double; where two are as near,
   `Tie` decides. All comparisons are exact, on natural numbers with a common denominator. -/
namespace ControlSurface.Decimal

/-- Which of two equally near decimals is taken: the one with an even last digit, or the
    larger one. -/
inductive Tie where
  | toEven
  | up
deriving Repr, DecidableEq

/-- Whether the smaller of two equally near decimals is taken; `digits` are its digits. -/
def Tie.takesLower : Tie → Nat → Bool
  | .toEven, digits => digits % 2 == 0
  | .up, _ => false

/-- The number `digits * 10 ^ exponent`. -/
structure Scaled where
  digits : Nat
  exponent : Int
deriving Repr, DecidableEq

/-- A fraction of natural numbers. -/
structure Ratio where
  num : Nat
  den : Nat
deriving Repr, DecidableEq

/-- Multiplication by a power of a base, which may be negative. -/
def Ratio.scale (r : Ratio) (base : Nat) (e : Int) : Ratio :=
  if 0 ≤ e then ⟨r.num * Nat.pow base e.toNat, r.den⟩ else ⟨r.num, r.den * Nat.pow base (-e).toNat⟩

/-- Whether `digits * 10 ^ exponent` rounds to the magnitude. -/
def Magnitude.roundsFrom (m : Magnitude) (s : Scaled) : Bool :=
  let unit := Ratio.scale ⟨1, 1⟩ 2 m.exponent
  let point := Ratio.scale ⟨4 * s.digits, 1⟩ 10 s.exponent
  let low := 4 * m.significand - (if m.evenNeighbours then 2 else 1)
  let high := 4 * m.significand + 2
  let left := low * unit.num * point.den
  let middle := point.num * unit.den
  let right := high * unit.num * point.den
  if m.significand % 2 = 0 then left ≤ middle ∧ middle ≤ right else left < middle ∧ middle < right

/-- Of two neighbouring decimals, the one that rounds to the magnitude; of two that do, the
    nearer one. `rest` over `den` is how far the magnitude lies above the smaller of the two. -/
def Magnitude.choose (m : Magnitude) (tie : Tie) (lower : Scaled) (rest den : Nat) :
    Option Scaled :=
  let upper : Scaled := ⟨lower.digits + 1, lower.exponent⟩
  match m.roundsFrom lower, m.roundsFrom upper with
  | true, true =>
    if 2 * rest < den ∨ 2 * rest = den ∧ tie.takesLower lower.digits then some lower
    else some upper
  | true, false => some lower
  | false, true => some upper
  | false, false => none

/-- The decimal of `exponent` next to the magnitude that rounds to it, if there is one. -/
def Magnitude.onGrid (m : Magnitude) (tie : Tie) (exponent : Int) : Option Scaled :=
  let r := Ratio.scale ⟨m.significand, 1⟩ 2 m.exponent
  let r := r.scale 10 (-exponent)
  m.choose tie ⟨r.num / r.den, exponent⟩ (r.num % r.den) r.den

/-- The first grid from `exponent` downwards that has a decimal for the magnitude. -/
def Magnitude.searchGrids (m : Magnitude) (tie : Tie) : Nat → Int → Scaled
  | 0, _ => ⟨0, 0⟩
  | fuel + 1, exponent =>
    match m.onGrid tie exponent with
    | some s => s
    | none => m.searchGrids tie fuel (exponent - 1)

/-- The number of decimal digits. -/
def digitCount (n : Nat) : Nat := (Nat.toDigits 10 n).length

/-- An exponent at which the magnitude is below one unit of the grid. -/
def Magnitude.topExponent (m : Magnitude) : Int :=
  let r := Ratio.scale ⟨m.significand, 1⟩ 2 m.exponent
  (digitCount r.num : Int) - (digitCount r.den : Int) + 1

/-- A decimal without trailing zeros in its digits. -/
def Scaled.strip : Nat → Scaled → Scaled
  | 0, s => s
  | fuel + 1, s =>
    if s.digits ≠ 0 ∧ s.digits % 10 = 0 then strip fuel ⟨s.digits / 10, s.exponent + 1⟩ else s

/-- The shortest decimal that reads back as the magnitude; zero for zero. -/
def Magnitude.shortest (m : Magnitude) (tie : Tie) : Scaled :=
  if m.significand = 0 then ⟨0, 0⟩ else Scaled.strip 400 (m.searchGrids tie 25 m.topExponent)

end ControlSurface.Decimal
