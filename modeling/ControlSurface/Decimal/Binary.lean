/- Finite doubles as exact binary fractions. A finite double is a sign, a whole
   significand and a power of two; `Magnitude` is the last two, read off the bits. The bits
   behind the point are cut off to round a double to a whole number. -/
namespace ControlSurface.Decimal

/-- The number `significand * 2 ^ exponent`. `evenNeighbours` says that the step to the next
    smaller double is as large as the step to the next larger one: it is half as large just
    above a power of two. -/
structure Magnitude where
  significand : Nat
  exponent : Int
  evenNeighbours : Bool
deriving Repr, DecidableEq

/-- The exponent field of a double. -/
def exponentField (x : Float) : Nat := (x.toBits.toNat / Nat.pow 2 52) % 2048

/-- The fraction field of a double. -/
def fractionField (x : Float) : Nat := x.toBits.toNat % Nat.pow 2 52

/-- The sign bit of a double, which negative zero has too. -/
def isNegative (x : Float) : Bool := x.toBits.toNat / Nat.pow 2 63 = 1

/-- The exact value of a finite double without its sign. -/
def magnitude (x : Float) : Magnitude :=
  let e := exponentField x
  let f := fractionField x
  if e = 0 then ⟨f, -1074, true⟩ else ⟨f + Nat.pow 2 52, (e : Int) - 1075, f ≠ 0 ∨ e = 1⟩

/-- The largest whole number that is not above a double. A double below `2 ^ 52` has bits
    behind the point, and those are cut off; below zero, only after the double has moved on to
    the next whole number. The carry out of the fraction is the next exponent. -/
def floor (x : Float) : Float :=
  let e := exponentField x
  if 1075 ≤ e then x
  else if e < 1023 then
    if !isNegative x then 0.0 else if (magnitude x).significand = 0 then x else -1.0
  else
    let unit := Nat.pow 2 (1075 - e)
    let bits := x.toBits.toNat + (if isNegative x then unit - 1 else 0)
    Float.ofBits (UInt64.ofNat (bits / unit * unit))

/-- A whole number as a double. -/
def ofCount (n : Nat) : Float := n.toUInt64.toFloat

end ControlSurface.Decimal
