/- Reading decimals. A literal is an optional sign before `inf`, `infinity`, `nan` in any
   case, or before digits with at most one point and an optional exponent; its value is the
   nearest double, ties to even. -/
namespace ControlSurface.Decimal

/-- The value of a digit. -/
def digitValue (c : Char) : Nat := c.toNat - '0'.toNat

/-- The value of a run of digits. -/
def digitsValue (cs : List Char) : Nat := cs.foldl (fun n c => 10 * n + digitValue c) 0

/-- A sign taken off the front: whether it is a minus, and the rest. -/
def takeSign : List Char → Bool × List Char
  | '-' :: cs => (true, cs)
  | '+' :: cs => (false, cs)
  | cs => (false, cs)

/-- A sign put before a double. -/
def signed (negative : Bool) (x : Float) : Float := if negative then -x else x

/-- The double nearest to `digits * 10 ^ exponent`. Beyond the range of doubles the answer is
    decided by the place of the first digit alone. -/
def nearest (digits : Nat) (exponent : Int) : Float :=
  let place := (Nat.toDigits 10 digits).length + exponent
  if digits = 0 ∨ place < -400 then 0.0
  else if 400 < place then 1.0 / 0.0
  else Float.ofScientific digits (exponent < 0) exponent.natAbs

/-- The exponent part of a literal: absent, or a mark, an optional sign and digits. -/
def readExponent : List Char → Option Int
  | [] => some 0
  | c :: cs =>
    if c = 'e' ∨ c = 'E' then
      let (negative, ds) := takeSign cs
      if ds ≠ [] ∧ ds.all Char.isDigit then
        some (if negative then -(digitsValue ds : Int) else digitsValue ds)
      else none
    else none

/-- The digits of a literal, with or without a point among them, and its exponent. -/
def readDigits (cs : List Char) : Option (Nat × Int) :=
  let whole := cs.takeWhile Char.isDigit
  let rest := cs.dropWhile Char.isDigit
  let (fraction, rest) := match rest with
    | '.' :: more => (more.takeWhile Char.isDigit, more.dropWhile Char.isDigit)
    | more => ([], more)
  if whole = [] ∧ fraction = [] then none
  else (readExponent rest).map fun e => (digitsValue (whole ++ fraction), e - fraction.length)

/-- The number that a literal denotes. -/
def readLiteral (cs : List Char) : Option Float :=
  let (negative, body) := takeSign cs
  let lower := body.map Char.toLower
  if lower = ['i', 'n', 'f'] ∨ lower = ['i', 'n', 'f', 'i', 'n', 'i', 't', 'y'] then
    some (signed negative (1.0 / 0.0))
  else if lower = ['n', 'a', 'n'] then some (0.0 / 0.0)
  else (readDigits body).map fun (digits, e) => signed negative (nearest digits e)

/-- A natural number below `bound` in a base up to sixteen: at least one digit, and a plus may
    stand before them. -/
def readNatural (base bound : Nat) (cs : List Char) : Option Nat :=
  let body := match cs with
    | '+' :: more => more
    | more => more
  let value (c : Char) : Option Nat :=
    if c.isDigit then some (c.toNat - '0'.toNat)
    else if 'a' ≤ c ∧ c ≤ 'f' then some (c.toNat - 'a'.toNat + 10)
    else if 'A' ≤ c ∧ c ≤ 'F' then some (c.toNat - 'A'.toNat + 10)
    else none
  let step (n : Option Nat) (c : Char) : Option Nat :=
    n.bind fun n => (value c).bind fun d => if d < base then some (base * n + d) else none
  if body = [] then none else (body.foldl step (some 0)).filter (· < bound)

end ControlSurface.Decimal
