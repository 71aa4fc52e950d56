import ControlSurface.Decimal.Literal
import ControlSurface.Json.Cursor

/- Numbers of a JSON text. A whole number that fits 64 bits stays whole. Any other number is
   computed in two steps: as many leading digits as fit an unsigned 64-bit word make a
   double, and that is multiplied or divided once by a power of ten. The last bit can differ
   from the nearest double. -/
namespace ControlSurface.Json

/-- A number of a JSON text. -/
inductive Number where
  | integer (value : Int)
  | real (value : Float)
deriving DecidableEq

/-- The double nearest to a whole number of at most 64 bits and a sign. -/
def wholeToFloat (n : Int) : Float :=
  Decimal.signed (n < 0) (UInt64.ofNat n.natAbs).toFloat

/-- The number as a double. -/
def Number.toFloat : Number → Float
  | integer n => wholeToFloat n
  | real x => x

/-- The number as a value that stood in the wrong place. -/
def Number.found : Number → Found
  | integer n => .integer n
  | real x => .real x

namespace Number

/-- The largest unsigned word. -/
def wordMax : Nat := Nat.pow 2 64 - 1

/-- A number extended by digits as long as it stays a word, and how many were used. -/
def absorb (n : Nat) : List Char → Nat × Nat
  | [] => (n, 0)
  | d :: ds =>
    let m := 10 * n + Decimal.digitValue d
    if m ≤ wordMax then
      let (k, used) := absorb m ds
      (k, used + 1)
    else (n, 0)

/-- A power of ten as a double. -/
def powerOfTen (e : Nat) : Float := Decimal.nearest 1 e

/-- Repeated division by the largest power of ten, until nothing is left. -/
def divideDown : Nat → Float → Float
  | 0, x => x
  | n + 1, x => if x == 0.0 then x else divideDown n (x / powerOfTen 308)

/-- A word times a power of ten; nothing beyond the range of doubles. -/
def scale (digits : Nat) (e : Int) : Option Float :=
  let x := (UInt64.ofNat digits).toFloat
  if 0 ≤ e then
    if e ≤ 308 then (some (x * powerOfTen e.toNat)).filter fun y => !y.isInf
    else if digits = 0 then some x else none
  else
    let n := e.natAbs
    let rounds := (n - 1) / 308
    some (divideDown rounds x / powerOfTen (n - 308 * rounds))

/-- The real number of the digits read, at the place behind it. -/
def finish (negative : Bool) (digits : Nat) (e : Int) (c : Cursor) : Read Number :=
  match scale digits e with
  | some x => .ok (.real (Decimal.signed negative x), c)
  | none => c.stop .numberOutOfRange

/-- The largest exponent that is read. -/
def exponentMax : Nat := Nat.pow 2 31 - 1

/-- Digits of an exponent up to the first that makes it too large: the value and how many
    digits it took, and whether all went well. -/
def absorbExponent (n : Nat) : List Char → Nat × Nat × Bool
  | [] => (n, 0, true)
  | d :: ds =>
    let m := 10 * n + Decimal.digitValue d
    if m ≤ exponentMax then
      let (k, used, fits) := absorbExponent m ds
      (k, used + 1, fits)
    else (n, 1, false)

/-- An exponent held within the signed words of 32 bits. -/
def clampExponent (e : Int) : Int := max (-(Nat.pow 2 31 : Int)) (min e exponentMax)

/-- Reads an exponent from its mark on; `e` is the exponent that the digits have without it. -/
def readExponent (negative : Bool) (digits : Nat) (e : Int) (c : Cursor) : Read Number :=
  let c := c.step
  let (minus, c) := match c.rest with
    | '-' :: _ => (true, c.step)
    | '+' :: _ => (false, c.step)
    | _ => (false, c)
  match c.rest with
  | [] => c.stop .endInValue
  | d :: _ =>
    if d.isDigit then
      let (run, behind) := c.takeDigits
      match absorbExponent 0 run with
      | (n, _, true) =>
        finish negative digits (clampExponent (if minus then e - n else e + n)) behind
      | (_, used, false) =>
        if digits ≠ 0 ∧ !minus then (c.skip used).stop .numberOutOfRange
        else .ok (.real (Decimal.signed negative 0.0), behind)
    else c.stopBehind .invalidNumber

/-- Whether an exponent begins here. -/
def atExponent (c : Cursor) : Bool := c.rest.head? == some 'e' || c.rest.head? == some 'E'

/-- Reads a fraction from its point on. -/
def readFraction (negative : Bool) (digits : Nat) (e : Int) (c : Cursor) : Read Number :=
  let (run, behind) := c.step.takeDigits
  if run = [] then
    if behind.rest = [] then behind.stop .endInValue else behind.stopBehind .invalidNumber
  else
    let (digits, used) := absorb digits run
    if atExponent behind then readExponent negative digits (e - used) behind
    else finish negative digits (e - used) behind

/-- Reads what follows the whole part of a number. `dropped` digits of the whole part did not
    fit a word. -/
def readTail (negative : Bool) (digits dropped : Nat) (c : Cursor) : Read Number :=
  if c.rest.head? = some '.' then readFraction negative digits dropped c
  else if atExponent c then readExponent negative digits dropped c
  else if dropped ≠ 0 then finish negative digits dropped c
  else if !negative then .ok (.integer digits, c)
  else if digits = 0 ∨ Nat.pow 2 63 < digits then
    .ok (.real (Decimal.signed true (UInt64.ofNat digits).toFloat), c)
  else .ok (.integer (-(digits : Int)), c)

/-- Reads a number behind its sign. -/
def read (negative : Bool) (c : Cursor) : Read Number :=
  match c.rest with
  | [] => c.stop .endInValue
  | '0' :: _ =>
    let c := c.step
    match c.rest with
    | d :: _ => if d.isDigit then c.stopBehind .invalidNumber else readTail negative 0 0 c
    | [] => readTail negative 0 0 c
  | d :: _ =>
    if d.isDigit then
      let (run, behind) := c.takeDigits
      let (digits, used) := absorb 0 run
      readTail negative digits (run.length - used) behind
    else c.stopBehind .invalidNumber

end Number

end ControlSurface.Json
