import ControlSurface.Decimal.Shortest

/- How a double is written. All formats write the shortest digits that read back; they
   differ in the layout, which is one record for each place that writes numbers. -/
namespace ControlSurface.Decimal

/-- The decisions of a number format. `positional` bounds the count of digits before the
    point (zero or less for numbers below 0.1) within which no exponent is written; without
    bounds none ever is. -/
structure NumberFormat where
  tie : Tie
  positional : Option (Int × Int)
  integralPoint : Bool
  exponentPlus : Bool
  nan : String
  infinity : String
  minusInfinity : String

/-- Names of menu items, bounds in expressions: never an exponent, no point in whole numbers. -/
def plainFormat : NumberFormat where
  tie := .up
  positional := none
  integralPoint := false
  exponentPlus := false
  nan := "NaN"
  infinity := "inf"
  minusInfinity := "-inf"

/-- Numbers of a JSON text, which has no numbers that are not finite. -/
def jsonFormat : NumberFormat where
  tie := .toEven
  positional := some (-4, 16)
  integralPoint := true
  exponentPlus := true
  nan := "null"
  infinity := "null"
  minusInfinity := "null"

/-- Numbers of a YAML text. -/
def yamlFormat : NumberFormat where
  tie := .toEven
  positional := some (-4, 16)
  integralPoint := true
  exponentPlus := false
  nan := ".nan"
  infinity := ".inf"
  minusInfinity := "-.inf"

/-- Digits with the point behind the first `before` of them, zeros filled in on either side. -/
def NumberFormat.positionalText (f : NumberFormat) (digits : List Char) (before : Int) :
    List Char :=
  let zeros (n : Int) : List Char := List.replicate n.toNat '0'
  if before ≤ 0 then '0' :: '.' :: zeros (-before) ++ digits
  else if (digits.length : Int) ≤ before then
    digits ++ zeros (before - digits.length) ++ (if f.integralPoint then ['.', '0'] else [])
  else digits.take before.toNat ++ '.' :: digits.drop before.toNat

/-- Digits with the point behind the first and a power of ten. -/
def NumberFormat.exponentText (f : NumberFormat) (digits : List Char) (before : Int) :
    List Char :=
  let e := before - 1
  let head := match digits with
    | [] => []
    | [d] => [d]
    | d :: ds => d :: '.' :: ds
  let sign := if e < 0 then ['-'] else if f.exponentPlus then ['+'] else []
  head ++ 'e' :: sign ++ Nat.toDigits 10 e.natAbs

/-- The text of a finite number without its sign. -/
def NumberFormat.unsignedText (f : NumberFormat) (x : Float) : List Char :=
  let s := (magnitude x).shortest f.tie
  if s.digits = 0 then '0' :: (if f.integralPoint then ['.', '0'] else [])
  else
    let digits := Nat.toDigits 10 s.digits
    let before := (digits.length : Int) + s.exponent
    match f.positional with
    | none => f.positionalText digits before
    | some (low, high) =>
      if low ≤ before ∧ before ≤ high then f.positionalText digits before
      else f.exponentText digits before

/-- The text of a number. -/
def NumberFormat.text (f : NumberFormat) (x : Float) : String :=
  if x.isNaN then f.nan
  else if x.isInf then if isNegative x then f.minusInfinity else f.infinity
  else String.ofList ((if isNegative x then ['-'] else []) ++ f.unsignedText x)

end ControlSurface.Decimal
