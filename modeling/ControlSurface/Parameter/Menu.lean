import ControlSurface.Decimal.Format
import ControlSurface.Decimal.Literal
import ControlSurface.Text.Pattern

/- Menus. A number entry becomes a menu: one that its style spells out, or one of evenly
   spaced values. A spelled-out menu is a run of entries `'label':value`, in which an
   underscore may stand for either quote. The entries are found by a pattern. -/
namespace ControlSurface
open Text (Pattern Way)

/-- One choice of a menu. -/
structure MenuItem where
  name : String
  label : String
  value : Float
deriving DecidableEq

namespace Menu

/-- The most choices that evenly spaced values make. -/
def maxItems : Nat := 1024

/-- The smaller of two numbers; a number wins over what is not a number. -/
def smaller (a b : Float) : Float :=
  if a.isNaN then b
  else if b.isNaN then a
  else if b < a then b else a

/-- The count of evenly spaced values: the steps that fit between the bounds and one more,
    one where no step leads from one bound to the other, and `maxItems` where that or more
    would fit or the steps cannot be counted. -/
def rangeCount (min max step : Float) : Nat :=
  if step > 0.0 ∧ max ≥ min then
    let steps := Decimal.floor ((max - min) / step)
    if steps.isFinite ∧ steps < Decimal.ofCount maxItems then steps.toUInt64.toNat + 1
    else maxItems
  else 1

/-- The item for the value at a place of an evenly spaced sequence, cut off at the upper bound. -/
def rangeItem (min max step : Float) (i : Nat) : MenuItem :=
  let value := smaller (min + step * Decimal.ofCount i) max
  let text := Decimal.plainFormat.text value
  ⟨text, text, value⟩

/-- The menu of evenly spaced values. -/
def ofRange (min max step : Float) : List MenuItem :=
  (List.range (rangeCount min max step)).map (rangeItem min max step)

/-- What opens or closes a label. -/
def quotePattern : Pattern := .either (.one fun c => c = '\x27') (.one fun c => c = '_')

/-- The end of a number: a point, which may be left out, and digits, of which one is enough. -/
def endPattern : Pattern :=
  .both (.optional .greedy (.one fun c => c = '.')) (.several .lazy Char.isDigit)

/-- A number: a sign and digits, which may be left out, and the end. -/
def numberPattern : Pattern :=
  .both (.optional .greedy (.one fun c => c = '-' ∨ c = '+'))
    (.both (.many .greedy Char.isDigit) endPattern)

/-- What is behind a label: the other quote, a colon and a number. -/
def valuePattern : Pattern :=
  .both quotePattern (.both (.one fun c => c = ':') (.group 2 numberPattern))

/-- An entry, `(?:'|_)(.+?)(?:'|_):([-+]?[0-9]*\.?[0-9]+?)`. Its first group is the label, which
    holds no line end, and its second the value. -/
def entryPattern : Pattern :=
  .both quotePattern (.both (.group 1 (.several .lazy fun c => c ≠ '\n')) valuePattern)

/-- Whether a text holds another. -/
def holds (part : List Char) : List Char → Bool
  | [] => part.isEmpty
  | c :: cs => part.isPrefixOf (c :: cs) || holds part cs

/-- The item of an entry; its name is its label with underscores for spaces. -/
def entryItem (entry : Way) : Option MenuItem := do
  let label ← entry.capture? 1
  let value ← Decimal.readLiteral (← entry.capture? 2)
  let name := label.map fun c => if c = ' ' then '_' else c
  return ⟨String.ofList name, String.ofList label, value⟩

/-- The menu that a style spells out: it says `menu` somewhere and has an entry. -/
def ofStyle (style : String) : Option (List MenuItem) :=
  let cs := style.toList
  if holds ['m', 'e', 'n', 'u'] cs then
    match (entryPattern.occurrences cs).filterMap entryItem with
    | [] => none
    | items => some items
  else none

end Menu

end ControlSurface
