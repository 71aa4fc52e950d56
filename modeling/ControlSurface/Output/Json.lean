import ControlSurface.Json.Value
import ControlSurface.Output.Datum

/- Data as JSON text: every item and every field on a line of its own, two spaces deeper than
   what it belongs to. -/
namespace ControlSurface.Output.Json

/-- The spaces before a line. -/
def margin (depth : Nat) : String := String.join (List.replicate depth "  ")

mutual

/-- The text of a datum that belongs to a line of a depth. -/
def render (depth : Nat) : Datum → String
  | .null => "null"
  | .truth b => if b then "true" else "false"
  | .count n => toString n
  | .number x => Decimal.jsonFormat.text x
  | .text s => ControlSurface.Json.quotedText s
  | .list [] => "[]"
  | .list items => "[\n" ++ renderItems (depth + 1) items ++ "\n" ++ margin depth ++ "]"
  | .record [] => "\x7b\x7d"
  | .record fields =>
    "\x7b\n" ++ renderFields (depth + 1) fields ++ "\n" ++ margin depth ++ "\x7d"

/-- The lines of list items. -/
def renderItems (depth : Nat) : List Datum → String
  | [] => ""
  | [d] => margin depth ++ render depth d
  | d :: ds => margin depth ++ render depth d ++ ",\n" ++ renderItems depth ds

/-- The lines of record fields. -/
def renderFields (depth : Nat) : List (String × Datum) → String
  | [] => ""
  | [(name, d)] => margin depth ++ ControlSurface.Json.quotedText name ++ ": " ++ render depth d
  | (name, d) :: fields =>
    margin depth ++ ControlSurface.Json.quotedText name ++ ": " ++ render depth d ++ ",\n"
      ++ renderFields depth fields

end

/-- The text of a datum. -/
def text (d : Datum) : String := render 0 d

end ControlSurface.Output.Json
