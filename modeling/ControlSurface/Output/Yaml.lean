import ControlSurface.Decimal.Format
import ControlSurface.Output.Datum
import ControlSurface.Yaml.Writer

/- Data as YAML text, in block style. The items of a list are indented no deeper than its
   name; the fields of a record are indented by two. -/
namespace ControlSurface.Output.Yaml

/-- The spaces before a line. -/
def margin (indent : Nat) : String := String.join (List.replicate indent " ")

/-- A value of one line, or of several whose further lines have a margin of their own. -/
def scalar? (indent : Nat) : Datum → Option String
  | .null => some "null"
  | .truth b => some (if b then "true" else "false")
  | .count n => some (toString n)
  | .number x => some (Decimal.yamlFormat.text x)
  | .text s => some (ControlSurface.Yaml.Writer.scalar (indent + 2) s)
  | .list [] => some "[]"
  | .record [] => some "\x7b\x7d"
  | _ => none

/-- Behind a scalar the line ends, unless the scalar has ended it. -/
def endLine (text : String) : String := if text.endsWith "\n" then text else text ++ "\n"

mutual

/-- The lines of record fields. The first line has no margin. -/
def renderFields (indent : Nat) : List (String × Datum) → String
  | [] => ""
  | (name, d) :: fields =>
    let rest := renderFields indent fields
    name ++ ":" ++ renderValue indent d
      ++ (if fields.isEmpty then "" else margin indent) ++ rest

/-- What stands behind the name of a field, from the colon on. -/
def renderValue (indent : Nat) (d : Datum) : String :=
  match scalar? indent d with
  | some s => " " ++ endLine s
  | none =>
    match d with
    | .list items => "\n" ++ renderItems indent items
    | .record fields => "\n" ++ margin (indent + 2) ++ renderFields (indent + 2) fields
    | _ => ""

/-- The lines of list items, each with its margin. -/
def renderItems (indent : Nat) : List Datum → String
  | [] => ""
  | d :: ds => margin indent ++ "- " ++ renderItem indent d ++ renderItems indent ds

/-- What stands behind the dash of an item. -/
def renderItem (indent : Nat) (d : Datum) : String :=
  match scalar? indent d with
  | some s => endLine s
  | none =>
    match d with
    | .list (d :: ds) => "- " ++ renderItem (indent + 2) d ++ renderItems (indent + 2) ds
    | .record fields => renderFields (indent + 2) fields
    | _ => ""

end

/-- The text of a datum. -/
def text (d : Datum) : String :=
  match d with
  | .list (d :: ds) => renderItems 0 (d :: ds)
  | .record ((name, d) :: fields) => renderFields 0 ((name, d) :: fields)
  | d => endLine ((scalar? 0 d).getD "")

end ControlSurface.Output.Yaml
