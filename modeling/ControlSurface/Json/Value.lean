import ControlSurface.Json.Number

/- Values of a JSON text, and their compact text. The members of an object are sorted by
   key; of members with one key the last is kept. -/
namespace ControlSurface.Json

/-- A value. -/
inductive Value where
  | null
  | boolean (value : Bool)
  | number (value : Number)
  | text (value : String)
  | list (items : List Value)
  | object (members : List (String × Value))

/-- Puts a member into a list of members that is sorted by key. -/
def insertMember {α : Type} (key : String) (value : α) : List (String × α) → List (String × α)
  | [] => [(key, value)]
  | (k, v) :: rest =>
    if key < k then (key, value) :: (k, v) :: rest
    else if key = k then (key, value) :: rest
    else (k, v) :: insertMember key value rest

/-- One character inside a string of a JSON text. -/
def escapedChar (c : Char) : List Char :=
  if c = '\x22' then ['\\', '\x22']
  else if c = '\\' then ['\\', '\\']
  else if c = '\x08' then ['\\', 'b']
  else if c = '\x0c' then ['\\', 'f']
  else if c = '\n' then ['\\', 'n']
  else if c = '\r' then ['\\', 'r']
  else if c = '\t' then ['\\', 't']
  else if c < ' ' then '\\' :: 'u' :: Text.paddedHex 4 c.toNat
  else [c]

/-- A string of a JSON text. -/
def quotedText (s : String) : String :=
  String.ofList ('\x22' :: s.toList.flatMap escapedChar ++ ['\x22'])

/-- The text of a number. -/
def Number.text : Number → String
  | integer n => toString n
  | real x => Decimal.jsonFormat.text x

namespace Value

mutual

/-- The compact text of a value. -/
def compact : Value → String
  | null => "null"
  | boolean b => if b then "true" else "false"
  | number n => n.text
  | text s => quotedText s
  | list items => "[" ++ compactItems items ++ "]"
  | object members => "\x7b" ++ compactMembers members ++ "\x7d"

/-- The compact texts of list items, with commas between them. -/
def compactItems : List Value → String
  | [] => ""
  | [v] => compact v
  | v :: vs => compact v ++ "," ++ compactItems vs

/-- The compact texts of object members, with commas between them. -/
def compactMembers : List (String × Value) → String
  | [] => ""
  | [(k, v)] => quotedText k ++ ":" ++ compact v
  | (k, v) :: ms => quotedText k ++ ":" ++ compact v ++ "," ++ compactMembers ms

end

/-- The value as plain text: a string by itself, any other value by its compact text. -/
def plain : Value → String
  | text s => s
  | v => v.compact

end Value

end ControlSurface.Json
