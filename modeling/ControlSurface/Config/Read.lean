import ControlSurface.Config
import ControlSurface.Yaml.Node

/- Settings written in YAML: a mapping from the names of settings to their values. Settings
   that are not named keep their defaults, names that are no settings are passed over, and no
   setting may be named twice. -/
namespace ControlSurface.Config

open Yaml

/-- The anchored nodes of a text. -/
abbrev Anchored : Type := List (Nat × Yaml.Node)

/-- The node that an alias stands for; any other node stands for itself. -/
def target (anchored : Anchored) : Yaml.Node → Option Yaml.Node
  | .alias number => anchored.lookup number
  | node => some node

/-- The text of a scalar, however it is written. -/
def textOf (anchored : Anchored) (n : Yaml.Node) : Option String := do
  match ← target anchored n with
  | .scalar text _ _ => some text
  | _ => none

/-- The text of a scalar that may stand for a value of a type: a plain one, or a literal one
    with the tag of the type. -/
def valueText (anchored : Anchored) (tag : String) (n : Yaml.Node) : Option String := do
  match ← target anchored n with
  | .scalar text .plain _ => some text
  | .scalar text .literal (some t) =>
    if t = ("tag:yaml.org,2002:" ++ tag).toList then some text else none
  | _ => none

/-- A truth value. -/
def boolOf (anchored : Anchored) (n : Yaml.Node) : Option Bool := do
  let text ← valueText anchored "bool" n
  if ["true", "True", "TRUE"].contains text then some true
  else if ["false", "False", "FALSE"].contains text then some false
  else none

/-- The value of digits in a base up to sixteen; at least one is needed. -/
def digitsOf (base : Nat) (cs : List Char) : Option Nat :=
  let value (c : Char) : Option Nat :=
    if c.isDigit then some (c.toNat - '0'.toNat)
    else if 'a' ≤ c ∧ c ≤ 'f' then some (c.toNat - 'a'.toNat + 10)
    else if 'A' ≤ c ∧ c ≤ 'F' then some (c.toNat - 'A'.toNat + 10)
    else none
  if cs = [] then none
  else cs.foldl (fun n c => n.bind fun n => (value c).bind fun d =>
    if d < base then some (base * n + d) else none) (some 0)

/-- The base that a mark before digits stands for, and the digits. -/
def markedDigits : List Char → Option (Nat × List Char)
  | '0' :: 'x' :: cs => some (16, cs)
  | '0' :: 'o' :: cs => some (8, cs)
  | '0' :: 'b' :: cs => some (2, cs)
  | _ => none

/-- The whole number that a text stands for: an optional sign before decimal digits, or before
    digits in the base of their mark. Decimal digits do not start with a superfluous zero. -/
def wholeOf (cs : List Char) : Option Int := do
  let (negative, body) := match cs with
    | '-' :: more => (true, more)
    | '+' :: more => (false, more)
    | more => (false, more)
  let n ← match markedDigits body with
    | some (base, digits) => digitsOf base digits
    | none =>
      if body.head? = some '0' ∧ 1 < body.length then none else digitsOf 10 body
  some (if negative then -(n : Int) else n)

/-- A whole number of 64 bits. -/
def wordOf (anchored : Anchored) (n : Yaml.Node) : Option Int64 := do
  let i ← wholeOf (← valueText anchored "int" n).toList
  if -(Nat.pow 2 63 : Int) ≤ i ∧ i < Nat.pow 2 63 then some (Int64.ofInt i) else none

/-- A list of texts. Nothing written is the empty list. -/
def textsOf (anchored : Anchored) (n : Yaml.Node) : Option (List String) := do
  match ← target anchored n with
  | .sequence items => items.mapM (textOf anchored)
  | .scalar "" .plain _ => some []
  | _ => none

/-- The settings with one of them as a member of the mapping says. -/
def setting (anchored : Anchored) (c : Config) (key : String) (n : Yaml.Node) : Option Config :=
  match key with
  | "polyphony" => (boolOf anchored n).map fun v => { c with polyphony := v }
  | "group_voices" => (boolOf anchored n).map fun v => { c with groupVoices := v }
  | "strip_td_prefix" => (boolOf anchored n).map fun v => { c with stripRoot := v }
  | "control_page" => (textOf anchored n).map fun v => { c with controlPage := v }
  | "operator_path" => (textOf anchored n).map fun v => { c with operatorPath := v }
  | "node_spacing" => (wordOf anchored n).map fun v => { c with nodeSpacing := v }
  | "header_suppressed" => (textsOf anchored n).map fun v => { c with headerless := v }
  | "sequencer_label" => (textOf anchored n).map fun v => { c with sequencerLabel := v }
  | _ => some c

/-- The names of the settings. -/
def settingNames : List String :=
  ["polyphony", "group_voices", "strip_td_prefix", "control_page", "operator_path",
   "node_spacing", "header_suppressed", "sequencer_label"]

/-- The settings that the members of a mapping say; `seen` are the names that came before. -/
def settings (anchored : Anchored) : List (Yaml.Node × Yaml.Node) → List String → Config →
    Option Config
  | [], _, c => some c
  | (key, n) :: members, seen, c => do
    let name ← textOf anchored key
    if settingNames.contains name && seen.contains name then none
    else settings anchored members (name :: seen) (← setting anchored c name n)

/-- The settings that a text says, unless it is malformed. -/
def read? (text : String) : Option Config := do
  match ← Yaml.Node.read? text with
  | none => some default
  | some (n, anchored) =>
    match ← target anchored n with
    | .mapping members => settings anchored members [] default
    | .scalar "" .plain _ => some default
    | _ => none

end ControlSurface.Config
