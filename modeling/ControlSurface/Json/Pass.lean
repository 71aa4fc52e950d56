import ControlSurface.Json.Quote

/- Passing over a value that nobody reads. Its grammar is checked and nothing else: numbers
   may be beyond every range and nesting has no limit. -/
namespace ControlSurface.Json.Pass

/-- An open bracket or brace. -/
inductive Frame where
  | list
  | object
deriving Repr, DecidableEq

/-- What comes next: a value, the inside of a frame that was just opened, or, after a value,
    a comma or the end of the frame. -/
inductive Phase where
  | value
  | opened
  | after
deriving Repr, DecidableEq

/-- The end of the text inside a frame. -/
def Frame.endFault : Frame → Fault
  | list => .endInList
  | object => .endInObject

/-- Something between two members of a frame that is no comma. -/
def Frame.commaFault : Frame → Fault
  | list => .expectedListComma
  | object => .expectedObjectComma

/-- The character that ends a frame. -/
def Frame.close : Frame → Char
  | list => ']'
  | object => '\x7d'

/-- Passes over an exponent from its mark on. -/
def passExponent (c : Cursor) : Except Failure Cursor :=
  let c := c.step
  let c := if c.rest.head? = some '+' ∨ c.rest.head? = some '-' then c.step else c
  match c.rest with
  | [] => c.stop .invalidNumber
  | d :: _ => if d.isDigit then .ok c.takeDigits.2 else c.stopBehind .invalidNumber

/-- Whether an exponent begins here. -/
def atMark (c : Cursor) : Bool := c.rest.head? == some 'e' || c.rest.head? == some 'E'

/-- Passes over what follows the whole part of a number. -/
def passTail (c : Cursor) : Except Failure Cursor :=
  if c.rest.head? = some '.' then
    let (run, behind) := c.step.takeDigits
    if run = [] then behind.stopBehind .invalidNumber
    else if atMark behind then passExponent behind
    else .ok behind
  else if atMark c then passExponent c
  else .ok c

/-- Passes over a number behind its sign. -/
def passNumber (c : Cursor) : Except Failure Cursor :=
  match c.rest with
  | [] => c.stop .invalidNumber
  | '0' :: _ =>
    let c := c.step
    match c.rest with
    | d :: _ => if d.isDigit then c.stopBehind .invalidNumber else passTail c
    | [] => passTail c
  | d :: _ => if d.isDigit then passTail c.takeDigits.2 else c.stopBehind .invalidNumber

/-- Passes over the key of a member and its colon. -/
def passKey (c : Cursor) : Except Failure Cursor := do
  let c := c.skipGaps
  match c.rest with
  | [] => c.stop .endInObject
  | '\x22' :: _ =>
    let c ← Quote.pass c.step
    let c := c.skipGaps
    match c.rest with
    | [] => c.stop .endInObject
    | ':' :: _ => .ok c.step
    | _ => c.stopBehind .expectedColon
  | _ => c.stopBehind .keyNotString

/-- Passes over what begins here: a whole simple value, or the opening of a frame. -/
def passHead (c : Cursor) : Except Failure (Option Frame × Cursor) :=
  match c.rest with
  | [] => c.stop .endInValue
  | 'n' :: _ => (c.step.readWord ['u', 'l', 'l']).map (none, ·)
  | 't' :: _ => (c.step.readWord ['r', 'u', 'e']).map (none, ·)
  | 'f' :: _ => (c.step.readWord ['a', 'l', 's', 'e']).map (none, ·)
  | '-' :: _ => (passNumber c.step).map (none, ·)
  | '\x22' :: _ => (Quote.pass c.step).map (none, ·)
  | '[' :: _ => .ok (some .list, c.step)
  | '\x7b' :: _ => .ok (some .object, c.step)
  | d :: _ => if d.isDigit then (passNumber c).map (none, ·) else c.stopBehind .expectedValue

/-- Passes over a value and the frames around it; the innermost frame comes first. -/
def passFrom : Nat → Phase → List Frame → Cursor → Except Failure Cursor
  | 0, _, _, c => c.stop .endInValue
  | fuel + 1, .value, frames, c => do
    let (opened, c) ← passHead c.skipGaps
    match opened with
    | some frame => passFrom fuel .opened (frame :: frames) c
    | none => passFrom fuel .after frames c
  | _ + 1, .after, [], c => .ok c
  | _ + 1, .opened, [], c => .ok c
  | fuel + 1, phase, frame :: frames, c => do
    let c := c.skipGaps
    match c.rest with
    | [] => c.stop frame.endFault
    | d :: _ =>
      if d = frame.close then passFrom fuel .after frames c.step
      else if phase = .after ∧ d ≠ ',' then c.stopBehind frame.commaFault
      else
        let c := if phase = .after then c.step else c
        match frame with
        | .list => passFrom fuel .value (frame :: frames) c
        | .object =>
          let c ← passKey c
          passFrom fuel .value (frame :: frames) c

/-- Passes over one value. -/
def value (c : Cursor) : Except Failure Cursor := passFrom (2 * c.rest.length + 3) .value [] c

end ControlSurface.Json.Pass
