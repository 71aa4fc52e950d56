import ControlSurface.Json.Pass
import ControlSurface.Json.Value

/- Readers for values of a known kind, and for values of any kind. A reader of a container
   gets as many levels as containers may still be nested in it. -/
namespace ControlSurface.Json.Reader

/-- How deep containers may be nested. -/
def maxLevels : Nat := 127

/-- Fails on a value that is not of the expected kind. Of a simple value all is read first. -/
def refuse {α : Type} (expected : String) (c : Cursor) : Except Failure α := do
  match c.rest with
  | 'n' :: _ =>
    let c ← c.step.readWord ['u', 'l', 'l']
    c.stop (.wrongType .null expected)
  | 't' :: _ =>
    let c ← c.step.readWord ['r', 'u', 'e']
    c.stop (.wrongType (.boolean true) expected)
  | 'f' :: _ =>
    let c ← c.step.readWord ['a', 'l', 's', 'e']
    c.stop (.wrongType (.boolean false) expected)
  | '-' :: _ =>
    let (n, c) ← Number.read true c.step
    c.stop (.wrongType n.found expected)
  | '\x22' :: _ =>
    let (s, c) ← Quote.read c.step
    c.stop (.wrongType (.text s) expected)
  | '[' :: _ => c.stop (.wrongType .list expected)
  | '\x7b' :: _ => c.stop (.wrongType .object expected)
  | [] => c.stop .expectedValue
  | d :: _ =>
    if d.isDigit then
      let (n, c) ← Number.read false c
      c.stop (.wrongType n.found expected)
    else c.stopBehind .expectedValue

/-- Reads a string. -/
def text (c : Cursor) : Except Failure (String × Cursor) :=
  let c := c.skipGaps
  match c.rest with
  | [] => c.stop .endInValue
  | '\x22' :: _ => Quote.read c.step
  | _ => refuse "a string" c

/-- Reads a number below `2 ^ 32`. -/
def word32 (c : Cursor) : Except Failure (Nat × Cursor) := do
  let c := c.skipGaps
  let check (found : Number × Cursor) : Except Failure (Nat × Cursor) :=
    match found with
    | (.integer n, c) =>
      if 0 ≤ n ∧ n < Nat.pow 2 32 then .ok (n.toNat, c) else c.stop (.wrongValue (.integer n) "u32")
    | (.real x, c) => c.stop (.wrongType (.real x) "u32")
  match c.rest with
  | [] => c.stop .endInValue
  | '-' :: _ => check (← Number.read true c.step)
  | d :: _ => if d.isDigit then check (← Number.read false c) else refuse "u32" c

/-- Reads what may be absent as `null`. -/
def optional {α : Type} (read : Cursor → Except Failure (α × Cursor)) (c : Cursor) :
    Except Failure (Option α × Cursor) := do
  let c := c.skipGaps
  match c.rest with
  | 'n' :: _ =>
    let c ← c.step.readWord ['u', 'l', 'l']
    .ok (none, c)
  | _ =>
    let (a, c) ← read c
    .ok (some a, c)

/-- Looks for the next item of a list: `none` at the bracket that ends it. -/
def nextItem (first : Bool) (c : Cursor) : Except Failure (Option Cursor) :=
  let c := c.skipGaps
  match c.rest with
  | [] => c.stop .endInList
  | ']' :: _ => .ok none
  | d :: _ =>
    if first then .ok (some c)
    else if d = ',' then
      let c := c.step.skipGaps
      match c.rest with
      | [] => c.stop .endInValue
      | ']' :: _ => c.stopBehind .trailingComma
      | _ => .ok (some c)
    else c.stopBehind .expectedListComma

/-- Reads the items of a list up to and including its end. -/
def itemsFrom {α : Type} (item : Cursor → Except Failure (α × Cursor)) :
    Nat → Bool → Cursor → Except Failure (List α × Cursor)
  | 0, _, c => c.stop .endInList
  | fuel + 1, first, c => do
    match ← nextItem first c with
    | none => .ok ([], c.skipGaps.step)
    | some c =>
      let (a, c) ← item c
      let (rest, c) ← itemsFrom item fuel false c
      .ok (a :: rest, c)

/-- Reads the items of a list behind its bracket. -/
def items {α : Type} (item : Cursor → Except Failure (α × Cursor)) (c : Cursor) :
    Except Failure (List α × Cursor) :=
  itemsFrom item (c.rest.length + 1) true c

/-- Looks for the key of the next member of an object: `none` at the brace that ends it. -/
def nextKey (first : Bool) (c : Cursor) : Except Failure (Option (String × Cursor)) := do
  let c := c.skipGaps
  match c.rest with
  | [] => c.stop .endInObject
  | '\x7d' :: _ => .ok none
  | d :: _ =>
    if first then
      if d = '\x22' then .ok (some (← Quote.read c.step)) else c.stopBehind .keyNotString
    else if d = ',' then
      let c := c.step.skipGaps
      match c.rest with
      | [] => c.stop .endInValue
      | '\x22' :: _ => .ok (some (← Quote.read c.step))
      | '\x7d' :: _ => c.stopBehind .trailingComma
      | _ => c.stopBehind .keyNotString
    else c.stopBehind .expectedObjectComma

/-- Reads the colon between a key and its value. -/
def colon (c : Cursor) : Except Failure Cursor :=
  let c := c.skipGaps
  match c.rest with
  | [] => c.stop .endInObject
  | ':' :: _ => .ok c.step
  | _ => c.stopBehind .expectedColon

/-- Reads the members of an object up to and including its end. Each member is read into the
    state by its key, from behind the key on. -/
def membersFrom {σ : Type} (member : σ → String → Cursor → Except Failure (σ × Cursor)) :
    Nat → Bool → σ → Cursor → Except Failure (σ × Cursor)
  | 0, _, _, c => c.stop .endInObject
  | fuel + 1, first, s, c => do
    match ← nextKey first c with
    | none => .ok (s, c.skipGaps.step)
    | some (key, c) =>
      let (s, c) ← member s key c
      membersFrom member fuel false s c

/-- Reads the members of an object behind its brace. -/
def members {σ : Type} (member : σ → String → Cursor → Except Failure (σ × Cursor)) (s : σ)
    (c : Cursor) : Except Failure (σ × Cursor) :=
  membersFrom member (c.rest.length + 1) true s c

/-- Reads a list. -/
def list {α : Type} (levels : Nat) (item : Nat → Cursor → Except Failure (α × Cursor))
    (c : Cursor) : Except Failure (List α × Cursor) :=
  let c := c.skipGaps
  match c.rest with
  | [] => c.stop .endInValue
  | '[' :: _ =>
    match levels with
    | 0 => c.stopBehind .tooDeep
    | levels + 1 => items (item levels) c.step
  | _ => refuse "a sequence" c

/-- Reads a member whose value is read by `read` into an object sorted by key. -/
def sortedMember {α : Type} (read : Cursor → Except Failure (α × Cursor))
    (found : List (String × α)) (key : String) (c : Cursor) :
    Except Failure (List (String × α) × Cursor) := do
  let (a, c) ← read (← colon c)
  .ok (insertMember key a found, c)

/-- Reads a value of any kind. -/
def value : Nat → Cursor → Except Failure (Value × Cursor)
  | levels, c => do
    let c := c.skipGaps
    match c.rest with
    | [] => c.stop .endInValue
    | 'n' :: _ => .ok (.null, ← c.step.readWord ['u', 'l', 'l'])
    | 't' :: _ => .ok (.boolean true, ← c.step.readWord ['r', 'u', 'e'])
    | 'f' :: _ => .ok (.boolean false, ← c.step.readWord ['a', 'l', 's', 'e'])
    | '-' :: _ =>
      let (n, c) ← Number.read true c.step
      .ok (.number n, c)
    | '\x22' :: _ =>
      let (s, c) ← Quote.read c.step
      .ok (.text s, c)
    | '[' :: _ =>
      match levels with
      | 0 => c.stopBehind .tooDeep
      | levels + 1 =>
        let (vs, c) ← items (value levels) c.step
        .ok (.list vs, c)
    | '\x7b' :: _ =>
      match levels with
      | 0 => c.stopBehind .tooDeep
      | levels + 1 =>
        let (ms, c) ← members (sortedMember (value levels)) [] c.step
        .ok (.object ms, c)
    | d :: _ =>
      if d.isDigit then
        let (n, c) ← Number.read false c
        .ok (.number n, c)
      else c.stopBehind .expectedValue

/-- Reads an object of values of any kind. -/
def object (levels : Nat) (c : Cursor) : Except Failure (List (String × Value) × Cursor) :=
  let c := c.skipGaps
  match c.rest with
  | [] => c.stop .endInValue
  | '\x7b' :: _ =>
    match levels with
    | 0 => c.stopBehind .tooDeep
    | levels + 1 => members (sortedMember (value levels)) [] c.step
  | _ => refuse "a map" c

/-- Checks that nothing but blanks is left. -/
def finish (c : Cursor) : Except Failure Unit :=
  let c := c.skipGaps
  if c.rest = [] then .ok () else c.stopBehind .trailingCharacters

end ControlSurface.Json.Reader
