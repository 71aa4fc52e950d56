import ControlSurface.Json.Fault

/- A place in a JSON text: the characters that are left, and how far the reader has come.
   Columns count bytes, and a line starts at column zero. -/
namespace ControlSurface.Json

/-- A place in a text. -/
structure Cursor where
  rest : List Char
  line : Nat
  column : Nat
deriving Repr, DecidableEq

/-- What a reader gives: a value and the place behind it, or a failure. -/
abbrev Read (α : Type) : Type := Except Failure (α × Cursor)

namespace Cursor

/-- The start of a text. -/
def start (cs : List Char) : Cursor := ⟨cs, 1, 0⟩

/-- The place behind the next character. -/
def step (c : Cursor) : Cursor :=
  match c.rest with
  | [] => c
  | '\n' :: cs => ⟨cs, c.line + 1, 0⟩
  | d :: cs => ⟨cs, c.line, c.column + d.utf8Size⟩

/-- The place behind a count of characters. -/
def skip : Nat → Cursor → Cursor
  | 0, c => c
  | n + 1, c => skip n c.step

/-- A failure at this place. -/
def failure (c : Cursor) (fault : Fault) : Failure := ⟨fault, c.line, c.column⟩

/-- A failure behind a count of bytes, which may end inside a character. -/
def failureBehind : Nat → Cursor → Fault → Failure
  | 0, c, fault => c.failure fault
  | n + 1, c, fault =>
    match c.rest with
    | [] => c.failure fault
    | d :: _ =>
      if d.utf8Size ≤ n + 1 then failureBehind (n + 1 - d.utf8Size) c.step fault
      else ⟨fault, c.line, c.column + (n + 1)⟩
termination_by n => n
decreasing_by have := d.utf8Size_pos; omega

/-- A failure at this place, as a result. -/
def stop {α : Type} (c : Cursor) (fault : Fault) : Except Failure α := .error (c.failure fault)

/-- A failure behind the next byte, as a result. -/
def stopBehind {α : Type} (c : Cursor) (fault : Fault) : Except Failure α :=
  .error (c.failureBehind 1 fault)

/-- The blanks of the grammar, which are fewer than those of other texts. -/
def isGap (c : Char) : Bool := c == ' ' || c == '\t' || c == '\n' || c == '\r'

/-- The place behind the blanks. -/
def skipGaps (c : Cursor) : Cursor := c.skip (c.rest.takeWhile isGap).length

/-- The place behind the digits, and those digits. -/
def takeDigits (c : Cursor) : List Char × Cursor :=
  let digits := c.rest.takeWhile Char.isDigit
  (digits, c.skip digits.length)

/-- Reads the rest of a literal word. -/
def readWord : List Char → Cursor → Except Failure Cursor
  | [], c => .ok c
  | l :: ls, c =>
    match c.rest with
    | [] => c.stop .endInValue
    | d :: _ => if d = l then readWord ls c.step else c.stopBehind .expectedWord

/-- Where a reader is left that gives up inside an object: behind the blanks, and behind a
    brace that closes the object there. -/
def settleObject (c : Cursor) : Cursor :=
  let c := c.skipGaps
  if c.rest.head? = some '\x7d' then c.step else c

/-- Where a reader is left that gives up inside a list: behind the blanks, and behind a bracket
    that closes the list there, or behind a comma and the blanks after it. -/
def settleList (c : Cursor) : Cursor :=
  let c := c.skipGaps
  match c.rest with
  | ']' :: _ => c.step
  | ',' :: _ => c.step.skipGaps
  | _ => c

end Cursor

end ControlSurface.Json
