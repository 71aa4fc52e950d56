/- A place in a YAML text, and the classes of characters that its grammar is made of. -/
namespace ControlSurface.Yaml

/-- A line end. -/
def isBreak (c : Char) : Bool :=
  c == '\n' || c == '\r' || c == '\u0085' || c == '\u2028' || c == '\u2029'

/-- A space or a tab. -/
def isGap (c : Char) : Bool := c == ' ' || c == '\t'

/-- A character of an anchor, of a directive's name or of a tag's handle. -/
def isWord (c : Char) : Bool := c.isAlphanum || c == '_' || c == '-'

/-- A character that may stand in a text. -/
def isAllowed (c : Char) : Bool :=
  let n := c.toNat
  n == 0x9 || n == 0xA || n == 0xD || (0x20 ≤ n && n ≤ 0x7E) || n == 0x85
    || (0xA0 ≤ n && n ≤ 0xD7FF) || (0xE000 ≤ n && n ≤ 0xFFFD) || (0x10000 ≤ n && n ≤ 0x10FFFF)

/-- Whether a text begins with a gap or a line end, or is empty. -/
def atEdge (cs : List Char) : Bool :=
  match cs with
  | [] => true
  | c :: _ => isGap c || isBreak c

/-- Whether a text begins with a line end, or is empty. -/
def atLineEnd (cs : List Char) : Bool :=
  match cs with
  | [] => true
  | c :: _ => isBreak c

/-- Whether a text begins with three of a character and an edge behind them. -/
def atMarker (mark : Char) (cs : List Char) : Bool :=
  [mark, mark, mark].isPrefixOf cs && atEdge (cs.drop 3)

/-- A place in a text. -/
structure Cursor where
  rest : List Char
  index : Nat
  line : Nat
  column : Nat
deriving Repr, DecidableEq

namespace Cursor

/-- The start of a text. A byte order mark before it does not count. -/
def start (cs : List Char) : Cursor :=
  match cs with
  | '\ufeff' :: more => ⟨more, 0, 0, 0⟩
  | cs => ⟨cs, 0, 0, 0⟩

/-- The place behind a character within a line. -/
def step (c : Cursor) : Cursor := ⟨c.rest.drop 1, c.index + 1, c.line, c.column + 1⟩

/-- The place behind characters within a line. -/
def skip (c : Cursor) (n : Nat) : Cursor := ⟨c.rest.drop n, c.index + n, c.line, c.column + n⟩

/-- The place behind all characters that satisfy a test, within a line. -/
def skipWhile (c : Cursor) (test : Char → Bool) : Cursor := c.skip (c.rest.takeWhile test).length

/-- The place behind a line end. -/
def nextLine (c : Cursor) : Cursor :=
  match c.rest with
  | '\r' :: '\n' :: cs => ⟨cs, c.index + 2, c.line + 1, 0⟩
  | d :: cs => if isBreak d then ⟨cs, c.index + 1, c.line + 1, 0⟩ else c
  | [] => c

/-- What a line end contributes to a scalar: a line feed, except for the two separators that
    stand for themselves. Nothing at the end of the text. -/
def breakText (c : Cursor) : List Char :=
  match c.rest with
  | [] => []
  | d :: _ => if d = '\u2028' ∨ d = '\u2029' then [d] else if isBreak d then ['\n'] else []

/-- The next character. -/
def head? (c : Cursor) : Option Char := c.rest.head?

/-- Whether a marker of document start or end stands here. -/
def atDocumentMarker (c : Cursor) : Bool :=
  c.column == 0 && (atMarker '-' c.rest || atMarker '.' c.rest)

/-- The place behind the gaps and the comment of a line, which must end there. -/
def finishLine? (c : Cursor) : Option Cursor :=
  let c := c.skipWhile isGap
  let c := if c.head? = some '#' then c.skipWhile (!isBreak ·) else c
  if atLineEnd c.rest then some c.nextLine else none

end Cursor

end ControlSurface.Yaml
