import ControlSurface.Yaml.Cursor

/- Tags, anchors and directives of a YAML text. A tag is a handle and a suffix; directives
   say what handles stand for. -/
namespace ControlSurface.Yaml

/-- A tag as it is written. The verbatim form has an empty handle. -/
structure Tag where
  handle : List Char
  suffix : List Char
deriving Repr, DecidableEq

/-- A line that says how the text is to be read. -/
inductive Directive where
  | version (major minor : Nat)
  | tag (handle replacement : List Char)
deriving Repr, DecidableEq

/-- Reads the name of an anchor or of an alias behind its indicator. -/
def readAnchor (c : Cursor) : Option (List Char × Cursor) :=
  let name := c.rest.takeWhile isWord
  let c := c.skip name.length
  let ends := match c.rest with
    | [] => true
    | d :: _ => atEdge c.rest || ['?', ':', ',', ']', '\x7d', '%', '@', '\x60'].contains d
  if name = [] ∨ !ends then none else some (name, c)

/-- A character of the address that a tag is, besides escapes. -/
def isUriChar (verbatim : Bool) (c : Char) : Bool :=
  isWord c || [';', '/', '?', ':', '@', '&', '=', '+', '$', '.', '!', '~', '*', '\x27', '(',
    ')'].contains c || (verbatim && [',', '[', ']'].contains c)

/-- The value of two hexadecimal digits behind a percent sign. -/
def uriByte? (cs : List Char) : Option Nat :=
  let value (c : Char) : Option Nat :=
    if c.isDigit then some (c.toNat - '0'.toNat)
    else if 'a' ≤ c ∧ c ≤ 'f' then some (c.toNat - 'a'.toNat + 10)
    else if 'A' ≤ c ∧ c ≤ 'F' then some (c.toNat - 'A'.toNat + 10)
    else none
  match cs with
  | '%' :: a :: b :: _ => (value a).bind fun a => (value b).map fun b => 16 * a + b
  | _ => none

/-- The count of bytes of a character whose first byte is given. -/
def uriWidth? (byte : Nat) : Option Nat :=
  if byte < 0x80 then some 1
  else if 0xC0 ≤ byte ∧ byte < 0xE0 then some 2
  else if 0xE0 ≤ byte ∧ byte < 0xF0 then some 3
  else if 0xF0 ≤ byte ∧ byte < 0xF8 then some 4
  else none

/-- Reads the bytes behind the first of an escaped character. -/
def readUriBytes : Nat → Nat → Cursor → Option (Nat × Cursor)
  | 0, n, c => some (n, c)
  | count + 1, n, c => do
    let byte ← uriByte? c.rest
    if 0x80 ≤ byte ∧ byte < 0xC0 then readUriBytes count (64 * n + byte % 64) (c.skip 3) else none

/-- Reads an escaped character. -/
def readUriEscape (c : Cursor) : Option (Char × Cursor) := do
  let byte ← uriByte? c.rest
  let width ← uriWidth? byte
  let lead := if width = 1 then byte else byte % Nat.pow 2 (7 - width)
  let (n, c) ← readUriBytes (width - 1) lead (c.skip 3)
  some (Char.ofNat n, c)

/-- Reads an address with fuel. -/
def readUriFrom (verbatim : Bool) : Nat → List Char → Cursor → Option (List Char × Cursor)
  | 0, uri, c => some (uri, c)
  | fuel + 1, uri, c =>
    match c.rest with
    | [] => some (uri, c)
    | d :: _ =>
      if d = '%' then
        match readUriEscape c with
        | some (e, c) => readUriFrom verbatim fuel (uri ++ [e]) c
        | none => none
      else if isUriChar verbatim d then readUriFrom verbatim fuel (uri ++ [d]) c.step
      else some (uri, c)

/-- Reads an address. It may be empty only where `head`, what was read before it, is not. -/
def readUri (verbatim : Bool) (head : List Char) (c : Cursor) : Option (List Char × Cursor) := do
  let (uri, c) ← readUriFrom verbatim (c.rest.length + 1) [] c
  if head = [] ∧ uri = [] then none else some (head.drop 1 ++ uri, c)

/-- Reads a handle: a word between exclamation marks, of which the second may be missing. -/
def readHandle (c : Cursor) : Option (List Char × Cursor) :=
  if c.head? ≠ some '!' then none
  else
    let word := c.step.rest.takeWhile isWord
    let c := c.step.skip word.length
    if c.head? = some '!' then some ('!' :: word ++ ['!'], c.step) else some ('!' :: word, c)

/-- Whether a handle is closed by a second exclamation mark. -/
def isClosedHandle (handle : List Char) : Bool :=
  2 ≤ handle.length && handle.getLast? == some '!'

/-- Reads a tag from its exclamation mark on. -/
def readTag (inFlow : Bool) (c : Cursor) : Option (Tag × Cursor) := do
  let (tag, c) ←
    if (c.rest.drop 1).head? = some '<' then do
      let (uri, c) ← readUri true [] (c.skip 2)
      if c.head? = some '>' then some ((⟨[], uri⟩ : Tag), c.step) else none
    else do
      let (handle, c) ← readHandle c
      if isClosedHandle handle then
        let (uri, c) ← readUri false [] c
        some ((⟨handle, uri⟩ : Tag), c)
      else
        let (uri, c) ← readUri false handle c
        some (if uri = [] then (⟨[], ['!']⟩ : Tag) else ⟨['!'], uri⟩, c)
  if atEdge c.rest || (inFlow && c.head? = some ',') then some (tag, c) else none

/-- Reads a part of a version: one to nine digits. -/
def readVersionPart (c : Cursor) : Option (Nat × Cursor) :=
  let digits := c.rest.takeWhile Char.isDigit
  if digits = [] ∨ 9 < digits.length then none
  else some (digits.foldl (fun n d => 10 * n + (d.toNat - '0'.toNat)) 0, c.skip digits.length)

/-- Reads a directive from its percent sign on, with the rest of its line. -/
def readDirective (c : Cursor) : Option (Directive × Cursor) := do
  let c := c.step
  let name := c.rest.takeWhile isWord
  let c := c.skip name.length
  if !atEdge c.rest then none
  else if name = ['Y', 'A', 'M', 'L'] then
    let (major, c) ← readVersionPart (c.skipWhile isGap)
    if c.head? ≠ some '.' then none
    else
      let (minor, c) ← readVersionPart c.step
      some (.version major minor, ← c.finishLine?)
  else if name = ['T', 'A', 'G'] then
    let (handle, c) ← readHandle (c.skipWhile isGap)
    let isBlankNext := (c.head?.map isGap).getD false
    if (handle ≠ ['!'] && !isClosedHandle handle) || !isBlankNext then none
    else
      let (replacement, c) ← readUri true [] (c.skipWhile isGap)
      if atEdge c.rest then some (.tag handle replacement, ← c.finishLine?) else none
  else none

end ControlSurface.Yaml
