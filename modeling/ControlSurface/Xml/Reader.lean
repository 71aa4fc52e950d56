import ControlSurface.Decimal.Literal
import ControlSurface.Text.Letter
import ControlSurface.Xml.Element
import ControlSurface.Xml.Fault

/- Reading an XML document: a prolog, nested elements with quoted attributes, text,
   comments, CDATA sections, the predefined entities and entities by number. There are no
   namespaces, and declarations are passed over. -/
namespace ControlSurface.Xml

open Text (Position isBlank isAlphanumeric)

/-- A place in a document. -/
structure Cursor where
  rest : List Char
  position : Position
deriving Repr, DecidableEq

namespace Cursor

/-- The start of a document. -/
def start (cs : List Char) : Cursor := ⟨cs, Position.start⟩

/-- The place behind the next character. -/
def step (c : Cursor) : Cursor :=
  match c.rest with
  | [] => c
  | d :: cs => ⟨cs, c.position.after d⟩

/-- The place behind a count of characters. -/
def skip (n : Nat) (c : Cursor) : Cursor := ⟨c.rest.drop n, c.position.afterAll (c.rest.take n)⟩

/-- A failure at this place, as a result. -/
def stop {α : Type} (c : Cursor) (fault : Fault) : Except Failure α := .error ⟨fault, c.position⟩

/-- The place behind the blanks. -/
def skipBlanks (c : Cursor) : Cursor := c.skip (c.rest.takeWhile isBlank).length

/-- Whether a text stands here. -/
def at? (c : Cursor) (mark : List Char) : Bool := mark.isPrefixOf c.rest

/-- Takes a character that must stand here; the failure is behind the character that does. -/
def expect (c : Cursor) (d : Char) (fault : Fault) : Except Failure Cursor :=
  if c.rest.head? = some d then .ok c.step else c.step.stop fault

end Cursor

/-- A character of a name. -/
def isNameChar (c : Char) : Bool :=
  isAlphanumeric c || c == '_' || c == '-' || c == '.' || c == ':'

/-- Reads a name. -/
def readName (c : Cursor) : Except Failure (String × Cursor) :=
  match c.rest.takeWhile isNameChar with
  | [] => c.stop .expectedName
  | name => .ok (String.ofList name, c.skip name.length)

/-- The text before a mark, if the mark stands in the text. -/
def before? (mark : List Char) : List Char → Option (List Char)
  | [] => none
  | d :: cs => if mark.isPrefixOf (d :: cs) then some [] else (before? mark cs).map (d :: ·)

/-- Reads up to and including a mark, and gives what stands before the mark. -/
def readSection (part : Section) (mark : List Char) (c : Cursor) :
    Except Failure (List Char × Cursor) :=
  match before? mark c.rest with
  | some body => .ok (body, c.skip (body.length + mark.length))
  | none => c.stop (.unclosedSection part)

/-- The section that may stand outside elements and starts here, with its end mark. -/
def outerSection? (c : Cursor) : Option (Section × List Char) :=
  if c.at? ['<', '?'] then some (.instruction, ['?', '>'])
  else if c.at? ['<', '!', '-', '-'] then some (.comment, ['-', '-', '>'])
  else if c.at? ['<', '!'] then some (.declaration, ['>'])
  else none

/-- Passes over blanks and sections outside elements, with fuel. -/
def skipOuterFrom : Nat → Cursor → Except Failure Cursor
  | 0, c => .ok c
  | fuel + 1, c =>
    let c := c.skipBlanks
    match outerSection? c with
    | none => .ok c
    | some (part, mark) =>
      match readSection part mark c with
      | .ok (_, c) => skipOuterFrom fuel c
      | .error f => .error f

/-- Passes over blanks, comments, instructions and declarations. -/
def skipOuter (c : Cursor) : Except Failure Cursor := skipOuterFrom (c.rest.length + 1) c

/-- The name of an entity up to its semicolon. The name may go on as long as it has fewer than
    ten bytes. -/
def entityName? : Nat → List Char → Option (List Char)
  | _, [] => none
  | bytes, d :: cs =>
    if d = ';' then some []
    else if bytes < 10 then (entityName? (bytes + d.utf8Size) cs).map (d :: ·)
    else none

/-- The character with a number. -/
def charOf? (n : Nat) : Option Char := if h : n.isValidChar then some (Char.ofNatAux n h) else none

/-- The entities that have a name. -/
def namedEntities : List (List Char × Char) :=
  [(['a', 'm', 'p'], '&'), (['l', 't'], '<'), (['g', 't'], '>'), (['q', 'u', 'o', 't'], '\x22'),
   (['a', 'p', 'o', 's'], '\x27')]

/-- The character that an entity stands for. -/
def entityChar? (name : List Char) : Option Char :=
  match namedEntities.lookup name with
  | some c => some c
  | none =>
    match name with
    | '#' :: 'x' :: digits => (Decimal.readNatural 16 (Nat.pow 2 32) digits).bind charOf?
    | '#' :: digits => (Decimal.readNatural 10 (Nat.pow 2 32) digits).bind charOf?
    | _ => none

/-- Reads an entity from its ampersand on. Failures are at the ampersand. -/
def readEntity (c : Cursor) : Except Failure (Char × Cursor) :=
  match entityName? 0 (c.rest.drop 1) with
  | none => c.stop .unterminatedEntity
  | some name =>
    match entityChar? name with
    | some d => .ok (d, c.skip (name.length + 2))
    | none => c.stop (.unknownEntity (String.ofList name))

/-- Reads the rest of an attribute value up to its quote, which was opened at `opened`. -/
def readValueFrom (quote : Char) (opened : Cursor) : Nat → Cursor →
    Except Failure (List Char × Cursor)
  | 0, _ => opened.stop .unclosedValue
  | fuel + 1, c =>
    match c.rest with
    | [] => opened.stop .unclosedValue
    | d :: _ =>
      if d = quote then .ok ([], c.step)
      else do
        let (e, c) ← if d = '&' then readEntity c else .ok (d, c.step)
        let (value, c) ← readValueFrom quote opened fuel c
        .ok (e :: value, c)

/-- Reads an attribute value with its quotes. -/
def readValue (c : Cursor) : Except Failure (String × Cursor) :=
  match c.rest with
  | '\x22' :: cs => (readValueFrom '\x22' c (cs.length + 1) c.step).map
      fun (value, c) => (String.ofList value, c)
  | '\x27' :: cs => (readValueFrom '\x27' c (cs.length + 1) c.step).map
      fun (value, c) => (String.ofList value, c)
  | _ => c.stop .expectedQuote

/-- How a tag ends. -/
inductive TagEnd where
  | empty
  | open
deriving Repr, DecidableEq

/-- Reads the attributes of a tag and its end. The tag of element `name` starts at `opened`. -/
def readAttributesFrom (name : String) (opened : Cursor) : Nat → Cursor →
    Except Failure (List (String × String) × TagEnd × Cursor)
  | 0, _ => opened.stop (.unclosedTag name)
  | fuel + 1, c => do
    let c := c.skipBlanks
    match c.rest with
    | [] => opened.stop (.unclosedTag name)
    | '/' :: _ =>
      let c ← c.step.expect '>' .expectedEndOfEmptyTag
      .ok ([], .empty, c)
    | '>' :: _ => .ok ([], .open, c.step)
    | _ =>
      let (key, c) ← readName c
      let c ← c.skipBlanks.expect '=' (.expectedEquals key)
      let (value, c) ← readValue c.skipBlanks
      let (others, ending, c) ← readAttributesFrom name opened fuel c
      .ok ((key, value) :: others, ending, c)

/-- Reads the closing tag of an element from its bracket on. -/
def readClosing (name : String) (c : Cursor) : Except Failure Cursor := do
  let (found, c) ← readName (c.skip 2)
  if found = name then c.skipBlanks.expect '>' .expectedEndOfClosing
  else c.stop (.mismatchedClosing name found)

/-- Reads the content of an element and its closing tag: its text and its children. The tag of
    element `name` starts at `opened`, and `child` reads an element. -/
def readContentFrom (child : Cursor → Except Failure (Element × Cursor)) (name : String)
    (opened : Cursor) : Nat → Cursor → Except Failure (List Char × List Element × Cursor)
  | 0, _ => opened.stop (.missingClosing name)
  | fuel + 1, c => do
    match c.rest with
    | [] => opened.stop (.missingClosing name)
    | d :: _ =>
      if c.at? ['<', '/'] then
        .ok ([], [], ← readClosing name c)
      else if c.at? ['<', '!', '-', '-'] then
        let (_, c) ← readSection .comment ['-', '-', '>'] c
        readContentFrom child name opened fuel c
      else if c.at? ['<', '!', '[', 'C', 'D', 'A', 'T', 'A', '['] then
        let (data, c) ← readSection .verbatim [']', ']', '>'] (c.skip 9)
        let (text, children, c) ← readContentFrom child name opened fuel c
        .ok (data ++ text, children, c)
      else if d = '<' then
        let (e, c) ← child c
        let (text, children, c) ← readContentFrom child name opened fuel c
        .ok (text, e :: children, c)
      else
        let (e, c) ← if d = '&' then readEntity c else .ok (d, c.step)
        let (text, children, c) ← readContentFrom child name opened fuel c
        .ok (e :: text, children, c)

/-- Reads an element, with `child` for the elements in it. -/
def readElementWith (child : Cursor → Except Failure (Element × Cursor)) (opened : Cursor) :
    Except Failure (Element × Cursor) := do
  if opened.rest.head? ≠ some '<' then opened.stop .expectedOpening
  else
    let (name, c) ← readName opened.step
    let (attributes, ending, c) ← readAttributesFrom name opened (c.rest.length + 1) c
    match ending with
    | .empty => .ok (⟨name, attributes, "", [], opened.position⟩, c)
    | .open =>
      let (text, children, c) ← readContentFrom child name opened (c.rest.length + 1) c
      .ok (⟨name, attributes, String.ofList text, children, opened.position⟩, c)

/-- Reads an element in which `depth` further levels may be nested. -/
def readElement : Nat → Cursor → Except Failure (Element × Cursor)
  | 0 => readElementWith fun c => c.stop .tooDeep
  | depth + 1 => readElementWith (readElement depth)

/-- Reads a document: its root element, with nothing but blanks, comments, instructions and
    declarations around it. -/
def readDocument (source : String) : Except Failure Element := do
  let c ← skipOuter (Cursor.start source.toList)
  if c.rest = [] then c.stop .noRoot
  else
    let (root, c) ← readElement maxDepth c
    let c ← skipOuter c
    if c.rest = [] then .ok root else c.stop .contentAfterRoot

end ControlSurface.Xml
