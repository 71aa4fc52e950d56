import ControlSurface.Yaml.Scalar
import ControlSurface.Yaml.Tag

/- Tokens of a YAML text. Indentation becomes tokens that open and close block collections.
   That a scalar is a key is known only at the colon behind it: the token for the key is then
   put before the scalar's. A key on one line may be no longer than 1024 characters. -/
namespace ControlSurface.Yaml

/-- A token. -/
inductive Token where
  | directive (directive : Directive)
  | documentStart
  | documentEnd
  | blockSequence
  | blockMapping
  | blockEnd
  | flowSequence
  | flowSequenceEnd
  | flowMapping
  | flowMappingEnd
  | entry
  | flowEntry
  | key
  | value
  | alias (name : List Char)
  | anchor (name : List Char)
  | tag (tag : Tag)
  | scalar (text : List Char) (style : Style)
deriving Repr, DecidableEq

/-- A place where a key may have begun: the number of the token there, and the place itself. A
    required one must turn out to be a key. -/
structure Candidate where
  token : Nat
  index : Nat
  line : Nat
  column : Nat
  required : Bool
deriving Repr, DecidableEq

/-- The state of a scan. `indents` are the columns of the open block collections, the innermost
    first; `candidates` has one place for each open flow collection and one for the block
    around them, the innermost first. -/
structure Scan where
  cursor : Cursor
  tokens : Array Token
  indents : List Nat
  mayBeKey : Bool
  candidates : List (Option Candidate)

namespace Scan

/-- The start of a scan. -/
def start (text : List Char) : Scan := ⟨Cursor.start text, #[], [], true, [none]⟩

/-- Whether a flow collection is open. -/
def inFlow (s : Scan) : Bool := 1 < s.candidates.length

/-- Whether a column lies behind the innermost block collection. -/
def isDeeper (s : Scan) (column : Nat) : Bool :=
  match s.indents with
  | [] => true
  | i :: _ => i < column

/-- One more token. -/
def emit (s : Scan) (t : Token) : Scan := { s with tokens := s.tokens.push t }

/-- Moves on. -/
def moveTo (s : Scan) (c : Cursor) : Scan := { s with cursor := c }

/-- Says whether a key may begin next. -/
def allowKey (s : Scan) (allowed : Bool) : Scan := { s with mayBeKey := allowed }

/-- Another innermost candidate. -/
def setCandidate (s : Scan) (candidate : Option Candidate) : Scan :=
  { s with candidates := candidate :: s.candidates.drop 1 }

/-- The innermost candidate. -/
def candidate? (s : Scan) : Option Candidate := s.candidates.head?.join

/-- Drops the innermost candidate, which must not be required. -/
def dropCandidate (s : Scan) : Option Scan :=
  match s.candidate? with
  | some k => if k.required then none else some (s.setCandidate none)
  | none => some s

/-- Remembers the next token as a candidate, if a key may begin here. -/
def saveCandidate (s : Scan) : Option Scan :=
  if s.mayBeKey then
    s.dropCandidate.map fun s =>
      let c := s.cursor
      let required := !s.inFlow && s.indents.head? == some c.column
      s.setCandidate (some ⟨s.tokens.size, c.index, c.line, c.column, required⟩)
  else some s

/-- Whether a candidate is too far back to be a key. -/
def isStale (c : Cursor) (k : Candidate) : Bool := k.line < c.line || k.index + 1024 < c.index

/-- Drops the candidates that are too far back, none of which may be required. -/
def dropStale (s : Scan) : Option Scan :=
  let stale (k : Option Candidate) : Bool := k.any (isStale s.cursor)
  if s.candidates.any fun k => stale k && k.any (·.required) then none
  else some { s with candidates := s.candidates.map fun k => if stale k then none else k }

/-- Opens a block collection at a column behind the others; its token goes to place `before`, or
    behind all tokens. -/
def openBlock (s : Scan) (column : Nat) (before : Option Nat) (t : Token) : Scan :=
  if !s.inFlow && s.isDeeper column then
    { s with
      indents := column :: s.indents
      tokens := match before with
        | some i => s.tokens.insertIdxIfInBounds i t
        | none => s.tokens.push t }
  else s

/-- Closes the block collections behind a column; all of them without a column. -/
def closeBlocks (s : Scan) (column : Option Nat) : Scan :=
  if s.inFlow then s
  else
    let isBehind (i : Nat) : Bool := match column with
      | some c => c < i
      | none => true
    let closed := s.indents.takeWhile isBehind
    { s with
      indents := s.indents.drop closed.length
      tokens := s.tokens ++ (closed.map fun _ => Token.blockEnd).toArray }

/-- Passes over gaps, comments and line ends, with fuel. A tab is no gap where a key may begin
    in a block. -/
def skipBetweenFrom : Nat → Scan → Scan
  | 0, s => s
  | fuel + 1, s =>
    let c := if s.cursor.index = 0 ∧ s.cursor.head? = some '\ufeff' then s.cursor.step
      else s.cursor
    let tabs := s.inFlow || !s.mayBeKey
    let c := c.skipWhile fun d => d == ' ' || (tabs && d == '\t')
    let c := if c.head? = some '#' then c.skipWhile (!isBreak ·) else c
    match c.head? with
    | some d =>
      if isBreak d then
        skipBetweenFrom fuel { s with cursor := c.nextLine, mayBeKey := s.mayBeKey || !s.inFlow }
      else s.moveTo c
    | none => s.moveTo c

/-- Passes over gaps, comments and line ends. -/
def skipBetween (s : Scan) : Scan := skipBetweenFrom (s.cursor.rest.length + 1) s

/-- A directive or a document marker: it closes all blocks. -/
def startLine (s : Scan) : Option Scan :=
  (s.closeBlocks none).dropCandidate.map (·.allowKey false)

/-- Opens a flow collection. -/
def openFlow (s : Scan) (t : Token) : Option Scan :=
  s.saveCandidate.map fun s =>
    { s.emit t with candidates := none :: s.candidates, mayBeKey := true, cursor := s.cursor.step }

/-- Closes a flow collection; outside of one nothing is closed. -/
def closeFlow (s : Scan) (t : Token) : Option Scan :=
  s.dropCandidate.map fun s =>
    let candidates := if s.inFlow then s.candidates.drop 1 else s.candidates
    { s.emit t with candidates := candidates, mayBeKey := false, cursor := s.cursor.step }

/-- A comma between items of a flow collection. -/
def flowEntry (s : Scan) : Option Scan :=
  s.dropCandidate.map fun s => ((s.emit .flowEntry).allowKey true).moveTo s.cursor.step

/-- A dash before an item of a block sequence. -/
def blockEntry (s : Scan) : Option Scan :=
  if !s.inFlow && !s.mayBeKey then none
  else
    let s := s.openBlock s.cursor.column none .blockSequence
    s.dropCandidate.map fun s => ((s.emit .entry).allowKey true).moveTo s.cursor.step

/-- A question mark before a key. -/
def explicitKey (s : Scan) : Option Scan :=
  if !s.inFlow && !s.mayBeKey then none
  else
    let s := s.openBlock s.cursor.column none .blockMapping
    s.dropCandidate.map fun s => ((s.emit .key).allowKey (!s.inFlow)).moveTo s.cursor.step

/-- A colon before a value. The candidate, if there is one, was the key. -/
def valueMark (s : Scan) : Option Scan :=
  match s.candidate? with
  | some k =>
    let s := { s with tokens := s.tokens.insertIdxIfInBounds k.token .key }
    let s := s.openBlock k.column (some k.token) .blockMapping
    some ((((s.setCandidate none).allowKey false).emit .value).moveTo s.cursor.step)
  | none =>
    if !s.inFlow && !s.mayBeKey then none
    else
      let s := s.openBlock s.cursor.column none .blockMapping
      some (((s.allowKey (!s.inFlow)).emit .value).moveTo s.cursor.step)

/-- A token that may begin a key, read by `read`. -/
def beginning {α : Type} (s : Scan) (read : Cursor → Option (α × Cursor)) (token : α → Token) :
    Option Scan := do
  let s ← s.saveCandidate
  let (a, c) ← read s.cursor
  some (((s.emit (token a)).allowKey false).moveTo c)

/-- A plain scalar. A key may begin behind one that line ends follow. -/
def plain (s : Scan) : Option Scan := do
  let s ← s.saveCandidate
  let indent := (s.indents.head?.map (· + 1)).getD 0
  let (text, broken, c) ← readPlain s.inFlow indent s.cursor
  some (((s.emit (.scalar text .plain)).allowKey broken).moveTo c)

/-- A literal or folded scalar. -/
def block (s : Scan) (isLiteral : Bool) : Option Scan := do
  let s ← s.dropCandidate
  let (text, c) ← readBlock isLiteral s.indents.head? s.cursor
  some (((s.emit (.scalar text (if isLiteral then .literal else .folded))).allowKey true).moveTo c)

/-- A document marker, if the text has one here. -/
def marker (s : Scan) (t : Token) : Option Scan :=
  s.startLine.map fun s => (s.emit t).moveTo (s.cursor.skip 3)

/-- Characters that begin no plain scalar. -/
def indicators : List Char :=
  ['-', '?', ':', ',', '[', ']', '\x7b', '\x7d', '#', '&', '*', '!', '|', '>', '\x27', '\x22',
   '%', '@', '\x60']

/-- Whether a plain scalar begins with a character and the text behind it. -/
def beginsPlain (s : Scan) (d : Char) (more : List Char) : Bool :=
  (!atEdge [d] && !indicators.contains d)
    || (d == '-' && !(more.head?.any isGap))
    || (!s.inFlow && (d == '?' || d == ':') && !atEdge more)

/-- The token that begins here, where neither a gap nor the end of the text is. -/
def dispatch (s : Scan) (d : Char) (more : List Char) : Option Scan :=
  let c := s.cursor
  if c.column = 0 ∧ d = '%' then
    s.startLine.bind fun s =>
      (readDirective s.cursor).map fun (directive, c) => (s.emit (.directive directive)).moveTo c
  else if c.column = 0 ∧ atMarker '-' c.rest then s.marker .documentStart
  else if c.column = 0 ∧ atMarker '.' c.rest then s.marker .documentEnd
  else if d = '[' then s.openFlow .flowSequence
  else if d = '\x7b' then s.openFlow .flowMapping
  else if d = ']' then s.closeFlow .flowSequenceEnd
  else if d = '\x7d' then s.closeFlow .flowMappingEnd
  else if d = ',' then s.flowEntry
  else if d = '-' ∧ atEdge more then s.blockEntry
  else if d = '?' ∧ (s.inFlow ∨ atEdge more) then s.explicitKey
  else if d = ':' ∧ (s.inFlow ∨ atEdge more) then s.valueMark
  else if d = '*' then s.beginning (readAnchor ·.step) .alias
  else if d = '&' then s.beginning (readAnchor ·.step) .anchor
  else if d = '!' then s.beginning (readTag s.inFlow) .tag
  else if d = '|' ∧ !s.inFlow then s.block true
  else if d = '>' ∧ !s.inFlow then s.block false
  else if d = '\x27' then s.beginning (readQuoted '\x27') (.scalar · .single)
  else if d = '\x22' then s.beginning (readQuoted '\x22') (.scalar · .double)
  else if s.beginsPlain d more then s.plain
  else none

/-- Scans to the end of the text, with fuel. -/
def runFrom : Nat → Scan → Option Scan
  | 0, _ => none
  | fuel + 1, s => do
    let s ← s.skipBetween.dropStale
    match s.cursor.rest with
    | [] => (s.closeBlocks none).dropCandidate
    | d :: more =>
      let s ← (s.closeBlocks (some s.cursor.column)).dispatch d more
      runFrom fuel s

end Scan

/-- The tokens of a text, unless it breaks a rule. -/
def Token.scan? (text : String) : Option (List Token) :=
  let cs := text.toList
  let allowed := match cs with
    | '\ufeff' :: more => more.all isAllowed
    | cs => cs.all isAllowed
  if allowed then (Scan.runFrom (cs.length + 2) (Scan.start cs)).map (·.tokens.toList) else none

end ControlSurface.Yaml
