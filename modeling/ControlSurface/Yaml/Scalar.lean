import ControlSurface.Yaml.Cursor

/- Scalars of a YAML text: plain, quoted, literal and folded. Where a scalar runs over
   several lines, one line end becomes a space and of several the first is dropped. -/
namespace ControlSurface.Yaml

/-- How a scalar is written. -/
inductive Style where
  | plain
  | single
  | double
  | literal
  | folded
deriving Repr, DecidableEq

/-- Gaps and line ends between two words of a scalar: the gaps before the first line end, the
    first line end, and the others. -/
structure Fold where
  gaps : List Char
  first : List Char
  others : List Char
  broken : Bool
deriving Repr, DecidableEq

namespace Fold

/-- Nothing between two words. -/
def none : Fold := ⟨[], [], [], false⟩

/-- Line ends as they count in a scalar. -/
def breaks (f : Fold) : List Char :=
  if f.first = ['\n'] then if f.others = [] then [' '] else f.others else f.first ++ f.others

/-- What stands between the two words. -/
def text (f : Fold) : List Char := if f.broken then f.breaks else f.gaps

/-- Reads gaps and line ends. A tab is refused at the start of a line before column `indent`. -/
def readFrom (indent : Nat) : Nat → Fold → Cursor → Option (Fold × Cursor)
  | 0, f, c => some (f, c)
  | fuel + 1, f, c =>
    match c.rest with
    | [] => some (f, c)
    | d :: _ =>
      if isGap d then
        if f.broken then
          if d = '\t' ∧ c.column < indent then Option.none else readFrom indent fuel f c.step
        else readFrom indent fuel { f with gaps := f.gaps ++ [d] } c.step
      else if isBreak d then
        if f.broken then readFrom indent fuel { f with others := f.others ++ c.breakText } c.nextLine
        else readFrom indent fuel ⟨[], c.breakText, f.others, true⟩ c.nextLine
      else some (f, c)

/-- Reads gaps and line ends. -/
def read (indent : Nat) (f : Fold) (c : Cursor) : Option (Fold × Cursor) :=
  readFrom indent (c.rest.length + 1) f c

end Fold

/-! ## Plain scalars -/

/-- A character that ends or structures a collection in brackets. -/
def isFlowMark (c : Char) : Bool := c == ',' || c == '[' || c == ']' || c == '\x7b' || c == '\x7d'

/-- Whether a word of a plain scalar ends here. -/
def endsWord (inFlow : Bool) (cs : List Char) : Bool :=
  match cs with
  | [] => true
  | c :: more => atEdge cs || (c == ':' && atEdge more) || (inFlow && isFlowMark c)

/-- Whether a colon stands here that is neither inside a word nor an indicator. -/
def isStrayColon (inFlow : Bool) (cs : List Char) : Bool :=
  match cs with
  | ':' :: d :: _ => inFlow && (isFlowMark d || d == '?')
  | _ => false

/-- Reads a word of a plain scalar. -/
def readWordFrom (inFlow : Bool) : Nat → List Char → Cursor → Option (List Char × Cursor)
  | 0, word, c => some (word, c)
  | fuel + 1, word, c =>
    if atEdge c.rest then some (word, c)
    else if isStrayColon inFlow c.rest then none
    else if endsWord inFlow c.rest then some (word, c)
    else readWordFrom inFlow fuel (word ++ c.rest.take 1) c.step

/-- Reads the words of a plain scalar. `between` is what came before the next word. Gives also
    whether line ends follow the scalar. -/
def readPlainFrom (inFlow : Bool) (indent : Nat) : Nat → List Char → Fold → Cursor →
    Option (List Char × Bool × Cursor)
  | 0, text, between, c => some (text, between.broken, c)
  | fuel + 1, text, between, c => do
    if c.atDocumentMarker || c.head? = some '#' then some (text, between.broken, c)
    else
      let (word, behind) ← readWordFrom inFlow (c.rest.length + 1) [] c
      let (text, between) := if word = [] then (text, between)
        else (text ++ between.text ++ word, Fold.none)
      match behind.head? with
      | some d =>
        if isGap d || isBreak d then
          let (between, behind) ← Fold.read indent between behind
          if !inFlow && behind.column < indent then some (text, between.broken, behind)
          else readPlainFrom inFlow indent fuel text between behind
        else some (text, between.broken, behind)
      | none => some (text, between.broken, behind)

/-- Reads a plain scalar; continuation lines start at column `indent` or behind. -/
def readPlain (inFlow : Bool) (indent : Nat) (c : Cursor) : Option (List Char × Bool × Cursor) :=
  readPlainFrom inFlow indent (c.rest.length + 1) [] Fold.none c

/-! ## Quoted scalars -/

/-- The characters of escapes by letter. -/
def letterEscapes : List (Char × Char) :=
  [('0', '\x00'), ('a', '\x07'), ('b', '\x08'), ('t', '\t'), ('\t', '\t'), ('n', '\n'),
   ('v', '\x0b'), ('f', '\x0c'), ('r', '\r'), ('e', '\x1b'), (' ', ' '), ('\x22', '\x22'),
   ('/', '/'), ('\\', '\\'), ('N', '\u0085'), ('_', '\u00a0'), ('L', '\u2028'), ('P', '\u2029')]

/-- The count of digits of an escape by number. -/
def escapeWidth? (c : Char) : Option Nat := [('x', 2), ('u', 4), ('U', 8)].lookup c

/-- The value of hexadecimal digits. -/
def hexValue? (cs : List Char) : Option Nat :=
  cs.foldl (fun n c => n.bind fun n =>
    if c.isDigit then some (16 * n + (c.toNat - '0'.toNat))
    else if 'a' ≤ c ∧ c ≤ 'f' then some (16 * n + (c.toNat - 'a'.toNat + 10))
    else if 'A' ≤ c ∧ c ≤ 'F' then some (16 * n + (c.toNat - 'A'.toNat + 10))
    else none) (some 0)

/-- Reads an escape from its backslash on. -/
def readEscape (c : Cursor) : Option (Char × Cursor) := do
  let d ← (c.rest.drop 1).head?
  match letterEscapes.lookup d with
  | some e => some (e, c.skip 2)
  | none =>
    let width ← escapeWidth? d
    let digits := (c.rest.drop 2).take width
    if digits.length < width then none
    else
      let n ← hexValue? digits
      if n.isValidChar then some (Char.ofNat n, c.skip (2 + width)) else none

/-- Reads a word of a quoted scalar. Gives also whether an escaped line end follows it, which is
    then passed. -/
def readQuotedWordFrom (quote : Char) : Nat → List Char → Cursor →
    Option (List Char × Bool × Cursor)
  | 0, word, c => some (word, false, c)
  | fuel + 1, word, c =>
    if atEdge c.rest then some (word, false, c)
    else
      match c.rest with
      | [] => some (word, false, c)
      | d :: more =>
        if quote = '\x27' ∧ d = '\x27' ∧ more.head? = some '\x27' then
          readQuotedWordFrom quote fuel (word ++ ['\x27']) (c.skip 2)
        else if d = quote then some (word, false, c)
        else if quote = '\x22' ∧ d = '\\' then
          if more ≠ [] ∧ atLineEnd more then some (word, true, c.step.nextLine)
          else
            match readEscape c with
            | some (e, c) => readQuotedWordFrom quote fuel (word ++ [e]) c
            | none => none
        else readQuotedWordFrom quote fuel (word ++ [d]) c.step

/-- Reads a quoted scalar behind its opening quote. -/
def readQuotedFrom (quote : Char) : Nat → List Char → Cursor → Option (List Char × Cursor)
  | 0, _, _ => none
  | fuel + 1, text, c => do
    if c.atDocumentMarker || c.rest = [] then none
    else
      let (word, escaped, c) ← readQuotedWordFrom quote (c.rest.length + 1) [] c
      if c.head? = some quote then some (text ++ word, c.step)
      else
        let (between, c) ← Fold.read 0 { Fold.none with broken := escaped } c
        readQuotedFrom quote fuel (text ++ word ++ between.text) c

/-- Reads a quoted scalar from its opening quote on. -/
def readQuoted (quote : Char) (c : Cursor) : Option (List Char × Cursor) :=
  readQuotedFrom quote (c.rest.length + 1) [] c.step

/-! ## Block scalars -/

/-- What becomes of the line ends behind a block scalar. -/
inductive Chomp where
  | strip
  | clip
  | keep
deriving Repr, DecidableEq

/-- The chomping that an indicator stands for. -/
def chompOf? : Option Char → Option Chomp
  | some '+' => some .keep
  | some '-' => some .strip
  | _ => none

/-- The indentation that a digit states; zero states none. -/
def indentOf? : Option Char → Option Nat
  | some d => if d.isDigit then some (d.toNat - '0'.toNat) else none
  | none => none

/-- Reads the indicators of a block scalar, in either order. -/
def readIndicators (c : Cursor) : Option (Chomp × Option Nat × Cursor) := do
  let (chomp, width, c) := match chompOf? c.head? with
    | some chomp =>
      match indentOf? c.step.head? with
      | some n => (chomp, some n, c.skip 2)
      | none => (chomp, none, c.step)
    | none =>
      match indentOf? c.head? with
      | some n =>
        match chompOf? c.step.head? with
        | some chomp => (chomp, some n, c.skip 2)
        | none => (Chomp.clip, some n, c.step)
      | none => (Chomp.clip, none, c)
  if width = some 0 then none else some (chomp, width, c)

/-- Reads empty lines and indentation. With a given indentation no more than it is taken; else
    all spaces are, and the deepest column is found. -/
def readBlankLinesFrom (indent : Option Nat) : Nat → List Char → Nat → Cursor →
    Option (List Char × Nat × Cursor)
  | 0, breaks, deepest, c => some (breaks, deepest, c)
  | fuel + 1, breaks, deepest, c =>
    let spaces := (c.rest.takeWhile (· == ' ')).length
    let c := match indent with
      | some n => c.skip (min spaces (n - c.column))
      | none => c.skip spaces
    let deepest := max deepest c.column
    let shallow := match indent with
      | some n => c.column < n
      | none => true
    if shallow && c.head? = some '\t' then none
    else
      match c.head? with
      | some d =>
        if isBreak d then readBlankLinesFrom indent fuel (breaks ++ c.breakText) deepest c.nextLine
        else some (breaks, deepest, c)
      | none => some (breaks, deepest, c)

/-- Reads empty lines and indentation. -/
def readBlankLines (indent : Option Nat) (c : Cursor) : Option (List Char × Nat × Cursor) :=
  readBlankLinesFrom indent (c.rest.length + 1) [] 0 c

/-- Reads the lines of a block scalar. `first` is the line end before the line here and `others`
    are the line ends of empty lines between; `wasIndented` says that the line before began
    with a gap. -/
def readLinesFrom (isLiteral : Bool) (indent : Nat) : Nat → List Char → List Char → List Char →
    Bool → Cursor → Option (List Char × List Char × List Char × Cursor)
  | 0, text, first, others, _, c => some (text, first, others, c)
  | fuel + 1, text, first, others, wasIndented, c => do
    if c.column ≠ indent ∨ c.rest = [] then some (text, first, others, c)
    else
      let isIndented := (c.head?.map isGap).getD false
      let lead := if !isLiteral && first = ['\n'] && !wasIndented && !isIndented then
          if others = [] then [' '] else []
        else first
      let line := c.rest.takeWhile (!isBreak ·)
      let behind := c.skip line.length
      let (blank, _, next) ← readBlankLines (some indent) behind.nextLine
      readLinesFrom isLiteral indent fuel (text ++ lead ++ others ++ line) behind.breakText blank
        isIndented next

/-- Reads a block scalar from its indicator on. `outer` is the indentation around it, none
    outside all collections. -/
def readBlock (isLiteral : Bool) (outer : Option Nat) (c : Cursor) :
    Option (List Char × Cursor) := do
  let (chomp, width, c) ← readIndicators c.step
  let c ← c.finishLine?
  let given := width.map fun n => (outer.getD 0) + n
  let (others, deepest, c) ← readBlankLines given c
  let least := (outer.map (· + 1)).getD 0
  let indent := given.getD (max 1 (max deepest least))
  let (text, first, others, c) ←
    readLinesFrom isLiteral indent (c.rest.length + 1) [] [] others false c
  let tail := match chomp with
    | .strip => []
    | .clip => first
    | .keep => first ++ others
  some (text ++ tail, c)

end ControlSurface.Yaml
