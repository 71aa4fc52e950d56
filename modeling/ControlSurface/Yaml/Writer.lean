import ControlSurface.Decimal.Literal
import ControlSurface.Text.Quoted
import ControlSurface.Yaml.Scalar

/- Texts as scalars of a block. A text is plain where it reads back as the same text; where it
   would read as another value or as an indicator it stands in single quotes; where it needs
   escapes, in double quotes; and a text of several lines is a literal. -/
namespace ControlSurface.Yaml.Writer

/-! ## Texts that read as other values -/

/-- The words that are no texts. -/
def reservedWords : List String :=
  ["", "~", "null", "Null", "NULL", "true", "True", "TRUE", "false", "False", "FALSE",
   ".inf", ".Inf", ".INF", "+.inf", "+.Inf", "+.INF", "-.inf", "-.Inf", "-.INF",
   ".nan", ".NaN", ".NAN"]

/-- A text without a sign before it, and whether that was a minus. -/
def unsigned : List Char → Bool × List Char
  | '-' :: cs => (true, cs)
  | '+' :: cs => (false, cs)
  | cs => (false, cs)

/-- Digits in the base of their mark that fit 128 bits. -/
def isMarkedNumber (cs : List Char) : Bool :=
  let (negative, body) := unsigned cs
  let bound := if negative then Nat.pow 2 127 + 1 else Nat.pow 2 128
  let fits (base : Nat) (digits : List Char) : Bool :=
    !(digits.head? == some '+') && (Decimal.readNatural base bound digits).isSome
  match body with
  | '0' :: 'x' :: digits => fits 16 digits
  | '0' :: 'o' :: digits => fits 8 digits
  | '0' :: 'b' :: digits => fits 2 digits
  | _ => false

/-- A decimal that is finite. -/
def isDecimal (cs : List Char) : Bool :=
  let body := match cs with
    | '+' :: more => more
    | more => more
  !(cs.head? == some '+' && (body.head? == some '+' || body.head? == some '-'))
    && ((Decimal.readLiteral body).any Float.isFinite)

/-- Several digits of which the first is a zero. -/
def isZeroLed (cs : List Char) : Bool :=
  let body := (unsigned cs).2
  1 < body.length && body.head? == some '0' && body.all Char.isDigit

/-- A text that reads as another value, or that some readers take for one. -/
def isAmbiguous (s : String) : Bool :=
  reservedWords.contains s || isMarkedNumber s.toList || isDecimal s.toList || isZeroLed s.toList

/-! ## Which ways of writing a text are open -/

/-- A character that can stand in a text without an escape. -/
def isPrintable (c : Char) : Bool :=
  let n := c.toNat
  n == 0xA || (0x20 ≤ n && n ≤ 0x7E) || (0xA0 ≤ n && n ≤ 0xD7FF)
    || (0xE000 ≤ n && n ≤ 0xFFFD && n ≠ 0xFEFF) || 0x10000 ≤ n

/-- A character that makes a text of a block look like something else when it comes first. -/
def isLeadIndicator (c : Char) : Bool :=
  ['#', ',', '[', ']', '\x7b', '\x7d', '&', '*', '!', '|', '>', '\x27', '\x22', '%', '@',
    '\x60'].contains c

/-- Whether a text behind its first character holds an indicator: a colon before an edge, or a
    hash behind one. `previous` is the character before the text. -/
def hasInnerIndicator (previous : Char) : List Char → Bool
  | [] => false
  | c :: cs =>
    (c == ':' && atEdge cs) || (c == '#' && atEdge [previous]) || hasInnerIndicator c cs

/-- Whether a text looks like something else than a plain scalar. -/
def hasIndicator (cs : List Char) : Bool :=
  match cs with
  | [] => false
  | c :: more =>
    ['-', '-', '-'].isPrefixOf cs || ['.', '.', '.'].isPrefixOf cs || isLeadIndicator c
      || ((c == '?' || c == ':' || c == '-') && atEdge more) || hasInnerIndicator c more

/-- Whether a character that satisfies one test is followed by one that satisfies another. -/
def hasPair (first second : Char → Bool) : List Char → Bool
  | c :: d :: cs => (first c && second d) || hasPair first second (d :: cs)
  | _ => false

/-- Whether a text needs escapes. -/
def needsEscapes (cs : List Char) : Bool :=
  cs.any (!isPrintable ·) || hasPair (· == ' ') isBreak cs

/-- Whether a text has a space or a line end at either end. -/
def hasLooseEnd (cs : List Char) : Bool :=
  let loose (c : Char) : Bool := c == ' ' || isBreak c
  (cs.head?.any loose) || (cs.getLast?.any loose)

/-- The way in which a text is written. -/
def styleOf (s : String) : Style :=
  let cs := s.toList
  let quotes : Style :=
    if needsEscapes cs || hasPair isBreak (· == ' ') cs then .double else .single
  if cs.contains '\n' then
    if needsEscapes cs || cs.getLast? == some ' ' then .double else .literal
  else if isAmbiguous s then quotes
  else if hasLooseEnd cs || hasIndicator cs || needsEscapes cs || cs.any isBreak then quotes
  else .plain

/-! ## Writing -/

/-- The spaces before a line. -/
def margin (indent : Nat) : List Char := List.replicate indent ' '

/-- The inside of single quotes. Behind a line end comes the margin of the next line; a line feed
    counts twice, because one alone would read as a space. -/
def singleFrom (indent : Nat) : Bool → List Char → List Char
  | broken, [] => if broken then margin indent else []
  | broken, c :: cs =>
    if isBreak c then
      (if c = '\n' ∧ !broken then ['\n'] else []) ++ c :: singleFrom indent true cs
    else
      (if broken ∧ c ≠ ' ' then margin indent else [])
        ++ (if c = '\x27' then ['\x27', '\x27'] else [c])
        ++ singleFrom indent (broken && c == ' ') cs

/-- The letters of escapes. -/
def escapeLetters : List (Char × Char) :=
  [('\x00', '0'), ('\x07', 'a'), ('\x08', 'b'), ('\t', 't'), ('\n', 'n'), ('\x0b', 'v'),
   ('\x0c', 'f'), ('\r', 'r'), ('\x1b', 'e'), ('\x22', '\x22'), ('\\', '\\'), ('\u0085', 'N'),
   ('\u00a0', '_'), ('\u2028', 'L'), ('\u2029', 'P')]

/-- A character of double quotes. -/
def doubleChar (c : Char) : List Char :=
  if isPrintable c && !isBreak c && c ≠ '\x22' && c ≠ '\\' then [c]
  else
    match escapeLetters.lookup c with
    | some letter => ['\\', letter]
    | none =>
      let n := c.toNat
      let (mark, width) := if n ≤ 0xFF then ('x', 2) else if n ≤ 0xFFFF then ('u', 4) else ('U', 8)
      '\\' :: mark :: (Text.paddedHex width n).map Char.toUpper

/-- The marks behind a literal's indicator: the indentation where it cannot be seen, and what is
    to become of line ends at the end. -/
def literalMarks (cs : List Char) : List Char :=
  let lead := if cs.head?.any fun c => c == ' ' || isBreak c then ['2'] else []
  let tail := match cs.reverse with
    | [] => ['-']
    | [c] => if isBreak c then ['+'] else ['-']
    | c :: d :: _ => if isBreak c then if isBreak d then ['+'] else [] else ['-']
  lead ++ tail

/-- The lines of a literal: the margin before each line that is not empty. -/
def literalFrom (indent : Nat) : Bool → List Char → List Char
  | _, [] => []
  | broken, c :: cs =>
    if isBreak c then c :: literalFrom indent true cs
    else (if broken then margin indent else []) ++ c :: literalFrom indent false cs

/-- A text as a scalar whose further lines are indented. -/
def scalar (indent : Nat) (s : String) : String :=
  let cs := s.toList
  match styleOf s with
  | .plain => s
  | .single => String.ofList ('\x27' :: singleFrom indent false cs ++ ['\x27'])
  | .literal | .folded =>
    String.ofList ('|' :: literalMarks cs ++ '\n' :: literalFrom indent true cs)
  | .double => String.ofList ('\x22' :: cs.flatMap doubleChar ++ ['\x22'])

end ControlSurface.Yaml.Writer
