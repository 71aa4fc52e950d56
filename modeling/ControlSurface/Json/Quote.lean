import ControlSurface.Json.Cursor

/- Strings of a JSON text. A string that is read must be well formed in full; a string that
   is passed over may hold escapes for halves of a character. -/
namespace ControlSurface.Json.Quote

/-- The value of a hexadecimal digit. -/
def hexValue? (c : Char) : Option Nat :=
  if c.isDigit then some (c.toNat - '0'.toNat)
  else if 'a' ≤ c ∧ c ≤ 'f' then some (c.toNat - 'a'.toNat + 10)
  else if 'A' ≤ c ∧ c ≤ 'F' then some (c.toNat - 'A'.toNat + 10)
  else none

/-- The value of four hexadecimal digits. -/
def hex4? (cs : List Char) : Option Nat :=
  match cs with
  | [a, b, c, d] => do
    let a ← hexValue? a
    let b ← hexValue? b
    let c ← hexValue? c
    let d ← hexValue? d
    some (((a * 16 + b) * 16 + c) * 16 + d)
  | _ => none

/-- The count of bytes of a text. -/
def byteCount (cs : List Char) : Nat := cs.foldl (fun n c => n + c.utf8Size) 0

/-- Reads the four digits of an escape by number. Four bytes are looked at, whatever they are. -/
def readHex (c : Cursor) : Read Nat :=
  match hex4? (c.rest.take 4) with
  | some n => .ok (n, c.skip 4)
  | none =>
    if byteCount (c.rest.take 4) < 4 then .error (c.failureBehind 4 .endInString)
    else .error (c.failureBehind 4 .invalidEscape)

/-- Whether a number is a leading half of a character. -/
def isLeading (n : Nat) : Bool := 0xD800 ≤ n && n ≤ 0xDBFF

/-- Whether a number is a trailing half of a character. -/
def isTrailing (n : Nat) : Bool := 0xDC00 ≤ n && n ≤ 0xDFFF

/-- Takes a character that must be there. -/
def expect (d : Char) (c : Cursor) : Except Failure Cursor :=
  match c.rest with
  | [] => c.stop .endInString
  | e :: _ => if e = d then .ok c.step else c.stopBehind .unfinishedEscape

/-- Reads an escape by number behind its `u`: one character, which may take two escapes. -/
def readUnicode (c : Cursor) : Except Failure (Char × Cursor) := do
  let (n, c) ← readHex c
  if isTrailing n then c.stop .loneSurrogate
  else if isLeading n then
    let c ← expect '\\' c
    let c ← expect 'u' c
    let (m, c) ← readHex c
    if isTrailing m then .ok (Char.ofNat ((n - 0xD800) * 0x400 + (m - 0xDC00) + 0x10000), c)
    else c.stop .loneSurrogate
  else .ok (Char.ofNat n, c)

/-- The character of an escape by letter. -/
def letterEscape? (c : Char) : Option Char :=
  [('\x22', '\x22'), ('\\', '\\'), ('/', '/'), ('b', '\x08'), ('f', '\x0c'), ('n', '\n'),
   ('r', '\r'), ('t', '\t')].lookup c

/-- Reads an escape behind its backslash. -/
def readEscape (c : Cursor) : Read Char :=
  match c.rest with
  | [] => c.stop .endInString
  | 'u' :: _ => readUnicode c.step
  | d :: _ =>
    match letterEscape? d with
    | some e => .ok (e, c.step)
    | none => c.stopBehind .invalidEscape

/-- Reads a string behind its opening quote; `read` holds what came before, last first. -/
def readFrom : Nat → List Char → Cursor → Read String
  | 0, _, c => c.stop .endInString
  | fuel + 1, read, c =>
    match c.rest with
    | [] => c.stop .endInString
    | d :: _ =>
      if d = '\x22' then .ok (String.ofList read.reverse, c.step)
      else if d = '\\' then
        match readEscape c.step with
        | .ok (e, c) => readFrom fuel (e :: read) c
        | .error f => .error f
      else if d < ' ' then c.stopBehind .controlCharacter
      else readFrom fuel (d :: read) c.step

/-- Reads a string behind its opening quote. -/
def read (c : Cursor) : Read String := readFrom (c.rest.length + 1) [] c

/-- Passes over an escape behind its backslash. -/
def skipEscape (c : Cursor) : Except Failure Cursor :=
  match c.rest with
  | [] => c.stop .endInString
  | 'u' :: _ => (readHex c.step).map (·.2)
  | d :: _ =>
    match letterEscape? d with
    | some _ => .ok c.step
    | none => c.stopBehind .invalidEscape

/-- Passes over a string behind its opening quote, with fuel. -/
def passFrom : Nat → Cursor → Except Failure Cursor
  | 0, c => c.stop .endInString
  | fuel + 1, c =>
    match c.rest with
    | [] => c.stop .endInString
    | d :: _ =>
      if d = '\x22' then .ok c.step
      else if d = '\\' then
        match skipEscape c.step with
        | .ok c => passFrom fuel c
        | .error f => .error f
      else if d < ' ' then c.stop .controlCharacter
      else passFrom fuel c.step

/-- Passes over a string behind its opening quote. -/
def pass (c : Cursor) : Except Failure Cursor := passFrom (c.rest.length + 1) c

end ControlSurface.Json.Quote
