import ControlSurface.Yaml.Token

/- The node that a YAML text holds. A text holds one document at most; a document is one
   node, which is empty where nothing is written. -/
namespace ControlSurface.Yaml

/-- A node. An alias is the number of the anchored node that it stands for. -/
inductive Node where
  | scalar (text : String) (style : Style) (tag : Option (List Char))
  | sequence (items : List Node)
  | mapping (members : List (Node × Node))
  | alias (number : Nat)

/-- What nothing is written for. -/
def Node.blank : Node := .scalar "" .plain none

/-- The state of reading nodes: the tokens that are left, the handles of tags, the anchors with
    their numbers, and the anchored nodes that are complete. -/
structure Compose where
  tokens : List Token
  handles : List (List Char × List Char)
  anchors : List (List Char × Nat)
  count : Nat
  anchored : List (Nat × Node)

namespace Compose

/-- The next token. -/
def next? (s : Compose) : Option Token := s.tokens.head?

/-- The state behind the next token. -/
def step (s : Compose) : Compose := { s with tokens := s.tokens.drop 1 }

/-- Whether the next token is a given one. -/
def at? (s : Compose) (t : Token) : Bool := s.next? == some t

/-- Whether the next token is one of several. -/
def atAny (s : Compose) (ts : List Token) : Bool := s.next?.any ts.contains

/-- The handles that every text knows. -/
def commonHandles : List (List Char × List Char) :=
  [(['!'], ['!']), (['!', '!'], "tag:yaml.org,2002:".toList)]

/-- The full text of a tag. Its handle must be known. -/
def resolveTag (s : Compose) (t : Tag) : Option (List Char) :=
  if t.handle = [] then some t.suffix else (s.handles.lookup t.handle).map (· ++ t.suffix)

/-- The anchor and the tag before a node, in either order. -/
def readProperties (s : Compose) : Option (List Char) × Option Tag × Compose :=
  match s.tokens with
  | .anchor a :: .tag t :: _ => (some a, some t, s.step.step)
  | .anchor a :: _ => (some a, none, s.step)
  | .tag t :: .anchor a :: _ => (some a, some t, s.step.step)
  | .tag t :: _ => (none, some t, s.step)
  | _ => (none, none, s)

/-- Gives an anchor the next number, if there is one. -/
def declare (s : Compose) (name : Option (List Char)) : Option Nat × Compose :=
  match name with
  | none => (none, s)
  | some n => (some s.count, { s with anchors := (n, s.count) :: s.anchors, count := s.count + 1 })

/-- Keeps a node that has an anchor. -/
def keep (s : Compose) (number : Option Nat) (n : Node) : Compose :=
  match number with
  | none => s
  | some k => { s with anchored := (k, n) :: s.anchored }

/-- A reader of nodes. -/
abbrev Reader : Type := Compose → Option (Node × Compose)

/-- Nothing, where one of the given tokens comes next; else a node. -/
def orBlank (node : Reader) (stops : List Token) (s : Compose) : Option (Node × Compose) :=
  if s.atAny stops then some (.blank, s) else node s

/-- Reads the items of a block sequence up to its end. -/
def blockItems (node : Reader) : Nat → Compose → Option (List Node × Compose)
  | 0, _ => none
  | fuel + 1, s => do
    if s.at? .entry then
      let (item, s) ← orBlank node [.entry, .blockEnd] s.step
      let (items, s) ← blockItems node fuel s
      some (item :: items, s)
    else if s.at? .blockEnd then some ([], s.step)
    else none

/-- Reads the items of a block sequence that is indented no deeper than its key. -/
def plainItems (node : Reader) : Nat → Compose → Option (List Node × Compose)
  | 0, _ => none
  | fuel + 1, s => do
    if s.at? .entry then
      let (item, s) ← orBlank node [.entry, .key, .value, .blockEnd] s.step
      let (items, s) ← plainItems node fuel s
      some (item :: items, s)
    else some ([], s)

/-- Reads the value of a member of a block mapping, if it has one. -/
def blockValue (node : Reader) (s : Compose) : Option (Node × Compose) :=
  if s.at? .value then orBlank node [.key, .value, .blockEnd] s.step else some (.blank, s)

/-- Reads the members of a block mapping up to its end. -/
def blockMembers (node : Reader) : Nat → Compose → Option (List (Node × Node) × Compose)
  | 0, _ => none
  | fuel + 1, s => do
    if s.at? .key then
      let (key, s) ← orBlank node [.key, .value, .blockEnd] s.step
      let (value, s) ← blockValue node s
      let (members, s) ← blockMembers node fuel s
      some ((key, value) :: members, s)
    else if s.at? .blockEnd then some ([], s.step)
    else none

/-- Passes over the comma between items of a flow collection. -/
def separator (first : Bool) (s : Compose) : Option Compose :=
  if first then some s else if s.at? .flowEntry then some s.step else none

/-- Reads a mapping of one member inside a flow sequence, behind its key mark. -/
def singleMember (node : Reader) (s : Compose) : Option (Node × Compose) := do
  let (key, s) ←
    if s.atAny [.value, .flowEntry, .flowSequenceEnd] then some (Node.blank, s.step) else node s
  let (value, s) ←
    if s.at? .value then orBlank node [.flowEntry, .flowSequenceEnd] s.step
    else some (Node.blank, s)
  some (.mapping [(key, value)], s)

/-- Reads the items of a flow sequence up to its end. -/
def flowItems (node : Reader) : Nat → Bool → Compose → Option (List Node × Compose)
  | 0, _, _ => none
  | fuel + 1, first, s => do
    if s.at? .flowSequenceEnd then some ([], s.step)
    else
      let s ← separator first s
      if s.at? .flowSequenceEnd then some ([], s.step)
      else
        let (item, s) ← if s.at? .key then singleMember node s.step else node s
        let (items, s) ← flowItems node fuel false s
        some (item :: items, s)

/-- Reads a member of a flow mapping. -/
def flowMember (node : Reader) (s : Compose) : Option ((Node × Node) × Compose) := do
  if s.at? .key then
    let (key, s) ← orBlank node [.value, .flowEntry, .flowMappingEnd] s.step
    let (value, s) ←
      if s.at? .value then orBlank node [.flowEntry, .flowMappingEnd] s.step
      else some (Node.blank, s)
    some ((key, value), s)
  else
    let (key, s) ← node s
    some ((key, .blank), s)

/-- Reads the members of a flow mapping up to its end. -/
def flowMembers (node : Reader) : Nat → Bool → Compose → Option (List (Node × Node) × Compose)
  | 0, _, _ => none
  | fuel + 1, first, s => do
    if s.at? .flowMappingEnd then some ([], s.step)
    else
      let s ← separator first s
      if s.at? .flowMappingEnd then some ([], s.step)
      else
        let (member, s) ← flowMember node s
        let (members, s) ← flowMembers node fuel false s
        some (member :: members, s)

/-- Reads a node, nested to a depth. `inBlock` says that block collections may begin here, and
    `afterKey` that a sequence may be indented no deeper than its key. -/
def node : Nat → Bool → Bool → Reader
  | 0, _, _, _ => none
  | depth + 1, inBlock, afterKey, s => do
    match s.next? with
    | some (.alias name) =>
      let number ← s.anchors.lookup name
      some (.alias number, s.step)
    | _ =>
      let (anchor, written, s) := s.readProperties
      let tag ← match written with
        | some t => (s.resolveTag t).map some
        | none => some none
      let (number, s) := s.declare anchor
      let inner := node depth true false
      let afterKeyInner := node depth true true
      let flowInner := node depth false false
      let fuel := s.tokens.length + 1
      let (n, s) ← match s.next? with
        | some .entry =>
          if afterKey then (plainItems inner fuel s).map fun (items, s) => (Node.sequence items, s)
          else if anchor.isSome || written.isSome then some (Node.scalar "" .plain tag, s)
          else none
        | some (.scalar text style) => some (Node.scalar (String.ofList text) style tag, s.step)
        | some .flowSequence =>
          (flowItems flowInner fuel true s.step).map fun (items, s) => (Node.sequence items, s)
        | some .flowMapping =>
          (flowMembers flowInner fuel true s.step).map fun (ms, s) => (Node.mapping ms, s)
        | next =>
          if inBlock && next == some .blockSequence then
            (blockItems inner fuel s.step).map fun (items, s) => (Node.sequence items, s)
          else if inBlock && next == some .blockMapping then
            (blockMembers afterKeyInner fuel s.step).map fun (ms, s) => (Node.mapping ms, s)
          else if anchor.isSome || written.isSome then some (Node.scalar "" .plain tag, s)
          else none
      some (n, s.keep number n)

/-- Reads directives: one version at most, which must be 1.1 or 1.2, and handles, each one once. -/
def directives : List Token → Bool → List (List Char × List Char) →
    Option (List Token × List (List Char × List Char))
  | .directive (.version major minor) :: ts, versioned, handles =>
    if versioned || major ≠ 1 || (minor ≠ 1 && minor ≠ 2) then none
    else directives ts true handles
  | .directive (.tag handle replacement) :: ts, versioned, handles =>
    if (handles.lookup handle).isSome then none
    else directives ts versioned ((handle, replacement) :: handles)
  | ts, _, handles => some (ts, handles)

/-- Whether a token ends a document before anything is written in it. -/
def endsDocument : Option Token → Bool
  | none | some .documentStart | some .documentEnd | some (.directive _) => true
  | _ => false

/-- Reads the only document from its tokens: the node, and the anchored nodes. Nothing at all is
    no document. -/
def document (tokens : List Token) : Option (Option (Node × List (Nat × Node))) := do
  match tokens with
  | [] => some none
  | _ =>
    let (rest, handles) ← directives tokens false []
    let isMarked := rest.head? == some .documentStart
    if rest.length < tokens.length && !isMarked then none
    else
      let s : Compose := ⟨if isMarked then rest.drop 1 else rest, handles ++ commonHandles, [], 0, []⟩
      let (n, s) ←
        if isMarked && endsDocument s.next? then some (Node.blank, s)
        else node (tokens.length + 1) true false s
      if s.tokens.all (· == .documentEnd) then some (some (n, s.anchored)) else none

end Compose

/-- The node of a text with its anchored nodes, or nothing for a text without a document. -/
def Node.read? (text : String) : Option (Option (Node × List (Nat × Node))) :=
  (Token.scan? text).bind Compose.document

end ControlSurface.Yaml
