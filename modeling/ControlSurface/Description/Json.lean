import ControlSurface.Description.Basic
import ControlSurface.Description.Facet
import ControlSurface.Error
import ControlSurface.Json.Reader

/- Descriptions written in JSON. The text is read into raw nodes first, which have every
   field that the grammar allows; then each raw node becomes a node of its kind, in document
   order, and only the fields that matter for its kind are looked at. An object may also be
   written as the list of its fields in order. -/
namespace ControlSurface.Description.Json

open ControlSurface.Json

/-- A number as it is written: a number, or a text that must denote one. -/
inductive RawFacet where
  | number (value : Float)
  | text (value : String)
deriving DecidableEq

/-- The pairs of one object of annotations, sorted by key. -/
abbrev RawMeta : Type := List (List (String × Value))

/-- A node with all its fields. -/
structure RawNode where
  type : String
  label : String
  address : Option String
  url : Option String
  min : Option RawFacet
  max : Option RawFacet
  step : Option RawFacet
  init : Option RawFacet
  info : RawMeta
  items : List RawNode

/-- A document with all its fields. -/
structure RawDocument where
  name : Option String
  inputs : Option Nat
  outputs : Option Nat
  info : RawMeta
  nodes : List RawNode

/-! ## Reading raw nodes -/

/-- A field read once: it must not have been there before. -/
def once {α : Type} (name : String) (old : Option α)
    (read : Cursor → Except Failure (α × Cursor)) (c : Cursor) :
    Except Failure (Option α × Cursor) := do
  match old with
  | some _ => c.settleObject.stop (.duplicateField name)
  | none =>
    let (a, c) ← read (← Reader.colon c)
    .ok (some a, c)

/-- A field of a list of fields, which may have ended before it. -/
def nextField {α : Type} (first : Bool) (read : Cursor → Except Failure (α × Cursor))
    (c : Cursor) : Except Failure (Option α × Cursor) := do
  match ← Reader.nextItem first c with
  | none => .ok (none, c)
  | some c =>
    let (a, c) ← read c
    .ok (some a, c)

/-- The end of a list of fields, behind the last of them. -/
def endFields (c : Cursor) : Except Failure Cursor :=
  let c := c.skipGaps
  match c.rest with
  | [] => c.stop .endInList
  | ']' :: _ => .ok c.step
  | ',' :: _ =>
    let c := c.step.skipGaps
    if c.rest.head? = some ']' then c.stopBehind .trailingComma
    else c.stopBehind .trailingCharacters
  | _ => c.stopBehind .trailingCharacters

/-- Reads a member that is none of the known fields. -/
def unknown (c : Cursor) : Except Failure Cursor := do Pass.value (← Reader.colon c)

/-- Reads a facet. A value that is neither a number nor a text fails where the reader of the
    surrounding object gives up. -/
def facet (levels : Nat) (settle : Cursor → Cursor) :
    Cursor → Except Failure (Option RawFacet × Cursor) :=
  Reader.optional fun c => do
    match ← Reader.value levels c with
    | (.number n, c) => .ok (.number n.toFloat, c)
    | (.text s, c) => .ok (.text s, c)
    | (_, c) => (settle c).stop (.noVariant "Facet")

/-- Reads annotations: a list of objects. -/
def annotations (levels : Nat) : Cursor → Except Failure (RawMeta × Cursor) :=
  Reader.list levels Reader.object

/-- The fields of a node that have been read. -/
structure NodeFields where
  type : Option String := none
  label : Option String := none
  address : Option (Option String) := none
  url : Option (Option String) := none
  min : Option (Option RawFacet) := none
  max : Option (Option RawFacet) := none
  step : Option (Option RawFacet) := none
  init : Option (Option RawFacet) := none
  info : Option RawMeta := none
  items : Option (List RawNode) := none

/-- The node of a type with these fields; absent fields are empty. -/
def NodeFields.node (f : NodeFields) (type : String) : RawNode where
  type := type
  label := f.label.getD ""
  address := f.address.getD none
  url := f.url.getD none
  min := f.min.getD none
  max := f.max.getD none
  step := f.step.getD none
  init := f.init.getD none
  info := f.info.getD []
  items := f.items.getD []

/-- Reads one member of a node. `levels` further containers may be nested in the node, and
    `items` reads its items. -/
def nodeMember (levels : Nat) (items : Cursor → Except Failure (List RawNode × Cursor))
    (f : NodeFields) (key : String) (c : Cursor) : Except Failure (NodeFields × Cursor) := do
  let number := facet levels Cursor.settleObject
  let string := Reader.optional Reader.text
  match key with
  | "type" => let (v, c) ← once key f.type Reader.text c; .ok ({ f with type := v }, c)
  | "label" => let (v, c) ← once key f.label Reader.text c; .ok ({ f with label := v }, c)
  | "address" => let (v, c) ← once key f.address string c; .ok ({ f with address := v }, c)
  | "url" => let (v, c) ← once key f.url string c; .ok ({ f with url := v }, c)
  | "min" => let (v, c) ← once key f.min number c; .ok ({ f with min := v }, c)
  | "max" => let (v, c) ← once key f.max number c; .ok ({ f with max := v }, c)
  | "step" => let (v, c) ← once key f.step number c; .ok ({ f with step := v }, c)
  | "init" => let (v, c) ← once key f.init number c; .ok ({ f with init := v }, c)
  | "meta" =>
    let (v, c) ← once key f.info (annotations levels) c; .ok ({ f with info := v }, c)
  | "items" => let (v, c) ← once key f.items items c; .ok ({ f with items := v }, c)
  | _ => .ok (f, ← unknown c)

/-- Reads a node from behind the bracket of a list of its fields. -/
def nodeOfList (levels : Nat) (items : Cursor → Except Failure (List RawNode × Cursor))
    (c : Cursor) : Except Failure (RawNode × Cursor) := do
  let number := facet levels Cursor.settleList
  let string := Reader.optional Reader.text
  match ← nextField true Reader.text c with
  | (none, c) => c.settleList.stop (.wrongLength 0 "struct RawNode with 10 elements")
  | (some type, c) =>
    let (label, c) ← nextField false Reader.text c
    let (address, c) ← nextField false string c
    let (url, c) ← nextField false string c
    let (min, c) ← nextField false number c
    let (max, c) ← nextField false number c
    let (step, c) ← nextField false number c
    let (init, c) ← nextField false number c
    let (info, c) ← nextField false (annotations levels) c
    let (items, c) ← nextField false items c
    let fields : NodeFields := ⟨some type, label, address, url, min, max, step, init, info, items⟩
    .ok (fields.node type, ← endFields c)

/-- Reads the node that starts here with a brace or a bracket. `levels` further containers may be
    nested in it, and `items` reads its items. -/
def openNode (levels : Nat) (items : Cursor → Except Failure (List RawNode × Cursor))
    (c : Cursor) : Except Failure (RawNode × Cursor) := do
  if c.rest.head? = some '\x7b' then
    let (f, c) ← Reader.members (nodeMember levels items) {} c.step
    match f.type with
    | some type => .ok (f.node type, c)
    | none => c.stop (.missingField "type")
  else nodeOfList levels items c.step

/-- Reads a node. `inside` says how many further containers may be nested in it and how its items
    are read; without it the node itself is nested too deep. -/
def nodeIn (inside : Option (Nat × (Cursor → Except Failure (List RawNode × Cursor))))
    (c : Cursor) : Except Failure (RawNode × Cursor) :=
  let c := c.skipGaps
  if c.rest = [] then c.stop .endInValue
  else if c.rest.head? = some '\x7b' ∨ c.rest.head? = some '[' then
    match inside with
    | none => c.stopBehind .tooDeep
    | some (levels, items) => openNode levels items c
  else Reader.refuse "struct RawNode" c

/-- Reads a node; so many containers may be nested here, the node itself among them. -/
def node : Nat → Cursor → Except Failure (RawNode × Cursor)
  | 0 => nodeIn none
  | 1 => nodeIn (some (0, Reader.list 0 fun _ c => c.stopBehind .tooDeep))
  | levels + 2 => nodeIn (some (levels + 1, Reader.list (levels + 1) fun _ => node levels))

/-- The fields of a document that have been read. -/
structure DocumentFields where
  name : Option (Option String) := none
  inputs : Option (Option Nat) := none
  outputs : Option (Option Nat) := none
  info : Option RawMeta := none
  nodes : Option (List RawNode) := none

/-- The document with these fields; absent fields are empty. -/
def DocumentFields.document (f : DocumentFields) : RawDocument where
  name := f.name.getD none
  inputs := f.inputs.getD none
  outputs := f.outputs.getD none
  info := f.info.getD []
  nodes := f.nodes.getD []

/-- Reads one member of a document, in which `levels` further containers may be nested. -/
def documentMember (levels : Nat) (f : DocumentFields) (key : String) (c : Cursor) :
    Except Failure (DocumentFields × Cursor) := do
  let string := Reader.optional Reader.text
  let count := Reader.optional Reader.word32
  match key with
  | "name" => let (v, c) ← once key f.name string c; .ok ({ f with name := v }, c)
  | "inputs" => let (v, c) ← once key f.inputs count c; .ok ({ f with inputs := v }, c)
  | "outputs" => let (v, c) ← once key f.outputs count c; .ok ({ f with outputs := v }, c)
  | "meta" =>
    let (v, c) ← once key f.info (annotations levels) c; .ok ({ f with info := v }, c)
  | "ui" =>
    let (v, c) ← once key f.nodes (Reader.list levels node) c; .ok ({ f with nodes := v }, c)
  | _ => .ok (f, ← unknown c)

/-- Reads a document from behind the bracket of a list of its fields. -/
def documentOfList (levels : Nat) (c : Cursor) : Except Failure (RawDocument × Cursor) := do
  let string := Reader.optional Reader.text
  let count := Reader.optional Reader.word32
  let (name, c) ← nextField true string c
  let (inputs, c) ← nextField false count c
  let (outputs, c) ← nextField false count c
  let (info, c) ← nextField false (annotations levels) c
  let (nodes, c) ← nextField false (Reader.list levels node) c
  let fields : DocumentFields := ⟨name, inputs, outputs, info, nodes⟩
  .ok (fields.document, ← endFields c)

/-- Reads a document. -/
def document (c : Cursor) : Except Failure (RawDocument × Cursor) := do
  let c := c.skipGaps
  match c.rest with
  | [] => c.stop .endInValue
  | '\x7b' :: _ =>
    let (f, c) ← Reader.members (documentMember (Reader.maxLevels - 1)) {} c.step
    .ok (f.document, c)
  | '[' :: _ => documentOfList (Reader.maxLevels - 1) c.step
  | _ => Reader.refuse "struct RawDocument" c

/-- Reads a text that holds one document. -/
def readRaw (text : String) : Except Failure RawDocument := do
  let (d, c) ← document (Cursor.start text.toList)
  Reader.finish c
  .ok d

/-! ## From raw nodes to nodes -/

/-- The annotations of a node: the pairs of all objects, one object after the other. -/
def metaOf (raw : RawMeta) : Meta := ⟨raw.flatten.map fun (key, value) => (key, value.plain)⟩

/-- The number of a facet; an absent facet is zero. -/
def number (name label : String) : Option RawFacet → Except BuildError Float
  | none => .ok 0.0
  | some (.number x) => .ok x
  | some (.text s) =>
    match Facet.read s with
    | some x => .ok x
    | none => .error (.description (.badNumber name s label))

/-- The address of a control, which it must have. -/
def requiredAddress (label : String) : Option String → Except BuildError String
  | some address => .ok address
  | none => .error (.description (.noAddress label))

mutual

/-- The node of its kind that a raw node describes. -/
def convert : RawNode → Except BuildError Node
  | ⟨type, label, address, url, min, max, step, init, info, items⟩ => do
    match NodeKind.ofWord? type with
    | none => .error (.unknownWidget type)
    | some (.input kind) =>
      let min ← number "min" label min
      let max ← number "max" label max
      let step ← number "step" label step
      let init ← number "init" label init
      let address ← requiredAddress label address
      .ok (.input ⟨kind, label, address, ⟨min, max, step, init⟩, metaOf info⟩)
    | some (.output kind) =>
      let min ← number "min" label min
      let max ← number "max" label max
      let address ← requiredAddress label address
      .ok (.output ⟨kind, label, address, min, max, metaOf info⟩)
    | some (.group kind) => .ok (.group kind label (metaOf info) (← convertAll items))
    | some .soundfile => .ok (.soundfile ⟨label, address, url⟩)

/-- The nodes that raw nodes describe; the first fault in document order counts. -/
def convertAll : List RawNode → Except BuildError (List Node)
  | [] => .ok []
  | raw :: raws => do
    let node ← convert raw
    let nodes ← convertAll raws
    .ok (node :: nodes)

end

/-- The description that a raw document holds. -/
def ofRaw (raw : RawDocument) : Except BuildError Description := do
  let nodes ← convertAll raw.nodes
  .ok ⟨raw.name, raw.inputs, raw.outputs, metaOf raw.info, nodes⟩

/-- Reads a description from a JSON text. -/
def read (text : String) : Except BuildError Description :=
  match readRaw text with
  | .ok raw => ofRaw raw
  | .error failure => .error (.description (.json failure))

end ControlSurface.Description.Json
