import ControlSurface.Build.Appearance
import ControlSurface.Description.Read

/- A build: what the last build left is torn down, then each leaf of the description that is
   not left out becomes a control, each input control a parameter, and the tree of groups
   becomes the panel. Last, each parameter is routed to its address. -/
namespace ControlSurface.Build

/-- Empties the builder, the page of controls, the panel if there is one, and the routes. -/
def teardown (usePanel : Bool) : Step Unit := do
  Step.update fun b => Builder.new b.config
  Step.perform (.resetPage (← Step.config).controlPage)
  let names := (← get).hosts.pages.names
  Step.update fun b => { b with names := b.names.reserve names }
  if usePanel then Step.perform .clearPanel
  Step.reroute fun _ => RoutingTable.empty

/-- The canonical address of a leaf, unless the leaf is left out. -/
def visibleAddress (address : String) : Step (Option String) := do
  let b ← Step.builder
  let address := Label.canonical b.config.stripRoot address
  match b.voices.check address with
  | some _ =>
    Step.update fun b => { b with skipped := b.skipped + 1 }
    return none
  | none => return some address

/-- Adds a widget behind the others. -/
def addWidget (w : Widget) : Step Unit := Step.update fun b => b.push w

/-- The widget of an input control. Only numbers have a range. -/
def inputWidget (c : Input) (address : String) (p : Parameter) : Widget :=
  match c.kind with
  | .button | .checkbox => ⟨.input c.kind, address, some p, c.info, 0.0, 0.0, 0.0⟩
  | _ => ⟨.input c.kind, address, some p, c.info, c.range.min, c.range.max, c.range.step⟩

/-- The widget of a read-out. -/
def outputWidget (c : Output) (address : String) : Widget :=
  ⟨.output c.kind, address, none, c.info, c.min, c.max, 0.0⟩

/-- The parameter of the control of an address; an address that is new gets one for this
    input control. -/
def parameterFor (c : Input) (address : String) : Step (Option Parameter) := do
  let b ← Step.builder
  match b.widget? address with
  | some w => return w.parameter
  | none =>
    let (name, names) := b.names.allocate c.label
    let p := Parameter.ofInput name c
    Step.update fun b => { b with names := names }
    Step.perform (.appendParameter b.config.controlPage p)
    addWidget (inputWidget c address p)
    return some p

/-- Adds an input control, and shows it at a place. -/
def addInput (c : Input) (index : Nat) (place : Option Nat) : Step Unit := do
  match ← visibleAddress c.address with
  | none => return
  | some address =>
    let p ← parameterFor c address
    match place, p with
    | some parent, some p => let _ ← Appearance.showInput (← Step.config) parent c p index
    | _, _ => return

/-- Adds a read-out, and shows it at a place. -/
def addOutput (c : Output) (index : Nat) (place : Option Nat) : Step Unit := do
  match ← visibleAddress c.address with
  | none => return
  | some address =>
    if ((← Step.builder).widget? address).isNone then addWidget (outputWidget c address)
    match place with
    | some parent => let _ ← Appearance.showOutput (← Step.config) parent c address index
    | none => return

/-- A group that is open while its items are added: its container, its selector if it has
    tabs, and where its items stand without a container of their own. -/
structure OpenGroup where
  kind : GroupKind
  inner : Option Nat
  selector : Option Nat
  place : Option Nat
  isSequencer : Bool
  childDepth : Nat
deriving Repr, DecidableEq

/-- The label of a page: the sequencer's pages have labels of their own. -/
def pageLabel (isSequencer : Bool) (tab : Nat) (label : String) : String :=
  if isSequencer then (Appearance.sequencerTabs[tab]?).getD label else label

/-- Opens a group at a place: its header, its container and its selector. `depth` counts the
    groups around it that have headers. -/
def openGroup (kind : GroupKind) (label : String) (isEmpty : Bool) (index depth : Nat)
    (place : Option Nat) : Step OpenGroup := do
  let config ← Step.config
  let headerless := config.isHeaderless label
  let isSequencer := kind = .tabbed && depth = 0 && config.polyphony
    && label = config.sequencerLabel
  let childDepth := if headerless then depth else depth + 1
  match place with
  | none => return ⟨kind, none, none, none, isSequencer, childDepth⟩
  | some parent =>
    if !headerless then let _ ← Appearance.showHeader config parent label index
    if isEmpty then return ⟨kind, none, none, place, isSequencer, childDepth⟩
    else
      let inner ← Appearance.openGroup config parent kind label index
      if kind = .tabbed then
        let selector ← Appearance.openSelector inner
        return ⟨kind, some inner, some selector, some inner, isSequencer, childDepth⟩
      else return ⟨kind, some inner, none, some inner, isSequencer, childDepth⟩

/-- Opens the slot of an item, if it gets one: on a page of tabs all items do, elsewhere all
    but input controls. -/
def openSlot (g : OpenGroup) (item : Node) (index : Nat) : Step (Option Nat) := do
  match g.inner with
  | some inner =>
    if g.kind = .tabbed ∨ !item.isInput then
      return some (← Appearance.openSlot (← Step.config) inner item.label index)
    else return none
  | none => return none

/-- Closes the slot of an item: a bare slot goes, and one that stays becomes the next page
    if the group has tabs. Gives the labels of all pages. -/
def closeSlot (g : OpenGroup) (item : Node) (slot : Option Nat) (labels : List String) :
    Step (List String) := do
  match slot with
  | none => return labels
  | some slot =>
    if (← Appearance.prune slot) && g.selector.isSome then
      Appearance.bindPage slot labels.length
      return labels ++ [pageLabel g.isSequencer labels.length item.label]
    else return labels

/-- Closes a group with the labels of its pages. -/
def closeGroup (g : OpenGroup) (labels : List String) : Step Unit := do
  if let some selector := g.selector then Appearance.finishSelector selector labels
  if let some inner := g.inner then let _ ← Appearance.prune inner

mutual

/-- Adds a node, the `index`-th among its siblings, and shows it at a place. -/
def addNode : Node → Nat → Nat → Option Nat → Step Unit
  | .input c, index, _, place => addInput c index place
  | .output c, index, _, place => addOutput c index place
  | .soundfile _, _, _, _ => return
  | .group kind label _ items, index, depth, place => do
    let g ← openGroup kind label items.isEmpty index depth place
    let labels ← addItems g items 0 []
    closeGroup g labels

/-- Adds the items of an open group from the `index`-th on, and gives the labels of its
    pages. -/
def addItems (g : OpenGroup) : List Node → Nat → List String → Step (List String)
  | [], _, labels => return labels
  | item :: items, index, labels => do
    let slot ← openSlot g item index
    addNode item index g.childDepth (slot <|> g.place)
    let labels ← closeSlot g item slot labels
    addItems g items (index + 1) labels

end

/-- Adds the nodes of a description, from the `index`-th on. -/
def addNodes (place : Option Nat) : List Node → Nat → Step Unit
  | [], _ => return
  | node :: nodes, index => do
    addNode node index 0 place
    addNodes place nodes (index + 1)

/-- Takes a header away that stands alone on the panel. -/
def dropLoneHeader : Step Unit := do
  let t ← Step.panel
  match t.children Panel.Tree.root with
  | [only] => if t.template? only = some .header then Step.perform (.destroy only)
  | _ => return

/-- The routes of widgets: each parameter to its widget's address. -/
def routesOf (widgets : List Widget) : List Route :=
  widgets.filterMap fun w => w.parameter.map fun p => ⟨p.name, w.address⟩

/-- The counts of what a builder has built. -/
def Builder.report (b : Builder) : Report :=
  ⟨(b.widgets.filter (·.parameter.isSome)).length, b.widgets.length, b.skipped⟩

/-- Builds a description on what a teardown left. -/
def populate (d : Description) (usePanel : Bool) : Step Report := do
  Step.update fun b =>
    let addresses := d.addresses.map (Label.canonical b.config.stripRoot)
    { b with voices := Voice.Filter.ofConfig b.config addresses }
  addNodes (if usePanel then some Panel.Tree.root else none) d.nodes 0
  if usePanel then dropLoneHeader
  let b ← Step.builder
  Step.reroute fun t => (routesOf b.widgets).foldl (fun t r => t.append r.parameter r.address) t
  return b.report

/-- Builds a description. -/
def buildDescription (d : Description) (usePanel : Bool) : Step Report := do
  teardown usePanel
  populate d usePanel

/-- Builds the description that a text holds. The old build is torn down first, whatever the
    text holds; a blank text is an empty description. -/
def buildText (text : String) (usePanel : Bool) : Step Report := do
  teardown usePanel
  if Text.isBlankText text then return ⟨0, 0, 0⟩
  else
    match Description.read text with
    | .ok d => populate d usePanel
    | .error e => throw e

/-! ## Sessions -/

/-- What lasts from one build to the next. -/
structure Session where
  builder : Builder
  hosts : Hosts
deriving DecidableEq

namespace Session

/-- A builder and hosts that nothing was done to. -/
def new (config : Config) : Session := ⟨Builder.new config, Hosts.empty⟩

/-- Takes a step, with the call of a number refused if one is given. -/
def take {α : Type} (s : Session) (refusal : Option Nat) (step : Step α) :
    Except BuildError α × Session :=
  let (result, state) := StateT.run (ExceptT.run step) ⟨s.builder, s.hosts, [], refusal⟩
  (result, ⟨state.builder, state.hosts⟩)

/-- Builds from a text. -/
def build (s : Session) (text : String) (usePanel : Bool) (refusal : Option Nat) :
    Except BuildError Report × Session :=
  s.take refusal (buildText text usePanel)

end Session

end ControlSurface.Build
