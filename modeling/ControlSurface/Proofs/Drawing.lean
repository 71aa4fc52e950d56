import ControlSurface.Proofs.Controls
import ControlSurface.Proofs.Forest

/- What a description looks like on the panel, as a function of the description alone: nested
   nodes for each node of the description, computed bottom up, with the builder that the
   whole build comes to. What is known of a leaf beyond what it says itself, whether it is
   left out and which parameter its address has, is looked up in that builder. Containers
   that would be bare are never drawn. -/
namespace ControlSurface.Build

open Panel
open Nested (standing bare)

namespace Appearance

/-- The node of an input control, if its address has a parameter. -/
def drawInput (b : Builder) (c : Input) (index : Nat) (taken : List String) : List Nested :=
  if b.hides c.address then []
  else
    match (b.widget? (b.key c.address)).bind (·.parameter) with
    | some p =>
      [standing taken (inputSpec b.config c p index)
        [⟨.twoWay, .value, parameterExpression b.config p⟩] []]
    | none => []

/-- The node of a read-out. -/
def drawOutput (b : Builder) (c : Output) (index : Nat) (taken : List String) : List Nested :=
  if b.hides c.address then []
  else
    [standing taken (outputSpec b.config c index)
      [⟨.readOnly, .value, outputExpression b.config c (b.key c.address)⟩] []]

/-- The header of a group. -/
def drawHeader (config : Config) (label : String) (index : Nat) (taken : List String) :
    List Nested :=
  if config.isHeaderless label then []
  else
    [standing taken
      ⟨Label.nodeName label, offset config index, .widget .header [("Headerlabel", label)]⟩ [] []]

/-- The selector of a tab group with the labels of its pages. -/
def drawSelector : List String → List Nested
  | [] => []
  | labels =>
    [standing [] ⟨selectorName, 0, .widget .tabSelector
      [("Menunames", quotedList (labels.map Label.nodeName)), ("Menulabels", quotedList labels)]⟩
      [] []]

/-- What the items of a group have to know of it. -/
structure Plan where
  kind : GroupKind
  isSequencer : Bool
  childDepth : Nat

/-- The plan of a group at a depth. -/
def planOf (config : Config) (kind : GroupKind) (label : String) (depth : Nat) : Plan where
  kind := kind
  isSequencer := kind = .tabbed && depth = 0 && config.polyphony && label = config.sequencerLabel
  childDepth := if config.isHeaderless label then depth else depth + 1

/-- Whether an item gets a slot of its own. -/
def Plan.slots (p : Plan) (item : ControlSurface.Node) : Bool :=
  p.kind = .tabbed ∨ !item.isInput

/-- The slot of an item. -/
def slotSpec (config : Config) (label : String) (index : Nat) : Spec :=
  ⟨Label.nodeName label, offset config index, .container .vertical (some index)⟩

/-- The container of a group. -/
def groupSpec (config : Config) (kind : GroupKind) (label : String) (index : Nat) : Spec :=
  ⟨Label.nodeName label, offset config index, .container (groupLayout kind) none⟩

/-- A slot around what an item looks like, and the labels of the pages up to it. -/
def drawSlot (config : Config) (p : Plan) (item : ControlSurface.Node) (index : Nat)
    (taken labels : List String) (kids : List Nested) : List Nested × List String :=
  let spec := slotSpec config item.label index
  if bare kids then ([], labels)
  else if p.kind = .tabbed then
    ([standing taken spec [⟨.readOnly, .display, pageExpression labels.length⟩] kids],
      labels ++ [pageLabel p.isSequencer labels.length item.label])
  else ([standing taken spec [] kids], labels)

/-- The container of a group around what its items look like, and its selector. -/
def drawGroup (config : Config) (kind : GroupKind) (label : String) (index : Nat)
    (taken : List String) (items : List Nested × List String) : List Nested :=
  let kids := if kind = .tabbed then drawSelector items.2 ++ items.1 else items.1
  if bare kids then [] else [standing taken (groupSpec config kind label index) [] kids]

/-- What the container of a group holds: its selector, if it has tabs, and its items. -/
def groupKids (kind : GroupKind) (items : List Nested × List String) : List Nested :=
  if kind = .tabbed then drawSelector items.2 ++ items.1 else items.1

theorem drawGroup_eq (config : Config) (kind : GroupKind) (label : String) (index : Nat)
    (taken : List String) (items : List Nested × List String) :
    drawGroup config kind label index taken items =
      if bare (groupKids kind items) then []
      else [standing taken (groupSpec config kind label index) [] (groupKids kind items)] := rfl

/-- The names that the items of a group find taken. -/
def takenFor (kind : GroupKind) : List String := if kind = .tabbed then [selectorName] else []

mutual

/-- What a node looks like, the `index`-th among its siblings. -/
def drawNode (b : Builder) : ControlSurface.Node → Nat → Nat → List String → List Nested
  | .input c, index, _, taken => drawInput b c index taken
  | .output c, index, _, taken => drawOutput b c index taken
  | .soundfile _, _, _, _ => []
  | .group kind label _ items, index, depth, taken =>
    let header := drawHeader b.config label index taken
    header ++ drawGroup b.config kind label index (taken ++ header.map (·.name))
      (drawItems b (planOf b.config kind label depth) items 0 (takenFor kind) [])

/-- What the items of a group look like from the `index`-th on, and the labels of its pages. -/
def drawItems (b : Builder) (p : Plan) :
    List ControlSurface.Node → Nat → List String → List String → List Nested × List String
  | [], _, _, labels => ([], labels)
  | item :: items, index, taken, labels =>
    let here :=
      if p.slots item then
        drawSlot b.config p item index taken labels (drawNode b item index p.childDepth [])
      else (drawNode b item index p.childDepth taken, labels)
    let rest := drawItems b p items (index + 1) (taken ++ here.1.map (·.name)) here.2
    (here.1 ++ rest.1, rest.2)

end

/-- What an item looks like in its group, and the labels of the pages up to it. -/
def drawItem (b : Builder) (p : Plan) (item : ControlSurface.Node) (index : Nat)
    (taken labels : List String) : List Nested × List String :=
  if p.slots item then
    drawSlot b.config p item index taken labels (drawNode b item index p.childDepth [])
  else (drawNode b item index p.childDepth taken, labels)

theorem drawItems_cons (b : Builder) (p : Plan) (item : ControlSurface.Node)
    (items : List ControlSurface.Node) (index : Nat) (taken labels : List String) :
    drawItems b p (item :: items) index taken labels =
      ((drawItem b p item index taken labels).1 ++
        (drawItems b p items (index + 1)
          (taken ++ (drawItem b p item index taken labels).1.map (·.name))
          (drawItem b p item index taken labels).2).1,
      (drawItems b p items (index + 1)
        (taken ++ (drawItem b p item index taken labels).1.map (·.name))
        (drawItem b p item index taken labels).2).2) := by
  rw [drawItems]
  rfl

/-- What nodes look like side by side on the panel. -/
def drawNodes (b : Builder) : List ControlSurface.Node → Nat → List String → List Nested
  | [], _, _ => []
  | node :: nodes, index, taken =>
    let here := drawNode b node index 0 taken
    here ++ drawNodes b nodes (index + 1) (taken ++ here.map (·.name))

/-- What a description looks like. A header that stands alone is left out. -/
def drawDescription (b : Builder) (d : Description) : List Nested :=
  let drawn := drawNodes b d.nodes 0 []
  if bare drawn then [] else drawn

end Appearance

end ControlSurface.Build
