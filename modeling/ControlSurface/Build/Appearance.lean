import ControlSurface.Build.Step
import ControlSurface.Decimal.Format

/- How the parts of a description look on the panel: which widget shows a leaf, with which
   properties and binding, which container holds a group, and which containers are taken
   away again because nothing came to stand in them. -/
namespace ControlSurface.Build.Appearance

open Panel

/-- The name of a tab group's selector. -/
def selectorName : String := "tabs"

/-- The labels of the pages of the outermost sequencer. -/
def sequencerTabs : List String := ["Instrument", "Effect"]

/-- Texts in single quotes with spaces between them. -/
def quotedList (texts : List String) : String :=
  Text.joinWith " " (texts.map fun t => "'" ++ t ++ "'")

/-- A text in double quotes. -/
def doubleQuoted (text : String) : String := "\x22" ++ text ++ "\x22"

/-- The property that holds the tooltip, if there is one. -/
def helpProperty (info : Meta) : List (String × String) :=
  match info.tooltip with
  | some tip => [("Help", Text.collapsed tip)]
  | none => []

/-- Where a node stands beside its siblings. The product wraps around. -/
def offset (c : Config) (index : Nat) : Int64 := Int64.ofNat index * c.nodeSpacing

/-- The template of an input control. -/
def inputTemplate (c : Input) : Template :=
  match c.kind with
  | .verticalSlider => if c.info.isKnob then .knob else .sliderVertical
  | .horizontalSlider => if c.info.isKnob then .knob else .sliderHorizontal
  | .checkbox => if c.info.isKnob then .knob else .checkbox
  | .button => .button
  | .numberEntry => .dropMenu

/-- The properties of a template that shows a parameter. -/
def inputProperties (template : Template) (p : Parameter) : List (String × String) :=
  match template with
  | .knob => [("Knoblabel", p.label)]
  | .sliderVertical | .sliderHorizontal => [("Sliderlabelnames", doubleQuoted p.label)]
  | .button => [("Buttonofflabel", p.label), ("Buttononlabel", p.label)]
  | .dropMenu =>
    let items := p.menuItems?.getD []
    [("Menunames", quotedList (items.map (·.name))),
     ("Menulabels", quotedList (items.map (·.label)))]
  | _ => []

/-- The widget of an input control. -/
def inputSpec (config : Config) (c : Input) (p : Parameter) (index : Nat) : Spec :=
  let template := inputTemplate c
  ⟨p.name, offset config index,
   .widget template (inputProperties template p ++ helpProperty c.info)⟩

/-- The expression of a parameter. -/
def parameterExpression (config : Config) (p : Parameter) : String :=
  "op(" ++ doubleQuoted config.operatorPath ++ ").par." ++ p.name

/-- Shows an input control and ties it to its parameter. -/
def showInput (config : Config) (parent : Nat) (c : Input) (p : Parameter) (index : Nat) :
    Step Nat := do
  let id ← Step.call (.create parent (inputSpec config c p index))
  Step.perform (.bind id ⟨.twoWay, .value, parameterExpression config p⟩)
  return id

/-- The direction of a bar graph. -/
def orientation : OutputKind → String
  | .horizontalBargraph => "horz"
  | .verticalBargraph => "vert"

/-- The widget of a read-out. -/
def outputSpec (config : Config) (c : Output) (index : Nat) : Spec :=
  let name := String.ofList (Text.lastSegment '/' c.label.toList)
  ⟨Label.nodeName name, offset config index,
   .widget .barGraph ([("Sliderorient", orientation c.kind),
     ("Sliderlabelnames", doubleQuoted c.label)] ++ helpProperty c.info)⟩

/-- The expression of a read-out: its value, moved from its bounds to zero and one. -/
def outputExpression (config : Config) (c : Output) (address : String) : String :=
  "tdu.remap(op(" ++ doubleQuoted config.operatorPath ++ ").op(" ++ doubleQuoted "info1" ++ ")["
    ++ doubleQuoted address ++ "], " ++ Decimal.plainFormat.text c.min ++ ", "
    ++ Decimal.plainFormat.text c.max ++ ", 0, 1)"

/-- Shows a read-out and ties it to its value. -/
def showOutput (config : Config) (parent : Nat) (c : Output) (address : String) (index : Nat) :
    Step Nat := do
  let id ← Step.call (.create parent (outputSpec config c index))
  Step.perform (.bind id ⟨.readOnly, .value, outputExpression config c address⟩)
  return id

/-- Shows the label of a group. -/
def showHeader (config : Config) (parent : Nat) (label : String) (index : Nat) : Step Nat :=
  Step.call (.create parent
    ⟨Label.nodeName label, offset config index, .widget .header [("Headerlabel", label)]⟩)

/-- The layout of a group. -/
def groupLayout : GroupKind → Layout
  | .horizontal => .horizontal
  | .vertical => .vertical
  | .tabbed => .tabRadio

/-- Opens the container of a group. -/
def openGroup (config : Config) (parent : Nat) (kind : GroupKind) (label : String)
    (index : Nat) : Step Nat :=
  Step.call (.create parent
    ⟨Label.nodeName label, offset config index, .container (groupLayout kind) none⟩)

/-- Opens the container of one item of a group. -/
def openSlot (config : Config) (parent : Nat) (label : String) (index : Nat) : Step Nat :=
  Step.call (.create parent
    ⟨Label.nodeName label, offset config index, .container .vertical (some index)⟩)

/-- Opens the selector of a tab group. -/
def openSelector (parent : Nat) : Step Nat :=
  Step.call (.create parent ⟨selectorName, 0, .widget .tabSelector []⟩)

/-- The expression that says whether a page is selected. -/
def pageExpression (tab : Nat) : String :=
  "op(" ++ doubleQuoted ("../" ++ selectorName) ++ ").par.Value0 == " ++ toString tab

/-- Shows a page only while its tab is selected. -/
def bindPage (page tab : Nat) : Step Unit :=
  Step.perform (.bind page ⟨.readOnly, .display, pageExpression tab⟩)

/-- Gives a selector its options, or takes it away if there are none. -/
def finishSelector (selector : Nat) (labels : List String) : Step Unit := do
  match labels with
  | [] => Step.perform (.destroy selector)
  | _ =>
    Step.perform (.assign selector "Menunames" (quotedList (labels.map Label.nodeName)))
    Step.perform (.assign selector "Menulabels" (quotedList labels))

/-- Whether a container holds nothing, or a header alone. -/
def isBare (t : Tree) (container : Nat) : Bool :=
  match t.children container with
  | [] => true
  | [only] => t.template? only == some .header
  | _ => false

/-- Takes a bare container away; says whether the container stays. -/
def prune (container : Nat) : Step Bool := do
  if isBare (← Step.panel) container then
    Step.perform (.destroy container)
    return false
  else return true

end ControlSurface.Build.Appearance
