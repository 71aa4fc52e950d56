/- What a panel is made of: containers with a layout, and widgets copied from a template.
   A binding ties a node to an expression of the host. -/
namespace ControlSurface.Panel

/-- How a container arranges its children. In a tab radio one child shows at a time. -/
inductive Layout where
  | horizontal
  | vertical
  | tabRadio
deriving Repr, DecidableEq

/-- The templates that widgets are copied from. -/
inductive Template where
  | sliderVertical
  | sliderHorizontal
  | knob
  | button
  | checkbox
  | dropMenu
  | barGraph
  | header
  | tabSelector
deriving Repr, DecidableEq

/-- What a binding drives. -/
inductive Target where
  | value
  | display
deriving Repr, DecidableEq

/-- Whether a change of the node goes back to what its expression names. -/
inductive Mode where
  | twoWay
  | readOnly
deriving Repr, DecidableEq

/-- A binding of a node. -/
structure Binding where
  mode : Mode
  target : Target
  expression : String
deriving Repr, DecidableEq

/-- A node is a container or a widget. A widget's properties have each their own key. -/
inductive Kind where
  | container (layout : Layout) (alignOrder : Option Nat)
  | widget (template : Template) (properties : List (String × String))
deriving Repr, DecidableEq

/-- A node that is to be created. -/
structure Spec where
  name : String
  x : Int64
  kind : Kind
deriving DecidableEq

/-- How an outline speaks of a layout. -/
def Layout.outlineWord : Layout → String
  | horizontal => "Horizontal"
  | vertical => "Vertical"
  | tabRadio => "TabRadio"

/-- The name of a template. -/
def Template.word : Template → String
  | sliderVertical => "SliderVertical"
  | sliderHorizontal => "SliderHorizontal"
  | knob => "Knob"
  | button => "Button"
  | checkbox => "Checkbox"
  | dropMenu => "DropMenu"
  | barGraph => "BarGraph"
  | header => "Header"
  | tabSelector => "TabSelector"

/-- The component in the host's library that a template is. -/
def Template.source : Template → String
  | sliderVertical => "masterSlider_vert"
  | sliderHorizontal => "masterSlider_horz"
  | knob => "masterKnob"
  | button => "masterButton"
  | checkbox => "masterCheckbox"
  | dropMenu => "masterDropMenu"
  | barGraph => "masterBarGraph"
  | header => "masterHeader"
  | tabSelector => "masterRadio"

namespace Kind

/-- How an outline speaks of a node. -/
def outlineWord : Kind → String
  | container layout _ => layout.outlineWord
  | widget template _ => template.word

/-- Whether a node may have children. -/
def isContainer : Kind → Bool
  | container _ _ => true
  | widget _ _ => false

/-- The template of a widget. -/
def template? : Kind → Option Template
  | container _ _ => none
  | widget template _ => some template

end Kind

/-- The value of a key among pairs. -/
def lookupProperty (key : String) (properties : List (String × String)) : Option String :=
  (properties.find? (·.1 == key)).map (·.2)

/-- Pairs in which a key has a value: in its old place, or at the end where the key is new. -/
def setProperty (key value : String) : List (String × String) → List (String × String)
  | [] => [(key, value)]
  | (k, v) :: ps => if k = key then (k, value) :: ps else (k, v) :: setProperty key value ps

/-- Bindings in which the target of a new binding has no other. -/
def setBinding (bindings : List Binding) (b : Binding) : List Binding :=
  bindings.filter (·.target != b.target) ++ [b]

end ControlSurface.Panel
