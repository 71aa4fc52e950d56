import ControlSurface.Description.Basic
import ControlSurface.Parameter.Menu
import ControlSurface.Text.Blank

/- Custom parameters. An input control becomes one parameter: a slider a number within
   bounds, a button a pulse, a checkbox a switch and a number entry a menu. -/
namespace ControlSurface

/-- A number within bounds. A bound that does not clamp is only where the slider ends. -/
structure Bounded where
  min : Float
  max : Float
  default : Float
  clampMin : Bool
  clampMax : Bool
deriving DecidableEq

/-- A value moved between the bounds that clamp. -/
def Bounded.clamp (b : Bounded) (value : Float) : Float :=
  let v := if b.clampMin ∧ value < b.min then b.min else value
  if b.clampMax ∧ v > b.max then b.max else v

/-- What a parameter holds. A menu's default is the place of one of its items. -/
inductive ParameterKind where
  | number (bounds : Bounded)
  | pulse
  | toggle (default : Bool)
  | menu (items : List MenuItem) (default : Nat)
deriving DecidableEq

/-- A custom parameter. The help text is one line. -/
structure Parameter where
  name : String
  label : String
  help : Option String
  kind : ParameterKind
deriving DecidableEq

namespace Parameter

/-- The menu of a number entry: the first style that spells one out, else evenly spaced
    values. -/
def menuOf (c : Input) : List MenuItem :=
  ((c.info.values "style").findSome? Menu.ofStyle).getD
    (Menu.ofRange c.range.min c.range.max c.range.step)

/-- The place of the first item with a value, or the first place. -/
def placeOf (items : List MenuItem) (value : Float) : Nat :=
  (items.findIdx? fun item => item.value == value).getD 0

/-- What the parameter of an input control holds. -/
def kindOf (c : Input) : ParameterKind :=
  match c.kind with
  | .horizontalSlider | .verticalSlider =>
    .number ⟨c.range.min, c.range.max, c.range.init, true, true⟩
  | .button => .pulse
  | .checkbox => .toggle (c.range.init != 0.0)
  | .numberEntry =>
    let items := menuOf c
    .menu items (placeOf items c.range.init)

/-- The parameter of an input control under a given name. -/
def ofInput (name : String) (c : Input) : Parameter where
  name := name
  label := c.label
  help := c.info.tooltip.map Text.collapsed
  kind := kindOf c

/-- The choices of a parameter that is a menu. -/
def menuItems? (p : Parameter) : Option (List MenuItem) :=
  match p.kind with
  | .menu items _ => some items
  | _ => none

end Parameter

end ControlSurface
