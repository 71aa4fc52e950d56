/- The settings of a build. -/
namespace ControlSurface

/-- The settings of a build. -/
structure Config where
  /-- The signal processor runs one instance for each voice. -/
  polyphony : Bool := false
  /-- All voices share one set of controls. -/
  groupVoices : Bool := true
  /-- Addresses are exported without the structural group. -/
  stripRoot : Bool := true
  /-- The page of parameters that a build makes anew. -/
  controlPage : String := "Control"
  /-- The operator that expressions of bindings name. -/
  operatorPath : String := "."
  /-- The distance between neighbours among siblings. -/
  nodeSpacing : Int64 := 250
  /-- Labels of groups that have no header. -/
  headerless : List String := ["TD", "0x00", "Polyphonic", "Sequencer"]
  /-- The label of the outermost tab group that holds instrument and effect. -/
  sequencerLabel : String := "Sequencer"
deriving Repr, DecidableEq

namespace Config

/-- The settings where none are stated. -/
def default : Config := {}

/-- Whether a group with this label has no header. -/
def isHeaderless (c : Config) (label : String) : Bool := c.headerless.contains label

end Config

end ControlSurface
