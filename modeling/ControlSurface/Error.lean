import ControlSurface.Json.Fault
import ControlSurface.Xml.Fault

/- Why a build fails. Each error keeps its cause as data; its wording, its position and its
   class are functions of the cause. -/
namespace ControlSurface

/-- What is wrong with a description. -/
inductive DescriptionFault where
  | json (failure : Json.Failure)
  | xml (failure : Xml.Failure)
  | missingUi (position : Text.Position)
  | groupOfOtherType (type : String) (position : Text.Position)
  | referenceWithoutId (position : Text.Position)
  | unknownReference (id : String) (position : Text.Position)
  | widgetOfGroupType (type : String) (position : Text.Position)
  | badElementNumber (name text : String) (position : Text.Position)
  | badNumber (name text label : String)
  | noAddress (label : String)
  | unreadable (path reason : String)
  | other (message : String) (line column : Nat)
deriving DecidableEq

/-- Why a host refuses a call. -/
inductive HostFault where
  | parameterExists (name : String)
  | noPage (page : String)
  | noNode (id : Nat)
  | notContainer (id : Nat)
  | noProperties (name : String)
  | rootDestroyed
  | refused (call : Nat)
  | other (message : String)
deriving Repr, DecidableEq

/-- What is wrong with a configuration. -/
inductive ConfigFault where
  | unreadable (path reason : String)
  | malformed
  | other (message : String)
deriving Repr, DecidableEq

/-- Why a build fails. -/
inductive BuildError where
  | description (fault : DescriptionFault)
  | unknownWidget (type : String)
  | host (fault : HostFault)
  | config (fault : ConfigFault)
deriving DecidableEq

/-- The wording of a fault. -/
def DescriptionFault.message : DescriptionFault → String
  | json failure => failure.message
  | xml failure => failure.fault.message
  | missingUi _ => "missing <ui> element"
  | groupOfOtherType type _ => "<group> has non-group type '" ++ type ++ "'"
  | referenceWithoutId _ => "<widgetref> without id"
  | unknownReference id _ => "<widgetref> to unknown widget '" ++ id ++ "'"
  | widgetOfGroupType type _ => "<widget> has group type '" ++ type ++ "'"
  | badElementNumber name text _ => "invalid <" ++ name ++ "> value '" ++ text ++ "'"
  | badNumber name text label =>
    "invalid " ++ name ++ " '" ++ text ++ "' on control '" ++ label ++ "'"
  | noAddress label => "control '" ++ label ++ "' has no address"
  | unreadable path reason => path ++ ": " ++ reason
  | other message _ _ => message

/-- The line and the column of a fault; zero for a fault that has no position. -/
def DescriptionFault.place : DescriptionFault → Nat × Nat
  | json failure => (failure.line, failure.column)
  | xml ⟨_, p⟩ | missingUi p | groupOfOtherType _ p | referenceWithoutId p | unknownReference _ p
  | widgetOfGroupType _ p | badElementNumber _ _ p => (p.line, p.column)
  | badNumber _ _ _ | noAddress _ | unreadable _ _ => (0, 0)
  | other _ line column => (line, column)

/-- How a message speaks of a node. -/
def nodeWord (id : Nat) : String := "NodeId(" ++ toString id ++ ")"

/-- The wording of a fault. -/
def HostFault.message : HostFault → String
  | parameterExists name => "parameter '" ++ name ++ "' already exists"
  | noPage page => "no parameter page '" ++ page ++ "'"
  | noNode id => "no such node " ++ nodeWord id
  | notContainer id => nodeWord id ++ " is not a container"
  | noProperties name => "container '" ++ name ++ "' has no widget properties"
  | rootDestroyed => "cannot destroy the root container"
  | refused call => "call " ++ toString call ++ " refused"
  | other message => message

/-- The wording of a fault. What is wrong inside a malformed configuration is not told. -/
def ConfigFault.message : ConfigFault → String
  | unreadable path reason => path ++ ": " ++ reason
  | malformed => ""
  | other message => message

namespace BuildError

/-- The class of an error. -/
def className : BuildError → String
  | description _ => "ParseError"
  | unknownWidget _ => "UnknownWidget"
  | host _ => "HostError"
  | config _ => "ConfigError"

/-- The wording of an error. -/
def message : BuildError → String
  | description fault => fault.message
  | unknownWidget type => "unexpected widget type: " ++ type
  | host fault => fault.message
  | config fault => fault.message

/-- The line and the column of an error; zero for an error that has no position. -/
def place : BuildError → Nat × Nat
  | description fault => fault.place
  | _ => (0, 0)

/-- The error as one line. -/
def display (e : BuildError) : String :=
  let (line, column) := e.place
  let text := e.className ++ ": " ++ e.message
  if 0 < line then "[" ++ toString line ++ ":" ++ toString column ++ "] " ++ text else text

end BuildError

end ControlSurface
