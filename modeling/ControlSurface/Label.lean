import ControlSurface.Text.Blank
import ControlSurface.Text.Casing
import ControlSurface.Text.Letter
import ControlSurface.Text.Segments

/- Names made from free labels. A channel name is a label in the spelling of the signal
   processor's own channels; an address is a path of channel names and the key under which
   a control is known. A parameter stem is a label as a custom parameter can be called,
   before it is made unique; a node name is a label as a node of the panel can be called. -/
namespace ControlSurface.Label

open Text

/-- The channel name of a label: parentheses are dropped, and then an underscore stands for
    each run of blanks. -/
def channelChars (cs : List Char) : List Char :=
  collapse '_' (cs.filter fun c => c ≠ '(' ∧ c ≠ ')')

/-- The channel name of a label, as a string. -/
def channelName (label : String) : String := String.ofList (channelChars label.toList)

/-- What is before a slash and what is behind it are spelled apart. -/
theorem channelChars_append_slash (cs ds : List Char) :
    channelChars (cs ++ '/' :: ds) = channelChars cs ++ '/' :: channelChars ds := by
  rw [channelChars, List.filter_append, List.filter_cons_of_pos (by decide)]
  exact collapseFrom_append_cons (by decide) false _ _

/-- The structural group that the operator puts in front of a relative address. -/
def structuralRoot : List Char := ['/', 'T', 'D', '/']

/-- An address without the structural group before it. -/
def withoutRoot (cs : List Char) : List Char :=
  if structuralRoot.isPrefixOf cs then cs.drop structuralRoot.length else cs

/-- An address without the structural group before it, as a string. -/
def relative (address : String) : String := String.ofList (withoutRoot address.toList)

/-- The canonical form of an address, under which controls are told apart. `strip` drops the
    structural group. -/
def canonicalChars (strip : Bool) (cs : List Char) : List Char :=
  if strip then withoutRoot (channelChars cs) else channelChars cs

/-- The canonical form of an address, as a string. -/
def canonical (strip : Bool) (address : String) : String :=
  String.ofList (canonicalChars strip address.toList)

/-- The stem of a parameter name: the letters and numbers of the label, the first in upper
    case and the others in lower case. A `P` goes before a number, and stands alone for a
    label without any letter or number. -/
def stemChars (cs : List Char) : List Char :=
  match cs.filter isAlphanumeric with
  | [] => ['P']
  | first :: others =>
    (if isNumeric first then ['P', first] else upperCase first) ++ others.flatMap lowerCase

/-- The stem of a parameter name, as a string. -/
def parameterStem (label : String) : String := String.ofList (stemChars label.toList)

/-- A character that node names may hold. -/
def isNodeChar (c : Char) : Bool := c.isAlphanum || c == '_'

/-- The node name of a label: an underscore stands for every character that node names do not
    hold, and for the empty label. -/
def nodeChars (cs : List Char) : List Char :=
  match cs with
  | [] => ['_']
  | cs => cs.map fun c => if isNodeChar c then c else '_'

/-- The node name of a label, as a string. -/
def nodeName (label : String) : String := String.ofList (nodeChars label.toList)

end ControlSurface.Label
