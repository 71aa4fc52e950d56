/- A user interface description: the tree of controls that a compiled signal processor
   declares. A node is an input control, an output (a bar graph), a group of nodes or a
   sound file. The views at the end list the nodes of a tree in document order. -/
namespace ControlSurface

/-- Controls that the user moves. -/
inductive InputKind where
  | button
  | checkbox
  | numberEntry
  | horizontalSlider
  | verticalSlider
deriving Repr, DecidableEq

/-- Read-outs of the signal processor. -/
inductive OutputKind where
  | horizontalBargraph
  | verticalBargraph
deriving Repr, DecidableEq

/-- Arrangements of a group's items. -/
inductive GroupKind where
  | horizontal
  | vertical
  | tabbed
deriving Repr, DecidableEq

/-- What a node can be. -/
inductive NodeKind where
  | input (kind : InputKind)
  | output (kind : OutputKind)
  | group (kind : GroupKind)
  | soundfile
deriving Repr, DecidableEq

namespace InputKind

/-- The compiler's word for the kind. -/
def word : InputKind → String
  | button => "button"
  | checkbox => "checkbox"
  | numberEntry => "nentry"
  | horizontalSlider => "hslider"
  | verticalSlider => "vslider"

end InputKind

namespace OutputKind

/-- The compiler's word for the kind. -/
def word : OutputKind → String
  | horizontalBargraph => "hbargraph"
  | verticalBargraph => "vbargraph"

end OutputKind

namespace GroupKind

/-- The compiler's word for the kind. -/
def word : GroupKind → String
  | horizontal => "hgroup"
  | vertical => "vgroup"
  | tabbed => "tgroup"

end GroupKind

namespace NodeKind

/-- The compiler's word for the kind. -/
def word : NodeKind → String
  | input kind => kind.word
  | output kind => kind.word
  | group kind => kind.word
  | soundfile => "soundfile"

/-- All kinds. -/
def all : List NodeKind :=
  [input .button, input .checkbox, input .numberEntry, input .horizontalSlider,
   input .verticalSlider, output .horizontalBargraph, output .verticalBargraph,
   group .horizontal, group .vertical, group .tabbed, soundfile]

/-- The kind that a word of the compiler stands for. -/
def ofWord? (word : String) : Option NodeKind := all.find? fun k => k.word == word

theorem mem_all (k : NodeKind) : k ∈ all := by
  cases k with
  | soundfile => decide
  | input k => cases k <;> decide
  | output k => cases k <;> decide
  | group k => cases k <;> decide

theorem ofWord?_word (k : NodeKind) : ofWord? k.word = some k := by
  cases k with
  | soundfile => decide +kernel
  | input k => cases k <;> decide +kernel
  | output k => cases k <;> decide +kernel
  | group k => cases k <;> decide +kernel

theorem ofWord?_eq_some_iff {word : String} {kind : NodeKind} :
    ofWord? word = some kind ↔ word = kind.word := by
  refine ⟨fun h => ?_, fun h => h ▸ ofWord?_word kind⟩
  have hword := List.find?_some h
  exact (beq_iff_eq.mp hword).symm

theorem ofWord?_eq_none_iff {word : String} :
    ofWord? word = none ↔ ∀ kind : NodeKind, word ≠ kind.word := by
  simp only [Option.eq_none_iff_forall_ne_some, ne_eq, ofWord?_eq_some_iff]

end NodeKind

/-- Ordered pairs of a key and a value that a node carries. A key may occur more than once. -/
structure Meta where
  entries : List (String × String)
deriving Repr, DecidableEq

namespace Meta

/-- No pairs. -/
def empty : Meta := ⟨[]⟩

/-- All values of a key, in document order. -/
def values (m : Meta) (key : String) : List String :=
  (m.entries.filter fun e => e.1 == key).map (·.2)

/-- The last value of a key. -/
def get? (m : Meta) (key : String) : Option String := (m.values key).getLast?

/-- How the control wants to look. -/
def style (m : Meta) : Option String := m.get? "style"

/-- What the control says of itself. -/
def tooltip (m : Meta) : Option String := m.get? "tooltip"

/-- Whether the knob look is among the values of the style. -/
def isKnob (m : Meta) : Bool := (m.values "style").contains "knob"

end Meta

/-- The numbers of an input control. -/
structure Range where
  min : Float
  max : Float
  step : Float
  init : Float
deriving DecidableEq

/-- A control that the user moves. -/
structure Input where
  kind : InputKind
  label : String
  address : String
  range : Range
  info : Meta
deriving DecidableEq

/-- A read-out with its bounds. -/
structure Output where
  kind : OutputKind
  label : String
  address : String
  min : Float
  max : Float
  info : Meta
deriving DecidableEq

/-- A slot for a sound file. It takes no part in the panel. -/
structure Soundfile where
  label : String
  address : Option String
  url : Option String
deriving Repr, DecidableEq

/-- A node of a description. -/
inductive Node where
  | input (control : Input)
  | output (control : Output)
  | group (kind : GroupKind) (label : String) (info : Meta) (items : List Node)
  | soundfile (slot : Soundfile)

/-- A description as a whole. -/
structure Description where
  name : Option String
  inputs : Option Nat
  outputs : Option Nat
  info : Meta
  nodes : List Node

namespace Node

/-- The kind of a node. -/
def kind : Node → NodeKind
  | input c => .input c.kind
  | output c => .output c.kind
  | group k _ _ _ => .group k
  | soundfile _ => .soundfile

/-- The label of a node. -/
def label : Node → String
  | input c => c.label
  | output c => c.label
  | group _ l _ _ => l
  | soundfile s => s.label

/-- The address that a node states. -/
def address? : Node → Option String
  | input c => some c.address
  | output c => some c.address
  | group _ _ _ _ => none
  | soundfile s => s.address

/-- Whether a node is an input control. -/
def isInput : Node → Bool
  | input _ => true
  | _ => false

mutual

/-- A node and all nodes below it, each before those below it. -/
def flatten : Node → List Node
  | group k l m items => group k l m items :: flattenAll items
  | node => [node]

/-- The nodes of a list and all below them. -/
def flattenAll : List Node → List Node
  | [] => []
  | node :: nodes => flatten node ++ flattenAll nodes

end

end Node

/-- A leaf that the panel can show: an input control or a read-out. -/
inductive Leaf where
  | input (control : Input)
  | output (control : Output)
deriving DecidableEq

namespace Leaf

/-- The address of a leaf. -/
def address : Leaf → String
  | input c => c.address
  | output c => c.address

/-- Whether the leaf is an input control. -/
def isInput : Leaf → Bool
  | input _ => true
  | output _ => false

end Leaf

/-- The leaf that a node is, if it is one. -/
def Node.leaf? : Node → Option Leaf
  | .input c => some (.input c)
  | .output c => some (.output c)
  | _ => none

namespace Description

/-- All leaves, in document order. -/
def leaves (d : Description) : List Leaf := (Node.flattenAll d.nodes).filterMap Node.leaf?

/-- The addresses of all leaves, in document order. -/
def addresses (d : Description) : List String := d.leaves.map Leaf.address

end Description

end ControlSurface
