import ControlSurface.Text.Blank
import ControlSurface.Text.Position

/- Elements of an XML document. The text of an element is all its character data, put
   together without the places of its children in between. -/
namespace ControlSurface.Xml

/-- An element, with the position of the bracket that opens it. -/
structure Element where
  name : String
  attributes : List (String × String)
  text : String
  children : List Element
  position : Text.Position

namespace Element

/-- The value of an attribute; of several with one name the first counts. -/
def attribute? (e : Element) (name : String) : Option String := e.attributes.lookup name

/-- The first child with a name. -/
def child? (e : Element) (name : String) : Option Element := e.children.find? (·.name == name)

/-- All children with a name. -/
def childrenNamed (e : Element) (name : String) : List Element :=
  e.children.filter (·.name == name)

/-- The text without the blanks around it. -/
def trimmedText (e : Element) : String := Text.trimmed e.text

/-- The trimmed text of the first child with a name. -/
def childText? (e : Element) (name : String) : Option String :=
  (e.child? name).map trimmedText

mutual

/-- The element and all elements below it, in document order. -/
def flatten : Element → List Element
  | ⟨name, attributes, text, children, position⟩ =>
    ⟨name, attributes, text, children, position⟩ :: flattenAll children

/-- The elements of a list and all below them, in document order. -/
def flattenAll : List Element → List Element
  | [] => []
  | e :: es => flatten e ++ flattenAll es

end

theorem flatten_eq (e : Element) : e.flatten = e :: flattenAll e.children := by
  cases e
  rw [flatten]

/-- The first element with a name, in document order; the element itself is looked at first. -/
def find? (e : Element) (name : String) : Option Element := e.flatten.find? (·.name == name)

end Element

end ControlSurface.Xml
