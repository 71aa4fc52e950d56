import ControlSurface.Text.Position

/- What can be wrong with an XML document, and where. -/
namespace ControlSurface.Xml

/-- The deepest nesting of elements below the root. -/
def maxDepth : Nat := 128

/-- Parts of a document that run up to a mark of their own. -/
inductive Section where
  | instruction
  | comment
  | declaration
  | verbatim
deriving Repr, DecidableEq

/-- How a message speaks of a section. -/
def Section.phrase : Section → String
  | instruction => "processing instruction"
  | comment => "comment"
  | declaration => "declaration"
  | verbatim => "CDATA section"

/-- What is wrong with a document. -/
inductive Fault where
  | noRoot
  | contentAfterRoot
  | unclosedSection (part : Section)
  | expectedName
  | expectedOpening
  | expectedEndOfEmptyTag
  | expectedEquals (key : String)
  | unclosedTag (name : String)
  | expectedQuote
  | unclosedValue
  | missingClosing (name : String)
  | mismatchedClosing (expected found : String)
  | expectedEndOfClosing
  | tooDeep
  | unterminatedEntity
  | unknownEntity (name : String)
deriving Repr, DecidableEq

/-- The wording of a fault. -/
def Fault.message : Fault → String
  | noRoot => "document has no root element"
  | contentAfterRoot => "unexpected content after root element"
  | unclosedSection part => "unclosed " ++ part.phrase
  | expectedName => "expected a name"
  | expectedOpening => "expected '<'"
  | expectedEndOfEmptyTag => "expected '>' after '/'"
  | expectedEquals key => "expected '=' after attribute '" ++ key ++ "'"
  | unclosedTag name => "unclosed tag <" ++ name ++ ">"
  | expectedQuote => "expected quoted attribute value"
  | unclosedValue => "unclosed attribute value"
  | missingClosing name => "missing </" ++ name ++ ">"
  | mismatchedClosing expected found =>
    "mismatched closing tag: expected </" ++ expected ++ ">, found </" ++ found ++ ">"
  | expectedEndOfClosing => "expected '>'"
  | tooDeep => "elements nested deeper than " ++ toString maxDepth
  | unterminatedEntity => "unterminated entity"
  | unknownEntity name => "unknown entity '&" ++ name ++ ";'"

/-- A fault and its position. -/
structure Failure where
  fault : Fault
  position : Text.Position
deriving Repr, DecidableEq

end ControlSurface.Xml
