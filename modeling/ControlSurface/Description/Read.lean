import ControlSurface.Description.Json
import ControlSurface.Description.Xml

/- Reading a description in whichever of the two formats it is written. -/
namespace ControlSurface.Description

/-- The formats of a description. -/
inductive Format where
  | json
  | xml
deriving Repr, DecidableEq

/-- The format of a text: XML if its first character that is not blank opens a tag. -/
def formatOf (text : String) : Format :=
  if (Text.trimStart text.toList).head? = some '<' then .xml else .json

/-- Reads a description in a format. -/
def readAs : Format → String → Except BuildError Description
  | .json, text => Json.read text
  | .xml, text => Xml.read text

/-- Reads a description. -/
def read (text : String) : Except BuildError Description := readAs (formatOf text) text

end ControlSurface.Description
