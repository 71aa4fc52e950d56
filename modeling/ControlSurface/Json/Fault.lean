import ControlSurface.Decimal.Format
import ControlSurface.Text.Quoted

/- What can be wrong with a JSON text: faults of the grammar, and values that are not of
   the kind the reader expects. A failure is a fault with its place: the line, and the
   count of bytes taken from that line. -/
namespace ControlSurface.Json

/-- The kind of value that stood where another was expected. -/
inductive Found where
  | null
  | boolean (value : Bool)
  | integer (value : Int)
  | real (value : Float)
  | text (value : String)
  | list
  | object
deriving DecidableEq

/-- How a message speaks of a value. -/
def Found.phrase : Found → String
  | null => "null"
  | boolean b => "boolean `" ++ (if b then "true" else "false") ++ "`"
  | integer n => "integer `" ++ toString n ++ "`"
  | real x => "floating point `" ++ Decimal.jsonFormat.text x ++ "`"
  | text s => "string " ++ Text.quoted s
  | list => "sequence"
  | object => "map"

/-- What is wrong with a JSON text. -/
inductive Fault where
  | endInList
  | endInObject
  | endInString
  | endInValue
  | expectedColon
  | expectedListComma
  | expectedObjectComma
  | expectedWord
  | expectedValue
  | invalidEscape
  | invalidNumber
  | numberOutOfRange
  | controlCharacter
  | keyNotString
  | loneSurrogate
  | unfinishedEscape
  | trailingComma
  | trailingCharacters
  | tooDeep
  | wrongType (found : Found) (expected : String)
  | wrongValue (found : Found) (expected : String)
  | wrongLength (length : Nat) (expected : String)
  | duplicateField (name : String)
  | missingField (name : String)
  | noVariant (type : String)
deriving DecidableEq

/-- The wording of a fault. -/
def Fault.phrase : Fault → String
  | endInList => "EOF while parsing a list"
  | endInObject => "EOF while parsing an object"
  | endInString => "EOF while parsing a string"
  | endInValue => "EOF while parsing a value"
  | expectedColon => "expected `:`"
  | expectedListComma => "expected `,` or `]`"
  | expectedObjectComma => "expected `,` or `\x7d`"
  | expectedWord => "expected ident"
  | expectedValue => "expected value"
  | invalidEscape => "invalid escape"
  | invalidNumber => "invalid number"
  | numberOutOfRange => "number out of range"
  | controlCharacter => "control character (\\u0000-\\u001F) found while parsing a string"
  | keyNotString => "key must be a string"
  | loneSurrogate => "lone leading surrogate in hex escape"
  | unfinishedEscape => "unexpected end of hex escape"
  | trailingComma => "trailing comma"
  | trailingCharacters => "trailing characters"
  | tooDeep => "recursion limit exceeded"
  | wrongType found expected => "invalid type: " ++ found.phrase ++ ", expected " ++ expected
  | wrongValue found expected => "invalid value: " ++ found.phrase ++ ", expected " ++ expected
  | wrongLength n expected => "invalid length " ++ toString n ++ ", expected " ++ expected
  | duplicateField name => "duplicate field `" ++ name ++ "`"
  | missingField name => "missing field `" ++ name ++ "`"
  | noVariant type => "data did not match any variant of untagged enum " ++ type

/-- A fault and its place. -/
structure Failure where
  fault : Fault
  line : Nat
  column : Nat
deriving DecidableEq

/-- The wording of a failure, its place included. -/
def Failure.message (f : Failure) : String :=
  f.fault.phrase ++ " at line " ++ toString f.line ++ " column " ++ toString f.column

end ControlSurface.Json
