/- Data that is shown to the user: lists and records of plain values. The fields of a record
   keep their order. -/
namespace ControlSurface.Output

/-- A datum. -/
inductive Datum where
  | null
  | truth (value : Bool)
  | count (value : Nat)
  | number (value : Float)
  | text (value : String)
  | list (items : List Datum)
  | record (fields : List (String × Datum))

namespace Datum

/-- A text that may be absent. -/
def optional : Option String → Datum
  | none => null
  | some s => text s

end Datum

end ControlSurface.Output
