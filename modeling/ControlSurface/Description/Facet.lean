import ControlSurface.Decimal.Literal
import ControlSurface.Text.Blank

/- Facets: the numbers of a control as text. -/
namespace ControlSurface.Facet

/-- A text without one `f` at its end. -/
def withoutMark (cs : List Char) : List Char :=
  match cs.getLast? with
  | some 'f' | some 'F' => cs.dropLast
  | _ => cs

/-- The finite number that a text denotes. Blanks around it do not count, and one `f` may end
    it. -/
def read (text : String) : Option Float :=
  (Decimal.readLiteral (withoutMark (Text.trim text.toList))).filter Float.isFinite

end ControlSurface.Facet
