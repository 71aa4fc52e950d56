/- Positions in a text for a human reader: lines and columns count from one, and columns
   count characters. -/
namespace ControlSurface.Text

/-- A line and a column. -/
structure Position where
  line : Nat
  column : Nat
deriving Repr, DecidableEq

namespace Position

/-- The position of the first character. -/
def start : Position := ⟨1, 1⟩

/-- The position behind a character. -/
def after (p : Position) (c : Char) : Position :=
  if c = '\n' then ⟨p.line + 1, 1⟩ else ⟨p.line, p.column + 1⟩

/-- The position behind a text. -/
def afterAll (p : Position) (cs : List Char) : Position := cs.foldl after p

@[simp] theorem afterAll_nil (p : Position) : p.afterAll [] = p := rfl

@[simp] theorem afterAll_cons (p : Position) (c : Char) (cs : List Char) :
    p.afterAll (c :: cs) = (p.after c).afterAll cs := rfl

theorem afterAll_append (p : Position) (cs ds : List Char) :
    p.afterAll (cs ++ ds) = (p.afterAll cs).afterAll ds := by
  simp [afterAll, List.foldl_append]

end Position

end ControlSurface.Text
