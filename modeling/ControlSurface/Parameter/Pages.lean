import ControlSurface.Error
import ControlSurface.Parameter.Basic

/- The pages of custom parameters that an operator has. Names are unique over all pages;
   the name of a page need not be unique, and the first page of a name answers to it. -/
namespace ControlSurface

/-- A page of parameters. -/
structure Page where
  name : String
  parameters : List Parameter
deriving DecidableEq

/-- All pages, in order. -/
structure Pages where
  list : List Page
deriving DecidableEq

namespace Pages

/-- No pages. -/
def empty : Pages := ⟨[]⟩

/-- An empty page behind the others. -/
def add (ps : Pages) (page : String) : Pages := ⟨ps.list ++ [⟨page, []⟩]⟩

/-- The first page of a name. -/
def page? (ps : Pages) (page : String) : Option Page := ps.list.find? (·.name == page)

/-- All parameters, in the order of the pages. -/
def parameters (ps : Pages) : List Parameter := ps.list.flatMap (·.parameters)

/-- The names of all parameters. -/
def names (ps : Pages) : List String := ps.parameters.map (·.name)

/-- The first parameter of a name. -/
def parameter? (ps : Pages) (name : String) : Option Parameter :=
  ps.parameters.find? (·.name == name)

/-- The pages without those of a name, and an empty page of that name behind them. -/
def reset (ps : Pages) (page : String) : Pages :=
  add ⟨ps.list.filter (·.name != page)⟩ page

/-- A parameter at the end of the first page of a name. -/
def appendTo (page : String) (p : Parameter) : List Page → Option (List Page)
  | [] => none
  | q :: qs =>
    if q.name = page then some ({ q with parameters := q.parameters ++ [p] } :: qs)
    else (appendTo page p qs).map (q :: ·)

/-- A parameter at the end of a page; its name must be new and the page must be there. -/
def append (ps : Pages) (page : String) (p : Parameter) : Except HostFault Pages :=
  if (ps.parameter? p.name).isSome then .error (.parameterExists p.name)
  else
    match appendTo page p ps.list with
    | some list => .ok ⟨list⟩
    | none => .error (.noPage page)

end Pages

end ControlSurface
