/- The routing table: which address a parameter's changes go to. -/
namespace ControlSurface

/-- A parameter and its address. -/
structure Route where
  parameter : String
  address : String
deriving Repr, DecidableEq

/-- The routes, in the order in which they were added. -/
structure RoutingTable where
  rows : List Route
deriving Repr, DecidableEq

namespace RoutingTable

/-- No routes. -/
def empty : RoutingTable := ⟨[]⟩

/-- One more route. -/
def append (t : RoutingTable) (parameter address : String) : RoutingTable :=
  ⟨t.rows ++ [⟨parameter, address⟩]⟩

/-- The address of a parameter; the first route counts. -/
def address? (t : RoutingTable) (parameter : String) : Option String :=
  (t.rows.find? (·.parameter == parameter)).map (·.address)

end RoutingTable

end ControlSurface
