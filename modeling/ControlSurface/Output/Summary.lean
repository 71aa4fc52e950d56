import ControlSurface.Build.Run
import ControlSurface.Output.Datum

/- What a build is shown as: its counts, all parameters, the routes and the outline of the
   panel. -/
namespace ControlSurface.Output

/-- The counts of a build. -/
def reportDatum (r : Build.Report) : Datum :=
  .record [("parameters", .count r.parameters), ("widgets", .count r.widgets),
    ("skipped", .count r.skipped)]

/-- A choice of a menu. -/
def itemDatum (i : MenuItem) : Datum :=
  .record [("name", .text i.name), ("label", .text i.label), ("value", .number i.value)]

/-- What a parameter holds. -/
def kindDatum : ParameterKind → Datum
  | .number b =>
    .record [("kind", .text "float"), ("min", .number b.min), ("max", .number b.max),
      ("default", .number b.default), ("clamp_min", .truth b.clampMin),
      ("clamp_max", .truth b.clampMax)]
  | .pulse => .record [("kind", .text "pulse")]
  | .toggle d => .record [("kind", .text "toggle"), ("default", .truth d)]
  | .menu items d =>
    .record [("kind", .text "menu"), ("items", .list (items.map itemDatum)), ("default", .count d)]

/-- A parameter. -/
def parameterDatum (p : Parameter) : Datum :=
  .record [("name", .text p.name), ("label", .text p.label), ("help", .optional p.help),
    ("kind", kindDatum p.kind)]

/-- A route. -/
def routeDatum (r : Route) : Datum :=
  .record [("parameter", .text r.parameter), ("address", .text r.address)]

/-- A build with what it left in the hosts; the outline is left out where there is no panel. -/
def summary (r : Build.Report) (h : Build.Hosts) (withLayout : Bool) : Datum :=
  .record ([("report", reportDatum r),
    ("parameters", .list (h.pages.parameters.map parameterDatum)),
    ("renames", .list (h.routes.rows.map routeDatum))]
    ++ (if withLayout then [("layout", .list (h.panel.outline.map .text))] else []))

end ControlSurface.Output
