import ControlSurface.Build.Host
import ControlSurface.Config
import ControlSurface.Voice

/- The steps of a build. A step may fail, and what was done before it failed stays done. All
   calls to the hosts go through `call`, which keeps a log of them, so that a host can be told
   to refuse the call of a given number. -/
namespace ControlSurface.Build

/-- The kind of a leaf that the build knows as one control. -/
inductive WidgetKind where
  | input (kind : InputKind)
  | output (kind : OutputKind)
deriving Repr, DecidableEq

/-- One control: all leaves of one address. It is what the first of them says. -/
structure Widget where
  kind : WidgetKind
  address : String
  parameter : Option Parameter
  info : Meta
  min : Float
  max : Float
  step : Float
deriving DecidableEq

/-- What a builder keeps from one build to the next. Everything but the configuration is made
    anew by each build. Under its address each widget is seen at its place, the latest first. -/
structure Builder where
  config : Config
  widgets : List Widget
  seen : List (String × Nat)
  names : Naming.Allocator
  voices : Voice.Filter
  skipped : Nat
  seen_eq : seen = (widgets.zipIdx.map fun p => (p.1.address, p.2)).reverse
deriving DecidableEq

namespace Builder

/-- A builder that has not built anything. -/
def new (config : Config) : Builder :=
  ⟨config, [], [], Naming.Allocator.empty, Voice.Filter.idle, 0, rfl⟩

section
variable (b : Builder) (w : Widget) (address : String)

/-- The builder with one more widget. -/
def push : Builder :=
  { b with
    widgets := b.widgets ++ [w]
    seen := (w.address, b.widgets.length) :: b.seen
    seen_eq := by simp [b.seen_eq, List.zipIdx_append] }

@[simp] theorem push_config : (b.push w).config = b.config := rfl

@[simp] theorem push_widgets : (b.push w).widgets = b.widgets ++ [w] := rfl

/-- The widget that was last seen under an address. -/
def widget? : Option Widget := (b.seen.lookup address).bind fun place => b.widgets[place]?

theorem lookup_addresses (ps : List (Widget × Nat)) :
    (ps.map fun p => (p.1.address, p.2)).lookup address =
      (ps.find? fun p => p.1.address == address).map Prod.snd := by
  induction ps with
  | nil => rfl
  | cons p ps ih =>
    rw [List.map_cons, List.lookup_cons, ih, List.find?_cons, BEq.comm]
    cases p.1.address == address <;> rfl

/-- What is seen under an address is the last widget of the address. -/
theorem widget?_eq : b.widget? address = b.widgets.reverse.find? (·.address == address) := by
  have hwidgets : b.widgets.reverse = b.widgets.zipIdx.reverse.map Prod.fst := by
    rw [List.map_reverse, List.zipIdx_map_fst]
  rw [widget?, b.seen_eq, ← List.map_reverse, lookup_addresses, hwidgets, List.find?_map]
  show _ = Option.map Prod.fst (b.widgets.zipIdx.reverse.find? fun p => p.1.address == address)
  cases hfound : b.widgets.zipIdx.reverse.find? fun p => p.1.address == address with
  | none => rfl
  | some p =>
    have hmem := List.mem_reverse.mp (List.mem_of_find?_eq_some hfound)
    exact List.mem_zipIdx_iff_getElem?.mp hmem

theorem widget?_push :
    (b.push w).widget? address = if w.address = address then some w else b.widget? address := by
  have hwidgets : (b.push w).widgets.reverse = w :: b.widgets.reverse := by
    rw [push_widgets, List.reverse_append]
    rfl
  rw [widget?_eq, widget?_eq, hwidgets, List.find?_cons]
  by_cases h : w.address = address
  · rw [if_pos h, beq_iff_eq.mpr h]
  · rw [if_neg h, beq_eq_false_iff_ne.mpr h]

/-- A widget that is seen under an address is one of the builder's, and has the address. -/
theorem of_widget?_eq_some {b : Builder} {w : Widget} {address : String}
    (h : b.widget? address = some w) : w ∈ b.widgets ∧ w.address = address := by
  rw [widget?_eq] at h
  exact ⟨List.mem_reverse.mp (List.mem_of_find?_eq_some h), by simpa using List.find?_some h⟩

theorem widget?_eq_none_iff :
    b.widget? address = none ↔ ∀ w ∈ b.widgets, w.address ≠ address := by
  simp [widget?_eq]

end

end Builder

/-- Counts of a build. -/
structure Report where
  parameters : Nat
  widgets : Nat
  skipped : Nat
deriving Repr, DecidableEq

/-- The state of a build: the builder, the hosts, the calls made so far, the refused one
    included, and the number of the call that is to be refused. -/
structure State where
  builder : Builder
  hosts : Hosts
  calls : List Call
  refusal : Option Nat
deriving DecidableEq

/-- A step of a build. -/
abbrev Step : Type → Type := ExceptT BuildError (StateM State)

namespace Step

/-- The builder as it is. -/
def builder : Step Builder := do return (← get).builder

/-- The configuration. -/
def config : Step Config := do return (← get).builder.config

/-- The panel as it is. -/
def panel : Step Panel.Tree := do return (← get).hosts.panel

/-- Changes the builder. -/
def update (f : Builder → Builder) : Step Unit :=
  modify fun s => { s with builder := f s.builder }

/-- Changes the routing table. -/
def reroute (f : RoutingTable → RoutingTable) : Step Unit :=
  modify fun s => { s with hosts := { s.hosts with routes := f s.hosts.routes } }

/-- Makes a call. -/
def call (c : Call) : Step Nat := do
  let s ← get
  set { s with calls := s.calls ++ [c] }
  if s.refusal = some s.calls.length then throw (.host (.refused s.calls.length))
  else
    match c.perform s.hosts with
    | .ok (id, hosts) =>
      modify fun s => { s with hosts := hosts }
      return id
    | .error fault => throw (.host fault)

/-- Makes a call whose answer does not matter. -/
def perform (c : Call) : Step Unit := do
  let _ ← call c

end Step

end ControlSurface.Build
