import ControlSurface.Proofs.RoutingIndex
import Mathlib.Data.List.Nodup

/- The routes to the address of a leaf. Leaves of one address, inputs and read-outs alike, are
   one control, and the first of them that is shown decides what it is: if that is an input,
   the address has exactly one route, to the input's own parameter on the control page; if it is
   a read-out, nothing is routed to the address (`build_routes_first`). So an input that comes
   after a read-out of its address gets no parameter (`no_route_behind_read_out`), though it is
   shown as much as one that comes before it. -/
namespace ControlSurface.Build

/-- What is routed to an address of which a leaf is the first: the parameter of an input, once
    and on the control page, or nothing. -/
def Session.RoutesFirst (B : Session) (address : String) : Leaf → Prop
  | .input c => ∃ name page, B.hosts.pages.page? B.builder.config.controlPage = some page ∧
      Parameter.ofInput name c ∈ page.parameters ∧
      B.hosts.routes.rows.filter (·.address == address) = [⟨name, address⟩]
  | .output _ => B.hosts.routes.rows.filter (·.address == address) = []

/-- A shown leaf is of the address of a first one. -/
theorem find?_sameControl_isSome {config : Config} {d : Description} {l : Leaf}
    (hl : l ∈ shownLeaves config d) :
    ((shownLeaves config d).find? (sameControl config.stripRoot l)).isSome = true :=
  List.find?_isSome.mpr ⟨l, hl, beq_self_eq_true _⟩

namespace Built
variable {A B : Session} {d : Description} {usePanel : Bool} {report : Report} {w : Widget}

/-- An address of which the control has no parameter is not routed to. -/
theorem routes_to_none (h : Built A d usePanel report B) (hw : w ∈ B.builder.widgets)
    (hp : w.parameter = none) : B.hosts.routes.rows.filter (·.address == w.address) = [] := by
  rw [h.routes, List.filter_eq_nil_iff]
  rintro ⟨name, address⟩ hr hsame
  obtain ⟨v, hv, p, hvp, -, hvaddress⟩ := mem_routesOf.mp hr
  -- Controls have addresses of their own, so a route to the address is of this control.
  have hvw : v = w :=
    List.inj_on_of_nodup_map h.addresses_nodup hv hw (hvaddress.trans (eq_of_beq hsame))
  rw [hvw, hp] at hvp
  cases hvp

/-- An address of which the control has a parameter is routed to from that parameter alone. -/
theorem routes_to_some (h : Built A d usePanel report B) (hw : w ∈ B.builder.widgets)
    {p : Parameter} (hp : w.parameter = some p) :
    B.hosts.routes.rows.filter (·.address == w.address) = [⟨p.name, w.address⟩] := by
  have hrow : (⟨p.name, w.address⟩ : Route) ∈ B.hosts.routes.rows := by
    rw [h.routes, mem_routesOf]
    exact ⟨w, hw, p, hp, rfl, rfl⟩
  have hnodup : (B.hosts.routes.rows.map (·.address)).Nodup := by
    rw [h.routes]
    exact h.addresses_nodup.sublist (routesOf_addresses_sublist _)
  exact filter_key_eq hnodup hrow

/-- The control of a leaf that is the first of its address is routed to as that leaf is. -/
theorem routesFirst (h : Built A d usePanel report B) (hw : w ∈ B.builder.widgets) {m : Leaf}
    (hcarries : Widget.Carries m w) : B.RoutesFirst w.address m := by
  cases m with
  | output c => exact h.routes_to_none hw hcarries
  | input c =>
    obtain ⟨name, hp⟩ := hcarries
    exact ⟨name, _, h.settled.page?, List.mem_filterMap.mpr ⟨w, hw, hp⟩, h.routes_to_some hw hp⟩

end Built

/-- After a build that ends well the routes to the address of a shown leaf are those of the
    first shown leaf of the address. -/
theorem build_routes_first (A : Session) (d : Description) (usePanel : Bool)
    (refusal : Option Nat) (report : Report)
    (h : (A.take refusal (buildDescription d usePanel)).1 = .ok report) (l : Leaf)
    (hl : l ∈ shownLeaves A.builder.config d) :
    ∃ first, (shownLeaves A.builder.config d).find? (sameControl A.builder.config.stripRoot l) =
        some first ∧
      (A.take refusal (buildDescription d usePanel)).2.RoutesFirst
        (l.canonical A.builder.config.stripRoot) first := by
  have hbuilt := built_of_ok h
  generalize (A.take refusal (buildDescription d usePanel)).2 = B at hbuilt ⊢
  obtain ⟨first, hfirst⟩ := Option.isSome_iff_exists.mp (find?_sameControl_isSome hl)
  have hrel := hbuilt.widget?_first l
  rw [hfirst] at hrel ⊢
  generalize hfound : B.builder.widget? (l.canonical A.builder.config.stripRoot) = found at hrel
  cases hrel with
  | @some _ w hmw =>
    obtain ⟨hmem, haddress⟩ := Builder.of_widget?_eq_some hfound
    refine ⟨first, rfl, ?_⟩
    rw [← haddress]
    exact hbuilt.routesFirst hmem hmw.2

/-- A button before a read-out of its address, and one behind a read-out of which the address
    is written otherwise. -/
def meters : Description where
  name := none
  inputs := none
  outputs := none
  info := Meta.empty
  nodes := [.group .vertical "meters" Meta.empty
    [.input ⟨.button, "go", "/go", ⟨0, 0, 0, 0⟩, Meta.empty⟩,
     .output ⟨.verticalBargraph, "busy", "/go", 0, 1, Meta.empty⟩,
     .output ⟨.verticalBargraph, "level", "/in (dB)", 0, 1, Meta.empty⟩,
     .input ⟨.button, "level", "/in_dB", ⟨0, 0, 0, 0⟩, Meta.empty⟩,
     .input ⟨.button, "mute", "/mute", ⟨0, 0, 0, 0⟩, Meta.empty⟩]]

/-- A build of meters over pages of which one has the name of a button. -/
def metersBuild : Except BuildError Report × Session :=
  usedName.take (some 99) (buildDescription meters true)

theorem build_routes_first_of_meters :
    metersBuild.1 = .ok ⟨2, 3, 0⟩ ∧
      (∃ first, first.isInput = true ∧ metersBuild.2.RoutesFirst "/go" first) ∧
      (∃ first, first.isInput = false ∧ metersBuild.2.RoutesFirst "/in_dB" first) ∧
      metersBuild.2.hosts.routes.rows = [⟨"Go1", "/go"⟩, ⟨"Mute", "/mute"⟩] := by
  have h : metersBuild.1 = .ok ⟨2, 3, 0⟩ := by decide +kernel
  have hroutes := build_routes_first usedName meters true (some 99) ⟨2, 3, 0⟩ h
  refine ⟨h, ?_, ?_, by decide +kernel⟩
  · obtain ⟨first, hfirst, hroutes⟩ := hroutes
      (.output ⟨.verticalBargraph, "busy", "/go", 0, 1, Meta.empty⟩)
      (List.mem_filter.mpr ⟨.tail _ (.head _), by decide +kernel⟩)
    have hkind : ((shownLeaves usedName.builder.config meters).find? (sameControl
        usedName.builder.config.stripRoot (.output ⟨.verticalBargraph, "busy", "/go", 0, 1,
          Meta.empty⟩))).map Leaf.isInput = some true := by decide +kernel
    rw [hfirst] at hkind
    exact ⟨first, Option.some.inj hkind, hroutes⟩
  · obtain ⟨first, hfirst, hroutes⟩ := hroutes
      (.input ⟨.button, "level", "/in_dB", ⟨0, 0, 0, 0⟩, Meta.empty⟩)
      (List.mem_filter.mpr ⟨.tail _ (.tail _ (.tail _ (.head _))), by decide +kernel⟩)
    have hkind : ((shownLeaves usedName.builder.config meters).find? (sameControl
        usedName.builder.config.stripRoot (.input ⟨.button, "level", "/in_dB", ⟨0, 0, 0, 0⟩,
          Meta.empty⟩))).map Leaf.isInput = some false := by decide +kernel
    rw [hfirst] at hkind
    exact ⟨first, Option.some.inj hkind, hroutes⟩

/-- A button behind a read-out of its address. -/
def shadowedButton : Description where
  name := none
  inputs := none
  outputs := none
  info := Meta.empty
  nodes := [.output ⟨.verticalBargraph, "level", "/level", 0, 1, Meta.empty⟩,
    .input ⟨.button, "level", "/level", ⟨0, 0, 0, 0⟩, Meta.empty⟩]

/-- The button is shown and nothing is routed to its address, nor is there any parameter. -/
theorem no_route_behind_read_out :
    let A := Session.new Config.default
    let button : Leaf := .input ⟨.button, "level", "/level", ⟨0, 0, 0, 0⟩, Meta.empty⟩
    let B := (A.take none (buildDescription shadowedButton true)).2
    (A.take none (buildDescription shadowedButton true)).1 = .ok ⟨0, 1, 0⟩ ∧
      button ∈ shownLeaves Config.default shadowedButton ∧
      B.hosts.routes.rows.filter (·.address == button.canonical Config.default.stripRoot) = [] ∧
      B.hosts.pages.names = [] := by
  intro A button B
  exact ⟨by decide +kernel, List.mem_filter.mpr ⟨.tail _ (.head _), by decide +kernel⟩,
    by decide +kernel, by decide +kernel⟩

end ControlSurface.Build
