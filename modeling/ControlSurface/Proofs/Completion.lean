import ControlSurface.Proofs.History
import ControlSurface.Proofs.Placement

/- Where no call is refused, every build of a description ends well, with a panel or without
   one (`build_free_ok`): names of parameters are new, the control page is there, and what is
   created, bound and destroyed on the panel is there too. A build of a text comes to one of
   three things, a cleared session, the error of the text, or the build of its description
   (`take_buildText`). A build without a panel leaves the panel as it was. -/
namespace ControlSurface.Build

open Panel (Binding)

variable {others : List Page} {own : List Binding} {b : Builder} {ls ms : List Leaf} {s : State}

/-- Leaves are made controls one after the other, and the panel is not looked at. -/
theorem admitLeaves_ends (h : Ahead others own b (ms ++ ls) s) :
    (admitLeaves ms).Ends s fun _ u => Ahead others own b ls u := by
  induction ms generalizing s with
  | nil => exact .pure h
  | cons l ms ih =>
    have hleaf : (admitLeaf l).Ends s fun _ u => Ahead others own b (ms ++ ls) u := by
      cases l with
      | input c => exact (admitInput_ends h).bind fun _ u hu => .pure hu.1
      | output c => exact (admitOutput_ends h).bind fun _ u hu => .pure hu.1
    rw [admitLeaves]
    exact hleaf.bind fun _ u hu => ih hu

/-- Builds over the same pages that leave the same widgets leave the same pages and routes. -/
theorem Built.same_hosts {A A' B B' : Session} {d d' : Description} {p q : Bool}
    {report report' : Report} (h : Built A d p report B) (h' : Built A' d' q report' B')
    (hpages : A.hosts.pages = A'.hosts.pages)
    (hpage : A.builder.config.controlPage = A'.builder.config.controlPage)
    (hwidgets : B.builder.widgets = B'.builder.widgets) :
    B.hosts.pages = B'.hosts.pages ∧ B.hosts.routes = B'.hosts.routes := by
  have hlist : B.hosts.pages.list = B'.hosts.pages.list := by
    rw [h.settled.pages, h'.settled.pages, h.config, h'.config, hwidgets, hpages, hpage]
  have hrows : B.hosts.routes.rows = B'.hosts.routes.rows := by
    rw [h.routes, h'.routes, hwidgets]
  exact ⟨congrArg Pages.mk hlist, congrArg RoutingTable.mk hrows⟩

namespace Session
variable {A : Session}

theorem arrange_free_ends (hA : A.hosts.panel.Rooted own) (d : Description) (usePanel : Bool) :
    (arrange d usePanel).Ends { A.cleared usePanel with builder := A.ready d usePanel }
      fun _ _ => True := by
  have hahead := ready_ahead hA d usePanel
  cases usePanel with
  | true =>
    obtain ⟨hroot, hempty⟩ := hA.clear_container
    exact (arrange_ends hahead hroot hempty).mono fun _ _ _ => trivial
  | false =>
    rw [← List.append_nil d.leaves] at hahead
    obtain ⟨a, u, ho, -⟩ := admitLeaves_ends hahead
    exact ⟨a, u, (arrange_outcome_none d _).trans ho, trivial⟩

/-- A build of which no call is refused ends well. -/
theorem build_free_ok (hA : A.hosts.panel.Rooted own) (d : Description) (usePanel : Bool) :
    ∃ report, (A.take none (buildDescription d usePanel)).1 = .ok report := by
  obtain ⟨_, u, ho, -⟩ := arrange_free_ends hA d usePanel
  have hbuild : A.take none (buildDescription d usePanel) = _ :=
    A.take_teardown usePanel (populate d usePanel)
  have hpopulate := populate_outcome_ok (s := A.cleared usePanel) ho
  exact ⟨u.builder.report, by rw [hbuild, hpopulate]⟩

/-- A build of which no call is refused leaves what `Built` tells. -/
theorem build_free_built (hA : A.hosts.panel.Rooted own) (d : Description) (usePanel : Bool) :
    (A.take none (buildDescription d usePanel)).1 =
        .ok (A.take none (buildDescription d usePanel)).2.builder.report ∧
      Built A d usePanel (A.take none (buildDescription d usePanel)).2.builder.report
        (A.take none (buildDescription d usePanel)).2 := by
  obtain ⟨report, h⟩ := build_free_ok hA d usePanel
  have hbuilt := built_of_ok h
  rw [← hbuilt.report]
  exact ⟨h, hbuilt⟩

/-- What a build of a text comes to where no call is refused. -/
theorem take_buildText (A : Session) (text : String) (usePanel : Bool) :
    A.take none (buildText text usePanel) =
      if Text.isBlankText text then (.ok ⟨0, 0, 0⟩, (A.cleared usePanel).session)
      else
        match Description.read text with
        | .ok d => A.take none (buildDescription d usePanel)
        | .error e => (.error e, (A.cleared usePanel).session) := by
  rw [buildText_eq_bind, take_teardown, construct]
  split
  · rfl
  · cases Description.read text with
    | error e => rfl
    | ok d => exact (A.take_teardown usePanel (populate d usePanel)).symm

/-- A build without a panel leaves the panel as it was. -/
theorem build_without_panel (A : Session) (d : Description) :
    (A.take none (buildDescription d false)).2.hosts.panel = A.hosts.panel := by
  have hbuild : A.take none (buildDescription d false) = _ :=
    A.take_teardown false (populate d false)
  -- The panel that a blind step leaves is the one that it was given.
  have hblind := blind_basics.populate (arrange_blind d) (A.cleared false) A.hosts.panel
  have hpanel := congrArg (fun r => r.2.hosts.panel) hblind
  rw [hbuild]
  exact hpanel

end Session

end ControlSurface.Build
