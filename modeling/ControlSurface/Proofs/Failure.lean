import ControlSurface.Proofs.Arena
import ControlSurface.Proofs.Completion

/- A build fails by its text alone. Where no call is refused by number, every call that a build
   makes is one that the hosts carry out, whatever the pages hold and whatever changes the
   panel went through: such a panel has its root (`after_rooted`), which is all that a build
   needs of it (`build_free_ok`). So a description is always built, and what is left to
   fail is the reading of a text. A text that cannot be read leaves what a blank one leaves:
   the other pages, an empty page of controls behind them, and nothing else
   (`Session.cleared_vacant`). -/
namespace ControlSurface

/-- A panel that changes made of an empty one has its root. -/
theorem Panel.Tree.after_rooted (changes : List Panel.Change) :
    ∃ own, (after changes).Rooted own := by
  refine after_induct (P := fun t => ∃ own, t.Rooted own) ⟨[], empty_rooted⟩ ?_ ?_ ?_ ?_ ?_ changes
  · rintro t u id parent spec ⟨own, h⟩ hu
    exact ⟨own, (h.create hu).1⟩
  · rintro t u id b ⟨own, h⟩ hu
    obtain ⟨own', h', -⟩ := h.bind hu
    exact ⟨own', h'⟩
  · rintro t u id key value ⟨own, h⟩ hu
    exact ⟨own, h.assign hu⟩
  · rintro t u id ⟨own, h⟩ hu
    exact ⟨own, h.destroy hu⟩
  · rintro t ⟨own, h⟩
    exact ⟨own, h.clear⟩

namespace Build

/-- A session in which nothing is built. Of the session before it there are the configuration
    and the pages other than the page of controls, which is empty and stands behind them. A
    panel that was passed is its root alone, and another is as it was. -/
structure Vacant (A : Session) (usePanel : Bool) (B : Session) : Prop where
  config : B.builder.config = A.builder.config
  widgets : B.builder.widgets = []
  pages : B.hosts.pages.list = A.hosts.pages.besides A.builder.config.controlPage ++
    [⟨A.builder.config.controlPage, []⟩]
  routes : B.hosts.routes.rows = []
  panel : usePanel = true →
    ∃ own, B.hosts.panel = ⟨#[some { Panel.Tree.freshRoot with bindings := own }]⟩
  unpassed : usePanel = false → B.hosts.panel = A.hosts.panel

variable {A : Session} {own : List Panel.Binding}

theorem Session.cleared_vacant (hA : A.hosts.panel.Rooted own) (usePanel : Bool) :
    Vacant A usePanel (A.cleared usePanel).session where
  config := rfl
  widgets := rfl
  pages := rfl
  routes := rfl
  panel h := by
    subst h
    exact ⟨own, hA.clear_eq⟩
  unpassed h := by
    subst h
    rfl

/-- A build of a text fails with the error of its reading, and only so. -/
theorem Session.take_buildText_error_iff (hA : A.hosts.panel.Rooted own) (text : String)
    (usePanel : Bool) (e : BuildError) :
    (A.take none (buildText text usePanel)).1 = .error e ↔
      Text.isBlankText text = false ∧ Description.read text = .error e := by
  rw [take_buildText]
  split
  · next hblank => simp [hblank]
  · next hblank =>
    cases hread : Description.read text with
    | error fault => simp [hblank]
    | ok d =>
      obtain ⟨report, hreport⟩ := build_free_ok hA d usePanel
      simp [hreport]

/-- A text that is blank, or that cannot be read, leaves a session in which nothing is built. -/
theorem Session.take_buildText_vacant (hA : A.hosts.panel.Rooted own) (text : String)
    (usePanel : Bool)
    (h : Text.isBlankText text = true ∨ ∃ e, Description.read text = .error e) :
    Vacant A usePanel (A.take none (buildText text usePanel)).2 := by
  have hvacant := cleared_vacant hA usePanel
  rw [take_buildText]
  split
  · exact hvacant
  · next hblank =>
    obtain ⟨e, he⟩ := h.resolve_left hblank
    rw [he]
    exact hvacant

/-- Over any pages, and over any panel that came about by changes, a description is built. So a
    build of a text fails if and only if the text is not blank and cannot be read, with the
    error of the reading; then, as after a blank text, nothing is built. -/
theorem build_fails_by_text_alone (b : Builder) (pages : Pages) (changes : List Panel.Change)
    (routes : RoutingTable) (usePanel : Bool) :
    let A : Session := ⟨b, ⟨pages, Panel.Tree.after changes, routes⟩⟩
    (∀ d, ∃ report, (A.take none (buildDescription d usePanel)).1 = .ok report) ∧
      ∀ text,
        (∀ e, (A.take none (buildText text usePanel)).1 = .error e ↔
          Text.isBlankText text = false ∧ Description.read text = .error e) ∧
        (Text.isBlankText text = true →
          (A.take none (buildText text usePanel)).1 = .ok ⟨0, 0, 0⟩) ∧
        (Text.isBlankText text = true ∨ (∃ e, Description.read text = .error e) →
          Vacant A usePanel (A.take none (buildText text usePanel)).2) := by
  intro A
  obtain ⟨own, hA⟩ : ∃ own, A.hosts.panel.Rooted own := Panel.Tree.after_rooted changes
  refine ⟨fun d => Session.build_free_ok hA d usePanel, fun text => ⟨fun e => ?_, ?_, ?_⟩⟩
  · exact Session.take_buildText_error_iff hA text usePanel e
  · intro hblank
    rw [Session.take_buildText, if_pos hblank]
  · exact Session.take_buildText_vacant hA text usePanel

end Build

end ControlSurface
