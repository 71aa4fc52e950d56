import ControlSurface.Proofs.Refusal
import ControlSurface.Proofs.RoutingIndex

/- Routes to parameters that are gone. Between the reset of the control page and the clearing
   of the routes a teardown clears the panel, and that call can be refused: then the old
   routes stay while their parameters are gone (`stale_routes_of_refused_clearing`). There is
   no other such point. Wherever else a build ends, its teardown did nothing, or no route is
   left, or the routes are those of the control page (`Session.after_build_hold`); so routes
   are stale after a further build if and only if it was cut at that call and there were
   routes (`build_keeps_routes`). -/
namespace ControlSurface.Build

/-- Every route is of a parameter that is on some page. -/
def Session.RoutesHold (A : Session) : Prop :=
  ∀ r ∈ A.hosts.routes.rows, r.parameter ∈ A.hosts.pages.names

/-- The number of the call by which a build that has a panel clears it. -/
def clearingCall : Nat := 1

theorem teardownCalls_clearingCall (config : Config) :
    (teardownCalls config true)[clearingCall]? = some .clearPanel := rfl

section
variable {A : Session} {usePanel : Bool} {refusal : Option Nat}

theorem Session.RoutesHold.of_rows (h : A.hosts.routes.rows = []) : A.RoutesHold := by
  rw [RoutesHold, h]
  exact List.forall_mem_nil _

/-- Routes of widgets are of parameters on the control page. -/
theorem Built.routesHold {B : Session} {d : Description} {report : Report}
    (h : Built A d usePanel report B) : B.RoutesHold := by
  intro r hr
  rw [h.routes, show r = ⟨r.parameter, r.address⟩ from rfl, mem_routesOf] at hr
  obtain ⟨w, hw, p, hp, hname, -⟩ := hr
  have hmem : p ∈ B.builder.widgets.filterMap (·.parameter) := List.mem_filterMap.mpr ⟨w, hw, hp⟩
  rw [show B.hosts.pages = ⟨B.hosts.pages.list⟩ from rfl, h.settled.pages, Pages.names_mk_append,
    ← hname]
  apply List.mem_append_right
  simpa [Pages.names, Pages.parameters] using ⟨p, by simpa using hmem, rfl⟩

/-- What follows a teardown fails only where nothing is routed yet. -/
theorem Source.construct_error_routes {source : Source} {others : List Page} {s u : State}
    {e : BuildError} (hs : Settled others s.builder s.hosts.pages)
    (h : (source.construct usePanel).outcome s = (.error e, u)) :
    u.hosts.routes = s.hosts.routes := by
  cases source with
  | text t => exact Build.construct_error_routes hs h
  | description d => exact populate_error_routes hs h

/-- A build that is not cut where it clears its panel leaves no stale routes if there were
    none. -/
theorem Session.after_build_hold (hA : A.RoutesHold) (source : Source)
    (hclear : usePanel = true → refusal ≠ some clearingCall) :
    (A.after (.build source usePanel refusal)).RoutesHold := by
  rw [after]
  cases hr : (A.take refusal (source.build usePanel)).1 with
  | ok report =>
    obtain hcleared | ⟨d, hbuilt⟩ := Source.built_of_ok hr
    · rw [hcleared]
      exact .of_rows rfl
    · exact hbuilt.routesHold
  | error e =>
    have hdown := teardown_outcome usePanel (A.start refusal)
    rw [take_eq] at hr ⊢
    rw [Source.build_eq_bind] at hr ⊢
    split at hdown
    · -- The control page is not reset, and nothing is changed.
      rw [Step.outcome_bind_error hdown]
      exact hA
    · split at hdown
      · next hcut => exact absurd hcut.2 (hclear hcut.1)
      · rw [Step.outcome_bind_ok hdown] at hr ⊢
        have hroutes := Source.construct_error_routes (A.swept_settled usePanel) (Prod.ext hr rfl)
        exact .of_rows (congrArg RoutingTable.rows hroutes)

/-- A build that is cut where it clears its panel leaves the old routes, and of the pages only
    those beside the control page. -/
theorem Session.take_clearing (A : Session) (source : Source) :
    (A.take (some clearingCall) (source.build true)).2 =
      { A.swept true with hosts := ⟨(A.swept true).hosts.pages, A.hosts.panel, A.hosts.routes⟩ } := by
  have hdown := teardown_outcome true (A.start (some clearingCall))
  rw [if_neg (by simp [start, clearingCall]), if_pos (by simp [start, clearingCall])] at hdown
  rw [take_eq, Source.build_eq_bind, Step.outcome_bind_error hdown]
  rfl

/-- The parameters of a build have names that are on no page beside the control page. -/
theorem Built.parameter_not_mem {B : Session} {d : Description} {report : Report} {r : Route}
    (h : Built A d usePanel report B) (hr : r ∈ B.hosts.routes.rows) :
    r.parameter ∉ (B.swept true).hosts.pages.names := by
  have hkept : (B.swept true).hosts.pages.names = (A.ready d usePanel).names.used := by
    rw [A.ready_names]
    show (B.hosts.pages.reset B.builder.config.controlPage).names = _
    rw [Pages.reset, Pages.names_add]
    show (⟨B.hosts.pages.besides B.builder.config.controlPage⟩ : Pages).names = _
    rw [h.settled.besides]
    rfl
  have hnew := (parametersOf_names (A.ready d usePanel).names
    (controlLeaves A.builder.config d)).2
  rw [← h.widgets.2, ← routesOf_parameters, ← h.routes] at hnew
  rw [hkept]
  exact hnew _ (List.mem_map_of_mem hr)

end

/-- From what a build left that ended well, a further build over the panel leaves stale routes
    if and only if it is cut where it clears the panel and something was routed. After any
    number of further builds that are not cut there no route is stale. -/
theorem build_keeps_routes (A : Session) (source : Source) (usePanel : Bool)
    (refusal : Option Nat) (report : Report)
    (h : (A.take refusal (source.build usePanel)).1 = .ok report) :
    let B := (A.take refusal (source.build usePanel)).2
    (∀ next refused, (B.after (.build next true refused)).RoutesHold ↔
      (refused = some clearingCall → B.hosts.routes.rows = [])) ∧
    ∀ builds : List (Source × Option Nat), (∀ b ∈ builds, b.2 ≠ some clearingCall) →
      (builds.foldl (fun C b => C.after (.build b.1 true b.2)) B).RoutesHold := by
  intro B
  have hB : B.RoutesHold := by
    obtain hcleared | ⟨d, hbuilt⟩ := Source.built_of_ok h
    · rw [show B = _ from hcleared]
      exact .of_rows rfl
    · exact hbuilt.routesHold
  constructor
  · intro next refused
    by_cases hcut : refused = some clearingCall
    · subst hcut
      rw [Session.after, Session.take_clearing]
      refine ⟨fun hhold _ => ?_, fun hnone => .of_rows (hnone rfl)⟩
      obtain hcleared | ⟨d, hbuilt⟩ := Source.built_of_ok h
      · rw [show B = _ from hcleared]
        rfl
      · rw [List.eq_nil_iff_forall_not_mem]
        intro r hr
        exact hbuilt.parameter_not_mem hr (hhold r hr)
    · exact ⟨fun _ hc => absurd hc hcut,
        fun _ => Session.after_build_hold hB next fun _ => hcut⟩
  · intro builds hbuilds
    have hrun : ∀ C : Session, C.RoutesHold →
        (builds.foldl (fun C b => C.after (.build b.1 true b.2)) C).RoutesHold := by
      induction builds with
      | nil => exact fun C hC => hC
      | cons b builds ih =>
        intro C hC
        rw [List.forall_mem_cons] at hbuilds
        exact ih hbuilds.2 _ (Session.after_build_hold hC b.1 fun _ => hbuilds.1)
    exact hrun B hB

/-- A build of a button. -/
def buttonBuild : Except BuildError Report × Session :=
  (Session.new Config.default).take none ((Source.description oneButton).build true)

theorem build_keeps_routes_of_button :
    buttonBuild.1 = .ok ⟨1, 1, 0⟩ ∧ buttonBuild.2.hosts.routes.rows = [⟨"Go", "/synth/go"⟩] ∧
      (buttonBuild.2.after (.build (.text "") true (some 0))).RoutesHold ∧
      ((buttonBuild.2.after (.build (.text "\x7b") true none)).after
        (.build (.description oneButton) true (some 2))).RoutesHold := by
  have h : buttonBuild.1 = .ok ⟨1, 1, 0⟩ := by decide +kernel
  obtain ⟨honce, hruns⟩ := build_keeps_routes _ _ _ _ _ h
  refine ⟨h, by decide +kernel, (honce _ _).mpr fun hc => absurd hc (by decide), ?_⟩
  exact hruns [(.text "\x7b", none), (.description oneButton, some 2)] (by decide)

/-- The button's route stays where the panel is not cleared, and its parameter does not. -/
theorem stale_routes_of_refused_clearing :
    buttonBuild.1 = .ok ⟨1, 1, 0⟩ ∧
      (buttonBuild.2.after (.build (.text "") true (some 1))).hosts.routes.rows =
        [⟨"Go", "/synth/go"⟩] ∧
      (buttonBuild.2.after (.build (.text "") true (some 1))).hosts.pages.names = [] ∧
      ¬(buttonBuild.2.after (.build (.text "") true (some 1))).RoutesHold := by
  have hrows : (buttonBuild.2.after (.build (.text "") true (some 1))).hosts.routes.rows =
      [⟨"Go", "/synth/go"⟩] := by decide +kernel
  have hnames : (buttonBuild.2.after (.build (.text "") true (some 1))).hosts.pages.names = [] := by
    decide +kernel
  refine ⟨by decide +kernel, hrows, hnames, fun hhold => ?_⟩
  have hmem := hhold ⟨"Go", "/synth/go"⟩ (hrows ▸ List.mem_cons_self)
  rw [hnames] at hmem
  cases hmem

end ControlSurface.Build
