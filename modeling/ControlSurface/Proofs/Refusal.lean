import ControlSurface.Proofs.Controls
import ControlSurface.Proofs.Interruption

/- A host that refuses a call. Two builds of one text start from one session, and in the
   second the call of a number is refused. If the first makes no call of that number they are
   the same build; else the second ends at the call (`build_refused`): pages and panel are
   what the calls before it make of them, the routes are the old ones if the teardown was
   still going on and none otherwise, and the control page and the widgets agree on the
   parameters. The cut itself is `Step.Obedient.stops`; what is left at the cut is read off
   the ends that a build can come to. -/
namespace ControlSurface.Build

/-- What a build leaves that call `n` ended, where `free` is the build that no call ended. -/
structure Refused (A : Session) (usePanel : Bool) (n : Nat)
    (free cut : Except BuildError Report × State) : Prop where
  result : cut.1 = .error (.host (.refused n))
  calls : cut.2.calls = free.2.calls.take (n + 1)
  hosts : ∃ h, Call.performAll A.hosts (free.2.calls.take n) = .ok h ∧
    cut.2.hosts.pages = h.pages ∧ cut.2.hosts.panel = h.panel
  routes : cut.2.hosts.routes =
    if n < (teardownCalls A.builder.config usePanel).length then A.hosts.routes
    else RoutingTable.empty
  /-- Call zero is that by which the teardown resets the control page. -/
  parameters : n ≠ 0 → cut.2.hosts.pages.page? A.builder.config.controlPage =
    some ⟨A.builder.config.controlPage, cut.2.builder.widgets.filterMap (·.parameter)⟩

section
variable {A : Session} {text : String} {usePanel : Bool} {n : Nat}

/-- The calls of a teardown come first where none is refused. -/
theorem teardownCalls_first (A : Session) (text : String) (usePanel : Bool) :
    teardownCalls A.builder.config usePanel <+:
      ((buildText text usePanel).outcome (A.start none)).2.calls := by
  rw [buildText_eq_bind, Step.outcome_bind_ok (A.teardown_free usePanel)]
  obtain ⟨made, -, hmade, -, -⟩ := (construct_obedient text usePanel).logged (A.cleared usePanel)
  exact ⟨made, hmade.symm⟩

/-- A description that is not built to its end leaves the routes as they were. -/
theorem populate_error_routes {s u : State} {e : BuildError} {others : List Page}
    {d : Description} (hs : Settled others s.builder s.hosts.pages)
    (h : (populate d usePanel).outcome s = (.error e, u)) :
    u.hosts.routes = s.hosts.routes := by
  have hroutes := (arrange_leadsTo hs d usePanel).routes
  rw [populate_outcome] at h
  split at h
  · cases h
  · next ho =>
    cases h
    rw [ho] at hroutes
    exact hroutes

/-- What follows a teardown fails only where nothing is routed yet. -/
theorem construct_error_routes {s u : State} {e : BuildError} {others : List Page}
    (hs : Settled others s.builder s.hosts.pages)
    (h : (construct text usePanel).outcome s = (.error e, u)) :
    u.hosts.routes = s.hosts.routes := by
  rw [construct] at h
  split at h
  · cases h
  · split at h
    · exact populate_error_routes hs h
    · rw [Step.outcome_throw] at h
      cases h
      rfl

/-- The ends of a build that fails by a refusal: either call of the teardown, or what follows
    it. -/
theorem build_error {u : State} {e : BuildError}
    (h : (buildText text usePanel).outcome (A.start (some n)) = (.error e, u)) :
    (u.hosts.routes =
      if n < (teardownCalls A.builder.config usePanel).length then A.hosts.routes
      else RoutingTable.empty) ∧
    (n ≠ 0 → Settled (A.hosts.pages.besides A.builder.config.controlPage) u.builder
      u.hosts.pages) := by
  have hswept := A.swept_settled usePanel
  have hdown := teardown_outcome usePanel (A.start (some n))
  by_cases h0 : n = 0
  · -- The control page is not reset, and nothing is promised of it.
    subst h0
    have hfirst : (A.start (some 0)).refusal = some (A.start (some 0)).calls.length := rfl
    rw [if_pos hfirst] at hdown
    rw [buildText_eq_bind, Step.outcome_bind_error hdown] at h
    cases h
    exact ⟨(if_pos (by simp [teardownCalls])).symm, fun hn => absurd rfl hn⟩
  have hfirst : ¬(A.start (some n)).refusal = some (A.start (some n)).calls.length := by
    simpa [Session.start] using h0
  rw [if_neg hfirst] at hdown
  by_cases h1 : usePanel = true ∧ n = 1
  · -- The panel is not cleared, and the routes are not reached.
    obtain ⟨rfl, rfl⟩ := h1
    have hsecond : (A.start (some 1)).refusal = some ((A.start (some 1)).calls.length + 1) := rfl
    rw [if_pos ⟨rfl, hsecond⟩] at hdown
    rw [buildText_eq_bind, Step.outcome_bind_error hdown] at h
    cases h
    exact ⟨(if_pos (by simp [teardownCalls])).symm, fun _ => hswept⟩
  · rw [if_neg (by simpa [Session.start] using h1)] at hdown
    rw [buildText_eq_bind, Step.outcome_bind_ok hdown] at h
    have hroutes := construct_error_routes hswept h
    have hlate : ¬n < (teardownCalls A.builder.config usePanel).length := by
      cases usePanel <;> simp [teardownCalls] at h1 ⊢ <;> omega
    exact ⟨hroutes.trans (if_neg hlate).symm, fun _ => construct_settled hswept h⟩

end

/-- The build in which call `n` is refused is the free build if that makes no call `n`, and
    otherwise ends there. The calls of the teardown are the first that a free build makes. -/
theorem build_refused (A : Session) (text : String) (usePanel : Bool) (n : Nat) :
    let free := (buildText text usePanel).outcome (A.start none)
    let cut := (buildText text usePanel).outcome (A.start (some n))
    teardownCalls A.builder.config usePanel <+: free.2.calls ∧
      if free.2.calls.length ≤ n then cut = (free.1, { free.2 with refusal := some n })
      else Refused A usePanel n free cut := by
  intro free cut
  refine ⟨teardownCalls_first A text usePanel, ?_⟩
  have hcut : CutAt n (A.start none) free cut :=
    (buildText_obedient text usePanel).stops (A.start none) n rfl (Nat.zero_le n)
  rw [CutAt] at hcut
  split at hcut
  · next h => rw [if_pos h]; exact hcut
  · next h =>
    rw [if_neg h]
    obtain ⟨hresult, hcalls, hhosts⟩ := hcut
    have herr : cut = (.error (.host (.refused n)), cut.2) := Prod.ext hresult rfl
    obtain ⟨hroutes, hsettled⟩ := build_error herr
    have hconfig : cut.2.builder.config = A.builder.config :=
      ((buildText_obedient text usePanel).keeps (A.start (some n))).2
    refine ⟨hresult, hcalls, ⟨_, hhosts, rfl, rfl⟩, hroutes, fun hn => ?_⟩
    rw [← hconfig]
    exact (hsettled hn).page?

end ControlSurface.Build
