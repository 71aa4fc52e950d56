import ControlSurface.Proofs.Controls
import ControlSurface.Proofs.Interruption
import ControlSurface.Proofs.Root

/- A build forgets what was before it. What a build can see of its session is the
   configuration, the other pages and the root's own bindings (`Session.Agree`): after the
   teardown two sessions that agree in these are the same, but for a panel that is not
   passed, and that no part of the build looks at (`Step.Blind`). So builds of one source in
   sessions that agree come to the same, however each session came about
   (`build_forgets`). A build, also one that fails, changes nothing of what the next can see. -/
namespace ControlSurface.Build

/-! ## Histories -/

/-- What a build is made from. -/
inductive Source where
  | text (text : String)
  | description (d : Description)

/-- The build of a source. -/
def Source.build (usePanel : Bool) : Source → Step Report
  | text t => buildText t usePanel
  | description d => buildDescription d usePanel

/-- What can happen to a session: builds, of which a call may be refused, other settings, a
    new builder, a new page, and any call to the hosts. -/
inductive Event where
  | build (source : Source) (usePanel : Bool) (refusal : Option Nat)
  | configure (config : Config)
  | renew
  | addPage (page : String)
  | call (c : Call)

namespace Session

/-- The session after an event. A call that fails changes nothing. -/
def after (A : Session) : Event → Session
  | .build source usePanel refusal => (A.take refusal (source.build usePanel)).2
  | .configure config => { A with builder.config := config }
  | .renew => { A with builder := Builder.new A.builder.config }
  | .addPage page => { A with hosts.pages := A.hosts.pages.add page }
  | .call c =>
    match c.perform A.hosts with
    | .ok (_, hosts) => { A with hosts := hosts }
    | .error _ => A

/-- The session of a new builder and new hosts after events. -/
def history (config : Config) (events : List Event) : Session := events.foldl after (new config)

/-- The bindings of the root itself. -/
def rootBindings (A : Session) : Option (List Panel.Binding) :=
  (A.hosts.panel.node? Panel.Tree.root).map (·.bindings)

/-- Sessions of which a build sees the same. -/
structure Agree (A B : Session) : Prop where
  config : A.builder.config = B.builder.config
  pages : A.hosts.pages.besides A.builder.config.controlPage =
    B.hosts.pages.besides B.builder.config.controlPage
  bindings : A.rootBindings = B.rootBindings

end Session

/-- Builds that came to the same: result and builder, pages, routes, and the panel where it
    was passed. -/
structure SameBuild (usePanel : Bool) (a b : Except BuildError Report × Session) : Prop where
  result : a.1 = b.1
  builder : a.2.builder = b.2.builder
  pages : a.2.hosts.pages = b.2.hosts.pages
  routes : a.2.hosts.routes = b.2.hosts.routes
  panel : usePanel = true → a.2.hosts.panel = b.2.hosts.panel

/-! ## Steps without a panel -/

/-- The state with another panel. -/
def State.withPanel (s : State) (t : Panel.Tree) : State := { s with hosts.panel := t }

/-- A step that neither reads nor changes the panel. -/
def Step.Blind {α : Type} (x : Step α) : Prop :=
  ∀ s t, x.outcome (s.withPanel t) = ((x.outcome s).1, (x.outcome s).2.withPanel t)

namespace Step.Blind
variable {α β : Type}

theorem pure (a : α) : Blind (Pure.pure a : Step α) := fun _ _ => rfl

theorem throw (e : BuildError) : Blind (MonadExcept.throw e : Step α) := fun _ _ => rfl

theorem builder : Blind Step.builder := fun _ _ => rfl

theorem update (f : Builder → Builder) : Blind (Step.update f) := fun _ _ => rfl

theorem reroute (f : RoutingTable → RoutingTable) : Blind (Step.reroute f) := fun _ _ => rfl

theorem bind {x : Step α} {f : α → Step β} (hx : Blind x) (hf : ∀ a, Blind (f a)) :
    Blind (x >>= f) := by
  intro s t
  rw [outcome_bind, outcome_bind, hx s t]
  rcases x.outcome s with ⟨_ | a, u⟩
  · rfl
  · exact hf a u t

theorem appendParameter (page : String) (p : Parameter) :
    Blind (Step.call (.appendParameter page p)) := by
  intro s t
  have hsame : (s.withPanel t).refusal = some (s.withPanel t).calls.length ↔
      s.refusal = some s.calls.length := Iff.rfl
  rw [outcome_call, outcome_call]
  by_cases h : s.refusal = some s.calls.length
  · rw [if_pos h, if_pos (hsame.mpr h)]
    rfl
  · rw [if_neg h, if_neg (mt hsame.mp h)]
    simp only [Call.perform, State.withPanel]
    cases s.hosts.pages.append page p <;> rfl

end Step.Blind

open Step (Blind)

theorem blind_basics : Step.Basics Blind where
  pure := .pure
  throw := .throw
  bind := .bind
  builder := .builder
  update f _ := .update f
  reroute := .reroute
  append := .appendParameter

/-- Without a panel a build goes through the leaves alone. -/
theorem arrange_blind (d : Description) : Blind (arrange d false) := by
  intro s t
  rw [arrange_outcome_none, arrange_outcome_none]
  exact blind_basics.admitLeaves d.leaves s t

/-- What a build of a source does after the teardown. -/
def Source.construct (usePanel : Bool) : Source → Step Report
  | text t => Build.construct t usePanel
  | description d => populate d usePanel

theorem Source.build_eq_bind (usePanel : Bool) (source : Source) :
    source.build usePanel = teardown usePanel >>= fun _ => source.construct usePanel := by
  cases source <;> rfl

theorem Source.build_obedient (usePanel : Bool) (source : Source) :
    (source.build usePanel).Obedient := by
  cases source with
  | text t => exact buildText_obedient t usePanel
  | description d => exact buildDescription_obedient d usePanel

theorem Source.build_spares (usePanel : Bool) (source : Source) :
    (source.build usePanel).SparesRoot := by
  cases source with
  | text t => exact buildText_spares t usePanel
  | description d => exact buildDescription_spares d usePanel

theorem Source.construct_settled {others : List Page} {s u : State} {usePanel : Bool}
    {r : Except BuildError Report} (source : Source) (hs : Settled others s.builder s.hosts.pages)
    (h : (source.construct usePanel).outcome s = (r, u)) :
    Settled others u.builder u.hosts.pages := by
  cases source with
  | text t => exact Build.construct_settled hs h
  | description d => exact populate_settled hs h

theorem Source.construct_blind (source : Source) : Blind (source.construct false) := by
  cases source with
  | text t => exact blind_basics.construct arrange_blind t
  | description d => exact blind_basics.populate (arrange_blind d)

/-! ## What a build sees -/

namespace Session
variable {A B : Session} {own : List Panel.Binding}

theorem rootBindings_eq (h : A.hosts.panel.Rooted own) : A.rootBindings = some own := by
  obtain ⟨r, hr, -, -, -, hown⟩ := h.alive
  rw [rootBindings, hr, Option.map_some, hown]

/-- The panel is rooted after every event. -/
theorem after_rooted (h : A.hosts.panel.Rooted own) (e : Event) :
    ∃ own', (A.after e).hosts.panel.Rooted own' := by
  cases e with
  | build source usePanel refusal =>
    exact ⟨own, (source.build_spares usePanel).panel own (A.start refusal) h⟩
  | configure config => exact ⟨own, h⟩
  | renew => exact ⟨own, h⟩
  | addPage page => exact ⟨own, h⟩
  | call c =>
    rw [after]
    split
    · next hk =>
      obtain ⟨⟨own', hown, -⟩, -⟩ := Call.perform_rooted h hk
      exact ⟨own', hown⟩
    · exact ⟨own, h⟩

/-- What holds of new sessions and is kept by every event holds after all events. -/
theorem history_induct {P : Session → Prop} {config : Config} (hnew : P (new config))
    (hafter : ∀ A e, P A → P (A.after e)) (events : List Event) : P (history config events) := by
  have hrun : ∀ A : Session, P A → P (events.foldl after A) := by
    induction events with
    | nil => exact fun _ h => h
    | cons e events ih => exact fun A h => ih (A.after e) (hafter A e h)
  exact hrun (new config) hnew

theorem history_rooted (config : Config) (events : List Event) :
    ∃ own, (history config events).hosts.panel.Rooted own :=
  history_induct (P := fun A => ∃ own, A.hosts.panel.Rooted own) ⟨[], Panel.Tree.empty_rooted⟩
    (fun _ e ⟨_, h⟩ => after_rooted h e) events

/-- Sessions that agree are the same after a teardown, but for the panel. -/
theorem Agree.cleared_eq (h : Agree A B) (usePanel : Bool) :
    A.cleared usePanel = (B.cleared usePanel).withPanel (A.cleared usePanel).hosts.panel := by
  have hpages : A.hosts.pages.reset A.builder.config.controlPage =
      B.hosts.pages.reset B.builder.config.controlPage := by
    have hlist := h.pages
    rw [h.config] at hlist ⊢
    exact congrArg (fun list => Pages.add ⟨list⟩ B.builder.config.controlPage) hlist
  unfold State.withPanel cleared swept
  dsimp only
  rw [hpages, h.config]

/-- A panel that is passed is the same too: its root has the same bindings. -/
theorem Agree.cleared_panel (h : Agree A B) {other : List Panel.Binding}
    (hA : A.hosts.panel.Rooted own) (hB : B.hosts.panel.Rooted other) :
    (A.cleared true).hosts.panel = (B.cleared true).hosts.panel := by
  have hown : some own = some other := by
    rw [← rootBindings_eq hA, ← rootBindings_eq hB, h.bindings]
  cases hown
  calc A.hosts.panel.clear
      = ⟨#[some { Panel.Tree.freshRoot with bindings := own }]⟩ := hA.clear_eq
    _ = B.hosts.panel.clear := hB.clear_eq.symm

/-- Builds of one source in sessions that agree come to the same. -/
theorem Agree.sameBuild (h : Agree A B) {other : List Panel.Binding}
    (hA : A.hosts.panel.Rooted own) (hB : B.hosts.panel.Rooted other) (source : Source)
    (usePanel : Bool) :
    SameBuild usePanel (A.take none (source.build usePanel))
      (B.take none (source.build usePanel)) := by
  have hcleared := h.cleared_eq usePanel
  rw [Source.build_eq_bind, take_teardown, take_teardown, hcleared]
  cases usePanel with
  | true =>
    rw [h.cleared_panel hA hB]
    exact ⟨rfl, rfl, rfl, rfl, fun _ => rfl⟩
  | false =>
    rw [source.construct_blind]
    exact ⟨rfl, rfl, rfl, rfl, fun hp => by cases hp⟩

/-- Of what the next build sees a build changes nothing, however it ends. -/
theorem agree_after_build (h : A.hosts.panel.Rooted own) (source : Source) (usePanel : Bool)
    (refusal : Option Nat) : Agree A (A.after (.build source usePanel refusal)) := by
  have hconfig : ((source.build usePanel).outcome (A.start refusal)).2.builder.config =
      A.builder.config := ((source.build_obedient usePanel).keeps (A.start refusal)).2
  have hroot : ((source.build usePanel).outcome (A.start refusal)).2.hosts.panel.Rooted own :=
    (source.build_spares usePanel).panel own (A.start refusal) h
  have hpages : ((source.build usePanel).outcome (A.start refusal)).2.hosts.pages.besides
      A.builder.config.controlPage = A.hosts.pages.besides A.builder.config.controlPage := by
    have hswept := A.swept_settled usePanel
    have hdown := teardown_outcome usePanel (A.start refusal)
    rw [Source.build_eq_bind] at hconfig ⊢
    -- Either nothing was reset, or the control page is settled wherever the build ended.
    split at hdown
    · rw [Step.outcome_bind_error hdown]
      rfl
    · split at hdown
      · rw [Step.outcome_bind_error hdown]
        exact hswept.besides
      · rw [Step.outcome_bind_ok hdown] at hconfig ⊢
        generalize ho : (source.construct usePanel).outcome _ = m at hconfig ⊢
        have hset := source.construct_settled hswept ho
        rw [← hset.besides, hconfig]
  refine ⟨hconfig.symm, ?_, ?_⟩
  · rw [← hpages, ← hconfig]
    rfl
  · rw [rootBindings_eq h]
    exact (rootBindings_eq hroot).symm

end Session

/-- A build does the same in any two sessions that agree, whatever led to them, and an
    earlier build, also one that failed, makes no difference. -/
theorem build_forgets (c d : Config) (E F : List Event) (source : Source) (usePanel : Bool)
    (h : (Session.history c E).Agree (Session.history d F)) :
    SameBuild usePanel ((Session.history c E).take none (source.build usePanel))
        ((Session.history d F).take none (source.build usePanel)) ∧
      ∀ earlier passed refusal,
        SameBuild usePanel ((Session.history c E).take none (source.build usePanel))
          (((Session.history c E).after (.build earlier passed refusal)).take none
            (source.build usePanel)) := by
  obtain ⟨own, hA⟩ := Session.history_rooted c E
  obtain ⟨other, hB⟩ := Session.history_rooted d F
  refine ⟨h.sameBuild hA hB source usePanel, fun earlier passed refusal => ?_⟩
  obtain ⟨left, hleft⟩ := Session.after_rooted hA (.build earlier passed refusal)
  exact (Session.agree_after_build hA earlier passed refusal).sameBuild hA hleft source usePanel

/-- A group with one button. -/
def oneButton : Description where
  name := none
  inputs := none
  outputs := none
  info := Meta.empty
  nodes := [.group .vertical "synth" Meta.empty
    [.input ⟨.button, "go", "/synth/go", ⟨0, 0, 0, 0⟩, Meta.empty⟩]]

/-- A page of another name, and a binding of the root. -/
def preparations : List Event :=
  [.addPage "Settings", .call (.bind Panel.Tree.root ⟨.readOnly, .display, "1"⟩)]

theorem build_forgets_refused_binding :
    let fresh := Session.history Config.default preparations
    let used := Session.history Config.default
      (.build (.description oneButton) true (some 6) :: preparations)
    fresh.hosts.panel ≠ used.hosts.panel ∧ fresh.Agree used ∧
      SameBuild true (fresh.take none ((Source.description oneButton).build true))
        (used.take none ((Source.description oneButton).build true)) := by
  intro fresh used
  have h : fresh.Agree used := by
    refine ⟨?_, ?_, ?_⟩
    · decide +kernel
    · decide +kernel
    · decide +kernel
  exact ⟨by decide +kernel, h, (build_forgets _ _ _ _ _ true h).1⟩

end ControlSurface.Build
