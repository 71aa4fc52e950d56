import ControlSurface.Proofs.Completion
import ControlSurface.Proofs.Shown

/- The panel does not reach the parameters. Of the configuration only four settings matter to
   which controls and parameters a build makes (`SameControls`): how voices are treated, how
   addresses are exported, and which page is the control page. Two builds of one source over
   the same pages whose configurations agree in these come to the same result, pages, routes
   and widgets (`build_ignores_panel`), whatever the other settings are, whatever was built
   before, and whether or not either is given a panel. The builder that admits leaves reads
   its configuration for the addresses alone (`foldl_admitted_configured`). -/
namespace ControlSurface

/-- Configurations under which the same controls are made. -/
structure Config.SameControls (c d : Config) : Prop where
  polyphony : c.polyphony = d.polyphony
  groupVoices : c.groupVoices = d.groupVoices
  stripRoot : c.stripRoot = d.stripRoot
  controlPage : c.controlPage = d.controlPage

namespace Build

/-- The builder under another configuration. -/
def Builder.configured (b : Builder) (c : Config) : Builder := { b with config := c }

/-- The session over other pages. -/
def Session.withPages (A : Session) (ps : Pages) : Session := { A with hosts.pages := ps }

/-- Builds that came to the same but for the panel: result, pages, routes and widgets. -/
structure SameParameters (a b : Except BuildError Report × Session) : Prop where
  result : a.1 = b.1
  pages : a.2.hosts.pages = b.2.hosts.pages
  routes : a.2.hosts.routes = b.2.hosts.routes
  widgets : a.2.builder.widgets = b.2.builder.widgets

/-! ## Admitting leaves under another configuration -/

namespace Builder
variable {c : Config}

theorem configured_key (b : Builder) (h : c.stripRoot = b.config.stripRoot) (address : String) :
    (b.configured c).key address = b.key address := by
  rw [key, key, configured, h]

theorem configured_hides (b : Builder) (h : c.stripRoot = b.config.stripRoot)
    (address : String) : (b.configured c).hides address = b.hides address := by
  rw [hides, hides, b.configured_key h]
  rfl

theorem configured_enter (b : Builder) (h : c.stripRoot = b.config.stripRoot) (l : Leaf) :
    (b.configured c).enter l = (b.enter l).configured c := by
  have hkey := b.configured_key h l.address
  cases l with
  | input control =>
    rw [Leaf.address_input] at hkey
    rw [enter, enter, hkey]
    rfl
  | output control =>
    rw [Leaf.address_output] at hkey
    rw [enter, enter, hkey]
    rfl

theorem configured_admitted (b : Builder) (h : c.stripRoot = b.config.stripRoot) (l : Leaf) :
    (b.configured c).admitted l = (b.admitted l).configured c := by
  have hhides := b.configured_hides h l.address
  have hkey := b.configured_key h l.address
  cases hv : b.hides l.address with
  | true => rw [admitted_of_hides hv, admitted_of_hides (hhides.trans hv)]; rfl
  | false =>
    rw [hv] at hhides
    cases hw : b.widget? (b.key l.address) with
    | some w =>
      have hw' : (b.configured c).widget? ((b.configured c).key l.address) = some w := by
        rw [hkey]
        exact hw
      rw [admitted_of_known hv hw, admitted_of_known hhides hw']
    | none =>
      have hw' : (b.configured c).widget? ((b.configured c).key l.address) = none := by
        rw [hkey]
        exact hw
      rw [admitted_of_new hv hw, admitted_of_new hhides hw', b.configured_enter h]

theorem foldl_admitted_configured (b : Builder) (h : c.stripRoot = b.config.stripRoot)
    (ls : List Leaf) :
    ls.foldl admitted (b.configured c) = (ls.foldl admitted b).configured c := by
  induction ls generalizing b with
  | nil => rfl
  | cons l ls ih =>
    have hnext : c.stripRoot = (b.admitted l).config.stripRoot := by
      rw [(b.admitted_keeps l).1, h]
    rw [List.foldl_cons, b.configured_admitted h, ih _ hnext, List.foldl_cons]

end Builder

/-! ## Two builds -/

section
variable {A B : Session} {own other : List Panel.Binding} {p q : Bool}

/-- Over the same pages, teardowns under configurations that agree leave the same pages. -/
theorem Session.swept_pages (hpages : A.hosts.pages = B.hosts.pages)
    (hconfig : A.builder.config.SameControls B.builder.config) :
    (A.swept p).hosts.pages = (B.swept q).hosts.pages := by
  show A.hosts.pages.reset A.builder.config.controlPage =
    B.hosts.pages.reset B.builder.config.controlPage
  rw [hpages, hconfig.controlPage]

/-- Builders that are ready for a description differ in their configuration alone. -/
theorem Session.ready_configured (hpages : A.hosts.pages = B.hosts.pages)
    (hconfig : A.builder.config.SameControls B.builder.config) (d : Description) :
    A.ready d p = (B.ready d q).configured A.builder.config := by
  have hvoices : voicesOf A.builder.config d = voicesOf B.builder.config d := by
    unfold voicesOf Voice.Filter.ofConfig
    rw [hconfig.polyphony, hconfig.groupVoices, hconfig.stripRoot]
  have hnames : (A.swept p).builder.names = (B.swept q).builder.names := by
    unfold Session.swept
    dsimp only
    rw [hpages, hconfig.controlPage]
  unfold Session.ready
  rw [hvoices]
  exact congrArg (fun names => { (A.swept p).builder with
    names := names
    voices := voicesOf B.builder.config d }) hnames

/-- Builds of one description come to the same parameters. -/
theorem buildDescription_same (hA : A.hosts.panel.Rooted own) (hB : B.hosts.panel.Rooted other)
    (hpages : A.hosts.pages = B.hosts.pages)
    (hconfig : A.builder.config.SameControls B.builder.config) (d : Description) :
    SameParameters (A.take none (buildDescription d p)) (B.take none (buildDescription d q)) := by
  obtain ⟨hokA, hbuiltA⟩ := Session.build_free_built hA d p
  obtain ⟨hokB, hbuiltB⟩ := Session.build_free_built hB d q
  generalize A.take none (buildDescription d p) = a at hokA hbuiltA ⊢
  generalize B.take none (buildDescription d q) = b at hokB hbuiltB ⊢
  have hbuilder : a.2.builder = b.2.builder.configured A.builder.config := by
    calc a.2.builder
        = d.leaves.foldl Builder.admitted ((B.ready d q).configured A.builder.config) := by
          rw [hbuiltA.builder, Session.ready_configured hpages hconfig]
      _ = (d.leaves.foldl Builder.admitted (B.ready d q)).configured A.builder.config :=
          Builder.foldl_admitted_configured (B.ready d q) hconfig.stripRoot d.leaves
      _ = b.2.builder.configured A.builder.config := by rw [hbuiltB.builder]
  have hwidgets : a.2.builder.widgets = b.2.builder.widgets := by rw [hbuilder]; rfl
  have hreport : a.2.builder.report = b.2.builder.report := by rw [hbuilder]; rfl
  obtain ⟨hpages', hroutes⟩ := hbuiltA.same_hosts hbuiltB hpages hconfig.controlPage hwidgets
  refine ⟨?_, hpages', hroutes, hwidgets⟩
  rw [hokA, hokB, hreport]

/-- Sessions that were swept have the same parameters. -/
theorem cleared_same (hpages : A.hosts.pages = B.hosts.pages)
    (hconfig : A.builder.config.SameControls B.builder.config)
    (result : Except BuildError Report) :
    SameParameters (result, (A.cleared p).session) (result, (B.cleared q).session) :=
  ⟨rfl, Session.swept_pages hpages hconfig, rfl, rfl⟩

theorem Source.build_same (hA : A.hosts.panel.Rooted own) (hB : B.hosts.panel.Rooted other)
    (hpages : A.hosts.pages = B.hosts.pages)
    (hconfig : A.builder.config.SameControls B.builder.config) (source : Source) :
    SameParameters (A.take none (source.build p)) (B.take none (source.build q)) := by
  cases source with
  | description d => exact buildDescription_same hA hB hpages hconfig d
  | text t =>
    rw [Source.build, Source.build, Session.take_buildText, Session.take_buildText]
    split
    · exact cleared_same hpages hconfig _
    · cases Description.read t with
      | error e => exact cleared_same hpages hconfig _
      | ok d => exact buildDescription_same hA hB hpages hconfig d

end

/-- Builds of one source over the same pages come to the same result, pages, routes and
    widgets if their configurations agree in what the controls depend on. -/
theorem build_ignores_panel (c d : Config) (E F : List Event) (ps : Pages) (source : Source)
    (p q : Bool)
    (h : (Session.history c E).builder.config.SameControls
      (Session.history d F).builder.config) :
    SameParameters (((Session.history c E).withPages ps).take none (source.build p))
      (((Session.history d F).withPages ps).take none (source.build q)) := by
  obtain ⟨own, hA⟩ := Session.history_rooted c E
  obtain ⟨other, hB⟩ := Session.history_rooted d F
  have hrootA : ((Session.history c E).withPages ps).hosts.panel.Rooted own := hA
  have hrootB : ((Session.history d F).withPages ps).hosts.panel.Rooted other := hB
  exact Source.build_same hrootA hrootB rfl h source

/-- A configuration that shows everything otherwise than the default does. -/
def otherLooks : Config :=
  { Config.default with
    operatorPath := "/project1/synth", nodeSpacing := -40, headerless := [],
    sequencerLabel := "synth" }

theorem build_ignores_panel_of_other_looks :
    let E : List Event := [.build (.description twoPages) true (some 7), .configure otherLooks]
    (Session.history Config.default E).builder.config.SameControls
        (Session.history Config.default []).builder.config ∧
      (((Session.history Config.default []).withPages usedName.hosts.pages).take none
        ((Source.description sharedAddress).build false)).1 = .ok ⟨1, 1, 1⟩ ∧
      SameParameters
        (((Session.history Config.default E).withPages usedName.hosts.pages).take none
          ((Source.description sharedAddress).build true))
        (((Session.history Config.default []).withPages usedName.hosts.pages).take none
          ((Source.description sharedAddress).build false)) := by
  intro E
  have h : (Session.history Config.default E).builder.config.SameControls
      (Session.history Config.default []).builder.config := ⟨rfl, rfl, rfl, rfl⟩
  exact ⟨h, by decide +kernel, build_ignores_panel _ _ _ _ _ _ _ _ h⟩

end Build

end ControlSurface
