import ControlSurface.Proofs.Traversal

/- What the leaves of a description do to builder and pages. A leaf that is left out is
   counted, the first leaf of an address becomes a widget, and every other leaf changes
   nothing (`Builder.admitted`). At every point of a build, also where a call fails, the control
   page stands last and holds the parameters of the widgets in order (`Settled`); only the
   step that makes a parameter has to be looked at for this, since all others change the
   panel alone. A part of a build that `Admits` leaves keeps the page settled and the routes
   as they are, and where it ends well the builder has admitted these leaves. A build is a
   teardown, whose outcome is given as it is, then all leaves of the description, then the
   routes. -/
namespace ControlSurface

@[simp] theorem Leaf.address_input (c : Input) : (Leaf.input c).address = c.address := rfl

@[simp] theorem Leaf.address_output (c : Output) : (Leaf.output c).address = c.address := rfl

namespace Pages

/-- The pages that do not have a name. -/
def besides (ps : Pages) (page : String) : List Page := ps.list.filter (·.name != page)

/-- A page that stands behind others of other names takes the parameter. -/
theorem appendTo_last {page : String} {others : List Page} (h : ∀ q ∈ others, q.name ≠ page)
    (ps : List Parameter) (p : Parameter) :
    appendTo page p (others ++ [⟨page, ps⟩]) = some (others ++ [⟨page, ps ++ [p]⟩]) := by
  induction others with
  | nil => simp [appendTo]
  | cons q qs ih =>
    have hq : q.name ≠ page := h q List.mem_cons_self
    have ih := ih fun r hr => h r (List.mem_cons_of_mem q hr)
    simp [appendTo, hq, ih]

theorem page?_last {page : String} {others : List Page} (h : ∀ q ∈ others, q.name ≠ page)
    (ps : List Parameter) : (⟨others ++ [⟨page, ps⟩]⟩ : Pages).page? page = some ⟨page, ps⟩ := by
  have hnone : others.find? (·.name == page) = none := by
    rw [List.find?_eq_none]
    intro q hq
    simpa using h q hq
  simp [page?, hnone]

theorem parameter?_eq_none {ps : Pages} {name : String} (h : name ∉ ps.names) :
    ps.parameter? name = none := by
  rw [parameter?, List.find?_eq_none]
  intro p hp
  have hne : p.name ≠ name := fun he => h (he ▸ List.mem_map_of_mem hp)
  simpa using hne

end Pages

namespace Build

/-! ## Admitting leaves -/

@[simp] theorem inputWidget_address (c : Input) (address : String) (p : Parameter) :
    (inputWidget c address p).address = address := by
  unfold inputWidget
  split <;> rfl

namespace Builder

/-- The canonical form of an address, under which a builder knows a control. -/
def key (b : Builder) (address : String) : String := Label.canonical b.config.stripRoot address

/-- Whether a builder leaves the leaves of an address out. -/
def hides (b : Builder) (address : String) : Bool := (b.voices.check (b.key address)).isSome

/-- The builder with a widget for a leaf. -/
def enter (b : Builder) : Leaf → Builder
  | .input c =>
    let (name, names) := b.names.allocate c.label
    let w := inputWidget c (b.key c.address) (Parameter.ofInput name c)
    { b.push w with names := names }
  | .output c => b.push (outputWidget c (b.key c.address))

theorem widget?_enter (b : Builder) (l : Leaf) : ∃ w, w.address = b.key l.address ∧
    ∀ address, (b.enter l).widget? address =
      if w.address = address then some w else b.widget? address := by
  cases l with
  | input c => exact ⟨_, inputWidget_address .., b.widget?_push _⟩
  | output c => exact ⟨_, rfl, b.widget?_push _⟩

/-- The builder after one more leaf. -/
def admitted (b : Builder) (l : Leaf) : Builder :=
  if b.hides l.address then { b with skipped := b.skipped + 1 }
  else if (b.widget? (b.key l.address)).isSome then b
  else b.enter l

theorem admitted_of_hides {b : Builder} {l : Leaf} (h : b.hides l.address = true) :
    b.admitted l = { b with skipped := b.skipped + 1 } := if_pos h

theorem admitted_of_known {b : Builder} {l : Leaf} {w : Widget} (h : b.hides l.address = false)
    (hw : b.widget? (b.key l.address) = some w) : b.admitted l = b := by
  unfold admitted
  rw [h, hw]
  rfl

theorem admitted_of_new {b : Builder} {l : Leaf} (h : b.hides l.address = false)
    (hw : b.widget? (b.key l.address) = none) : b.admitted l = b.enter l := by
  unfold admitted
  rw [h, hw]
  rfl

/-- Leaves that are admitted change neither configuration nor filter, and a widget that is
    there stays the widget of its address. -/
theorem admitted_keeps (b : Builder) (l : Leaf) :
    (b.admitted l).config = b.config ∧ (b.admitted l).voices = b.voices ∧
      ∀ address w, b.widget? address = some w → (b.admitted l).widget? address = some w := by
  have henter : (b.enter l).config = b.config ∧ (b.enter l).voices = b.voices := by
    cases l <;> exact ⟨rfl, rfl⟩
  unfold admitted
  split
  · exact ⟨rfl, rfl, fun _ _ hw => hw⟩
  · split
    · exact ⟨rfl, rfl, fun _ _ hw => hw⟩
    · next hnew =>
      refine ⟨henter.1, henter.2, fun address w hw => ?_⟩
      obtain ⟨v, hv, hwidget⟩ := b.widget?_enter l
      have hne : v.address ≠ address := by
        rintro rfl
        rw [hv] at hw
        simp [hw] at hnew
      rw [hwidget, if_neg hne, hw]

theorem foldl_admitted_keeps (b : Builder) (ls : List Leaf) :
    (ls.foldl admitted b).config = b.config ∧ (ls.foldl admitted b).voices = b.voices ∧
      ∀ address w, b.widget? address = some w →
        (ls.foldl admitted b).widget? address = some w := by
  induction ls generalizing b with
  | nil => exact ⟨rfl, rfl, fun _ _ hw => hw⟩
  | cons l ls ih =>
    obtain ⟨hconfig, hvoices, hwidgets⟩ := b.admitted_keeps l
    obtain ⟨hconfig', hvoices', hwidgets'⟩ := ih (b.admitted l)
    refine ⟨hconfig'.trans hconfig, hvoices'.trans hvoices, fun address w hw => ?_⟩
    exact hwidgets' address w (hwidgets address w hw)

end Builder

/-- The control page stands last and holds the parameters of the widgets in order, no other
    page has its name, and the names of all parameters are in use. -/
structure Settled (others : List Page) (b : Builder) (ps : Pages) : Prop where
  pages : ps.list = others ++ [⟨b.config.controlPage, b.widgets.filterMap (·.parameter)⟩]
  others : ∀ q ∈ others, q.name ≠ b.config.controlPage
  used : ∀ n ∈ ps.names, n ∈ b.names.used

/-- From a state on, a step keeps the page settled and the routes as they are, and where it
    ends well it leaves a given builder. -/
structure Step.LeadsTo {α : Type} (others : List Page) (s : State) (x : Step α) (b : Builder) :
    Prop where
  settled : Settled others (x.outcome s).2.builder (x.outcome s).2.hosts.pages
  routes : (x.outcome s).2.hosts.routes = s.hosts.routes
  builder : ∀ a, (x.outcome s).1 = .ok a → (x.outcome s).2.builder = b

/-- A step that admits leaves, from every settled state. -/
structure Step.Admits {α : Type} (x : Step α) (ls : List Leaf) : Prop where
  leadsTo : ∀ others s, Settled others s.builder s.hosts.pages →
    x.LeadsTo others s (ls.foldl Builder.admitted s.builder)

namespace Step
variable {α β : Type} {others : List Page} {s : State} {b : Builder}

theorem LeadsTo.of_ok {x : Step α} {a : α} {t : State} (hx : x.outcome s = (.ok a, t))
    (ht : Settled others t.builder t.hosts.pages) (hr : t.hosts.routes = s.hosts.routes)
    (hb : t.builder = b) : x.LeadsTo others s b := by
  constructor
  · rw [hx]; exact ht
  · rw [hx]; exact hr
  · intro a _
    rw [hx]
    exact hb

/-- A first step whose outcome is known and that leaves the routes alone. -/
theorem LeadsTo.after {x : Step α} {f : α → Step β} {a : α} {t : State}
    (hx : x.outcome s = (.ok a, t)) (hr : t.hosts.routes = s.hosts.routes)
    (hf : (f a).LeadsTo others t b) : (x >>= f).LeadsTo others s b := by
  constructor
  · rw [outcome_bind_ok hx]; exact hf.settled
  · rw [outcome_bind_ok hx]; exact hf.routes.trans hr
  · rw [outcome_bind_ok hx]; exact hf.builder

theorem LeadsTo.bind {x : Step α} {f : α → Step β} {m : Builder} (hx : x.LeadsTo others s m)
    (hf : ∀ a t, x.outcome s = (.ok a, t) → Settled others t.builder t.hosts.pages →
      t.hosts.routes = s.hosts.routes → t.builder = m → (f a).LeadsTo others t b) :
    (x >>= f).LeadsTo others s b := by
  obtain ⟨hset, hroutes, hb⟩ := hx
  rcases ho : x.outcome s with ⟨e | a, t⟩ <;> rw [ho] at hset hroutes hb
  · constructor
    · rw [outcome_bind_error ho]; exact hset
    · rw [outcome_bind_error ho]; exact hroutes
    · intro b hb
      rw [outcome_bind_error ho] at hb
      cases hb
  · obtain ⟨hset', hroutes', hb'⟩ := hf a t ho hset hroutes (hb a rfl)
    constructor
    · rw [outcome_bind_ok ho]; exact hset'
    · rw [outcome_bind_ok ho]; exact hroutes'.trans hroutes
    · rw [outcome_bind_ok ho]; exact hb'

namespace Admits

theorem pure (a : α) : Admits (Pure.pure a) [] :=
  ⟨fun _ _ hs => .of_ok (outcome_pure ..) hs rfl rfl⟩

theorem config : Admits Step.config [] :=
  ⟨fun _ _ hs => .of_ok (outcome_config _) hs rfl rfl⟩

theorem panel : Admits Step.panel [] :=
  ⟨fun _ _ hs => .of_ok (outcome_panel _) hs rfl rfl⟩

/-- Of the second step only those runs matter that the first leads to. -/
theorem bind_of_ok {x : Step α} {f : α → Step β} {ls ms : List Leaf} (hx : Admits x ls)
    (hf : ∀ a s, (x.outcome s).1 = .ok a → Admits (f a) ms) : Admits (x >>= f) (ls ++ ms) := by
  refine ⟨fun others s hs => .bind (hx.leadsTo others s hs) fun a t ho ht _ hb => ?_⟩
  rw [List.foldl_append, ← hb]
  exact (hf a s (congrArg Prod.fst ho)).leadsTo others t ht

end Admits

end Step

/-- Calls of the panel leave pages and routes alone. -/
theorem Call.perform_onPanel {c : Call} (hc : c.onPanel = true) {h k : Hosts} {id : Nat}
    (hk : c.perform h = .ok (id, k)) : k.pages = h.pages ∧ k.routes = h.routes := by
  cases c with
  | resetPage page | appendParameter page p => cases hc
  | clearPanel =>
    cases hk
    exact ⟨rfl, rfl⟩
  | create parent spec | bind node b | assign node key value | destroy node =>
    obtain ⟨t, -, rfl⟩ := perform_ok hk
    exact ⟨rfl, rfl⟩

theorem Step.Admits.call {c : Call} (hc : c.onPanel = true) : Admits (Step.call c) [] := by
  refine ⟨fun others s hs => ?_⟩
  obtain ⟨e, he⟩ | ⟨id, k, hk, ho⟩ := outcome_call_cases c s
  · constructor
    · rw [he]; exact hs
    · rw [he]
    · intro id _
      rw [he]
      rfl
  · obtain ⟨hpages, hroutes⟩ := Call.perform_onPanel hc hk
    exact .of_ok ho (hpages ▸ hs) hroutes rfl

/-! ## The steps of a leaf -/

/-- The canonical address of a leaf is given unless the leaf is left out. -/
theorem visibleAddress_outcome (address : String) (s : State) :
    (visibleAddress address).outcome s =
      if s.builder.hides address then
        (.ok none, { s with builder.skipped := s.builder.skipped + 1 })
      else (.ok (some (s.builder.key address)), s) := by
  rw [visibleAddress, Step.outcome_bind_ok (Step.outcome_builder s), Builder.hides, Builder.key]
  dsimp only
  cases s.builder.voices.check (Label.canonical s.builder.config.stripRoot address) with
  | none => rfl
  | some skip => rfl

@[simp] theorem inputWidget_parameter (c : Input) (address : String) (p : Parameter) :
    (inputWidget c address p).parameter = some p := by
  unfold inputWidget
  split <;> rfl

namespace Settled
variable {others : List Page} {b : Builder} {ps : Pages}

/-- The control page holds the parameters of the widgets. -/
theorem page? (hs : Settled others b ps) : ps.page? b.config.controlPage =
    some ⟨b.config.controlPage, b.widgets.filterMap (·.parameter)⟩ := by
  rw [show ps = ⟨ps.list⟩ from rfl, hs.pages]
  exact Pages.page?_last hs.others _

/-- The pages that do not have the control page's name. -/
theorem besides (hs : Settled others b ps) : ps.besides b.config.controlPage = others := by
  rw [Pages.besides, hs.pages, List.filter_append, List.filter_eq_self.mpr]
  · simp
  · intro q hq
    simpa using hs.others q hq

/-- More names may be in use. -/
theorem allocate (hs : Settled others b ps) (label : String) :
    Settled others { b with names := (b.names.allocate label).2 } ps :=
  ⟨hs.pages, hs.others, fun n hn => List.mem_cons_of_mem _ (hs.used n hn)⟩

/-- A leaf that gets no parameter leaves the pages as they are. -/
theorem enter_output (hs : Settled others b ps) (c : Output) :
    Settled others (b.enter (.output c)) ps where
  pages := by simpa [Builder.enter, outputWidget] using hs.pages
  others := hs.others
  used := hs.used

/-- The control page takes a parameter under a name that the allocator gives, and with the
    widget it is settled again. -/
theorem enter_input (hs : Settled others b ps) (c : Input) :
    ∃ qs, ps.append b.config.controlPage (Parameter.ofInput (b.names.allocate c.label).1 c) =
        .ok qs ∧ Settled others (b.enter (.input c)) qs := by
  have hfresh : (b.names.allocate c.label).1 ∉ ps.names := fun h =>
    Naming.fresh_not_mem b.names.used _ (hs.used _ h)
  refine ⟨⟨others ++ [⟨b.config.controlPage, b.widgets.filterMap (·.parameter) ++
    [Parameter.ofInput (b.names.allocate c.label).1 c]⟩]⟩, ?_, ?_, hs.others, ?_⟩
  · have hnone : ps.parameter? (Parameter.ofInput (b.names.allocate c.label).1 c).name = none :=
      Pages.parameter?_eq_none hfresh
    rw [Pages.append, hnone, hs.pages, Pages.appendTo_last hs.others]
    rfl
  · simp [Builder.enter]
  · -- The names on the pages are the old ones and the name that was just taken.
    intro n hn
    have hnames : n ∈ ps.names ∨ n = (b.names.allocate c.label).1 := by
      rw [show ps = ⟨ps.list⟩ from rfl, hs.pages]
      simpa [Pages.names, Pages.parameters, or_assoc, Parameter.ofInput] using hn
    rcases hnames with h | rfl
    · exact List.mem_cons_of_mem _ (hs.used n h)
    · exact List.mem_cons_self

end Settled

/-- A parameter is made for an address that is new: its name is taken, the control page takes
    it, and the widget follows unless the page refuses. -/
theorem parameterFor_outcome_new {s : State} (c : Input) {address : String}
    (hw : s.builder.widget? address = none) :
    (parameterFor c address).outcome s =
      let name := (s.builder.names.allocate c.label).1
      let p := Parameter.ofInput name c
      let t := { s with builder.names := (s.builder.names.allocate c.label).2 }
      match (Step.call (.appendParameter s.builder.config.controlPage p)).outcome t with
      | (.ok _, t) =>
        (.ok (some p), { t with builder := t.builder.push (inputWidget c address p) })
      | (.error e, t) => (.error e, t) := by
  rw [parameterFor, Step.outcome_bind_ok (Step.outcome_builder s), hw]
  dsimp only
  rw [Step.outcome_bind_ok (Step.outcome_update _ s), Step.outcome_bind, Step.outcome_perform]
  rcases (Step.call (.appendParameter s.builder.config.controlPage
    (Parameter.ofInput (s.builder.names.allocate c.label).1 c))).outcome
    { s with builder.names := (s.builder.names.allocate c.label).2 } with ⟨e | id, t⟩
  · rfl
  · rfl

/-- The parameter of an input control that is shown: of the widget of its address, or a new
    one. -/
theorem parameterFor_leadsTo {others : List Page} {s : State} (c : Input)
    (hs : Settled others s.builder s.hosts.pages) (hshown : s.builder.hides c.address = false) :
    (parameterFor c (s.builder.key c.address)).LeadsTo others s
      (s.builder.admitted (.input c)) := by
  cases hw : s.builder.widget? (s.builder.key c.address) with
  | some w =>
    have hb := Builder.admitted_of_known (l := .input c) hshown hw
    refine .of_ok (a := w.parameter) ?_ hs rfl hb.symm
    rw [parameterFor, Step.outcome_bind_ok (Step.outcome_builder s), hw]
    rfl
  | none =>
    rw [Builder.admitted_of_new (l := .input c) hshown hw]
    obtain ⟨qs, happend, hset⟩ := hs.enter_input c
    have ho := parameterFor_outcome_new c hw
    dsimp only at ho
    obtain ⟨e, he⟩ | ⟨id, k, hk, hcall⟩ := Step.outcome_call_cases
      (.appendParameter s.builder.config.controlPage
        (Parameter.ofInput (s.builder.names.allocate c.label).1 c))
      { s with builder.names := (s.builder.names.allocate c.label).2 }
    · -- The name is taken before the call, so a refusal leaves one more name in use.
      rw [he] at ho
      constructor
      · rw [ho]; exact hs.allocate c.label
      · rw [ho]
      · intro p hp
        rw [ho] at hp
        cases hp
    · rw [hcall] at ho
      simp only [Call.perform, happend] at hk
      cases hk
      exact .of_ok ho hset rfl rfl

open Step (Admits)

theorem admitInput_admits (c : Input) : Admits (admitInput c) [.input c] := by
  refine ⟨fun others s hs => ?_⟩
  rw [List.foldl_cons, List.foldl_nil]
  have ho := visibleAddress_outcome c.address s
  cases hv : s.builder.hides c.address with
  | true =>
    rw [if_pos hv] at ho
    have hb := Builder.admitted_of_hides (l := .input c) hv
    exact .of_ok (a := none) (Step.outcome_bind_ok ho) ⟨hs.pages, hs.others, hs.used⟩ rfl hb.symm
  | false =>
    rw [if_neg (by simp [hv])] at ho
    exact .after ho rfl (parameterFor_leadsTo c hs hv)

theorem admitOutput_admits (c : Output) : Admits (admitOutput c) [.output c] := by
  refine ⟨fun others s hs => ?_⟩
  rw [List.foldl_cons, List.foldl_nil]
  have ho := visibleAddress_outcome c.address s
  cases hv : s.builder.hides c.address with
  | true =>
    rw [if_pos hv] at ho
    have hb := Builder.admitted_of_hides (l := .output c) hv
    exact .of_ok (a := none) (Step.outcome_bind_ok ho) ⟨hs.pages, hs.others, hs.used⟩ rfl hb.symm
  | false =>
    rw [if_neg (by simp [hv])] at ho
    refine .after ho rfl (.after (Step.outcome_builder s) rfl ?_)
    dsimp only
    cases hw : s.builder.widget? (s.builder.key c.address) with
    | some w =>
      rw [Builder.admitted_of_known (l := .output c) hv hw, if_neg (by simp)]
      exact .of_ok (Step.outcome_pure _ s) hs rfl rfl
    | none =>
      rw [Builder.admitted_of_new (l := .output c) hv hw, if_pos Option.isNone_none]
      refine .after (t := { s with builder := s.builder.enter (.output c) }) rfl rfl ?_
      exact .of_ok (Step.outcome_pure _ _) (hs.enter_output c) rfl rfl

/-! ## A whole build -/

/-- The session after a teardown that no call of is refused. -/
def Session.swept (A : Session) (usePanel : Bool) : Session where
  builder :=
    let page := A.builder.config.controlPage
    { Builder.new A.builder.config with
      names := Naming.Allocator.empty.reserve (A.hosts.pages.reset page).names }
  hosts :=
    { pages := A.hosts.pages.reset A.builder.config.controlPage
      panel := if usePanel then A.hosts.panel.clear else A.hosts.panel
      routes := RoutingTable.empty }

/-- The calls of a teardown. -/
def teardownCalls (config : Config) (usePanel : Bool) : List Call :=
  .resetPage config.controlPage :: if usePanel then [.clearPanel] else []

/-- A teardown ends well unless one of its calls is refused. -/
theorem teardown_outcome (usePanel : Bool) (s : State) :
    (teardown usePanel).outcome s =
      if s.refusal = some s.calls.length then
        (.error (.host (.refused s.calls.length)),
          { s with
            builder := Builder.new s.builder.config
            calls := s.calls ++ [.resetPage s.builder.config.controlPage] })
      else if usePanel = true ∧ s.refusal = some (s.calls.length + 1) then
        (.error (.host (.refused (s.calls.length + 1))),
          { s with
            builder := (s.session.swept usePanel).builder
            hosts.pages := (s.session.swept usePanel).hosts.pages
            calls := s.calls ++ teardownCalls s.builder.config usePanel })
      else
        (.ok (),
          { s with
            builder := (s.session.swept usePanel).builder
            hosts := (s.session.swept usePanel).hosts
            calls := s.calls ++ teardownCalls s.builder.config usePanel }) := by
  rw [teardown, Step.outcome_bind_ok (Step.outcome_update _ s),
    Step.outcome_bind_ok (Step.outcome_config _), Step.outcome_bind, Step.outcome_perform,
    Step.outcome_call]
  by_cases h0 : s.refusal = some s.calls.length
  · rw [if_pos h0, if_pos h0]
    rfl
  rw [if_neg h0, if_neg h0]
  -- Both refusals apart, the steps but the clearing of the panel end well.
  let t : State :=
    { s with
      builder := (s.session.swept usePanel).builder
      hosts.pages := (s.session.swept usePanel).hosts.pages
      calls := s.calls ++ [.resetPage s.builder.config.controlPage] }
  have hlen : t.calls.length = s.calls.length + 1 := List.length_append
  have hlog : t.calls ++ [Call.clearPanel] = s.calls ++ teardownCalls s.builder.config true :=
    List.append_assoc ..
  show (if usePanel = true then Step.perform .clearPanel >>= fun _ =>
    Step.reroute fun _ => RoutingTable.empty else Step.reroute fun _ => RoutingTable.empty).outcome
      t = _
  cases usePanel with
  | false => rfl
  | true =>
    rw [if_pos rfl, Step.outcome_bind, Step.outcome_perform, Step.outcome_call, hlen, hlog]
    by_cases h1 : s.refusal = some (s.calls.length + 1)
    · rw [if_pos h1, if_pos ⟨rfl, h1⟩]
      rfl
    · rw [if_neg h1, if_neg fun h => h1 h.2]
      rfl

/-- A teardown that ends well sweeps the session. -/
theorem teardown_ok {usePanel : Bool} {s t : State} {a : Unit}
    (h : (teardown usePanel).outcome s = (.ok a, t)) :
    t = { s with
      builder := (s.session.swept usePanel).builder
      hosts := (s.session.swept usePanel).hosts
      calls := s.calls ++ teardownCalls s.builder.config usePanel } := by
  rw [teardown_outcome] at h
  split at h
  · cases h
  · split at h
    · cases h
    · cases h
      rfl

/-- The state in which a teardown leaves a build of which no call is refused. -/
def Session.cleared (A : Session) (usePanel : Bool) : State :=
  ⟨(A.swept usePanel).builder, (A.swept usePanel).hosts,
    teardownCalls A.builder.config usePanel, none⟩

/-- Where no call is refused, a teardown ends well. -/
theorem Session.teardown_free (A : Session) (usePanel : Bool) :
    (teardown usePanel).outcome (A.start none) = (.ok (), A.cleared usePanel) := by
  rw [teardown_outcome, if_neg (by simp [start]), if_neg (by simp [start])]
  rfl

theorem Session.take_teardown (A : Session) (usePanel : Bool) (x : Step Report) :
    A.take none (teardown usePanel >>= fun _ => x) =
      ((x.outcome (A.cleared usePanel)).1, (x.outcome (A.cleared usePanel)).2.session) := by
  rw [take_eq, Step.outcome_bind_ok (A.teardown_free usePanel)]

/-- A teardown leaves an empty control page behind the pages that it keeps. -/
theorem Session.swept_settled (A : Session) (usePanel : Bool) :
    Settled (A.hosts.pages.besides A.builder.config.controlPage) (A.swept usePanel).builder
      (A.swept usePanel).hosts.pages where
  pages := rfl
  others q hq := by simpa [Session.swept, Builder.new] using (List.mem_filter.mp hq).2
  used n hn := List.mem_append_left _ hn

/-- All calls of a build are made before it routes the parameters. -/
theorem populate_outcome (d : Description) (usePanel : Bool) (s : State) :
    (populate d usePanel).outcome s =
      match (arrange d usePanel).outcome
        { s with builder.voices := voicesOf s.builder.config d } with
      | (.ok _, t) =>
        (.ok t.builder.report, { t with
          hosts.routes := (routesOf t.builder.widgets).foldl
            (fun routes r => routes.append r.parameter r.address) t.hosts.routes })
      | (.error e, t) => (.error e, t) := by
  rw [populate_eq_bind, Step.outcome_bind_ok (Step.outcome_update _ s), Step.outcome_bind]
  rcases (arrange d usePanel).outcome
    { s with builder.voices := voicesOf s.builder.config d } with ⟨e | _, t⟩
  · rfl
  · dsimp only
    rw [Step.outcome_bind_ok (Step.outcome_builder t),
      Step.outcome_bind_ok (Step.outcome_reroute _ t), Step.outcome_pure]

theorem populate_outcome_ok {d : Description} {usePanel : Bool} {s t : State} {a : Unit}
    (h : (arrange d usePanel).outcome { s with builder.voices := voicesOf s.builder.config d } =
      (.ok a, t)) :
    (populate d usePanel).outcome s =
      (.ok t.builder.report, { t with
        hosts.routes := (routesOf t.builder.widgets).foldl
          (fun routes r => routes.append r.parameter r.address) t.hosts.routes }) := by
  rw [populate_outcome, h]

theorem arrange_admits (d : Description) (usePanel : Bool) :
    Admits (arrange d usePanel) d.leaves :=
  (arrange_rule (.of_plain .pure .bind_of_ok .config .panel (fun _ hc => .call hc)
    admitInput_admits admitOutput_admits) d usePanel).1

theorem arrange_leadsTo {others : List Page} {s : State}
    (hs : Settled others s.builder s.hosts.pages) (d : Description) (usePanel : Bool) :
    (arrange d usePanel).LeadsTo others { s with builder.voices := voicesOf s.builder.config d }
      (d.leaves.foldl Builder.admitted
        { s.builder with voices := voicesOf s.builder.config d }) :=
  (arrange_admits d usePanel).leadsTo others _ ⟨hs.pages, hs.others, hs.used⟩

/-- However a build ends, the control page is settled. -/
theorem populate_settled {others : List Page} {s u : State} {r : Except BuildError Report}
    {d : Description} {usePanel : Bool} (hs : Settled others s.builder s.hosts.pages)
    (h : (populate d usePanel).outcome s = (r, u)) : Settled others u.builder u.hosts.pages := by
  have hset := (arrange_leadsTo hs d usePanel).settled
  rw [populate_outcome] at h
  split at h
  · next ho =>
    cases h
    rw [ho] at hset
    exact hset
  · next ho =>
    cases h
    rw [ho] at hset
    exact hset

theorem construct_settled {others : List Page} {s u : State} {r : Except BuildError Report}
    {text : String} {usePanel : Bool} (hs : Settled others s.builder s.hosts.pages)
    (h : (construct text usePanel).outcome s = (r, u)) :
    Settled others u.builder u.hosts.pages := by
  rw [construct] at h
  split at h
  · -- A blank text leaves what the teardown left.
    cases h
    exact hs
  · split at h
    · exact populate_settled hs h
    · rw [Step.outcome_throw] at h
      cases h
      exact hs

end Build

end ControlSurface
