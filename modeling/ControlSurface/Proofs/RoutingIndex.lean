import ControlSurface.Proofs.Completion
import ControlSurface.Proofs.Shown
import Mathlib.Data.List.Flatten

/- The routes of a build are an index of its controls, both ways. Pages that came about by
   their own changes name no parameter twice (`Pages.after_names`), and neither do the pages that
   a build leaves, since the allocator starts from the names on the pages that are kept and
   takes every name that it gives. Widgets have addresses of their own, since a leaf becomes
   a widget only where its address is not known (`foldl_admitted_addresses`). So a name is
   routed to an address if and only if the parameter of that name is on the control page and
   belongs to the widget of that address (`build_indexes`), whatever labels a description has
   and whatever names the other pages hold. -/
namespace ControlSurface

namespace Pages

/-- A change of the pages that an operator can be asked for. -/
inductive Change where
  | add (page : String)
  | reset (page : String)
  | append (page : String) (p : Parameter)

/-- Carries a change out. -/
def Change.perform (ps : Pages) : Change → Except HostFault Pages
  | add page => .ok (ps.add page)
  | reset page => .ok (ps.reset page)
  | append page p => ps.append page p

/-- The pages after one change more. A change that is refused leaves them as they were. -/
def Change.carry (ps : Pages) (c : Change) : Pages := (c.perform ps).toOption.getD ps

/-- What changes make of no pages at all. -/
def after (changes : List Change) : Pages := changes.foldl Change.carry empty

/-! ## Names on the pages -/

theorem names_mk_cons (q : Page) (qs : List Page) :
    (⟨q :: qs⟩ : Pages).names = q.parameters.map (·.name) ++ (⟨qs⟩ : Pages).names := by
  simp [names, parameters]

theorem names_mk_append (qs rs : List Page) :
    (⟨qs ++ rs⟩ : Pages).names = (⟨qs⟩ : Pages).names ++ (⟨rs⟩ : Pages).names := by
  simp [names, parameters]

/-- The names on the pages that are kept, in order. -/
theorem names_besides_sublist (ps : Pages) (page : String) :
    List.Sublist (⟨ps.besides page⟩ : Pages).names ps.names := by
  apply List.Sublist.map
  apply List.Sublist.flatMap
  exact List.filter_sublist

theorem names_add (ps : Pages) (page : String) : (ps.add page).names = ps.names := by
  simp [add, names, parameters]

/-- Where a page takes a parameter there is one name more. -/
theorem appendTo_names {page : String} {p : Parameter} {qs rs : List Page}
    (h : appendTo page p qs = some rs) :
    (⟨rs⟩ : Pages).names.Perm (p.name :: (⟨qs⟩ : Pages).names) := by
  induction qs generalizing rs with
  | nil => cases h
  | cons q qs ih =>
    rw [appendTo] at h
    split at h
    · cases h
      simp [names_mk_cons]
    · obtain ⟨rest, hrest, rfl⟩ := Option.map_eq_some_iff.mp h
      rw [names_mk_cons, names_mk_cons]
      exact ((ih hrest).append_left _).trans List.perm_middle

/-- A parameter that the pages take has a name that was not there. -/
theorem append_names {ps qs : Pages} {page : String} {p : Parameter}
    (h : ps.append page p = .ok qs) :
    p.name ∉ ps.names ∧ qs.names.Perm (p.name :: ps.names) := by
  rw [append] at h
  split at h
  · cases h
  · next hnew =>
    split at h
    · next hlist =>
      cases h
      refine ⟨fun hmem => hnew ?_, appendTo_names hlist⟩
      obtain ⟨q, hq, hname⟩ := List.mem_map.mp hmem
      rw [parameter?, List.find?_isSome]
      exact ⟨q, hq, beq_iff_eq.mpr hname⟩
    · cases h

/-- A change keeps the names apart. -/
theorem Change.carry_names {ps : Pages} (h : ps.names.Nodup) (c : Change) :
    (c.carry ps).names.Nodup := by
  rw [carry]
  cases hc : c.perform ps with
  | error fault => exact h
  | ok qs =>
    show qs.names.Nodup
    cases c with
    | add page =>
      cases hc
      rw [names_add]
      exact h
    | reset page =>
      cases hc
      have hreset : (ps.reset page).names = (⟨ps.besides page⟩ : Pages).names := names_add _ page
      rw [hreset]
      exact h.sublist (ps.names_besides_sublist page)
    | append page p =>
      obtain ⟨hnew, hperm⟩ := append_names hc
      rw [hperm.nodup_iff, List.nodup_cons]
      exact ⟨hnew, h⟩

/-- Pages name no parameter twice, whatever changes made them. -/
theorem after_names (changes : List Change) : (after changes).names.Nodup := by
  have hrun : ∀ ps : Pages, ps.names.Nodup → (changes.foldl Change.carry ps).names.Nodup := by
    induction changes with
    | nil => intro ps h; exact h
    | cons c changes ih => intro ps h; exact ih _ (Change.carry_names h c)
  exact hrun empty List.nodup_nil

end Pages

namespace Build

/-! ## The index -/

/-- The routes are an index: names and addresses are all different, and a name is routed to an
    address if and only if the control page has a parameter of the name that belongs to the
    widget of the address. -/
structure Indexed (B : Session) : Prop where
  names : B.hosts.pages.names.Nodup
  addresses : (B.hosts.routes.rows.map (·.address)).Nodup
  routed : ∀ name address, B.hosts.routes.address? name = some address ↔
    ∃ page, B.hosts.pages.page? B.builder.config.controlPage = some page ∧
      ∃ p ∈ page.parameters, p.name = name ∧
        ∃ w ∈ B.builder.widgets, w.address = address ∧ w.parameter = some p

/-- Among routes of which no two are of one parameter, that of a parameter is found. -/
theorem address?_eq_some_iff {t : RoutingTable} (h : (t.rows.map (·.parameter)).Nodup)
    (name address : String) :
    t.address? name = some address ↔ (⟨name, address⟩ : Route) ∈ t.rows := by
  rw [RoutingTable.address?, Option.map_eq_some_iff]
  constructor
  · rintro ⟨r, hr, rfl⟩
    have hname : r.parameter = name := by simpa using List.find?_some hr
    subst hname
    exact List.mem_of_find?_eq_some hr
  · intro hmem
    refine ⟨⟨name, address⟩, ?_, rfl⟩
    rw [← List.head?_filter, filter_key_eq h hmem]
    rfl

theorem mem_routesOf {ws : List Widget} {name address : String} :
    (⟨name, address⟩ : Route) ∈ routesOf ws ↔
      ∃ w ∈ ws, ∃ p, w.parameter = some p ∧ p.name = name ∧ w.address = address := by
  simp [routesOf, List.mem_filterMap, Option.map_eq_some_iff]

/-- The addresses of routes are addresses of widgets, in order. -/
theorem routesOf_addresses_sublist (ws : List Widget) :
    List.Sublist ((routesOf ws).map (·.address)) (ws.map (·.address)) := by
  induction ws with
  | nil => exact .slnil
  | cons w ws ih =>
    rw [routesOf, List.filterMap_cons]
    cases w.parameter with
    | none => exact ih.cons _
    | some p => exact ih.cons_cons _

/-- What is settled and routed is indexed, if no name and no address is there twice. -/
theorem Settled.indexed {others : List Page} {B : Session}
    (hs : Settled others B.builder B.hosts.pages)
    (hroutes : B.hosts.routes.rows = routesOf B.builder.widgets)
    (hnames : B.hosts.pages.names.Nodup)
    (haddresses : (B.builder.widgets.map (·.address)).Nodup) : Indexed B := by
  have hparameters : (B.hosts.routes.rows.map (·.parameter)).Nodup := by
    have hlast : B.hosts.pages.names = (⟨others⟩ : Pages).names ++
        (B.builder.widgets.filterMap (·.parameter)).map (·.name) := by
      rw [show B.hosts.pages = ⟨B.hosts.pages.list⟩ from rfl, hs.pages, Pages.names_mk_append]
      simp [Pages.names, Pages.parameters]
    rw [hlast, List.nodup_append] at hnames
    rw [hroutes, routesOf_parameters, List.filterMap_map]
    exact hnames.2.1
  refine ⟨hnames, ?_, fun name address => ?_⟩
  · rw [hroutes]
    exact haddresses.sublist (routesOf_addresses_sublist _)
  · rw [address?_eq_some_iff hparameters, hroutes, mem_routesOf, hs.page?]
    constructor
    · rintro ⟨w, hw, p, hp, hname, haddress⟩
      exact ⟨_, rfl, p, List.mem_filterMap.mpr ⟨w, hw, hp⟩, hname, w, hw, haddress, hp⟩
    · rintro ⟨page, -, p, -, hname, w, hw, haddress, hp⟩
      exact ⟨w, hw, p, hp, hname, haddress⟩

section
variable {A B : Session} {d : Description} {usePanel : Bool} {report : Report}

/-- The names on the pages that a build leaves are all different if they were before. -/
theorem Built.names_nodup (h : Built A d usePanel report B) (hA : A.hosts.pages.names.Nodup) :
    B.hosts.pages.names.Nodup := by
  obtain ⟨hnodup, hnew⟩ := parametersOf_names (A.ready d usePanel).names
    (controlLeaves A.builder.config d)
  rw [← h.widgets.2, List.filterMap_map] at hnodup hnew
  have hkept : (A.ready d usePanel).names.used =
      (⟨A.hosts.pages.besides A.builder.config.controlPage⟩ : Pages).names := by
    rw [A.ready_names]
    rfl
  rw [show B.hosts.pages = ⟨B.hosts.pages.list⟩ from rfl, h.settled.pages, Pages.names_mk_append,
    List.nodup_append]
  refine ⟨hA.sublist (Pages.names_besides_sublist _ _), ?_, ?_⟩
  · simpa [Pages.names, Pages.parameters] using hnodup
  · intro n hn m hm he
    subst he
    refine hnew n ?_ (hkept ▸ hn)
    simpa [Pages.names, Pages.parameters] using hm

theorem Built.indexed (h : Built A d usePanel report B) (hA : A.hosts.pages.names.Nodup) :
    Indexed B :=
  h.settled.indexed h.routes (h.names_nodup hA) h.addresses_nodup

/-- Without a description the index is empty. -/
theorem Session.cleared_indexed (hA : A.hosts.pages.names.Nodup) (usePanel : Bool) :
    Indexed (A.cleared usePanel).session := by
  have hs := A.swept_settled usePanel
  refine Settled.indexed (B := A.swept usePanel) hs rfl ?_ List.nodup_nil
  have hnames : (A.swept usePanel).hosts.pages.names =
      (⟨A.hosts.pages.besides A.builder.config.controlPage⟩ : Pages).names :=
    Pages.names_add _ _
  rw [hnames]
  exact hA.sublist (Pages.names_besides_sublist _ _)

/-- A build of a source that ends well is the free build of a description, or leaves what a
    teardown leaves. -/
theorem Source.take_of_ok {source : Source} {refusal : Option Nat}
    (h : (A.take refusal (source.build usePanel)).1 = .ok report) :
    (A.take refusal (source.build usePanel)).2 = (A.cleared usePanel).session ∨
      ∃ d, A.take refusal (source.build usePanel) = A.take none (buildDescription d usePanel) := by
  have hfree := Session.take_of_ok (source.build_obedient usePanel) h
  rw [hfree] at h ⊢
  cases source with
  | description d => exact .inr ⟨d, rfl⟩
  | text t =>
    rw [Source.build, Session.take_buildText] at h ⊢
    split at h
    · next hblank => exact .inl (by rw [if_pos hblank])
    · next hblank =>
      rw [if_neg hblank]
      cases hread : Description.read t with
      | error e =>
        rw [hread] at h
        cases h
      | ok d => exact .inr ⟨d, rfl⟩

theorem Source.built_of_ok {source : Source} {refusal : Option Nat}
    (h : (A.take refusal (source.build usePanel)).1 = .ok report) :
    (A.take refusal (source.build usePanel)).2 = (A.cleared usePanel).session ∨
      ∃ d, Built A d usePanel report (A.take refusal (source.build usePanel)).2 := by
  refine (Source.take_of_ok h).imp_right fun ⟨d, hd⟩ => ?_
  rw [hd] at h ⊢
  exact ⟨d, Build.built_of_ok h⟩

end

/-- A build that ends well over pages that came about by their own changes leaves an index. -/
theorem build_indexes (b : Builder) (changes : List Pages.Change) (panel : Panel.Tree)
    (routes : RoutingTable) (source : Source) (usePanel : Bool) (refusal : Option Nat)
    (report : Report)
    (h : ((Session.mk b ⟨Pages.after changes, panel, routes⟩).take refusal
      (source.build usePanel)).1 = .ok report) :
    Indexed ((Session.mk b ⟨Pages.after changes, panel, routes⟩).take refusal
      (source.build usePanel)).2 := by
  have hnames : (Session.mk b ⟨Pages.after changes, panel, routes⟩).hosts.pages.names.Nodup :=
    Pages.after_names changes
  obtain hcleared | ⟨d, hbuilt⟩ := Source.built_of_ok h
  · rw [hcleared]
    exact Session.cleared_indexed hnames usePanel
  · exact hbuilt.indexed hnames

/-- Three buttons whose labels come to one name, or to a name that another would get with its
    number, and a read-out. -/
def gains : Description where
  name := none
  inputs := none
  outputs := none
  info := Meta.empty
  nodes := [.group .vertical "amp" Meta.empty
    [.input ⟨.button, "gain", "/a", ⟨0, 0, 0, 0⟩, Meta.empty⟩,
     .input ⟨.button, "Gain1", "/b", ⟨0, 0, 0, 0⟩, Meta.empty⟩,
     .input ⟨.button, "Gain", "/c", ⟨0, 0, 0, 0⟩, Meta.empty⟩,
     .output ⟨.verticalBargraph, "Gain", "/d", 0, 1, Meta.empty⟩]]

/-- The name of the first button is taken on another page, and a page of the control page's
    name holds what an earlier build left. -/
def takenNames : List Pages.Change :=
  [.add "Settings", .append "Settings" ⟨"Gain", "gain", none, .pulse⟩, .add "Control",
    .append "Control" ⟨"Gain2", "old", none, .pulse⟩,
    .append "Settings" ⟨"Gain2", "refused", none, .pulse⟩]

theorem build_indexes_gains :
    let A := Session.mk (Builder.new Config.default)
      ⟨Pages.after takenNames, Panel.Tree.empty, ⟨[⟨"Gain", "/old"⟩]⟩⟩
    let B := (A.take none ((Source.description gains).build true)).2
    (A.take none ((Source.description gains).build true)).1 = .ok ⟨3, 4, 0⟩ ∧ Indexed B ∧
      B.hosts.routes.rows = [⟨"Gain1", "/a"⟩, ⟨"Gain11", "/b"⟩, ⟨"Gain2", "/c"⟩] := by
  intro A B
  have h : (A.take none ((Source.description gains).build true)).1 = .ok ⟨3, 4, 0⟩ := by
    decide +kernel
  exact ⟨h, build_indexes _ _ _ _ _ _ _ _ h, by decide +kernel⟩

end Build

end ControlSurface
