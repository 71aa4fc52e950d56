import ControlSurface.Proofs.Controls
import Mathlib.Data.List.Forall2
import Mathlib.Data.List.Nodup

/- What a build makes of a description, said without the build: of the leaves that the filter
   lets through the first of each canonical address is one control, in document order. The
   controls that are inputs get parameters, named one after the other by an allocator that
   knows the names on all other pages; the control page holds these parameters, and the
   routes send each to its control's address. `build_inventory` says that every build that
   ends well leaves exactly this, whatever builder and hosts held before, with or without a
   panel. It rests on `foldl_admitted`: leaves admitted one by one are the first leaves
   of their addresses. -/
namespace ControlSurface

namespace Leaf

/-- The kind of the control that a leaf is. -/
def widgetKind : Leaf → Build.WidgetKind
  | input c => .input c.kind
  | output c => .output c.kind

/-- What a leaf says of itself. -/
def info : Leaf → Meta
  | input c => c.info
  | output c => c.info

/-- The least and the greatest value of a leaf, and its step; zero for buttons and
    checkboxes. -/
def bounds : Leaf → Float × Float × Float
  | input c =>
    match c.kind with
    | .button | .checkbox => (0.0, 0.0, 0.0)
    | .numberEntry | .horizontalSlider | .verticalSlider =>
      (c.range.min, c.range.max, c.range.step)
  | output c => (c.min, c.max, 0.0)

/-- The address under which a leaf is known. -/
def canonical (strip : Bool) (l : Leaf) : String := Label.canonical strip l.address

end Leaf

namespace Build

/-- Whether the filter of a build lets a leaf through. -/
def isShown (config : Config) (d : Description) (l : Leaf) : Bool :=
  ((voicesOf config d).check (l.canonical config.stripRoot)).isNone

/-- The leaves that a build shows, in document order. -/
def shownLeaves (config : Config) (d : Description) : List Leaf :=
  d.leaves.filter (isShown config d)

/-- The leaves that a build leaves out. -/
def hiddenLeaves (config : Config) (d : Description) : List Leaf :=
  d.leaves.filter fun l => !isShown config d l

/-- Whether two leaves are one control. -/
def sameControl (strip : Bool) (l m : Leaf) : Bool := l.canonical strip == m.canonical strip

/-- The first shown leaf of each canonical address. -/
def controlLeaves (config : Config) (d : Description) : List Leaf :=
  (shownLeaves config d).eraseDupsBy (sameControl config.stripRoot)

/-- The parameters of controls, under the names that an allocator gives their labels one
    after the other. A read-out has none and takes no name. -/
def parametersOf : Naming.Allocator → List Leaf → List (Option Parameter)
  | _, [] => []
  | names, .input c :: ls =>
    some (Parameter.ofInput (names.allocate c.label).1 c) ::
      parametersOf (names.allocate c.label).2 ls
  | names, .output _ :: ls => none :: parametersOf names ls

/-- A widget that says what a leaf says. -/
structure Widget.Tells (strip : Bool) (l : Leaf) (w : Widget) : Prop where
  address : w.address = l.canonical strip
  kind : w.kind = l.widgetKind
  info : w.info = l.info
  bounds : (w.min, w.max, w.step) = l.bounds

/-- What a build of a description that ends well leaves of a session. -/
structure Inventory (A : Session) (d : Description) (report : Report) (B : Session) : Prop where
  addresses : B.builder.widgets.map (·.address) =
    ((shownLeaves A.builder.config d).map (·.canonical A.builder.config.stripRoot)).eraseDups
  widgets : List.Forall₂ (Widget.Tells A.builder.config.stripRoot)
    (controlLeaves A.builder.config d) B.builder.widgets
  parameters : B.builder.widgets.map (·.parameter) =
    parametersOf
      ⟨((A.hosts.pages.besides A.builder.config.controlPage).flatMap (·.parameters)).map (·.name)⟩
      (controlLeaves A.builder.config d)
  pages : B.hosts.pages.list = A.hosts.pages.besides A.builder.config.controlPage ++
    [⟨A.builder.config.controlPage, B.builder.widgets.filterMap (·.parameter)⟩]
  routes : B.hosts.routes.rows =
    B.builder.widgets.filterMap fun w => w.parameter.map fun p => ⟨p.name, w.address⟩
  report : report = ⟨(B.builder.widgets.filterMap (·.parameter)).length, B.builder.widgets.length,
    (hiddenLeaves A.builder.config d).length⟩

/-! ## Admitting leaves one by one -/

/-- The leaves among some that a builder neither hides nor knows, the first of each address. -/
def newLeaves (b : Builder) (ls : List Leaf) : List Leaf :=
  (ls.filter fun l => !b.hides l.address && (b.widget? (b.key l.address)).isNone).eraseDupsBy
    (sameControl b.config.stripRoot)

theorem newLeaves_of_hides {b : Builder} {l : Leaf} (ls : List Leaf)
    (h : b.hides l.address = true) : newLeaves b (l :: ls) = newLeaves b ls := by
  rw [newLeaves, List.filter_cons_of_neg (by simp [h])]
  rfl

theorem newLeaves_of_known {b : Builder} {l : Leaf} {w : Widget} (ls : List Leaf)
    (hw : b.widget? (b.key l.address) = some w) : newLeaves b (l :: ls) = newLeaves b ls := by
  rw [newLeaves, List.filter_cons_of_neg (by simp [hw])]
  rfl

namespace Builder

@[simp] theorem enter_config (b : Builder) (l : Leaf) : (b.enter l).config = b.config := by
  cases l <;> rfl

@[simp] theorem enter_skipped (b : Builder) (l : Leaf) : (b.enter l).skipped = b.skipped := by
  cases l <;> rfl

@[simp] theorem enter_key (b : Builder) (l : Leaf) (address : String) :
    (b.enter l).key address = b.key address := by
  cases l <;> rfl

@[simp] theorem enter_hides (b : Builder) (l : Leaf) (address : String) :
    (b.enter l).hides address = b.hides address := by
  cases l <;> rfl

/-- The widget that a leaf becomes says what the leaf says, and has the parameter of its
    label's name if the leaf is an input. -/
theorem enter_widgets (b : Builder) (l : Leaf) :
    ∃ w, (b.enter l).widgets = b.widgets ++ [w] ∧ Widget.Tells b.config.stripRoot l w ∧
      ∀ ls, w.parameter :: parametersOf (b.enter l).names ls = parametersOf b.names (l :: ls) := by
  cases l with
  | input c =>
    refine ⟨_, rfl, ⟨inputWidget_address .., ?_, ?_, ?_⟩, fun ls => ?_⟩
    · unfold inputWidget; split <;> rfl
    · unfold inputWidget; split <;> rfl
    · rcases c with ⟨_ | _ | _ | _ | _, label, address, range, info⟩ <;> rfl
    · rw [inputWidget_parameter, parametersOf]; rfl
  | output c => exact ⟨_, rfl, ⟨rfl, rfl, rfl, rfl⟩, fun _ => rfl⟩

/-- A leaf of the address of a widget that is added is known, and no other leaf is known
    that was not before. -/
theorem enter_widget?_isNone (b : Builder) (l : Leaf) (address : String) :
    ((b.enter l).widget? address).isNone =
      ((b.widget? address).isNone && !(address == b.key l.address)) := by
  obtain ⟨w, hkey, hwidget⟩ := b.widget?_enter l
  rw [hwidget, hkey]
  by_cases h : b.key l.address = address
  · simp [h]
  · simp [h, Ne.symm h]

end Builder

theorem newLeaves_of_new {b : Builder} {l : Leaf} (ls : List Leaf)
    (h : b.hides l.address = false) (hw : b.widget? (b.key l.address) = none) :
    newLeaves b (l :: ls) = l :: newLeaves (b.enter l) ls := by
  rw [newLeaves, List.filter_cons_of_pos (by simp [h, hw]), List.eraseDupsBy_cons,
    List.filter_filter, newLeaves, Builder.enter_config]
  congr 2
  apply List.filter_congr
  intro m _
  rw [Builder.enter_hides, Builder.enter_key, Builder.enter_widget?_isNone]
  have hsame : sameControl b.config.stripRoot m l = (b.key m.address == b.key l.address) := rfl
  rw [hsame]
  cases b.hides m.address <;> cases (b.widget? (b.key m.address)).isNone <;>
    cases (b.key m.address == b.key l.address) <;> rfl

/-- What leaves do that are admitted one by one: those that the builder hides are counted,
    and those that are new to it become widgets. -/
theorem foldl_admitted (b : Builder) (ls : List Leaf) :
    (ls.foldl Builder.admitted b).skipped =
      b.skipped + (ls.filter fun l => b.hides l.address).length ∧
    ∃ ws, (ls.foldl Builder.admitted b).widgets = b.widgets ++ ws ∧
      List.Forall₂ (Widget.Tells b.config.stripRoot) (newLeaves b ls) ws ∧
      ws.map (·.parameter) = parametersOf b.names (newLeaves b ls) := by
  induction ls generalizing b with
  | nil => exact ⟨rfl, [], (List.append_nil _).symm, .nil, rfl⟩
  | cons l ls ih =>
    rw [List.foldl_cons]
    cases h : b.hides l.address with
    | true =>
      obtain ⟨hs, ws, hws, htells, hps⟩ := ih { b with skipped := b.skipped + 1 }
      rw [Builder.admitted_of_hides h, newLeaves_of_hides ls h, List.filter_cons, if_pos h,
        List.length_cons]
      refine ⟨?_, ws, hws, htells, hps⟩
      calc (ls.foldl Builder.admitted { b with skipped := b.skipped + 1 }).skipped
          = b.skipped + 1 + (ls.filter fun l => b.hides l.address).length := hs
        _ = b.skipped + ((ls.filter fun l => b.hides l.address).length + 1) := by omega
    | false =>
      rw [List.filter_cons_of_neg (by simp [h])]
      cases hw : b.widget? (b.key l.address) with
      | some w =>
        rw [Builder.admitted_of_known h hw, newLeaves_of_known ls hw]
        exact ih b
      | none =>
        -- Once its widget stands, a leaf of the same address is no longer new.
        obtain ⟨w, hwid, htell, hparam⟩ := b.enter_widgets l
        obtain ⟨hs, ws, hws, htells, hps⟩ := ih (b.enter l)
        rw [Builder.admitted_of_new h hw, newLeaves_of_new ls h hw]
        rw [Builder.enter_config] at htells
        refine ⟨by simpa using hs, w :: ws, ?_, .cons htell htells, ?_⟩
        · rw [hws, hwid, List.append_assoc]
          rfl
        · rw [List.map_cons, hps, hparam]

/-- Induction along first leaves: after a leaf come those of the rest that have another
    address. -/
theorem firstLeaves_induct (strip : Bool) {P : List Leaf → Prop} (nil : P [])
    (cons : ∀ l ls, P (ls.filter fun m => sameControl strip m l = false) → P (l :: ls)) :
    ∀ ls, P ls
  | [] => nil
  | l :: ls => cons l ls (firstLeaves_induct strip nil cons _)
termination_by ls => ls.length
decreasing_by
  have hle := List.length_filter_le (fun m => sameControl strip m l = false) ls
  rw [List.length_cons]
  omega

/-- The addresses of the first leaves of each address are all addresses, each once. -/
theorem map_canonical_eraseDupsBy (strip : Bool) (ls : List Leaf) :
    (ls.eraseDupsBy (sameControl strip)).map (·.canonical strip) =
      (ls.map (·.canonical strip)).eraseDups := by
  induction ls using firstLeaves_induct strip with
  | nil => rfl
  | cons l ls ih =>
    rw [List.eraseDupsBy_cons, List.map_cons, ih, List.map_cons, List.eraseDups_cons,
      List.filter_map]
    congr 3
    apply List.filter_congr
    intro m _
    rw [sameControl, Function.comp]
    cases m.canonical strip == l.canonical strip <;> rfl

/-! ## Addresses of widgets -/

/-- A leaf that is admitted keeps the addresses of the widgets apart. -/
theorem admitted_addresses {b : Builder} (h : (b.widgets.map (·.address)).Nodup) (l : Leaf) :
    ((b.admitted l).widgets.map (·.address)).Nodup := by
  rw [Builder.admitted]
  split
  · exact h
  · split
    · exact h
    · next hnew =>
      obtain ⟨w, hw, htells, -⟩ := b.enter_widgets l
      have haddress : w.address = b.key l.address := htells.address
      have hunknown : ∀ v ∈ b.widgets, v.address ≠ w.address := by
        rw [Option.not_isSome_iff_eq_none, Builder.widget?_eq_none_iff] at hnew
        rw [haddress]
        exact hnew
      rw [hw, List.map_append, List.nodup_append]
      refine ⟨h, by simp, fun a ha c hc => ?_⟩
      obtain ⟨v, hv, rfl⟩ := List.mem_map.mp ha
      rw [List.mem_singleton.mp hc]
      exact hunknown v hv

theorem foldl_admitted_addresses {b : Builder} (h : (b.widgets.map (·.address)).Nodup)
    (ls : List Leaf) : ((ls.foldl Builder.admitted b).widgets.map (·.address)).Nodup := by
  induction ls generalizing b with
  | nil => exact h
  | cons l ls ih => exact ih (admitted_addresses h l)

/-! ## A build that ends well -/

/-- The builder from which the leaves of a description are admitted. -/
def Session.ready (A : Session) (d : Description) (usePanel : Bool) : Builder :=
  { (A.swept usePanel).builder with voices := voicesOf A.builder.config d }

section
variable (A : Session) (d : Description) (usePanel : Bool)

theorem Session.ready_hides (l : Leaf) :
    (A.ready d usePanel).hides l.address = !isShown A.builder.config d l := by
  rw [isShown, Option.not_isNone]
  rfl

theorem Session.ready_settled :
    Settled (A.hosts.pages.besides A.builder.config.controlPage) (A.ready d usePanel)
      (A.swept usePanel).hosts.pages :=
  let h := A.swept_settled usePanel
  ⟨h.pages, h.others, h.used⟩

/-- All shown leaves are new to a builder that was swept. -/
theorem newLeaves_ready :
    newLeaves (A.ready d usePanel) d.leaves = controlLeaves A.builder.config d := by
  unfold newLeaves controlLeaves shownLeaves
  congr 1
  apply List.filter_congr
  intro l _
  rw [A.ready_hides d usePanel l, Bool.not_not]
  exact Bool.and_true _

/-- The names that an allocator starts from are those on the pages that are kept. -/
theorem Session.ready_names :
    (A.ready d usePanel).names =
      ⟨((A.hosts.pages.besides A.builder.config.controlPage).flatMap (·.parameters)).map
        (·.name)⟩ := by
  simp [Session.ready, Session.swept, Naming.Allocator.reserve, Naming.Allocator.empty, Pages.names,
    Pages.parameters, Pages.reset, Pages.add, Pages.besides]

end

theorem foldl_append_rows (routes : List Route) (t : RoutingTable) :
    (routes.foldl (fun t r => t.append r.parameter r.address) t).rows = t.rows ++ routes := by
  induction routes generalizing t with
  | nil => simp
  | cons r routes ih => rw [List.foldl_cons, ih]; simp [RoutingTable.append]

theorem Builder.report_parameters (b : Builder) :
    b.report = ⟨(b.widgets.filterMap (·.parameter)).length, b.widgets.length, b.skipped⟩ := by
  rw [Builder.report, List.length_filterMap_eq_countP, List.countP_eq_length_filter]

/-- The builder that a build which ends well leaves: it has admitted all leaves, and pages,
    routes and report are those of its widgets. -/
structure Built (A : Session) (d : Description) (usePanel : Bool) (report : Report)
    (B : Session) : Prop where
  builder : B.builder = d.leaves.foldl Builder.admitted (A.ready d usePanel)
  settled : Settled (A.hosts.pages.besides A.builder.config.controlPage) B.builder B.hosts.pages
  routes : B.hosts.routes.rows = routesOf B.builder.widgets
  report : report = B.builder.report

section
variable {A B : Session} {d : Description} {usePanel : Bool} {refusal : Option Nat}
  {report : Report}

theorem built_of_ok (h : (A.take refusal (buildDescription d usePanel)).1 = .ok report) :
    Built A d usePanel report (A.take refusal (buildDescription d usePanel)).2 := by
  rw [Session.take_eq] at h ⊢
  generalize ho : (buildDescription d usePanel).outcome (A.start refusal) = r at h ⊢
  obtain ⟨_, u⟩ := r
  cases h
  obtain ⟨_, s, hdown, hup⟩ := Step.ok_of_bind_ok ho
  have hs := teardown_ok hdown
  have hsettled : Settled (A.hosts.pages.besides A.builder.config.controlPage) s.builder
      s.hosts.pages := hs ▸ A.swept_settled usePanel
  obtain ⟨hset, hroutes, hbuilder⟩ := arrange_leadsTo hsettled d usePanel
  rw [populate_outcome] at hup
  generalize (arrange d usePanel).outcome _ = m at hup hset hroutes hbuilder
  obtain ⟨_ | _, t⟩ := m
  · cases hup
  cases hup
  have hrows : t.hosts.routes = RoutingTable.empty := by
    rw [hroutes, hs]
    rfl
  refine ⟨?_, hset, ?_, rfl⟩
  · show t.builder = _
    rw [hbuilder () rfl, hs]
    rfl
  · dsimp only [State.session]
    rw [foldl_append_rows, hrows]
    rfl

namespace Built

theorem config (h : Built A d usePanel report B) : B.builder.config = A.builder.config := by
  rw [h.builder]
  exact (Builder.foldl_admitted_keeps _ _).1

theorem addresses_nodup (h : Built A d usePanel report B) :
    (B.builder.widgets.map (·.address)).Nodup := by
  have hnone : ((A.ready d usePanel).widgets.map (·.address)).Nodup := List.nodup_nil
  rw [h.builder]
  exact foldl_admitted_addresses hnone d.leaves

/-- Under an address a build sees the only widget of the address. -/
theorem widget?_eq_find? (h : Built A d usePanel report B) (address : String) :
    B.builder.widget? address = B.builder.widgets.find? (·.address == address) := by
  cases hv : B.builder.widget? address with
  | none =>
    rw [eq_comm, List.find?_eq_none]
    simpa using (B.builder.widget?_eq_none_iff address).mp hv
  | some v =>
    obtain ⟨hmem, hsame⟩ := Builder.of_widget?_eq_some hv
    obtain ⟨w, hw⟩ : ∃ w, B.builder.widgets.find? (·.address == address) = some w := by
      rw [← Option.isSome_iff_exists, List.find?_isSome]
      exact ⟨v, hmem, beq_iff_eq.mpr hsame⟩
    have haddress : w.address = address := by simpa using List.find?_some hw
    rw [hw, List.inj_on_of_nodup_map h.addresses_nodup hmem (List.mem_of_find?_eq_some hw)
      (hsame.trans haddress.symm)]

/-- The widgets of a build are its controls, and their parameters have been allocated. -/
theorem widgets (h : Built A d usePanel report B) :
    List.Forall₂ (Widget.Tells A.builder.config.stripRoot) (controlLeaves A.builder.config d)
        B.builder.widgets ∧
      B.builder.widgets.map (·.parameter) = parametersOf (A.ready d usePanel).names
        (controlLeaves A.builder.config d) := by
  obtain ⟨-, ws, hws, htells, hps⟩ := foldl_admitted (A.ready d usePanel) d.leaves
  rw [newLeaves_ready] at htells hps
  rw [h.builder, hws]
  exact ⟨htells, hps⟩

theorem skipped (h : Built A d usePanel report B) :
    B.builder.skipped = (hiddenLeaves A.builder.config d).length := by
  obtain ⟨hskipped, -⟩ := foldl_admitted (A.ready d usePanel) d.leaves
  rw [h.builder, hskipped]
  simp only [A.ready_hides, hiddenLeaves]
  exact Nat.zero_add _

end Built

end

/-- A build that ends well leaves the inventory of its description, whatever it starts from. -/
theorem build_inventory (A : Session) (d : Description) (usePanel : Bool) (refusal : Option Nat)
    (report : Report) (h : (A.take refusal (buildDescription d usePanel)).1 = .ok report) :
    Inventory A d report (A.take refusal (buildDescription d usePanel)).2 := by
  have hbuilt := built_of_ok h
  generalize (A.take refusal (buildDescription d usePanel)).2 = B at hbuilt ⊢
  obtain ⟨htells, hps⟩ := hbuilt.widgets
  rw [A.ready_names] at hps
  have haddresses : (controlLeaves A.builder.config d).map
      (·.canonical A.builder.config.stripRoot) = B.builder.widgets.map (·.address) := by
    rw [← List.forall₂_eq_eq_eq, List.forall₂_map_left_iff, List.forall₂_map_right_iff]
    exact htells.imp fun _ _ h => h.address.symm
  refine ⟨?_, htells, hps, hbuilt.config ▸ hbuilt.settled.pages, hbuilt.routes, ?_⟩
  · exact haddresses.symm.trans (map_canonical_eraseDupsBy _ _)
  · rw [hbuilt.report, Builder.report_parameters, hbuilt.skipped]

/-- A group in which a bar graph has the address of the button before it, and in which the
    operator's own control stands. -/
def sharedAddress : Description where
  name := none
  inputs := none
  outputs := none
  info := Meta.empty
  nodes := [.group .vertical "synth" Meta.empty
    [.input ⟨.button, "go", "/synth/go", ⟨0, 0, 0, 0⟩, Meta.empty⟩,
     .output ⟨.verticalBargraph, "level", "/synth/go", 0, 1, Meta.empty⟩,
     .input ⟨.button, "stop", "/synth/Panic", ⟨0, 0, 0, 0⟩, Meta.empty⟩]]

/-- A session in which another page has the name that the button would get, and in which the
    control page holds what an earlier build left. -/
def usedName : Session where
  builder := Builder.new Config.default
  hosts := { Hosts.empty with
    pages := ⟨[⟨"Control", [⟨"Old", "old", none, .pulse⟩]⟩,
      ⟨"Settings", [⟨"Go", "go", none, .pulse⟩]⟩]⟩ }

theorem build_inventory_of_shared_address :
    (usedName.take none (buildDescription sharedAddress true)).1 = .ok ⟨1, 1, 1⟩ ∧
      Inventory usedName sharedAddress ⟨1, 1, 1⟩
        (usedName.take none (buildDescription sharedAddress true)).2 ∧
      (usedName.take none (buildDescription sharedAddress true)).2.hosts.routes.rows =
        [⟨"Go1", "/synth/go"⟩] := by
  have h : (usedName.take none (buildDescription sharedAddress true)).1 = .ok ⟨1, 1, 1⟩ := by
    decide +kernel
  exact ⟨h, build_inventory _ _ _ _ _ h, by decide +kernel⟩

end Build

end ControlSurface
