import ControlSurface.Proofs.Tabs

/- The pages of a polyphonic sequencer: a tab group with the sequencer's label and no header
   around it. Its pages have labels of their own, which count the pages that are left, not the
   items (`build_labels_sequencers`). The page of the first item says Instrument. The page of the
   second item says Effect only if the page of the first is left; else it says Instrument
   (`instrument_page_of_effect`). The place of a page among the pages is the number of items
   before its own that have a page (`survivors_getElem?`). -/
namespace ControlSurface

namespace Panel.Nested

/-- The labels that a selector lists. -/
def menuLabels? (n : Nested) : Option String :=
  match n.kind with
  | .widget .tabSelector properties => properties.lookup "Menulabels"
  | _ => none

/-- The place of the item that a slot was opened for. -/
def order? (n : Nested) : Option Nat :=
  match n.kind with
  | .container _ order => order
  | _ => none

end Panel.Nested

namespace Build

open Panel
open Nested (flattenAll isTabRadio)
open Appearance
open TabGroup (survivors labelsOf Wired)

/-! ## Where tab groups stand -/

/-- A tab group and the labels of the groups around it, the outermost first. -/
structure TabSite where
  around : List String
  label : String
  items : List ControlSurface.Node

mutual

/-- The tab groups of a node that stands in groups, each before those in it. -/
def tabSites (around : List String) : ControlSurface.Node → List TabSite
  | .input _ => []
  | .output _ => []
  | .soundfile _ => []
  | .group kind label _ items =>
    let below := tabSitesOf (around ++ [label]) items
    if kind = .tabbed then ⟨around, label, items⟩ :: below else below

/-- The tab groups of nodes that stand in groups, in document order. -/
def tabSitesOf (around : List String) : List ControlSurface.Node → List TabSite
  | [] => []
  | node :: nodes => tabSites around node ++ tabSitesOf around nodes

end

namespace TabSite

/-- Whether a tab group is the sequencer of a polyphonic instrument: it has the sequencer's label,
    and no group around it has a header. -/
def isRootSequencer (config : Config) (s : TabSite) : Bool :=
  config.polyphony && s.label == config.sequencerLabel && s.around.all config.isHeaderless

/-- What the tabs of a group depend on. -/
def group (config : Config) (s : TabSite) : TabGroup := ⟨s.items, s.isRootSequencer config⟩

/-- How many groups around a node have headers. -/
def headersIn (config : Config) (around : List String) : Nat :=
  (around.filter fun label => !config.isHeaderless label).length

theorem headersIn_append (config : Config) (around : List String) (kind : GroupKind)
    (label : String) :
    headersIn config (around ++ [label]) =
      (planOf config kind label (headersIn config around)).childDepth := by
  unfold headersIn planOf
  cases h : config.isHeaderless label <;> simp [h]

theorem isSequencer_eq (config : Config) (around : List String) (label : String)
    (items : List ControlSurface.Node) :
    (planOf config .tabbed label (headersIn config around)).isSequencer =
      isRootSequencer config ⟨around, label, items⟩ := by
  have hdepth : (headersIn config around = 0) ↔ around.all config.isHeaderless = true := by
    simp [headersIn, List.filter_eq_nil_iff]
  rw [Bool.eq_iff_iff]
  simp only [planOf, isRootSequencer, Bool.and_eq_true, decide_eq_true_eq, beq_iff_eq, hdepth,
    true_and]
  tauto

variable (config : Config)

mutual

/-- The tab groups of a node, found with the labels around them or with their depth. -/
theorem tabGroups_eq_map : ∀ (node : ControlSurface.Node) (around : List String),
    tabGroups config node (headersIn config around) = (tabSites around node).map (group config)
  | .input c, around => by simp [tabGroups, tabSites]
  | .output c, around => by simp [tabGroups, tabSites]
  | .soundfile f, around => by simp [tabGroups, tabSites]
  | .group kind label info items, around => by
    have hbelow := tabGroupsOf_eq_map items (around ++ [label])
    rw [headersIn_append config around kind label] at hbelow
    rw [tabGroups, tabSites, hbelow]
    split
    · next hkind =>
      subst hkind
      rw [List.map_cons, group, isSequencer_eq config around label items]
    · rfl

theorem tabGroupsOf_eq_map : ∀ (nodes : List ControlSurface.Node) (around : List String),
    tabGroupsOf config nodes (headersIn config around) =
      (tabSitesOf around nodes).map (group config)
  | [], around => by simp [tabGroupsOf, tabSitesOf]
  | node :: nodes, around => by
    rw [tabGroupsOf, tabSitesOf, List.map_append, tabGroups_eq_map node around,
      tabGroupsOf_eq_map nodes around]

end

end TabSite

/-! ## Pages and their labels -/

/-- Whether a leaf of an item is placed, so that its page survives. -/
def survives (placed : Leaf → Bool) (item : ControlSurface.Node) : Bool := item.leaves.any placed

/-- The number of the page of an item: how many items before it have a page. -/
def pageNumber (placed : Leaf → Bool) (items : List ControlSurface.Node) (j : Nat) : Nat :=
  ((items.take j).filter (survives placed)).length

/-- An item that survives stands among the survivors behind those before it. -/
theorem survivors_getElem? {placed : Leaf → Bool} {items : List ControlSurface.Node} {j : Nat}
    {item : ControlSurface.Node} (hitem : items[j]? = some item)
    (h : survives placed item = true) (index : Nat) :
    (survivors placed items index)[pageNumber placed items j]? = some (item, index + j) := by
  induction items generalizing j index with
  | nil => cases hitem
  | cons first items ih =>
    rw [TabGroup.survivors_cons]
    cases j with
    | zero =>
      cases hitem
      unfold survives at h
      simp [h, pageNumber]
    | succ j =>
      have hrest := ih hitem (index + 1)
      rw [Nat.add_assoc, Nat.add_comm 1] at hrest
      unfold pageNumber at hrest ⊢
      rw [List.take_succ_cons, List.filter_cons]
      cases hfirst : first.leaves.any placed <;> simpa [survives, hfirst] using hrest

theorem pageNumber_one {placed : Leaf → Bool} {items : List ControlSurface.Node}
    {first : ControlSurface.Node} (h : items[0]? = some first) :
    pageNumber placed items 1 = if survives placed first then 1 else 0 := by
  cases items with
  | nil => cases h
  | cons item items =>
    cases h
    cases hfirst : survives placed first <;> simp [pageNumber, hfirst]

/-- The `j`-th item has the `k`-th page, and the selector lists the page with a label. -/
structure HasPage (placed : Leaf → Bool) (shows : Leaf → Nested → Prop) (pages : List Nested)
    (labels : List String) (item : ControlSurface.Node) (j k : Nat) (label : String) : Prop where
  page : ∃ page, pages[k]? = some page ∧ TabGroup.Page placed shows ((item, j), k) page
  label : labels[k]? = some label

/-- The tabs of a sequencer: the selector lists a label for each page, and the items that survive
    have the pages. The first two pages say Instrument and Effect, and the others what their items
    say. -/
inductive SequencerTabs (placed : Leaf → Bool) (shows : Leaf → Nested → Prop)
    (items : List ControlSurface.Node) (n : Nested) : Prop
  | intro (selector : Nested) (pages : List Nested) (labels : List String)
      (children : n.children = selector :: pages)
      (kind : selector.kind = .widget .tabSelector
        [("Menunames", optionsText (labels.map Label.nodeName)),
         ("Menulabels", optionsText labels)])
      (count : labels.length = pages.length ∧
        pages.length = (items.filter (survives placed)).length)
      (each : ∀ j item, items[j]? = some item → survives placed item = true →
        HasPage placed shows pages labels item j (pageNumber placed items j)
          (["Instrument", "Effect"].getD (pageNumber placed items j) item.label))
      (first : ∀ item, items[0]? = some item → survives placed item = true →
        HasPage placed shows pages labels item 0 0 "Instrument")
      (second : ∀ before item, items[0]? = some before → items[1]? = some item →
        survives placed item = true →
          if survives placed before then HasPage placed shows pages labels item 1 1 "Effect"
          else HasPage placed shows pages labels item 1 0 "Instrument")

theorem length_survivors (placed : Leaf → Bool) (items : List ControlSurface.Node) (index : Nat) :
    (survivors placed items index).length = (items.filter (survives placed)).length := by
  induction items generalizing index with
  | nil => rfl
  | cons item items ih =>
    rw [TabGroup.survivors_cons, List.filter_cons]
    cases h : item.leaves.any placed <;> simp [survives, h, ih]

/-- The tabs of a sequencer that are wired have its labels. -/
theorem sequencerTabs_of_wired {placed : Leaf → Bool} {shows : Leaf → Nested → Prop}
    {items : List ControlSurface.Node} {n : Nested} (h : Wired placed shows ⟨items, true⟩ n) :
    SequencerTabs placed shows items n := by
  obtain ⟨selector, pages, hchildren, -, hkind, -, -, heach⟩ := h
  have hpages : pages.length = (survivors placed items 0).length := by
    rw [← heach.length_eq, List.length_zipIdx]
  have hany : ∀ j item, items[j]? = some item → survives placed item = true →
      HasPage placed shows pages (labelsOf true (survivors placed items 0) 0) item j
        (pageNumber placed items j)
        (["Instrument", "Effect"].getD (pageNumber placed items j) item.label) := by
    intro j item hitem hsurvives
    have hplace := survivors_getElem? hitem hsurvives 0
    rw [Nat.zero_add] at hplace
    generalize pageNumber placed items j = k at hplace ⊢
    have hnumbered : (survivors placed items 0).zipIdx[k]? = some ((item, j), k) := by
      rw [List.getElem?_zipIdx, hplace, Option.map_some, Nat.zero_add]
    constructor
    · obtain ⟨hk, -⟩ := List.getElem?_eq_some_iff.mp hnumbered
      have hk' : k < pages.length := heach.length_eq ▸ hk
      refine ⟨pages[k], List.getElem?_eq_getElem hk', ?_⟩
      have hpage := heach.get hk hk'
      rw [List.get_eq_getElem, List.get_eq_getElem, (List.getElem?_eq_some_iff.mp hnumbered).2]
        at hpage
      exact hpage
    · rw [labelsOf, List.getElem?_map, hnumbered]
      rfl
  refine .intro selector pages _ hchildren hkind
    ⟨by rw [TabGroup.length_labelsOf, hpages], by rw [hpages, length_survivors]⟩ hany ?_ ?_
  · exact fun item hitem hsurvives => hany 0 item hitem hsurvives
  · intro before item hbefore hitem hsurvives
    have hpage := hany 1 item hitem hsurvives
    rw [pageNumber_one hbefore] at hpage
    split
    · next hfirst =>
      rw [if_pos hfirst] at hpage
      exact hpage
    · next hfirst =>
      rw [if_neg hfirst] at hpage
      exact hpage

/-! ## The sequencers of a build -/

/-- The tab radios of the panel are the tab groups of the description of which a leaf is placed, in
    document order, and those of sequencers have the labels of sequencers. -/
def SequencersLabelled (A : Session) (d : Description) (B : Session) : Prop :=
  ∃ root page, B.hosts.panel.nested = some root ∧
    B.hosts.pages.page? A.builder.config.controlPage = some page ∧
    List.Forall₂ (fun s n => s.isRootSequencer A.builder.config = true →
        SequencerTabs (isPlaced A.builder.config d)
          (Shows A.builder.config page.parameters B.hosts.routes.rows) s.items n)
      ((tabSitesOf [] d.nodes).filter fun s =>
        (Node.leavesAll s.items).any (isPlaced A.builder.config d))
      ((flattenAll root.children).filter isTabRadio)

/-- After a build that ends well, in any session, the pages of sequencers are labelled by their
    places among the pages that are left. -/
theorem build_labels_sequencers (config : Config) (events : List Event) (d : Description)
    (refusal : Option Nat) (report : Report)
    (h : ((Session.history config events).take refusal (buildDescription d true)).1 = .ok report) :
    SequencersLabelled (Session.history config events) d
      ((Session.history config events).take refusal (buildDescription d true)).2 := by
  obtain ⟨own, hrooted⟩ := Session.history_rooted config events
  generalize Session.history config events = A at h hrooted ⊢
  have hbuilt := built_of_ok h
  have hnested := build_nested hrooted h
  generalize (A.take refusal (buildDescription d true)).2 = B at hbuilt hnested ⊢
  have hsites : tabGroupsOf A.builder.config d.nodes 0 =
      (tabSitesOf [] d.nodes).map (TabSite.group A.builder.config) :=
    TabSite.tabGroupsOf_eq_map A.builder.config d.nodes []
  have hradios := drawDescription_radios (b := B.builder) d
  rw [hbuilt.places_eq_isPlaced, hbuilt.config, hsites, List.filter_map,
    List.forall₂_map_left_iff] at hradios
  refine ⟨_, _, hnested, hbuilt.config ▸ hbuilt.settled.page?, hradios.imp ?_⟩
  intro s n hn hs
  rw [TabSite.group, hs] at hn
  exact sequencerTabs_of_wired (hn.imp fun l m => hbuilt.shows)

/-- A polyphonic instrument whose voices are driven by notes alone, with an effect and a page
    behind it. -/
def drivenInstrument : Description where
  name := none
  inputs := none
  outputs := none
  info := Meta.empty
  nodes := [.group .vertical "TD" Meta.empty [.group .tabbed "Sequencer" Meta.empty
    [.group .vertical "DSP1" Meta.empty
      [.input ⟨.button, "gate", "/TD/Sequencer/DSP1/gate", ⟨0, 0, 0, 0⟩, Meta.empty⟩],
     .group .vertical "DSP2" Meta.empty
      [.input ⟨.button, "tap", "/TD/Sequencer/DSP2/tap", ⟨0, 0, 0, 0⟩, Meta.empty⟩],
     .output ⟨.verticalBargraph, "level", "/TD/Sequencer/level", 0, 1, Meta.empty⟩]]]

/-- The settings of a polyphonic instrument. -/
def polyphonic : Config := { polyphony := true }

/-- The tab radios on the panel that a build leaves: what the selector lists, and the places of the
    items that have the pages. -/
def tabsOf (B : Session) : Option (List (List (Option String) × List (Option Nat))) :=
  B.hosts.panel.nested.map fun root =>
    ((flattenAll root.children).filter isTabRadio).map fun n =>
      ((n.children.take 1).map (·.menuLabels?), (n.children.drop 1).map (·.order?))

theorem build_labels_sequencers_of_driven_instrument :
    let A := Session.history polyphonic [.addPage "Settings"]
    let B := (A.take (some 99) (buildDescription drivenInstrument true)).2
    (A.take (some 99) (buildDescription drivenInstrument true)).1 = .ok ⟨1, 2, 1⟩ ∧
      (tabSitesOf [] drivenInstrument.nodes).map (TabSite.isRootSequencer polyphonic) = [true] ∧
      SequencersLabelled A drivenInstrument B ∧
      tabsOf B = some [([some "'Instrument' 'Effect'"], [some 1, some 2])] := by
  intro A B
  have h : (A.take (some 99) (buildDescription drivenInstrument true)).1 = .ok ⟨1, 2, 1⟩ := by
    decide +kernel
  exact ⟨h, by decide +kernel, build_labels_sequencers _ _ _ _ _ h, by decide +kernel⟩

/-- An instrument of which no control is left, and an effect. -/
def lostInstrument : Description where
  name := none
  inputs := none
  outputs := none
  info := Meta.empty
  nodes := [.group .tabbed "Sequencer" Meta.empty
    [.group .vertical "DSP1" Meta.empty
      [.input ⟨.button, "gate", "/Sequencer/DSP1/gate", ⟨0, 0, 0, 0⟩, Meta.empty⟩],
     .group .vertical "DSP2" Meta.empty
      [.input ⟨.button, "tap", "/Sequencer/DSP2/tap", ⟨0, 0, 0, 0⟩, Meta.empty⟩]]]

/-- The one page that is left of the sequencer is the second item's, and it says Instrument. -/
theorem instrument_page_of_effect :
    let A := Session.new polyphonic
    (A.take none (buildDescription lostInstrument true)).1 = .ok ⟨1, 1, 1⟩ ∧
      (tabSitesOf [] lostInstrument.nodes).map (TabSite.isRootSequencer polyphonic) = [true] ∧
      tabsOf (A.take none (buildDescription lostInstrument true)).2 =
        some [([some "'Instrument'"], [some 1])] := by
  intro A
  exact ⟨by decide +kernel, by decide +kernel, by decide +kernel⟩

end Build

end ControlSurface
