import ControlSurface.Proofs.Survival

/- How tabs are wired. The tab radios of a panel are the tab groups of the description of which
   a leaf is placed, in document order (`build_wires_tabs`). Each holds a selector and behind it
   one page for each of its items of which a leaf is placed: pages are counted without those
   that were pruned, each shows only while the selector has its number, and the selector names
   the pages in their order (`TabGroup.Wired`). Nothing else on the panel is a selector, and no
   other container below the root has a binding. The pages of a drawing follow from the items
   by induction, with the count of the pages before them (`drawItems_pages`). -/
namespace ControlSurface

namespace Panel.Nested

/-- Whether a node is a container that shows one of its children at a time. -/
def isTabRadio (n : Nested) : Bool :=
  match n.kind with
  | .container .tabRadio _ => true
  | _ => false

end Panel.Nested

namespace Build

open Panel
open Nested (controls flatten flattenAll standing bare isTabRadio Widgets
  WidgetsHoldNothing)
open Appearance

/-! ## Tab groups -/

/-- A tab group of a description. The pages of a sequencer have labels of their own. -/
structure TabGroup where
  items : List ControlSurface.Node
  isSequencer : Bool

mutual

/-- The tab groups of a node, each before those in it. `depth` counts the groups around the
    node that have headers. -/
def tabGroups (config : Config) : ControlSurface.Node → Nat → List TabGroup
  | .input _, _ => []
  | .output _, _ => []
  | .soundfile _, _ => []
  | .group kind label _ items, depth =>
    let p := planOf config kind label depth
    let below := tabGroupsOf config items p.childDepth
    if kind = .tabbed then ⟨items, p.isSequencer⟩ :: below else below

/-- The tab groups of nodes, in document order. -/
def tabGroupsOf (config : Config) : List ControlSurface.Node → Nat → List TabGroup
  | [], _ => []
  | node :: nodes, depth => tabGroups config node depth ++ tabGroupsOf config nodes depth

end

/-- The text of a menu: its options in quotes, with a space between neighbours. -/
def optionsText (options : List String) : String :=
  " ".intercalate (options.map fun option => "\x27" ++ option ++ "\x27")

namespace TabGroup

/-- Whether a leaf of the group is placed, so that the group stays. -/
def stays (placed : Leaf → Bool) (g : TabGroup) : Bool := (Node.leavesAll g.items).any placed

/-- The items from a position on of which a leaf is placed, with their positions. -/
def survivors (placed : Leaf → Bool) (items : List ControlSurface.Node) (index : Nat) :
    List (ControlSurface.Node × Nat) :=
  (items.zipIdx index).filter fun s => s.1.leaves.any placed

/-- The labels of pages, of which the first has a number. -/
def labelsOf (isSequencer : Bool) (pages : List (ControlSurface.Node × Nat)) (tab : Nat) :
    List String :=
  (pages.zipIdx tab).map fun s => pageLabel isSequencer s.2 s.1.1.label

/-- The page of an item: a slot that shows the leaves of the item, while the selector beside it
    has the number of the page. -/
structure Page (placed : Leaf → Bool) (shows : Leaf → Nested → Prop)
    (s : (ControlSurface.Node × Nat) × Nat) (page : Nested) : Prop where
  kind : page.kind = .container .vertical (some s.1.2)
  bindings : page.bindings =
    [⟨.readOnly, .display, "op(\x22../tabs\x22).par.Value0 == " ++ toString s.2⟩]
  leaves : List.Forall₂ shows (s.1.1.leaves.filter placed) (controls page.children)

/-- A tab radio as its group wants it: a selector that names the pages, after their items unless
    the group is a sequencer, and then the pages of the items of which a leaf is placed, at least
    one. -/
inductive Wired (placed : Leaf → Bool) (shows : Leaf → Nested → Prop) (g : TabGroup)
    (n : Nested) : Prop
  | intro (selector : Nested) (pages : List Nested)
      (children : n.children = selector :: pages)
      (name : selector.name = "tabs")
      (kind : selector.kind = .widget .tabSelector
        [("Menunames", optionsText
          ((labelsOf g.isSequencer (survivors placed g.items 0) 0).map Label.nodeName)),
         ("Menulabels", optionsText (labelsOf g.isSequencer (survivors placed g.items 0) 0))])
      (labels : g.isSequencer = false →
        labelsOf g.isSequencer (survivors placed g.items 0) 0 =
          (survivors placed g.items 0).map fun s => s.1.label)
      (some : pages ≠ [])
      (each : List.Forall₂ (Page placed shows) (survivors placed g.items 0).zipIdx pages)

theorem survivors_cons (placed : Leaf → Bool) (item : ControlSurface.Node)
    (items : List ControlSurface.Node) (index : Nat) :
    survivors placed (item :: items) index =
      (if item.leaves.any placed then [(item, index)] else []) ++
        survivors placed items (index + 1) := by
  rw [survivors, List.zipIdx_cons, List.filter_cons]
  split
  · rfl
  · rfl

/-- A group has pages if and only if it stays. -/
theorem survivors_eq_nil (placed : Leaf → Bool) (items : List ControlSurface.Node)
    (index : Nat) :
    survivors placed items index = [] ↔ (Node.leavesAll items).any placed = false := by
  induction items generalizing index with
  | nil => exact ⟨fun _ => by rw [Node.leavesAll_nil]; rfl, fun _ => rfl⟩
  | cons item items ih =>
    rw [survivors_cons, Node.leavesAll_cons, List.any_append]
    cases item.leaves.any placed with
    | false => exact ih (index + 1)
    | true => simp

/-- The labels of the pages of a group that is no sequencer are those of the items. -/
theorem labelsOf_items (pages : List (ControlSurface.Node × Nat)) (tab : Nat) :
    labelsOf false pages tab = pages.map fun s => s.1.label := by
  induction pages generalizing tab with
  | nil => rfl
  | cons s pages ih =>
    rw [labelsOf, List.zipIdx_cons, List.map_cons, List.map_cons]
    exact congrArg (s.1.label :: ·) (ih (tab + 1))

/-- Each page has one label. -/
theorem length_labelsOf (isSequencer : Bool) (pages : List (ControlSurface.Node × Nat))
    (tab : Nat) : (labelsOf isSequencer pages tab).length = pages.length := by
  rw [labelsOf, List.length_map, List.length_zipIdx]

end TabGroup

open TabGroup (survivors labelsOf Wired)

variable {b : Builder}

/-! ## The pages of a drawing -/

theorem pageExpression_eq (tab : Nat) :
    pageExpression tab = "op(\x22../tabs\x22).par.Value0 == " ++ toString tab := by
  have hpath : "op(" ++ doubleQuoted ("../" ++ selectorName) ++ ").par.Value0 == " =
      "op(\x22../tabs\x22).par.Value0 == " := by decide +kernel
  rw [pageExpression, hpath]

theorem quotedList_eq (texts : List String) : quotedList texts = optionsText texts :=
  Text.joinWith_eq_intercalate " " _

section
variable {p : Plan} {item : ControlSurface.Node}

/-- An item without placed leaves is no page. -/
theorem drawItem_no_page (hp : p.kind = .tabbed) (h : item.leaves.any b.places = false)
    (index : Nat) (taken labels : List String) :
    drawItem b p item index taken labels = ([], labels) := by
  have hslots : p.slots item = true := by simp [Plan.slots, hp]
  rw [drawItem, if_pos hslots, drawSlot, bare_drawNode, h]
  rfl

/-- An item with placed leaves is the next page. -/
theorem drawItem_page (hp : p.kind = .tabbed) (h : item.leaves.any b.places = true)
    (index : Nat) (taken labels : List String) :
    drawItem b p item index taken labels =
      ([standing taken (slotSpec b.config item.label index)
          [⟨.readOnly, .display, pageExpression labels.length⟩]
          (drawNode b item index p.childDepth [])],
        labels ++ [pageLabel p.isSequencer labels.length item.label]) := by
  have hslots : p.slots item = true := by simp [Plan.slots, hp]
  rw [drawItem, if_pos hslots, drawSlot, bare_drawNode, h, if_neg (by simp), if_pos hp]

end

/-- The items of a tab group are pages, one for each of which a leaf is placed, numbered behind
    the pages before them. -/
theorem drawItems_pages {p : Plan} (hp : p.kind = .tabbed) (items : List ControlSurface.Node)
    (index : Nat) (taken labels : List String) :
    List.Forall₂ (TabGroup.Page b.places b.Binds)
        ((survivors b.places items index).zipIdx labels.length)
        (drawItems b p items index taken labels).1 ∧
      (drawItems b p items index taken labels).2 =
        labels ++ labelsOf p.isSequencer (survivors b.places items index) labels.length := by
  induction items generalizing index taken labels with
  | nil =>
    rw [drawItems]
    exact ⟨.nil, (List.append_nil labels).symm⟩
  | cons item items ih =>
    rw [drawItems_cons]
    cases h : item.leaves.any b.places with
    | false =>
      rw [drawItem_no_page hp h, TabGroup.survivors_cons, h]
      exact ih _ _ _
    | true =>
      -- The page has as number the count of the pages before it; those behind count one more.
      have hlength : (labels ++ [pageLabel p.isSequencer labels.length item.label]).length =
          labels.length + 1 := by
        rw [List.length_append, List.length_singleton]
      rw [drawItem_page hp h, TabGroup.survivors_cons, h, if_pos rfl, List.singleton_append,
        List.zipIdx_cons]
      obtain ⟨hpages, hlabels⟩ := ih (index + 1)
        (taken ++ [standing taken (slotSpec b.config item.label index)
          [⟨.readOnly, .display, pageExpression labels.length⟩]
          (drawNode b item index p.childDepth [])].map (·.name))
        (labels ++ [pageLabel p.isSequencer labels.length item.label])
      rw [hlength] at hpages hlabels
      constructor
      · refine .cons ⟨rfl, ?_, drawNode_shows item index p.childDepth []⟩ hpages
        rw [← pageExpression_eq]
        rfl
      · refine hlabels.trans ?_
        rw [List.append_assoc]
        rfl

/-! ## The tab radios of a drawing -/

section
variable {config : Config} {placed : Leaf → Bool}

mutual

/-- Of a node of which no leaf is placed no tab group stays. -/
theorem tabGroups_eq_nil : ∀ (node : ControlSurface.Node) (depth : Nat),
    node.leaves.any placed = false →
      (tabGroups config node depth).filter (TabGroup.stays placed) = []
  | .input c, depth, _ => by rw [tabGroups, List.filter_nil]
  | .output c, depth, _ => by rw [tabGroups, List.filter_nil]
  | .soundfile f, depth, _ => by rw [tabGroups, List.filter_nil]
  | .group kind label info items, depth, h => by
    rw [Node.leaves_group] at h
    have hbelow :=
      tabGroupsOf_eq_nil items (planOf config kind label depth).childDepth h
    rw [tabGroups]
    split
    · rw [List.filter_cons_of_neg, hbelow]
      rw [TabGroup.stays, h]
      exact Bool.false_ne_true
    · exact hbelow

theorem tabGroupsOf_eq_nil : ∀ (nodes : List ControlSurface.Node) (depth : Nat),
    (Node.leavesAll nodes).any placed = false →
      (tabGroupsOf config nodes depth).filter (TabGroup.stays placed) = []
  | [], depth, _ => by rw [tabGroupsOf, List.filter_nil]
  | node :: nodes, depth, h => by
    rw [Node.leavesAll_cons, List.any_append, Bool.or_eq_false_iff] at h
    rw [tabGroupsOf, List.filter_append, tabGroups_eq_nil node depth h.1,
      tabGroupsOf_eq_nil nodes depth h.2, List.append_nil]

end

end

/-- Widgets are no tab radios. -/
theorem radios_of_widgets {ns : List Nested} (h : Widgets ns) :
    (flattenAll ns).filter isTabRadio = [] := by
  rw [h.flattenAll_eq, List.filter_eq_nil_iff]
  intro n hn
  have hkind := (h n hn).1
  rw [isTabRadio]
  split
  · next hk =>
    rw [hk] at hkind
    cases hkind
  · exact Bool.false_ne_true

theorem radios_append (ns ms : List Nested) : (flattenAll (ns ++ ms)).filter isTabRadio =
    (flattenAll ns).filter isTabRadio ++ (flattenAll ms).filter isTabRadio := by
  rw [Nested.flattenAll_append, List.filter_append]

/-- A node with all that stands below it. -/
theorem radios_single (n : Nested) : (flattenAll [n]).filter isTabRadio =
    (if isTabRadio n then [n] else []) ++ (flattenAll n.children).filter isTabRadio := by
  rw [Nested.flattenAll_single, List.filter_cons]
  split
  · rfl
  · rfl

/-- The tab radios in a group are those among what its items look like. -/
theorem groupKids_radios (kind : GroupKind) (items : List Nested × List String) :
    (flattenAll (groupKids kind items)).filter isTabRadio =
      (flattenAll items.1).filter isTabRadio := by
  rw [groupKids]
  split
  · rw [radios_append, radios_of_widgets (drawSelector_widgets _), List.nil_append]
  · rfl

theorem drawSelector_of_ne_nil {labels : List String} (h : labels ≠ []) :
    drawSelector labels = [standing [] ⟨selectorName, 0, .widget .tabSelector
      [("Menunames", quotedList (labels.map Label.nodeName)),
       ("Menulabels", quotedList labels)]⟩ [] []] := by
  cases labels with
  | nil => exact absurd rfl h
  | cons label labels =>
    rw [drawSelector]
    exact List.cons_ne_nil _ _

/-- A container with the pages of a group that stays, and a selector before them. -/
theorem wired_of_pages {placed : Leaf → Bool} {shows : Leaf → Nested → Prop} {g : TabGroup}
    {n : Nested} {pages : List Nested} (h : g.stays placed = true)
    (hpages : List.Forall₂ (TabGroup.Page placed shows) (survivors placed g.items 0).zipIdx pages)
    (hn : n.children =
      drawSelector (labelsOf g.isSequencer (survivors placed g.items 0) 0) ++ pages) :
    Wired placed shows g n := by
  have hsurvivors : survivors placed g.items 0 ≠ [] := by
    intro hnone
    have hstays : g.stays placed = false := (TabGroup.survivors_eq_nil placed g.items 0).mp hnone
    rw [h] at hstays
    cases hstays
  have hlabels : labelsOf g.isSequencer (survivors placed g.items 0) 0 ≠ [] := by
    apply List.ne_nil_of_length_pos
    rw [TabGroup.length_labelsOf]
    exact List.length_pos_of_ne_nil hsurvivors
  -- Nothing stands before the selector, so it keeps its name.
  have hname : Naming.fresh [] selectorName = "tabs" := by decide +kernel
  rw [drawSelector_of_ne_nil hlabels, List.singleton_append] at hn
  rw [quotedList_eq, quotedList_eq] at hn
  refine .intro _ pages hn hname rfl ?_ ?_ hpages
  · intro hplain
    rw [hplain]
    exact TabGroup.labelsOf_items _ 0
  intro hnone
  have hlength := hpages.length_eq
  rw [hnone, List.length_zipIdx] at hlength
  exact hsurvivors (List.eq_nil_of_length_eq_zero hlength)

theorem group_isTabRadio (config : Config) (kind : GroupKind) (label : String) (index : Nat)
    (taken : List String) (kids : List Nested) :
    isTabRadio (standing taken (groupSpec config kind label index) [] kids) =
      decide (kind = .tabbed) := by
  cases kind with
  | horizontal => rfl
  | vertical => rfl
  | tabbed => rfl

/-- The container of a tab group that stays is wired. -/
theorem group_wired {kind : GroupKind} (hkind : kind = .tabbed) (label : String)
    {items : List ControlSurface.Node} (index depth : Nat) (taken : List String)
    (h : (Node.leavesAll items).any b.places = true) :
    Wired b.places b.Binds ⟨items, (planOf b.config kind label depth).isSequencer⟩
      (standing taken (groupSpec b.config kind label index) [] (groupKids kind
        (drawItems b (planOf b.config kind label depth) items 0 (takenFor kind) []))) := by
  obtain ⟨hpages, hlabels⟩ := drawItems_pages (b := b) (p := planOf b.config kind label depth)
    hkind items 0 (takenFor kind) []
  refine wired_of_pages h hpages ?_
  rw [List.nil_append] at hlabels
  show groupKids kind _ = _
  rw [groupKids, if_pos hkind, hlabels]
  rfl

/-- A slot is no tab radio, and one that is pruned holds none. -/
theorem drawSlot_radios (config : Config) (p : Plan) (item : ControlSurface.Node) (index : Nat)
    (taken labels : List String) {kids : List Nested} (hkids : WidgetsHoldNothing kids) :
    (flattenAll (drawSlot config p item index taken labels kids).1).filter isTabRadio =
      (flattenAll kids).filter isTabRadio := by
  rw [drawSlot]
  split
  · next hbare =>
    rw [radios_of_widgets (.of_bare hkids hbare), flattenAll, List.filter_nil]
  · split
    · rw [radios_single]
      rfl
    · rw [radios_single]
      rfl

mutual

/-- The tab radios of what a node looks like are its tab groups that stay. -/
theorem drawNode_radios : ∀ (node : ControlSurface.Node) (index depth : Nat)
    (taken : List String),
    List.Forall₂ (Wired b.places b.Binds)
      ((tabGroups b.config node depth).filter (TabGroup.stays b.places))
      ((flattenAll (drawNode b node index depth taken)).filter isTabRadio)
  | .input c, index, depth, taken => by
    rw [tabGroups, drawNode, radios_of_widgets (drawInput_widgets c index taken)]
    exact .nil
  | .output c, index, depth, taken => by
    rw [tabGroups, drawNode, radios_of_widgets (drawOutput_widgets c index taken)]
    exact .nil
  | .soundfile f, index, depth, taken => by
    rw [tabGroups, drawNode, flattenAll]
    exact .nil
  | .group kind label info items, index, depth, taken => by
    have hitems := drawItems_radios (planOf b.config kind label depth) items 0 (takenFor kind) []
    rw [drawNode, radios_append, radios_of_widgets (drawHeader_widgets b.config label index taken),
      List.nil_append, drawGroup_eq, bare_groupKids]
    cases h : (Node.leavesAll items).any b.places with
    | false =>
      rw [tabGroups_eq_nil (.group kind label info items) depth (by rw [Node.leaves_group, h])]
      exact .nil
    | true =>
      have hkids : (flattenAll (groupKids kind (drawItems b (planOf b.config kind label depth)
          items 0 (takenFor kind) []))).filter isTabRadio = _ := groupKids_radios kind _
      rw [tabGroups, Bool.not_true, if_neg Bool.false_ne_true, radios_single, group_isTabRadio]
      -- The container itself comes first, and then those in it.
      by_cases hkind : kind = .tabbed
      · have hstays : TabGroup.stays b.places
            ⟨items, (planOf b.config kind label depth).isSequencer⟩ = true := h
        rw [if_pos hkind, decide_eq_true hkind, if_pos rfl, List.singleton_append,
          List.filter_cons_of_pos hstays]
        exact .cons (group_wired hkind label index depth _ h) (hkids ▸ hitems)
      · rw [if_neg hkind, decide_eq_false hkind, if_neg Bool.false_ne_true, List.nil_append]
        exact hkids ▸ hitems

theorem drawItems_radios (p : Plan) : ∀ (items : List ControlSurface.Node) (index : Nat)
    (taken labels : List String),
    List.Forall₂ (Wired b.places b.Binds)
      ((tabGroupsOf b.config items p.childDepth).filter (TabGroup.stays b.places))
      ((flattenAll (drawItems b p items index taken labels).1).filter isTabRadio)
  | [], index, taken, labels => by
    rw [tabGroupsOf, drawItems, flattenAll]
    exact .nil
  | item :: items, index, taken, labels => by
    have hitem := fun taken => drawNode_radios item index p.childDepth taken
    rw [tabGroupsOf, List.filter_append, drawItems_cons, radios_append]
    refine List.rel_append ?_ (drawItems_radios p items _ _ _)
    rw [drawItem]
    split
    · rw [drawSlot_radios _ _ _ _ _ _ (drawNode_widgetsHoldNothing _ _ _ _)]
      exact hitem []
    · exact hitem taken

end

theorem drawNodes_radios (nodes : List ControlSurface.Node) (index : Nat)
    (taken : List String) :
    List.Forall₂ (Wired b.places b.Binds)
      ((tabGroupsOf b.config nodes 0).filter (TabGroup.stays b.places))
      ((flattenAll (drawNodes b nodes index taken)).filter isTabRadio) := by
  induction nodes generalizing index taken with
  | nil =>
    rw [tabGroupsOf, drawNodes, flattenAll]
    exact .nil
  | cons node nodes ih =>
    rw [tabGroupsOf, drawNodes, List.filter_append, radios_append]
    exact List.rel_append (drawNode_radios node index 0 taken) (ih _ _)

/-- The tab radios of a drawing are the tab groups that stay. -/
theorem drawDescription_radios (d : Description) :
    List.Forall₂ (Wired b.places b.Binds)
      ((tabGroupsOf b.config d.nodes 0).filter (TabGroup.stays b.places))
      ((flattenAll (drawDescription b d)).filter isTabRadio) := by
  have hnodes := drawNodes_radios (b := b) d.nodes 0 []
  rw [drawDescription]
  split
  · next hbare =>
    rw [radios_of_widgets (.of_bare (drawNodes_widgetsHoldNothing _ _ _) hbare)] at hnodes
    rw [flattenAll]
    exact hnodes
  · exact hnodes

/-! ## What is not wired -/

/-- A node that has no part in tabs: no selector, and without a binding if it is a container. -/
structure Untabbed (n : Nested) : Prop where
  selector : n.kind.template? ≠ some .tabSelector
  bindings : n.kind.isContainer = true → n.bindings = []

theorem Untabbed.of_isControl {n : Nested} (h : n.isControl = true) : Untabbed n := by
  rw [Nested.isControl] at h
  constructor
  · intro hselector
    rw [hselector] at h
    cases h
  · intro hcontainer
    cases hk : n.kind with
    | container layout order =>
      rw [hk] at h
      cases h
    | widget template properties =>
      rw [hk] at hcontainer
      cases hcontainer

theorem Untabbed.container {n : Nested} (h : n.kind.template? = none) (hb : n.bindings = []) :
    Untabbed n := by
  refine ⟨?_, fun _ => hb⟩
  rw [h]
  intro hselector
  cases hselector

theorem Untabbed.header {n : Nested} (h : n.kind.template? = some .header)
    (hb : n.bindings = []) : Untabbed n := by
  refine ⟨?_, fun _ => hb⟩
  rw [h]
  decide

theorem drawNode_untabbed (node : ControlSurface.Node) (index depth : Nat)
    (taken : List String) : ∀ n ∈ drawNode b node index depth taken, Untabbed n := by
  intro n hn
  cases node with
  | input c =>
    rw [drawNode, drawInput] at hn
    split at hn
    · cases hn
    · split at hn
      · rw [List.mem_singleton.mp hn]
        exact .of_isControl (inputSpec_isControl b.config c _ index taken _)
      · cases hn
  | output c =>
    rw [drawNode, drawOutput] at hn
    split at hn
    · cases hn
    · rw [List.mem_singleton.mp hn]
      exact .of_isControl rfl
  | soundfile f =>
    rw [drawNode] at hn
    cases hn
  | group kind label info items =>
    rw [drawNode] at hn
    rcases List.mem_append.mp hn with hn | hn
    · rw [drawHeader] at hn
      split at hn
      · cases hn
      · rw [List.mem_singleton.mp hn]
        exact .header rfl rfl
    · rw [drawGroup_eq] at hn
      split at hn
      · cases hn
      · rw [List.mem_singleton.mp hn]
        exact .container rfl rfl

/-- The items of a group without tabs have no part in tabs. -/
theorem drawItems_untabbed {p : Plan} (hp : p.kind ≠ .tabbed)
    (items : List ControlSurface.Node) (index : Nat) (taken labels : List String) :
    ∀ n ∈ (drawItems b p items index taken labels).1, Untabbed n := by
  induction items generalizing index taken labels with
  | nil =>
    rw [drawItems]
    exact List.forall_mem_nil _
  | cons item items ih =>
    rw [drawItems_cons, List.forall_mem_append]
    refine ⟨?_, ih _ _ _⟩
    rw [drawItem]
    split
    · rw [drawSlot]
      split
      · exact List.forall_mem_nil _
      · exact List.forall_mem_singleton.mpr (.container rfl rfl)
    · exact drawNode_untabbed item index p.childDepth taken

theorem drawNodes_untabbed (nodes : List ControlSurface.Node) (index : Nat)
    (taken : List String) : ∀ n ∈ drawNodes b nodes index taken, Untabbed n := by
  induction nodes generalizing index taken with
  | nil =>
    rw [drawNodes]
    exact List.forall_mem_nil _
  | cons node nodes ih =>
    rw [drawNodes, List.forall_mem_append]
    exact ⟨drawNode_untabbed node index 0 taken, ih _ _⟩

theorem drawDescription_untabbed (d : Description) :
    ∀ n ∈ drawDescription b d, Untabbed n := by
  rw [drawDescription]
  split
  · exact List.forall_mem_nil _
  · exact drawNodes_untabbed d.nodes 0 []

/-- What stands in a node of a drawing that is no tab radio has no part in tabs. -/
theorem Portrays.untabbed {n : Nested} (h : Portrays b n) (hn : isTabRadio n = false) :
    ∀ m ∈ n.children, Untabbed m := by
  cases h with
  | widget _ hchildren =>
    rw [hchildren]
    exact List.forall_mem_nil _
  | slot item index depth _ hchildren _ =>
    rw [hchildren]
    exact drawNode_untabbed item index depth []
  | group kind label items depth hlayout _ hchildren _ =>
    have hkind : kind ≠ .tabbed := by
      rintro rfl
      rw [isTabRadio, hlayout] at hn
      cases hn
    rw [hchildren, groupKids, if_neg hkind]
    exact drawItems_untabbed (p := planOf b.config kind label depth) hkind items 0 _ []

/-! ## The tabs of a build -/

/-- The tab radios of the panel are the tab groups of the description that stay, in document
    order and wired. What stands elsewhere has no part in tabs. -/
def TabsWired (A : Session) (d : Description) (B : Session) : Prop :=
  ∃ root page, B.hosts.panel.nested = some root ∧
    B.hosts.pages.page? A.builder.config.controlPage = some page ∧
    List.Forall₂ (Wired (isPlaced A.builder.config d)
        (Shows A.builder.config page.parameters B.hosts.routes.rows))
      ((tabGroupsOf A.builder.config d.nodes 0).filter
        (TabGroup.stays (isPlaced A.builder.config d)))
      ((flattenAll root.children).filter isTabRadio) ∧
    ∀ n ∈ flatten root, isTabRadio n = false → ∀ m ∈ n.children, Untabbed m

theorem TabGroup.Wired.imp {placed : Leaf → Bool} {R S : Leaf → Nested → Prop} {g : TabGroup}
    {n : Nested} (h : Wired placed R g n) (hRS : ∀ l m, R l m → S l m) : Wired placed S g n := by
  obtain ⟨selector, pages, hchildren, hname, hkind, hlabels, hsome, heach⟩ := h
  refine ⟨selector, pages, hchildren, hname, hkind, hlabels, hsome, heach.imp ?_⟩
  intro s page hpage
  exact ⟨hpage.kind, hpage.bindings, hpage.leaves.imp hRS⟩

/-- After a build that ends well, in any session, tabs are wired. -/
theorem build_wires_tabs (config : Config) (events : List Event) (d : Description)
    (refusal : Option Nat) (report : Report)
    (h : ((Session.history config events).take refusal (buildDescription d true)).1 = .ok report) :
    TabsWired (Session.history config events) d
      ((Session.history config events).take refusal (buildDescription d true)).2 := by
  obtain ⟨own, hrooted⟩ := Session.history_rooted config events
  generalize Session.history config events = A at h hrooted ⊢
  have hbuilt := built_of_ok h
  have hnested := build_nested hrooted h
  generalize (A.take refusal (buildDescription d true)).2 = B at hbuilt hnested ⊢
  have hradios := drawDescription_radios (b := B.builder) d
  rw [hbuilt.places_eq_isPlaced, hbuilt.config] at hradios
  refine ⟨_, _, hnested, hbuilt.config ▸ hbuilt.settled.page?, ?_, ?_⟩
  · exact hradios.imp fun g n hn => hn.imp fun l m => hbuilt.shows
  · rw [flatten, List.forall_mem_cons]
    refine ⟨fun _ => drawDescription_untabbed d, ?_⟩
    intro n hn
    exact (drawDescription_portrays d n hn).untabbed

/-- Tabs in tabs: the operator's own control gives no page, and a page has the selector's
    label. -/
def nestedTabs : Description where
  name := none
  inputs := none
  outputs := none
  info := Meta.empty
  nodes := [.group .tabbed "pages" Meta.empty
    [.input ⟨.button, "stop", "/Panic", ⟨0, 0, 0, 0⟩, Meta.empty⟩,
     .output ⟨.verticalBargraph, "out level", "/level", 0, 1, Meta.empty⟩,
     .group .tabbed "tabs" Meta.empty
      [.group .vertical "empty" Meta.empty [],
       .input ⟨.button, "go", "/go", ⟨0, 0, 0, 0⟩, Meta.empty⟩]]]

/-- What the tab radios of a panel hold, depth first: the names of the children, their kinds and
    what they are bound to. -/
def wiresOf (B : Session) : Option (List (List (String × Kind × List Binding))) :=
  B.hosts.panel.nested.map fun root => ((flattenAll root.children).filter isTabRadio).map fun n =>
    n.children.map fun child => (child.name, child.kind, child.bindings)

theorem build_wires_tabs_in_tabs :
    let A := Session.history Config.default []
    let B := (A.take (some 99) (buildDescription nestedTabs true)).2
    (A.take (some 99) (buildDescription nestedTabs true)).1 = .ok ⟨1, 2, 1⟩ ∧
      ((tabGroupsOf Config.default nestedTabs.nodes 0).filter
        (TabGroup.stays (isPlaced Config.default nestedTabs))).length = 2 ∧
      TabsWired A nestedTabs B ∧
      wiresOf B = some [
        [("tabs", .widget .tabSelector
            [("Menunames", "'out_level' 'tabs'"), ("Menulabels", "'out level' 'tabs'")], []),
          ("out_level", .container .vertical (some 1),
            [⟨.readOnly, .display, "op(\x22../tabs\x22).par.Value0 == 0"⟩]),
          ("tabs1", .container .vertical (some 2),
            [⟨.readOnly, .display, "op(\x22../tabs\x22).par.Value0 == 1"⟩])],
        [("tabs", .widget .tabSelector [("Menunames", "'go'"), ("Menulabels", "'go'")], []),
          ("go", .container .vertical (some 1),
            [⟨.readOnly, .display, "op(\x22../tabs\x22).par.Value0 == 0"⟩])]] := by
  intro A B
  have h : (A.take (some 99) (buildDescription nestedTabs true)).1 = .ok ⟨1, 2, 1⟩ := by
    decide +kernel
  exact ⟨h, by decide +kernel, build_wires_tabs _ _ _ _ _ h, by decide +kernel⟩

end Build

end ControlSurface
