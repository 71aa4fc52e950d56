import ControlSurface.Proofs.Shown

/- Which containers survive. A build prunes by a look at the children alone: a container goes
   if it holds nothing, or a header alone. In the drawing of a description this local test
   says the same as a statement about all that stands below: what an item looks like is bare
   if and only if no leaf of the item is placed (`bare_drawNode`), and so are the contents of a
   group (`bare_groupKids`). The reason is that everything that is drawn shows a leaf, but for
   one header before the rest and for a selector, which comes with pages (`Headed`,
   `Fruitful`). Every node of a drawing is a widget, the slot of an item or the container of a
   group, and the containers hold placed leaves; what holds of these holds of all that is
   drawn (`Pictured.drawDescription`). -/
namespace ControlSurface

namespace Panel.Nested

/-- Containers, headers and selectors are no widgets of leaves. -/
theorem isControl_eq_false {n : Nested}
    (h : n.kind.template? = none ∨ n.kind.template? = some .header ∨
      n.kind.template? = some .tabSelector) : n.isControl = false := by
  rw [isControl]
  rcases h with h | h | h
  · rw [h]
  · rw [h]
  · rw [h]

theorem template?_of_isContainer {kind : Kind} (h : kind.isContainer = true) :
    kind.template? = none := by
  cases kind with
  | container layout order => rfl
  | widget template properties => cases h

/-- Widgets with nothing below them. -/
def Widgets (ns : List Nested) : Prop := ∀ n ∈ ns, n.kind.isContainer = false ∧ n.children = []

theorem Widgets.flattenAll_eq {ns : List Nested} (h : Widgets ns) : flattenAll ns = ns := by
  induction ns with
  | nil => rw [flattenAll]
  | cons n ns ih =>
    obtain ⟨hn, hns⟩ := List.forall_mem_cons.mp h
    rw [flattenAll_cons, flattenAll_single, hn.2, flattenAll, ih hns, List.singleton_append]

/-- What is bare is a widget at most. -/
theorem Widgets.of_bare {ns : List Nested} (h : WidgetsHoldNothing ns) (hb : bare ns = true) :
    Widgets ns := by
  obtain rfl | ⟨only, rfl, -, hwidget⟩ := bare_cases hb
  · exact List.forall_mem_nil _
  · exact List.forall_mem_singleton.mpr ⟨hwidget, h only List.mem_cons_self hwidget⟩

/-- Each of the nodes shows a leaf, itself or below it. -/
def Fruitful (ns : List Nested) : Prop := ∀ n ∈ ns, controls [n] ≠ []

/-- All nodes show a leaf but for a header before the others. -/
def Headed (ns : List Nested) : Prop :=
  Fruitful ns ∨
    ∃ header rest, ns = header :: rest ∧ header.kind.template? = some .header ∧ Fruitful rest

theorem Fruitful.append {ns ms : List Nested} (hn : Fruitful ns) (hm : Fruitful ms) :
    Fruitful (ns ++ ms) := by
  intro n h
  rcases List.mem_append.mp h with h | h
  · exact hn n h
  · exact hm n h

theorem Fruitful.controls_ne_nil {ns : List Nested} (h : Fruitful ns) (hne : ns ≠ []) :
    controls ns ≠ [] := by
  cases ns with
  | nil => exact absurd rfl hne
  | cons n ns =>
    have hfirst : controls [n] ≠ [] := h n List.mem_cons_self
    rw [controls_cons]
    exact List.append_ne_nil_of_left_ne_nil hfirst _

/-- Nodes of which at most a header shows no leaf are bare if and only if no leaf is shown. -/
theorem Headed.bare_eq {ns : List Nested} (h : Headed ns) (hw : WidgetsHoldNothing ns) :
    bare ns = (controls ns).isEmpty := by
  rw [Bool.eq_iff_iff, List.isEmpty_iff]
  constructor
  · exact controls_of_bare hw
  · intro hnone
    rcases h with h | ⟨header, rest, rfl, hheader, hrest⟩
    · by_cases hne : ns = []
      · rw [hne]
        rfl
      · exact absurd hnone (h.controls_ne_nil hne)
    · by_cases hne : rest = []
      · rw [hne]
        simp [bare, hheader]
      · -- Behind the header stands a node that shows a leaf.
        rw [controls_cons] at hnone
        exact absurd (List.append_eq_nil_iff.mp hnone).2 (hrest.controls_ne_nil hne)

end Panel.Nested

namespace Build

open Panel
open Nested (controls flattenAll standing bare Fruitful Headed Widgets WidgetsHoldNothing)
open Appearance

variable {b : Builder}

/-! ## What is drawn shows leaves -/

/-- A container that stays shows what is in it. -/
theorem fruitful_container {taken : List String} {spec : Spec} {bindings : List Binding}
    {kids : List Nested} (hspec : spec.kind.isContainer = true) (hkids : controls kids ≠ []) :
    Fruitful [standing taken spec bindings kids] := by
  intro n hn
  have hplain : (standing taken spec bindings kids).isControl = false :=
    Nested.isControl_eq_false (.inl (Nested.template?_of_isContainer hspec))
  rw [List.mem_singleton.mp hn, Nested.controls_single hplain]
  exact hkids

theorem drawInput_fruitful (c : Input) (index : Nat) (taken : List String) :
    Fruitful (drawInput b c index taken) := by
  intro n hn
  rw [drawInput] at hn
  split at hn
  · cases hn
  · split at hn
    · next p _ =>
      rw [List.mem_singleton.mp hn,
        Nested.controls_widget (inputSpec_isControl b.config c p index taken _) rfl]
      exact List.cons_ne_nil _ _
    · cases hn

theorem drawOutput_fruitful (c : Output) (index : Nat) (taken : List String) :
    Fruitful (drawOutput b c index taken) := by
  intro n hn
  rw [drawOutput] at hn
  split at hn
  · cases hn
  · rw [List.mem_singleton.mp hn, Nested.controls_widget rfl rfl]
    exact List.cons_ne_nil _ _

theorem drawHeader_cases (config : Config) (label : String) (index : Nat) (taken : List String) :
    drawHeader config label index taken = [] ∨ ∃ header,
      drawHeader config label index taken = [header] ∧ header.kind.template? = some .header := by
  rw [drawHeader]
  split
  · exact .inl rfl
  · exact .inr ⟨_, rfl, rfl⟩

theorem groupKids_controls (kind : GroupKind) (items : List Nested × List String) :
    controls (groupKids kind items) = controls items.1 := by
  rw [groupKids]
  split
  · rw [Nested.controls_append, drawSelector_controls, List.nil_append]
  · rfl

/-- A selector stands only before pages, so a group is bare only if it has no items to show. -/
theorem bare_groupKids_eq (kind : GroupKind) {items : List Nested × List String}
    (hitems : Fruitful items.1) (hw : WidgetsHoldNothing items.1)
    (hlabels : kind = .tabbed → items.2.length = items.1.length) :
    bare (groupKids kind items) = (controls items.1).isEmpty := by
  rw [groupKids]
  split
  · next htab =>
    have hlength := hlabels htab
    obtain ⟨pages, labels⟩ := items
    cases pages with
    | nil =>
      obtain rfl : labels = [] := List.eq_nil_of_length_eq_zero hlength
      simp [drawSelector, bare]
    | cons page pages =>
      obtain ⟨label, rest, rfl⟩ := List.exists_cons_of_length_eq_add_one hlength
      have hne : controls (page :: pages) ≠ [] := hitems.controls_ne_nil (List.cons_ne_nil _ _)
      rw [List.isEmpty_eq_false_iff.mpr hne]
      rfl
  · exact Headed.bare_eq (.inl hitems) hw

theorem drawGroup_fruitful (config : Config) (kind : GroupKind) (label : String) (index : Nat)
    (taken : List String) {items : List Nested × List String} (hitems : Fruitful items.1)
    (hw : WidgetsHoldNothing items.1)
    (hlabels : kind = .tabbed → items.2.length = items.1.length) :
    Fruitful (drawGroup config kind label index taken items) := by
  rw [drawGroup_eq, bare_groupKids_eq kind hitems hw hlabels]
  split
  · exact List.forall_mem_nil _
  · next hne =>
    apply fruitful_container rfl
    rw [groupKids_controls]
    simpa using hne

theorem drawSlot_fruitful (config : Config) (p : Plan) (item : ControlSurface.Node)
    (index : Nat) (taken labels : List String) {kids : List Nested} (hkids : Headed kids)
    (hw : WidgetsHoldNothing kids) :
    Fruitful (drawSlot config p item index taken labels kids).1 := by
  rw [drawSlot, hkids.bare_eq hw]
  split
  · exact List.forall_mem_nil _
  · next hne =>
    have hshown : controls kids ≠ [] := by simpa using hne
    split
    · exact fruitful_container rfl hshown
    · exact fruitful_container rfl hshown

mutual

/-- All that a node looks like shows leaves, but for the header of a group. -/
theorem drawNode_headed : ∀ (node : ControlSurface.Node) (index depth : Nat)
    (taken : List String), Headed (drawNode b node index depth taken)
  | .input c, index, depth, taken => by
    rw [drawNode]
    exact .inl (drawInput_fruitful c index taken)
  | .output c, index, depth, taken => by
    rw [drawNode]
    exact .inl (drawOutput_fruitful c index taken)
  | .soundfile f, index, depth, taken => by
    rw [drawNode]
    exact .inl (List.forall_mem_nil _)
  | .group kind label info items, index, depth, taken => by
    have hgroup := fun taken => drawGroup_fruitful b.config kind label index taken
      (drawItems_fruitful (planOf b.config kind label depth) items 0 (takenFor kind) [])
      (drawItems_widgetsHoldNothing _ _ _ _ _)
      (fun htab => drawItems_labels_zero (p := planOf b.config kind label depth) htab items 0 _)
    rw [drawNode]
    rcases drawHeader_cases b.config label index taken with h | ⟨header, h, hheader⟩
    · rw [h]
      exact .inl (hgroup _)
    · rw [h]
      exact .inr ⟨header, _, rfl, hheader, hgroup _⟩

/-- All that items look like shows leaves. -/
theorem drawItems_fruitful (p : Plan) : ∀ (items : List ControlSurface.Node) (index : Nat)
    (taken labels : List String), Fruitful (drawItems b p items index taken labels).1
  | [], index, taken, labels => by
    rw [drawItems]
    exact List.forall_mem_nil _
  | item :: items, index, taken, labels => by
    rw [drawItems]
    refine .append ?_ (drawItems_fruitful p items _ _ _)
    split
    · exact drawSlot_fruitful _ _ _ _ _ _ (drawNode_headed item _ _ _)
        (drawNode_widgetsHoldNothing _ _ _ _)
    · next hslots =>
      -- Without a slot of its own stands an input alone.
      cases item with
      | input c =>
        dsimp only
        rw [drawNode]
        exact drawInput_fruitful c _ _
      | output c => simp [Plan.slots, Node.isInput] at hslots
      | group kind label info items => simp [Plan.slots, Node.isInput] at hslots
      | soundfile f => simp [Plan.slots, Node.isInput] at hslots

end

/-! ## Bare means that no leaf is placed -/

/-- What shows the placed ones of leaves shows nothing if and only if none is placed. -/
theorem controls_isEmpty {ls : List Leaf} {ns : List Nested}
    (h : List.Forall₂ b.Binds (ls.filter b.places) (controls ns)) :
    (controls ns).isEmpty = !ls.any b.places := by
  have hlength : (ls.filter b.places).length = (controls ns).length := h.length_eq
  rw [Bool.eq_iff_iff, List.isEmpty_iff_length_eq_zero, ← hlength, List.length_eq_zero_iff,
    List.filter_eq_nil_iff]
  simp

/-- What a node looks like is bare if and only if none of its leaves is placed. -/
theorem bare_drawNode (node : ControlSurface.Node) (index depth : Nat) (taken : List String) :
    bare (drawNode b node index depth taken) = !node.leaves.any b.places := by
  rw [(drawNode_headed node index depth taken).bare_eq (drawNode_widgetsHoldNothing _ _ _ _),
    controls_isEmpty (drawNode_shows node index depth taken)]

/-- The contents of a group are bare if and only if none of its leaves is placed. -/
theorem bare_groupKids (kind : GroupKind) (label : String) (depth : Nat)
    (items : List ControlSurface.Node) :
    bare (groupKids kind
      (drawItems b (planOf b.config kind label depth) items 0 (takenFor kind) [])) =
        !(Node.leavesAll items).any b.places := by
  rw [bare_groupKids_eq kind (drawItems_fruitful _ _ _ _ _) (drawItems_widgetsHoldNothing _ _ _ _ _)
      fun htab => drawItems_labels_zero (p := planOf b.config kind label depth) htab items 0 _,
    controls_isEmpty (drawItems_shows _ items 0 _ _)]

/-! ## The nodes of a drawing -/

/-- What a node of a drawing can be: a widget, the slot of an item or the container of a
    group. A slot or a container is there for the placed leaves below it. -/
inductive Portrays (b : Builder) (n : Nested) : Prop
  | widget (kind : n.kind.isContainer = false) (children : n.children = [])
  | slot (item : ControlSurface.Node) (index depth : Nat)
      (kind : n.kind = .container .vertical (some index))
      (children : n.children = drawNode b item index depth [])
      (placed : item.leaves.any b.places = true)
  | group (kind : GroupKind) (label : String) (items : List ControlSurface.Node) (depth : Nat)
      (layout : n.kind = .container (groupLayout kind) none) (bindings : n.bindings = [])
      (children : n.children = groupKids kind
        (drawItems b (planOf b.config kind label depth) items 0 (takenFor kind) []))
      (placed : (Node.leavesAll items).any b.places = true)

theorem drawInput_widgets (c : Input) (index : Nat) (taken : List String) :
    Widgets (drawInput b c index taken) := by
  intro n hn
  rw [drawInput] at hn
  split at hn
  · cases hn
  · split at hn
    · rw [List.mem_singleton.mp hn]
      exact ⟨rfl, rfl⟩
    · cases hn

theorem drawOutput_widgets (c : Output) (index : Nat) (taken : List String) :
    Widgets (drawOutput b c index taken) := by
  intro n hn
  rw [drawOutput] at hn
  split at hn
  · cases hn
  · rw [List.mem_singleton.mp hn]
    exact ⟨rfl, rfl⟩

theorem drawHeader_widgets (config : Config) (label : String) (index : Nat)
    (taken : List String) : Widgets (drawHeader config label index taken) := by
  intro n hn
  rw [drawHeader] at hn
  split at hn
  · cases hn
  · rw [List.mem_singleton.mp hn]
    exact ⟨rfl, rfl⟩

theorem drawSelector_widgets (labels : List String) : Widgets (drawSelector labels) := by
  intro n hn
  cases labels with
  | nil => cases hn
  | cons label labels =>
    rw [drawSelector] at hn
    · rw [List.mem_singleton.mp hn]
      exact ⟨rfl, rfl⟩
    · exact List.cons_ne_nil _ _

/-- What holds of all nodes of a drawing: of widgets, of slots of items and of containers of
    groups of a document. A slot or a container is there for the placed leaves below it. -/
structure Pictured (b : Builder) (doc : List ControlSurface.Node) (P : Nested → Prop) : Prop where
  widget : ∀ n, n.kind.isContainer = false → n.children = [] → P n
  slot : ∀ item ∈ doc, ∀ index depth n, n.kind = .container .vertical (some index) →
    n.children = drawNode b item index depth [] → item.leaves.any b.places = true → P n
  group : ∀ kind label info items, .group kind label info items ∈ doc → ∀ depth n,
    n.kind = .container (groupLayout kind) none → n.bindings = [] →
    n.children = groupKids kind
      (drawItems b (planOf b.config kind label depth) items 0 (takenFor kind) []) →
    (Node.leavesAll items).any b.places = true → P n

theorem mem_flatten_self (node : ControlSurface.Node) : node ∈ node.flatten := by
  cases node <;> simp [Node.flatten]

theorem subset_flattenAll (nodes : List ControlSurface.Node) : nodes ⊆ Node.flattenAll nodes := by
  induction nodes with
  | nil => exact List.nil_subset _
  | cons node nodes ih =>
    rw [Node.flattenAll, List.cons_subset]
    exact ⟨List.mem_append_left _ (mem_flatten_self node),
      List.Subset.trans ih (List.subset_append_right _ _)⟩

namespace Pictured
variable {doc : List ControlSurface.Node} {P : Nested → Prop}

theorem widgets (hP : Pictured b doc P) {ns : List Nested} (h : Widgets ns) :
    ∀ n ∈ flattenAll ns, P n := by
  rw [h.flattenAll_eq]
  intro n hn
  obtain ⟨hkind, hchildren⟩ := h n hn
  exact hP.widget n hkind hchildren

/-- A node with all that stands below it. -/
theorem single {n : Nested} (hn : P n) (hkids : ∀ m ∈ flattenAll n.children, P m) :
    ∀ m ∈ flattenAll [n], P m := by
  rw [Nested.flattenAll_single, List.forall_mem_cons]
  exact ⟨hn, hkids⟩

theorem append {ns ms : List Nested} (hn : ∀ n ∈ flattenAll ns, P n)
    (hm : ∀ n ∈ flattenAll ms, P n) : ∀ n ∈ flattenAll (ns ++ ms), P n := by
  rw [Nested.flattenAll_append, List.forall_mem_append]
  exact ⟨hn, hm⟩

mutual

/-- Every node of what a node looks like is a widget, a slot or a group's container. -/
theorem drawNode (hP : Pictured b doc P) : ∀ (node : ControlSurface.Node) (index depth : Nat)
    (taken : List String), node.flatten ⊆ doc →
    ∀ n ∈ flattenAll (Appearance.drawNode b node index depth taken), P n
  | .input c, index, depth, taken, hdoc => by
    rw [Appearance.drawNode]
    exact hP.widgets (drawInput_widgets c index taken)
  | .output c, index, depth, taken, hdoc => by
    rw [Appearance.drawNode]
    exact hP.widgets (drawOutput_widgets c index taken)
  | .soundfile f, index, depth, taken, hdoc => by
    rw [Appearance.drawNode, flattenAll]
    exact List.forall_mem_nil _
  | .group kind label info items, index, depth, taken, hdoc => by
    have hgroup := hdoc (mem_flatten_self _)
    rw [Node.flatten, List.cons_subset] at hdoc
    have hitems := hP.drawItems (planOf b.config kind label depth) items 0 (takenFor kind) [] hdoc.2
    rw [Appearance.drawNode]
    apply append
    · exact hP.widgets (drawHeader_widgets b.config label index taken)
    · rw [drawGroup_eq, bare_groupKids]
      split
      · rw [flattenAll]
        exact List.forall_mem_nil _
      · next hplaced =>
        apply single
        · exact hP.group kind label info items hgroup depth _ rfl rfl rfl (by simpa using hplaced)
        · show ∀ m ∈ flattenAll (groupKids kind _), P m
          rw [groupKids]
          split
          · exact append (hP.widgets (drawSelector_widgets _)) hitems
          · exact hitems

theorem drawItems (hP : Pictured b doc P) (p : Plan) : ∀ (items : List ControlSurface.Node)
    (index : Nat) (taken labels : List String), Node.flattenAll items ⊆ doc →
    ∀ n ∈ flattenAll (Appearance.drawItems b p items index taken labels).1, P n
  | [], index, taken, labels, hdoc => by
    rw [Appearance.drawItems, flattenAll]
    exact List.forall_mem_nil _
  | item :: items, index, taken, labels, hdoc => by
    rw [Node.flattenAll, List.append_subset] at hdoc
    rw [Appearance.drawItems]
    refine append ?_ (hP.drawItems p items _ _ _ hdoc.2)
    split
    · have hkids := hP.drawNode item index p.childDepth [] hdoc.1
      have hitem := hdoc.1 (mem_flatten_self item)
      rw [drawSlot, bare_drawNode]
      split
      · rw [flattenAll]
        exact List.forall_mem_nil _
      · next hplaced =>
        have hsome : item.leaves.any b.places = true := by simpa using hplaced
        split
        · exact single (hP.slot item hitem index p.childDepth _ rfl rfl hsome) hkids
        · exact single (hP.slot item hitem index p.childDepth _ rfl rfl hsome) hkids
    · exact hP.drawNode item _ _ _ hdoc.1

end

theorem drawNodes (hP : Pictured b doc P) (nodes : List ControlSurface.Node) (index : Nat)
    (taken : List String) (hdoc : Node.flattenAll nodes ⊆ doc) :
    ∀ n ∈ flattenAll (Appearance.drawNodes b nodes index taken), P n := by
  induction nodes generalizing index taken with
  | nil =>
    rw [Appearance.drawNodes, flattenAll]
    exact List.forall_mem_nil _
  | cons node nodes ih =>
    rw [Node.flattenAll, List.append_subset] at hdoc
    rw [Appearance.drawNodes]
    exact append (hP.drawNode node _ _ _ hdoc.1) (ih _ _ hdoc.2)

theorem drawDescription {d : Description} (hP : Pictured b (Node.flattenAll d.nodes) P) :
    ∀ n ∈ flattenAll (Appearance.drawDescription b d), P n := by
  rw [Appearance.drawDescription]
  split
  · rw [flattenAll]
    exact List.forall_mem_nil _
  · exact hP.drawNodes d.nodes 0 [] (List.Subset.refl _)

end Pictured

theorem drawDescription_portrays (d : Description) :
    ∀ n ∈ flattenAll (drawDescription b d), Portrays b n := by
  apply Pictured.drawDescription
  constructor
  · exact fun n => .widget
  · exact fun item _ index depth n => .slot item index depth
  · exact fun kind label _ items _ depth n => .group kind label items depth

/-- A container of a drawing shows a leaf. -/
theorem Portrays.controls_ne_nil {n : Nested} (h : Portrays b n)
    (hn : n.kind.isContainer = true) : controls n.children ≠ [] := by
  cases h with
  | widget hk _ =>
    rw [hk] at hn
    cases hn
  | slot item index depth _ hchildren hplaced =>
    have hempty := controls_isEmpty (drawNode_shows (b := b) item index depth [])
    rw [hplaced] at hempty
    rw [hchildren]
    simpa using hempty
  | group kind label items depth _ _ hchildren hplaced =>
    have hempty := controls_isEmpty
      (drawItems_shows (b := b) (planOf b.config kind label depth) items 0 (takenFor kind) [])
    rw [hplaced] at hempty
    rw [hchildren, groupKids_controls]
    simpa using hempty

end Build

end ControlSurface
