import ControlSurface.Proofs.Survival

/- Headers and what they announce. A header is placed before it is known whether its group shows
   anything, so it can outlive the container of the group. Inside slots it does not: a slot
   with a header alone is bare and goes, so everywhere below the root's own children each header
   is directly followed by the container of its group. Beside each other at the root stand the
   headers of all top-level groups, each followed by the container of its group if and only if
   the group places a leaf (`Row`), and only a header that stands there alone is taken away.
   So two top-level groups without a placed leaf leave two headers and nothing else
   (`headers_of_silent_groups`). -/
namespace ControlSurface

/-- Whether a node is a group with a header. -/
def Node.hasHeader (config : Config) : Node → Bool
  | .group _ label _ _ => !config.isHeaderless label
  | _ => false

namespace Build

open Panel
open Nested (controls flattenAll standing bare Fruitful Widgets WidgetsHoldNothing)
open Appearance

/-- The header of a group that has a label and is the `index`-th among its siblings. -/
structure IsHeaderOf (config : Config) (label : String) (index : Nat) (n : Nested) : Prop where
  kind : n.kind = .widget .header [("Headerlabel", label)]
  x : n.x = offset config index

section
variable (config : Config) (placed : Leaf → Bool) (shows : Leaf → Nested → Prop)

/-- The container of a group that is the `index`-th among its siblings. It shows the placed
    leaves of the group. -/
structure IsContainerOf (kind : GroupKind) (items : List ControlSurface.Node) (index : Nat)
    (n : Nested) : Prop where
  kind : n.kind = .container (groupLayout kind) none
  x : n.x = offset config index
  shown : List.Forall₂ shows ((Node.leavesAll items).filter placed) (controls [n])
  placed : (Node.leavesAll items).any placed = true

/-- Siblings of which each header is directly followed by the container of its group, which
    is a group of a document. -/
inductive Followed (doc : List ControlSurface.Node) : List Nested → Prop
  | nil : Followed doc []
  | plain {n : Nested} {ns : List Nested} (other : n.kind.template? ≠ some .header)
      (rest : Followed doc ns) : Followed doc (n :: ns)
  | headed {kind : GroupKind} {label : String} {info : Meta} {items : List ControlSurface.Node}
      {index : Nat} {header container : Nested} {ns : List Nested}
      (group : .group kind label info items ∈ doc) (announces : IsHeaderOf config label index header)
      (survives : IsContainerOf config placed shows kind items index container)
      (rest : Followed doc ns) : Followed doc (header :: container :: ns)

/-- How a node of a description stands at the root, the `index`-th among its siblings: a leaf as
    its widget, if it is placed, and a group as its header, if its label has one, before its
    container, if it has placed leaves. -/
inductive StandsAs : ControlSurface.Node → Nat → List Nested → Prop
  | leaf {node : ControlSurface.Node} {index : Nat} {ns : List Nested}
      (shown : List.Forall₂ shows (node.leaves.filter placed) ns)
      (isControl : ∀ n ∈ ns, n.isControl = true) (headerless : node.hasHeader config = false) :
      StandsAs node index ns
  | group {kind : GroupKind} {label : String} {info : Meta} {items : List ControlSurface.Node}
      {index : Nat} {header body : List Nested}
      (announced : if config.isHeaderless label then header = []
        else ∃ n, header = [n] ∧ IsHeaderOf config label index n)
      (held : if (Node.leavesAll items).any placed then
          ∃ n, body = [n] ∧ IsContainerOf config placed shows kind items index n
        else body = []) :
      StandsAs (.group kind label info items) index (header ++ body)

/-- Nodes that stand side by side, from the `index`-th on. -/
inductive Row : List ControlSurface.Node → Nat → List Nested → Prop
  | nil {index : Nat} : Row [] index []
  | cons {node : ControlSurface.Node} {nodes : List ControlSurface.Node} {index : Nat}
      {ns ms : List Nested} (here : StandsAs config placed shows node index ns)
      (later : Row nodes (index + 1) ms) : Row (node :: nodes) index (ns ++ ms)

end

section
variable {config : Config} {placed : Leaf → Bool} {shows : Leaf → Nested → Prop}
  {doc : List ControlSurface.Node} {ns ms : List Nested}

namespace Followed

theorem append (h : Followed config placed shows doc ns)
    (h' : Followed config placed shows doc ms) : Followed config placed shows doc (ns ++ ms) := by
  induction h with
  | nil => exact h'
  | plain other _ ih => exact .plain other ih
  | headed group announces survives _ ih => exact .headed group announces survives ih

/-- Where there is no header, none stands alone. -/
theorem of_plain (h : ∀ n ∈ ns, n.kind.template? ≠ some .header) :
    Followed config placed shows doc ns := by
  induction ns with
  | nil => exact .nil
  | cons n ns ih =>
    rw [List.forall_mem_cons] at h
    exact .plain h.1 (ih h.2)

end Followed

/-- Nodes that show leaves are no headers. -/
theorem plain_of_fruitful (h : Fruitful ns) (hw : WidgetsHoldNothing ns) :
    ∀ n ∈ ns, n.kind.template? ≠ some .header := by
  intro n hn hheader
  have hnone : controls [n] = [] := by
    rw [Nested.controls_single (Nested.isControl_eq_false (.inr (.inl hheader))), hw n hn]
    · exact Nested.controls_nil
    · cases hk : n.kind with
      | container layout order => rw [hk] at hheader; cases hheader
      | widget template properties => rfl
  exact h n hn hnone

theorem plain_of_isControl {n : Nested} (h : n.isControl = true) :
    n.kind.template? ≠ some .header := by
  intro hheader
  rw [Nested.isControl_eq_false (.inr (.inl hheader))] at h
  cases h

/-- A node of a document that places a leaf, or is no group with a header, leaves no header
    behind. -/
theorem StandsAs.followed {node : ControlSurface.Node} {index : Nat}
    (h : StandsAs config placed shows node index ns) (hdoc : node ∈ doc)
    (hplaced : node.hasHeader config = true → node.leaves.any placed = true) :
    Followed config placed shows doc ns := by
  cases h with
  | leaf _ hcontrol _ => exact .of_plain fun n hn => plain_of_isControl (hcontrol n hn)
  | @group kind label info items _ header body hheader hbody =>
    rw [Node.leaves_group] at hplaced
    cases hless : config.isHeaderless label with
    | true =>
      rw [hless, if_pos rfl] at hheader
      rw [hheader, List.nil_append]
      split at hbody
      · obtain ⟨n, rfl, hn⟩ := hbody
        refine .plain ?_ .nil
        rw [hn.kind]
        exact nofun
      · rw [hbody]
        exact .nil
    | false =>
      rw [hless, if_neg Bool.false_ne_true] at hheader
      obtain ⟨h, rfl, hh⟩ := hheader
      rw [if_pos (hplaced (by rw [Node.hasHeader, hless]; rfl))] at hbody
      obtain ⟨n, rfl, hn⟩ := hbody
      exact .headed hdoc hh hn .nil

/-- If all groups with headers place leaves, no header in a row is left behind. -/
theorem Row.followed {nodes : List ControlSurface.Node} {index : Nat}
    (h : Row config placed shows nodes index ns) (hdoc : nodes ⊆ doc)
    (hplaced : ∀ node ∈ nodes, node.hasHeader config = true → node.leaves.any placed = true) :
    Followed config placed shows doc ns := by
  induction h with
  | nil => exact .nil
  | cons here _ ih =>
    rw [List.cons_subset] at hdoc
    rw [List.forall_mem_cons] at hplaced
    exact (here.followed hdoc.1 hplaced.1).append (ih hdoc.2 hplaced.2)

/-- What is left of a node that places no leaf is its header, if it has one. -/
theorem StandsAs.silent {node : ControlSurface.Node} {index : Nat}
    (h : StandsAs config placed shows node index ns) (hnone : node.leaves.any placed = false) :
    ns.length = (if node.hasHeader config then 1 else 0) ∧
      ∀ n ∈ ns, n.kind.template? = some .header := by
  cases h with
  | leaf hshown _ hless =>
    have hleaves : node.leaves.filter placed = [] := by
      rw [List.filter_eq_nil_iff]
      simpa using hnone
    rw [hleaves] at hshown
    cases hshown
    rw [hless]
    exact ⟨rfl, List.forall_mem_nil _⟩
  | @group kind label info items _ header body hheader hbody =>
    rw [Node.leaves_group] at hnone
    rw [hnone, if_neg Bool.false_ne_true] at hbody
    rw [hbody, List.append_nil, Node.hasHeader]
    cases hless : config.isHeaderless label with
    | true =>
      rw [hless, if_pos rfl] at hheader
      rw [hheader]
      exact ⟨rfl, List.forall_mem_nil _⟩
    | false =>
      rw [hless, if_neg Bool.false_ne_true] at hheader
      obtain ⟨h, rfl, hh⟩ := hheader
      refine ⟨rfl, List.forall_mem_singleton.mpr ?_⟩
      rw [hh.kind]
      rfl

/-- Where no leaf is placed, a row is the headers of its groups. -/
theorem Row.silent {nodes : List ControlSurface.Node} {index : Nat}
    (h : Row config placed shows nodes index ns)
    (hnone : (Node.leavesAll nodes).any placed = false) :
    ns.length = (nodes.filter (Node.hasHeader config)).length ∧
      ∀ n ∈ ns, n.kind.template? = some .header := by
  induction h with
  | nil => exact ⟨rfl, List.forall_mem_nil _⟩
  | cons here _ ih =>
    rw [Node.leavesAll_cons, List.any_append, Bool.or_eq_false_iff] at hnone
    obtain ⟨hlength, hheaders⟩ := here.silent hnone.1
    obtain ⟨hrest, hlater⟩ := ih hnone.2
    rw [List.length_append, hlength, hrest, List.filter_cons]
    refine ⟨?_, List.forall_mem_append.mpr ⟨hheaders, hlater⟩⟩
    split
    · rw [List.length_cons, Nat.add_comm]
    · rw [Nat.zero_add]

/-- Headers are bare if they are not more than one. -/
theorem bare_of_headers (h : ∀ n ∈ ns, n.kind.template? = some .header) :
    bare ns = decide (ns.length ≤ 1) := by
  match ns, h with
  | [], _ => rfl
  | [only], h =>
    have honly := h only List.mem_cons_self
    simp [bare, honly]
  | n :: m :: ns, _ => simp [bare]

end

/-! ## Drawings -/

section
variable {b : Builder} {shows : Leaf → Nested → Prop}

/-- Widgets that show leaves. -/
theorem controls_eq_self {ns : List Nested} (hf : Fruitful ns) (hw : Widgets ns) :
    (∀ n ∈ ns, n.isControl = true) ∧ controls ns = ns := by
  have hcontrol : ∀ n ∈ ns, n.isControl = true := by
    intro n hn
    by_contra hplain
    have hnone : controls [n] = [] := by
      rw [Nested.controls_single (Bool.eq_false_iff.mpr hplain), (hw n hn).2, Nested.controls_nil]
    exact hf n hn hnone
  refine ⟨hcontrol, ?_⟩
  rw [controls, hw.flattenAll_eq, List.filter_eq_self]
  exact hcontrol

/-- What a leaf looks like is its widget, if it is placed. -/
theorem standsAs_leaf (hshows : ∀ l n, b.Binds l n → shows l n) {node : ControlSurface.Node}
    {ns : List Nested} (hnode : node.hasHeader b.config = false) (hf : Fruitful ns)
    (hw : Widgets ns) (hdrawn : List.Forall₂ b.Binds (node.leaves.filter b.places) (controls ns))
    (index : Nat) : StandsAs b.config b.places shows node index ns := by
  obtain ⟨hcontrol, hself⟩ := controls_eq_self hf hw
  rw [hself] at hdrawn
  exact .leaf (hdrawn.imp hshows) hcontrol hnode

/-- What a node looks like: a leaf its widget, a group its header and its container. -/
theorem drawNode_standsAs (hshows : ∀ l n, b.Binds l n → shows l n) (node : ControlSurface.Node)
    (index depth : Nat) (taken : List String) :
    StandsAs b.config b.places shows node index (drawNode b node index depth taken) := by
  have hdrawn := drawNode_shows (b := b) node index depth taken
  cases node with
  | input c =>
    rw [drawNode] at hdrawn ⊢
    exact standsAs_leaf hshows rfl (drawInput_fruitful c index taken)
      (drawInput_widgets c index taken) hdrawn index
  | output c =>
    rw [drawNode] at hdrawn ⊢
    exact standsAs_leaf hshows rfl (drawOutput_fruitful c index taken)
      (drawOutput_widgets c index taken) hdrawn index
  | soundfile f =>
    rw [drawNode] at hdrawn ⊢
    exact standsAs_leaf hshows rfl (List.forall_mem_nil _) (List.forall_mem_nil _) hdrawn index
  | group kind label info items =>
    rw [drawNode]
    refine .group ?_ ?_
    · rw [drawHeader]
      split
      · rfl
      · exact ⟨_, rfl, rfl, rfl⟩
    · rw [drawGroup_eq, bare_groupKids]
      cases hplaced : (Node.leavesAll items).any b.places with
      | false => rfl
      | true =>
        refine ⟨_, rfl, rfl, rfl, ?_, hplaced⟩
        rw [Nested.controls_single rfl]
        show List.Forall₂ shows _ (controls (groupKids kind _))
        rw [groupKids_controls]
        exact (drawItems_shows (b := b) _ items 0 _ _).imp hshows

theorem drawNodes_row (hshows : ∀ l n, b.Binds l n → shows l n)
    (nodes : List ControlSurface.Node) (index : Nat) (taken : List String) :
    Row b.config b.places shows nodes index (drawNodes b nodes index taken) := by
  induction nodes generalizing index taken with
  | nil =>
    rw [drawNodes]
    exact .nil
  | cons node nodes ih =>
    rw [drawNodes]
    exact .cons (drawNode_standsAs hshows node index 0 taken) (ih _ _)

/-- No header stands right in the container of a group. -/
theorem groupKids_plain (kind : GroupKind) (p : Plan) (items : List ControlSurface.Node)
    (taken : List String) : ∀ n ∈ groupKids kind (drawItems b p items 0 taken []),
      n.kind.template? ≠ some .header := by
  have hitems := plain_of_fruitful (drawItems_fruitful (b := b) p items 0 taken [])
    (drawItems_widgetsHoldNothing p items 0 taken [])
  rw [groupKids]
  split
  · refine List.forall_mem_append.mpr ⟨?_, hitems⟩
    rw [drawSelector.eq_def]
    split
    · exact List.forall_mem_nil _
    · exact List.forall_mem_singleton.mpr nofun
  · exact hitems

/-- Below the nodes of a drawing each header is followed by the container of its group. -/
theorem followed_pictured (hshows : ∀ l n, b.Binds l n → shows l n)
    (doc : List ControlSurface.Node) :
    Pictured b doc fun n => Followed b.config b.places shows doc n.children := by
  constructor
  · intro n _ hchildren
    rw [hchildren]
    exact .nil
  · intro item hitem index depth n _ hchildren hplaced
    rw [hchildren]
    exact (drawNode_standsAs hshows item index depth []).followed hitem fun _ => hplaced
  · intro kind label info items _ depth n _ _ hchildren _
    rw [hchildren]
    exact .of_plain (groupKids_plain kind _ items _)

end

/-! ## The headers of a build -/

/-- Where the headers of a panel stand. Everywhere below the root's own children each is followed
    by the container of its group. At the root stand all top-level nodes in a row, unless the
    row is bare. -/
structure HeadersStand (config : Config) (d : Description) (shows : Leaf → Nested → Prop)
    (root : Nested) : Prop where
  below : ∀ n ∈ flattenAll root.children,
    Followed config (isPlaced config d) shows (Node.flattenAll d.nodes) n.children
  top : ∃ row, Row config (isPlaced config d) shows d.nodes 0 row ∧
    root.children = if bare row then [] else row
  followed : (∀ node ∈ d.nodes, node.hasHeader config = true →
      node.leaves.any (isPlaced config d) = true) →
    Followed config (isPlaced config d) shows (Node.flattenAll d.nodes) root.children
  silent : (∀ l ∈ d.leaves, isShown config d l = false) →
    root.children.length =
      if (d.nodes.filter (Node.hasHeader config)).length ≤ 1 then 0
      else (d.nodes.filter (Node.hasHeader config)).length

theorem any_isPlaced_of_hidden {config : Config} {d : Description}
    (h : ∀ l ∈ d.leaves, isShown config d l = false) :
    (Node.leavesAll d.nodes).any (isPlaced config d) = false := by
  rw [List.any_eq_false]
  intro l hl
  unfold isPlaced
  rw [h l hl]
  exact Bool.false_ne_true

/-- A drawing whose nodes stand in a row, bare or not. -/
theorem headersStand_of_row {config : Config} {d : Description} {shows : Leaf → Nested → Prop}
    {root : Nested} {row : List Nested} (hrow : Row config (isPlaced config d) shows d.nodes 0 row)
    (hchildren : root.children = if bare row then [] else row)
    (hbelow : ∀ n ∈ flattenAll root.children,
      Followed config (isPlaced config d) shows (Node.flattenAll d.nodes) n.children) :
    HeadersStand config d shows root := by
  refine ⟨hbelow, ⟨row, hrow, hchildren⟩, fun hplaced => ?_, fun hhidden => ?_⟩
  · rw [hchildren]
    split
    · exact .nil
    · exact hrow.followed (subset_flattenAll d.nodes) hplaced
  · obtain ⟨hlength, hheaders⟩ := hrow.silent (any_isPlaced_of_hidden hhidden)
    rw [hchildren, bare_of_headers hheaders, hlength]
    split
    · next hone => rw [if_pos (by simpa using hone), List.length_nil]
    · next hmore => rw [if_neg (by simpa using hmore), hlength]

/-- The headers of the panel stand where they should, before containers that show leaves as they
    are routed. -/
def PanelAnnounces (A : Session) (d : Description) (B : Session) : Prop :=
  ∃ root page, B.hosts.panel.nested = some root ∧
    B.hosts.pages.page? A.builder.config.controlPage = some page ∧
    HeadersStand A.builder.config d (Shows A.builder.config page.parameters B.hosts.routes.rows) root

/-- After a build that ends well, in any session, the headers of the panel stand where they
    should. -/
theorem build_headers_stand (config : Config) (events : List Event) (d : Description)
    (refusal : Option Nat) (report : Report)
    (h : ((Session.history config events).take refusal (buildDescription d true)).1 = .ok report) :
    PanelAnnounces (Session.history config events) d
      ((Session.history config events).take refusal (buildDescription d true)).2 := by
  obtain ⟨own, hrooted⟩ := Session.history_rooted config events
  generalize Session.history config events = A at h hrooted ⊢
  have hbuilt := built_of_ok h
  have hnested := build_nested hrooted h
  generalize (A.take refusal (buildDescription d true)).2 = B at hbuilt hnested ⊢
  refine ⟨_, _, hnested, hbuilt.config ▸ hbuilt.settled.page?, ?_⟩
  have hshows : ∀ l n, B.builder.Binds l n → Shows A.builder.config
      (B.builder.widgets.filterMap (·.parameter)) B.hosts.routes.rows l n :=
    fun l n => hbuilt.shows
  have hrow := drawNodes_row hshows d.nodes 0 []
  have hbelow := (followed_pictured hshows (Node.flattenAll d.nodes)).drawDescription
  rw [hbuilt.places_eq_isPlaced, hbuilt.config] at hrow hbelow
  exact headersStand_of_row hrow rfl hbelow

/-- A group of two groups, of which one holds the operator's own control alone, and another such
    group beside it. -/
def silentGroups : Description where
  name := none
  inputs := none
  outputs := none
  info := Meta.empty
  nodes := [.group .vertical "synth" Meta.empty
      [.group .horizontal "keys" Meta.empty
        [.input ⟨.button, "stop", "/synth/Panic", ⟨0, 0, 0, 0⟩, Meta.empty⟩],
       .group .horizontal "out" Meta.empty
        [.output ⟨.verticalBargraph, "level", "/synth/level", 0, 1, Meta.empty⟩]],
    .group .vertical "other" Meta.empty
      [.input ⟨.button, "stop", "/other/Panic", ⟨0, 0, 0, 0⟩, Meta.empty⟩]]

/-- What stands right on the panel that a build leaves: the name of each node, and its template
    if it is a widget. -/
def topOf (B : Session) : Option (List (String × Option Template)) :=
  B.hosts.panel.nested.map fun root => root.children.map fun n => (n.name, n.kind.template?)

theorem build_headers_stand_of_silent_groups :
    ((Session.history Config.default [.addPage "Settings"]).take (some 99)
        (buildDescription silentGroups true)).1 = .ok ⟨0, 1, 2⟩ ∧
      PanelAnnounces (Session.history Config.default [.addPage "Settings"]) silentGroups
        ((Session.history Config.default [.addPage "Settings"]).take (some 99)
          (buildDescription silentGroups true)).2 ∧
      topOf ((Session.history Config.default [.addPage "Settings"]).take (some 99)
          (buildDescription silentGroups true)).2 =
        some [("synth", some .header), ("synth1", none), ("other", some .header)] := by
  have h : ((Session.history Config.default [.addPage "Settings"]).take (some 99)
      (buildDescription silentGroups true)).1 = .ok ⟨0, 1, 2⟩ := by decide +kernel
  exact ⟨h, build_headers_stand _ _ _ _ _ h, by decide +kernel⟩

/-- Two groups of the operator's own controls. -/
def panicGroups : Description where
  name := none
  inputs := none
  outputs := none
  info := Meta.empty
  nodes := [.group .vertical "left" Meta.empty
      [.input ⟨.button, "Panic", "/left/Panic", ⟨0, 0, 0, 0⟩, Meta.empty⟩],
    .group .vertical "right" Meta.empty
      [.input ⟨.button, "Panic", "/right/Panic", ⟨0, 0, 0, 0⟩, Meta.empty⟩]]

/-- No leaf of the two groups is shown, and both headers stay. -/
theorem headers_of_silent_groups :
    let A := Session.new Config.default
    (A.take none (buildDescription panicGroups true)).1 = .ok ⟨0, 0, 2⟩ ∧
      shownLeaves Config.default panicGroups = [] ∧
      topOf (A.take none (buildDescription panicGroups true)).2 =
        some [("left", some .header), ("right", some .header)] := by
  intro A
  refine ⟨by decide +kernel, ?_, by decide +kernel⟩
  rw [← List.length_eq_zero_iff]
  decide +kernel

end Build

end ControlSurface
