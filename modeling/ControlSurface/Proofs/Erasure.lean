import ControlSurface.Proofs.Completion
import ControlSurface.Proofs.Shown

/- What is left out leaves no trace. The visible part of a description is the description
   without its hidden leaves and sound files, and then without the groups below the top level
   in which nothing is left (`Description.visible`). A build opens slots, headers, containers
   and selectors for what is hidden too, and prunes them afterwards; still it comes to the same
   as a build of the visible part, but for the count of hidden leaves and for where nodes stand
   and in which order they are aligned (`build_visible`). The controls are the same because all
   visible leaves stay visible when the filter knows of no others (`isShown_visible`), and the
   drawings are the same because a group in which nothing is left is drawn as a header at most
   (`drawNode_visible`). -/
namespace ControlSurface

/-! ## The visible part of a description -/

namespace Node

/-- Whether a node is a group without items. -/
def isHollow : Node → Bool
  | group _ _ _ [] => true
  | _ => false

mutual

/-- A node of which only some leaves are left; none if it is another leaf or a sound file. -/
def visible (shown : Leaf → Bool) : Node → Option Node
  | input c => if shown (.input c) then some (input c) else none
  | output c => if shown (.output c) then some (output c) else none
  | soundfile _ => none
  | group kind label info items => some (group kind label info (visibleItems shown items))

/-- What is left of the items of a group. Groups in which nothing is left are not. -/
def visibleItems (shown : Leaf → Bool) : List Node → List Node
  | [] => []
  | item :: items =>
    ((visible shown item).filter fun node => !node.isHollow).toList ++ visibleItems shown items

end

/-- A group without items has no leaves. -/
theorem leaves_of_isHollow {node : Node} (h : node.isHollow = true) : node.leaves = [] := by
  cases node with
  | group kind label info items =>
    cases items with
    | nil => rw [leaves_group, leavesAll_nil]
    | cons item items => cases h
  | input c => cases h
  | output c => cases h
  | soundfile f => cases h

/-- A hollow node may be left out without a loss of leaves. -/
theorem leavesAll_filter_isHollow (node : Option Node) :
    leavesAll (node.filter fun n => !n.isHollow).toList = leavesAll node.toList := by
  cases node with
  | none => rfl
  | some node =>
    cases h : node.isHollow with
    | false =>
      rw [Option.filter_some, h]
      rfl
    | true =>
      rw [Option.filter_some, h]
      simp [leaves_of_isHollow h]

mutual

/-- The leaves that are left are those that are shown. -/
theorem leaves_visible (shown : Leaf → Bool) : ∀ node : Node,
    leavesAll (node.visible shown).toList = node.leaves.filter shown
  | .input c => by
    rw [visible, leaves_input]
    cases h : shown (.input c) <;> simp [h]
  | .output c => by
    rw [visible, leaves_output]
    cases h : shown (.output c) <;> simp [h]
  | .soundfile f => by
    rw [visible, leaves_soundfile]
    rfl
  | .group kind label info items => by
    have hitems := leavesAll_visibleItems shown items
    rw [visible, leaves_group, Option.toList_some, leavesAll_cons, leavesAll_nil, List.append_nil,
      leaves_group, hitems]

theorem leavesAll_visibleItems (shown : Leaf → Bool) : ∀ items : List Node,
    leavesAll (visibleItems shown items) = (leavesAll items).filter shown
  | [] => by
    rw [visibleItems, leavesAll_nil]
    rfl
  | item :: items => by
    have hitem := leaves_visible shown item
    have hitems := leavesAll_visibleItems shown items
    rw [visibleItems, leavesAll_append, leavesAll_filter_isHollow, hitem, hitems, leavesAll_cons,
      List.filter_append]

end

theorem leavesAll_filterMap_visible (shown : Leaf → Bool) (nodes : List Node) :
    leavesAll (nodes.filterMap (visible shown)) = (leavesAll nodes).filter shown := by
  induction nodes with
  | nil => rw [List.filterMap_nil, leavesAll_nil, List.filter_nil]
  | cons node nodes ih =>
    have hsplit : (node :: nodes).filterMap (visible shown) =
        (node.visible shown).toList ++ nodes.filterMap (visible shown) := by
      rw [List.filterMap_cons]
      cases node.visible shown <;> rfl
    rw [hsplit, leavesAll_append, leaves_visible, ih, leavesAll_cons, List.filter_append]

/-- What is left of a node has its label, and is an input if the node is one. -/
theorem label_of_visible {shown : Leaf → Bool} {node rest : Node}
    (h : node.visible shown = some rest) :
    rest.label = node.label ∧ rest.isInput = node.isInput := by
  cases node with
  | input c =>
    rw [visible] at h
    split at h
    · cases h
      exact ⟨rfl, rfl⟩
    · cases h
  | output c =>
    rw [visible] at h
    split at h
    · cases h
      exact ⟨rfl, rfl⟩
    · cases h
  | soundfile f =>
    rw [visible] at h
    cases h
  | group kind label info items =>
    rw [visible] at h
    cases h
    exact ⟨rfl, rfl⟩

end Node

/-- A description without the leaves that a build leaves out, without sound files, and without
    the groups in which nothing is left, but for those at the top level. -/
def Description.visible (config : Config) (d : Description) : Description :=
  { d with nodes := d.nodes.filterMap (Node.visible (Build.isShown config d)) }

namespace Voice.Filter

/-- A filter that knows of fewer addresses lets more through. -/
theorem check_of_fewer {f : Filter} {fewer : List String} {address : String}
    (hfewer : ∀ a ∈ fewer, a ∈ f.addresses) (h : f.check address = none) :
    check { f with addresses := fewer } address = none := by
  unfold check at h ⊢
  dsimp only at h ⊢
  split at h
  · cases h
  · next hreserved =>
    rw [if_neg hreserved]
    split at h
    · cases h
    · next hnote =>
      rw [if_neg hnote]
      split
      · next hvoices =>
        rw [if_pos hvoices] at h
        -- The leaf of the first voice is not among the fewer ones either.
        cases hcanonical : canonical? address with
        | none => rfl
        | some twin =>
          rw [hcanonical] at h
          dsimp only at h ⊢
          split at h
          · cases h
          · next hnot =>
            rw [if_neg]
            intro hmem
            rw [List.contains_iff_mem] at hmem hnot
            exact hnot (hfewer twin hmem)
      · rfl

end Voice.Filter

/-! ## A panel without places -/

namespace Panel

/-- What a node is, whatever its place among the slots of a group. -/
def Kind.unplaced : Kind → Kind
  | .container layout order => .container layout (order.map fun _ => 0)
  | .widget template properties => .widget template properties

namespace Nested

mutual

/-- A node with all that stands below it, whatever their places. -/
def unplaced : Nested → Nested
  | .node name _ kind bindings children =>
    .node name 0 kind.unplaced bindings (unplacedAll children)

/-- Nodes with all that stands below them, whatever their places. -/
def unplacedAll : List Nested → List Nested
  | [] => []
  | n :: ns => unplaced n :: unplacedAll ns

end

theorem unplacedAll_append (ns ms : List Nested) :
    unplacedAll (ns ++ ms) = unplacedAll ns ++ unplacedAll ms := by
  induction ns with
  | nil => rw [List.nil_append, unplacedAll, List.nil_append]
  | cons n ns ih => rw [List.cons_append, unplacedAll, ih, unplacedAll, List.cons_append]

theorem unplacedAll_single (n : Nested) : unplacedAll [n] = [n.unplaced] := by
  rw [unplacedAll, unplacedAll]

/-- Names do not depend on places. -/
theorem names_unplacedAll (ns : List Nested) : (unplacedAll ns).map name = ns.map name := by
  induction ns with
  | nil => rw [unplacedAll]
  | cons n ns ih =>
    cases n with
    | node => rw [unplacedAll, unplaced, List.map_cons, List.map_cons, ih]; rfl

theorem names_of_unplacedAll {ns ms : List Nested} (h : unplacedAll ns = unplacedAll ms) :
    ns.map name = ms.map name := by
  rw [← names_unplacedAll ns, h, names_unplacedAll]

/-- Whether nodes are bare does not depend on places. -/
theorem bare_unplacedAll (ns : List Nested) : bare (unplacedAll ns) = bare ns := by
  cases ns with
  | nil => rw [unplacedAll]
  | cons n ns =>
    cases ns with
    | nil =>
      cases n with
      | node name x kind bindings children =>
        rw [unplacedAll_single, unplaced]
        cases kind <;> rfl
    | cons m ns =>
      rw [unplacedAll, unplacedAll]
      rfl

theorem bare_of_unplacedAll {ns ms : List Nested} (h : unplacedAll ns = unplacedAll ms) :
    bare ns = bare ms := by
  rw [← bare_unplacedAll ns, h, bare_unplacedAll]

theorem eq_nil_of_unplacedAll {ns : List Nested} (h : unplacedAll ns = []) : ns = [] := by
  cases ns with
  | nil => rfl
  | cons n ns =>
    rw [unplacedAll] at h
    cases h

/-- Nodes of one name that stand beside the same siblings, in whatever places. -/
theorem unplaced_standing {spec other : Spec} {kids more : List Nested} (taken : List String)
    (bindings : List Binding) (hname : spec.name = other.name)
    (hkind : spec.kind.unplaced = other.kind.unplaced)
    (hkids : unplacedAll kids = unplacedAll more) :
    unplacedAll [standing taken spec bindings kids] =
      unplacedAll [standing taken other bindings more] := by
  rw [unplacedAll_single, unplacedAll_single, standing, standing, unplaced, unplaced, hname, hkind,
    hkids]

end Nested

/-- A panel with a root has a nested view. -/
theorem Tree.Rooted.exists_nested {t : Tree} {own : List Binding} (h : t.Rooted own) :
    ∃ n, t.nested = some n := by
  obtain ⟨r, hr, -⟩ := h.alive
  refine ⟨.node r.name r.x r.kind r.bindings (t.nestedFrom t.slots.size r.children), ?_⟩
  rw [Tree.nested, Tree.nestedFrom, List.filterMap_cons_some (by rw [hr]; rfl), List.head?_cons]

end Panel

namespace Build

open Panel
open Nested (bare unplacedAll)
open Appearance

/-! ## The drawing of the visible part -/

/-- A builder that hides nothing of what is shown of another builder's leaves, and has the same
    widgets. -/
structure Builder.Sees (shown : Leaf → Bool) (b v : Builder) : Prop where
  config : v.config = b.config
  widgets : v.widgets = b.widgets
  hides : ∀ l : Leaf, b.hides l.address = !shown l
  shows : ∀ l : Leaf, shown l = true → v.hides l.address = false

variable {b v : Builder} {shown : Leaf → Bool}

/-- A group without items is drawn as a header at most, and gets a slot wherever it stands. -/
theorem bare_of_isHollow {node : ControlSurface.Node} (h : node.isHollow = true)
    (index depth : Nat) (taken : List String) :
    bare (drawNode v node index depth taken) = true ∧ node.isInput = false := by
  cases node with
  | group kind label info items =>
    cases items with
    | cons item items => cases h
    | nil =>
      refine ⟨?_, rfl⟩
      have hkids : groupKids kind ([], []) = [] := by
        cases kind <;> rfl
      have hbare : bare [] = true := rfl
      rw [drawNode, drawItems, drawGroup_eq, hkids, if_pos hbare, List.append_nil, drawHeader]
      split
      · rfl
      · rfl
  | input c => cases h
  | output c => cases h
  | soundfile f => cases h

namespace Builder.Sees
variable (h : b.Sees shown v)
include h

theorem widget? (address : String) : v.widget? (v.key address) = b.widget? (b.key address) := by
  rw [Builder.widget?_eq, Builder.widget?_eq, Builder.key, Builder.key, h.config, h.widgets]

/-- A shown input looks the same wherever it stands. -/
theorem drawInput_eq (c : Input) (hc : shown (.input c) = true) (i j : Nat) (taken : List String) :
    unplacedAll (drawInput v c j taken) = unplacedAll (drawInput b c i taken) := by
  have hb : b.hides c.address = false := by
    have hides := h.hides (.input c)
    rw [hc] at hides
    exact hides
  have hv : v.hides c.address = false := h.shows (.input c) hc
  rw [drawInput, drawInput, hb, hv, h.widget?, h.config]
  cases (b.widget? (b.key c.address)).bind (·.parameter) with
  | none => rfl
  | some p => exact Nested.unplaced_standing taken _ rfl rfl rfl

theorem drawOutput_eq (c : Output) (hc : shown (.output c) = true) (i j : Nat)
    (taken : List String) :
    unplacedAll (drawOutput v c j taken) = unplacedAll (drawOutput b c i taken) := by
  have hb : b.hides c.address = false := by
    have hides := h.hides (.output c)
    rw [hc] at hides
    exact hides
  have hv : v.hides c.address = false := h.shows (.output c) hc
  rw [drawOutput, drawOutput, hb, hv, Builder.key, Builder.key, h.config]
  exact Nested.unplaced_standing taken _ rfl rfl rfl

end Builder.Sees

theorem drawHeader_unplaced (config : Config) (label : String) (i j : Nat) (taken : List String) :
    unplacedAll (drawHeader config label j taken) =
      unplacedAll (drawHeader config label i taken) := by
  rw [drawHeader, drawHeader]
  split
  · rfl
  · exact Nested.unplaced_standing taken [] rfl rfl rfl

theorem drawSlot_unplaced (config : Config) (p : Plan) {item rest : ControlSurface.Node}
    (hlabel : rest.label = item.label) (i j : Nat) (taken labels : List String)
    {kids more : List Nested} (hkids : unplacedAll more = unplacedAll kids) :
    unplacedAll (drawSlot config p rest j taken labels more).1 =
        unplacedAll (drawSlot config p item i taken labels kids).1 ∧
      (drawSlot config p rest j taken labels more).2 =
        (drawSlot config p item i taken labels kids).2 := by
  rw [drawSlot, drawSlot, Nested.bare_of_unplacedAll hkids, hlabel]
  split
  · exact ⟨rfl, rfl⟩
  · split
    · exact ⟨Nested.unplaced_standing taken _ rfl rfl hkids, rfl⟩
    · exact ⟨Nested.unplaced_standing taken _ rfl rfl hkids, rfl⟩

theorem drawGroup_unplaced (config : Config) (kind : GroupKind) (label : String) (i j : Nat)
    (taken : List String) {items more : List Nested × List String}
    (hitems : unplacedAll more.1 = unplacedAll items.1) (hlabels : more.2 = items.2) :
    unplacedAll (drawGroup config kind label j taken more) =
      unplacedAll (drawGroup config kind label i taken items) := by
  have hkids : unplacedAll (groupKids kind more) = unplacedAll (groupKids kind items) := by
    rw [groupKids, groupKids, hlabels]
    split
    · rw [Nested.unplacedAll_append, Nested.unplacedAll_append, hitems]
    · exact hitems
  rw [drawGroup_eq, drawGroup_eq, Nested.bare_of_unplacedAll hkids]
  split
  · rfl
  · exact Nested.unplaced_standing taken [] rfl rfl hkids

/-- An item that is drawn as a header at most leaves nothing in its group. -/
theorem drawItem_of_bare {p : Plan} {item : ControlSurface.Node} {index : Nat}
    (taken labels : List String)
    (hslot : bare (drawNode b item index p.childDepth []) = true)
    (hplain : p.slots item = false → drawNode b item index p.childDepth taken = []) :
    drawItem b p item index taken labels = ([], labels) := by
  rw [drawItem]
  split
  · rw [drawSlot, hslot]
    rfl
  · next hslots => rw [hplain (by simpa using hslots)]

mutual

/-- What is left of a node looks as the node does, wherever it stands. -/
theorem drawNode_visible (h : b.Sees shown v) : ∀ (node : ControlSurface.Node)
    (i j depth : Nat) (taken : List String),
    unplacedAll ((node.visible shown).elim [] fun rest => drawNode v rest j depth taken) =
      unplacedAll (drawNode b node i depth taken)
  | .input c, i, j, depth, taken => by
    rw [Node.visible]
    cases hc : shown (.input c) with
    | true =>
      rw [if_pos rfl, Option.elim_some, drawNode, drawNode]
      exact h.drawInput_eq c hc i j taken
    | false =>
      have hides := h.hides (.input c)
      rw [hc, Leaf.address_input] at hides
      rw [if_neg Bool.false_ne_true, Option.elim_none, drawNode, drawInput, hides]
      rfl
  | .output c, i, j, depth, taken => by
    rw [Node.visible]
    cases hc : shown (.output c) with
    | true =>
      rw [if_pos rfl, Option.elim_some, drawNode, drawNode]
      exact h.drawOutput_eq c hc i j taken
    | false =>
      have hides := h.hides (.output c)
      rw [hc, Leaf.address_output] at hides
      rw [if_neg Bool.false_ne_true, Option.elim_none, drawNode, drawOutput, hides]
      rfl
  | .soundfile f, i, j, depth, taken => by
    rw [Node.visible, Option.elim_none, drawNode]
  | .group kind label info items, i, j, depth, taken => by
    obtain ⟨hitems, hlabels⟩ := drawItems_visible h (planOf b.config kind label depth) items 0 0
      (takenFor kind) []
    have hheader := drawHeader_unplaced b.config label i j taken
    rw [Node.visible, Option.elim_some, drawNode, drawNode, h.config,
      Nested.unplacedAll_append, Nested.unplacedAll_append, hheader,
      Nested.names_of_unplacedAll hheader, drawGroup_unplaced _ _ _ i j _ hitems hlabels]

/-- What is left of items looks as the items do, wherever they stand, and as pages they have
    the same labels. -/
theorem drawItems_visible (h : b.Sees shown v) (p : Plan) :
    ∀ (items : List ControlSurface.Node) (i j : Nat) (taken labels : List String),
    unplacedAll (drawItems v p (Node.visibleItems shown items) j taken labels).1 =
        unplacedAll (drawItems b p items i taken labels).1 ∧
      (drawItems v p (Node.visibleItems shown items) j taken labels).2 =
        (drawItems b p items i taken labels).2
  | [], i, j, taken, labels => by
    rw [Node.visibleItems, drawItems, drawItems]
    exact ⟨rfl, rfl⟩
  | item :: items, i, j, taken, labels => by
    -- Either the item stays, or it leaves nothing in the group.
    have hnode := fun j taken => drawNode_visible h item i j p.childDepth taken
    rw [Node.visibleItems, drawItems_cons]
    cases hvisible : item.visible shown with
    | none =>
      rw [hvisible] at hnode
      have hnil : ∀ taken, drawNode b item i p.childDepth taken = [] := fun taken =>
        Nested.eq_nil_of_unplacedAll (hnode 0 taken).symm
      have hdropped : drawItem b p item i taken labels = ([], labels) :=
        drawItem_of_bare taken labels (by rw [hnil]; rfl) fun _ => hnil taken
      rw [hdropped]
      simpa using drawItems_visible h p items (i + 1) j taken labels
    | some rest =>
      rw [hvisible] at hnode
      obtain ⟨hlabel, hinput⟩ := Node.label_of_visible hvisible
      cases hhollow : rest.isHollow with
      | true =>
        obtain ⟨hbare, hno⟩ := bare_of_isHollow (v := v) hhollow 0 p.childDepth []
        have hslots : p.slots item = true := by
          rw [Plan.slots, ← hinput, hno]
          simp
        have hdropped : drawItem b p item i taken labels = ([], labels) := by
          apply drawItem_of_bare taken labels
          · rw [← Nested.bare_of_unplacedAll (hnode 0 [])]
            exact hbare
          · intro hplain
            rw [hslots] at hplain
            cases hplain
        have hgone : (Option.some rest).filter (fun node => !node.isHollow) = none := by
          rw [Option.filter_some, hhollow]
          rfl
        rw [hdropped, hgone]
        simpa using drawItems_visible h p items (i + 1) j taken labels
      | false =>
        have hslots : p.slots rest = p.slots item := by
          rw [Plan.slots, Plan.slots, hinput]
        have hitem : unplacedAll (drawItem v p rest j taken labels).1 =
              unplacedAll (drawItem b p item i taken labels).1 ∧
            (drawItem v p rest j taken labels).2 = (drawItem b p item i taken labels).2 := by
          rw [drawItem, drawItem, hslots, h.config]
          split
          · exact drawSlot_unplaced b.config p hlabel i j taken labels (hnode j [])
          · exact ⟨hnode j taken, rfl⟩
        obtain ⟨hsame, hlabels⟩ := hitem
        have hkept : (Option.some rest).filter (fun node => !node.isHollow) = some rest := by
          rw [Option.filter_some, hhollow]
          rfl
        obtain ⟨hrest, hpages⟩ := drawItems_visible h p items (i + 1) (j + 1)
          (taken ++ (drawItem b p item i taken labels).1.map (·.name))
          (drawItem b p item i taken labels).2
        rw [hkept, Option.toList_some, List.singleton_append, drawItems_cons,
          Nested.names_of_unplacedAll hsame, hlabels]
        dsimp only
        rw [Nested.unplacedAll_append, Nested.unplacedAll_append, hsame, hrest, hpages]
        exact ⟨rfl, rfl⟩

end

theorem drawNodes_visible (h : b.Sees shown v) (nodes : List ControlSurface.Node) (i j : Nat)
    (taken : List String) :
    unplacedAll (drawNodes v (nodes.filterMap (Node.visible shown)) j taken) =
      unplacedAll (drawNodes b nodes i taken) := by
  induction nodes generalizing i j taken with
  | nil => rw [List.filterMap_nil, drawNodes, drawNodes]
  | cons node nodes ih =>
    have hnode := drawNode_visible h node i j 0 taken
    rw [List.filterMap_cons, drawNodes]
    cases hvisible : node.visible shown with
    | none =>
      rw [hvisible] at hnode
      rw [Nested.eq_nil_of_unplacedAll hnode.symm]
      simpa using ih (i + 1) j taken
    | some rest =>
      rw [hvisible] at hnode
      replace hnode : unplacedAll (drawNode v rest j 0 taken) =
        unplacedAll (drawNode b node i 0 taken) := hnode
      rw [drawNodes, Nested.unplacedAll_append, Nested.unplacedAll_append, hnode,
        Nested.names_of_unplacedAll hnode, ih]

theorem drawDescription_visible {config : Config} {d : Description}
    (h : b.Sees (isShown config d) v) :
    unplacedAll (drawDescription v (d.visible config)) = unplacedAll (drawDescription b d) := by
  have hnodes := drawNodes_visible h d.nodes 0 0 []
  have hbare : bare (drawNodes v (d.visible config).nodes 0 []) = bare (drawNodes b d.nodes 0 []) :=
    Nested.bare_of_unplacedAll hnodes
  rw [drawDescription, drawDescription, hbare]
  split
  · rfl
  · exact hnodes

/-! ## The controls of the visible part -/

section
variable {config : Config} {d : Description}

theorem leaves_description_visible : (d.visible config).leaves = shownLeaves config d :=
  Node.leavesAll_filterMap_visible (isShown config d) d.nodes

/-- What is shown of a description is shown of its visible part. -/
theorem isShown_visible {l : Leaf} (h : isShown config d l = true) :
    isShown config (d.visible config) l = true := by
  have hfewer : ∀ a ∈ (d.visible config).addresses.map (Label.canonical config.stripRoot),
      a ∈ (voicesOf config d).addresses := by
    intro a ha
    obtain ⟨address, haddress, rfl⟩ := List.mem_map.mp ha
    obtain ⟨m, hm, rfl⟩ := List.mem_map.mp haddress
    rw [leaves_description_visible] at hm
    exact List.mem_map_of_mem (List.mem_map_of_mem (List.mem_filter.mp hm).1)
  rw [isShown, Option.isNone_iff_eq_none] at h ⊢
  exact Voice.Filter.check_of_fewer hfewer h

/-- The visible part has no hidden leaves. -/
theorem shownLeaves_visible : shownLeaves config (d.visible config) = shownLeaves config d := by
  rw [shownLeaves, leaves_description_visible, List.filter_eq_self]
  intro l hl
  exact isShown_visible (List.mem_filter.mp hl).2

theorem hiddenLeaves_visible : hiddenLeaves config (d.visible config) = [] := by
  rw [hiddenLeaves, leaves_description_visible, List.filter_eq_nil_iff]
  intro l hl
  rw [isShown_visible (List.mem_filter.mp hl).2]
  exact Bool.false_ne_true

theorem controlLeaves_visible :
    controlLeaves config (d.visible config) = controlLeaves config d := by
  rw [controlLeaves, controlLeaves, shownLeaves_visible]

end

/-- A widget is told by its leaf and its parameter. -/
theorem Widget.Tells.eq {strip : Bool} {l : Leaf} {w u : Widget} (hw : w.Tells strip l)
    (hu : u.Tells strip l) (hp : w.parameter = u.parameter) : w = u := by
  have haddress : w.address = u.address := hw.address.trans hu.address.symm
  have hkind : w.kind = u.kind := hw.kind.trans hu.kind.symm
  have hinfo : w.info = u.info := hw.info.trans hu.info.symm
  have hbounds : (w.min, w.max, w.step) = (u.min, u.max, u.step) := hw.bounds.trans hu.bounds.symm
  cases w
  cases u
  simp_all

/-- Widgets are told by their leaves and their parameters. -/
theorem forall₂_tells_eq {strip : Bool} {ls : List Leaf} {ws us : List Widget}
    (hw : List.Forall₂ (Widget.Tells strip) ls ws) (hu : List.Forall₂ (Widget.Tells strip) ls us)
    (hp : ws.map (·.parameter) = us.map (·.parameter)) : ws = us := by
  induction hw generalizing us with
  | nil =>
    cases hu
    rfl
  | cons hlw _ ih =>
    cases hu with
    | cons hlu hus =>
      rw [List.map_cons, List.map_cons, List.cons_eq_cons] at hp
      rw [hlw.eq hlu hp.1, ih hus hp.2]

/-! ## Two builds -/

/-- Builds that came to the same, but for the count of hidden leaves, of which the second has
    none, and for the places of nodes on the panel. -/
structure SameVisible (a b : Except BuildError Report × Session) : Prop where
  result : ∃ report, a.1 = .ok report ∧ b.1 = .ok { report with skipped := 0 }
  pages : a.2.hosts.pages = b.2.hosts.pages
  widgets : a.2.builder.widgets = b.2.builder.widgets
  routes : a.2.hosts.routes = b.2.hosts.routes
  panel : ∃ m n, a.2.hosts.panel.nested = some m ∧ b.2.hosts.panel.nested = some n ∧
    m.unplaced = n.unplaced

section
variable {A B V : Session} {d : Description} {usePanel : Bool} {report rest : Report}

/-- Builds of a description and of its visible part leave the same widgets. -/
theorem Built.widgets_visible (h : Built A d usePanel report B)
    (hv : Built A (d.visible A.builder.config) usePanel rest V) :
    V.builder.widgets = B.builder.widgets := by
  obtain ⟨htells, hps⟩ := h.widgets
  obtain ⟨htells', hps'⟩ := hv.widgets
  rw [controlLeaves_visible] at htells' hps'
  have hnames : (A.ready (d.visible A.builder.config) usePanel).names =
      (A.ready d usePanel).names := by
    rw [A.ready_names, A.ready_names]
  rw [hnames] at hps'
  exact forall₂_tells_eq htells' htells (hps'.trans hps.symm)

/-- The builder of the visible part sees what the builder of the description sees. -/
theorem Built.sees (h : Built A d usePanel report B)
    (hv : Built A (d.visible A.builder.config) usePanel rest V) :
    B.builder.Sees (isShown A.builder.config d) V.builder where
  config := by rw [h.config, hv.config]
  widgets := h.widgets_visible hv
  hides := h.hides
  shows l hl := by rw [hv.hides, isShown_visible hl]; rfl

end

/-- A build of a description and a build of its visible part come to the same, but for the
    count of hidden leaves and for the places of nodes. -/
theorem build_visible (config : Config) (events : List Event) (d : Description)
    (usePanel : Bool) :
    SameVisible ((Session.history config events).take none (buildDescription d usePanel))
      ((Session.history config events).take none
        (buildDescription (d.visible (Session.history config events).builder.config)
          usePanel)) := by
  obtain ⟨own, hrooted⟩ := Session.history_rooted config events
  generalize Session.history config events = A at hrooted ⊢
  obtain ⟨hok, hbuilt⟩ := Session.build_free_built hrooted d usePanel
  obtain ⟨hokv, hbuiltv⟩ :=
    Session.build_free_built hrooted (d.visible A.builder.config) usePanel
  have hwidgets := hbuilt.widgets_visible hbuiltv
  have hsees := hbuilt.sees hbuiltv
  obtain ⟨hpages, hroutes⟩ := hbuilt.same_hosts hbuiltv rfl rfl hwidgets.symm
  refine ⟨⟨_, hok, ?_⟩, hpages, hwidgets.symm, hroutes, ?_⟩
  · have hskipped := hbuiltv.skipped
    rw [hiddenLeaves_visible] at hskipped
    rw [hokv, Builder.report_parameters, Builder.report_parameters, hwidgets, hskipped]
    rfl
  · cases usePanel with
    | true =>
      refine ⟨_, _, build_nested hrooted hok, build_nested hrooted hokv, ?_⟩
      rw [Nested.unplaced, Nested.unplaced, drawDescription_visible hsees]
    | false =>
      -- Neither build looks at the panel.
      obtain ⟨n, hn⟩ := hrooted.exists_nested
      rw [Session.build_without_panel, Session.build_without_panel]
      exact ⟨n, n, hn, hn, rfl⟩

end Build

end ControlSurface
