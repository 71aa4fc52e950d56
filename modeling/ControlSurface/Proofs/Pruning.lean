import ControlSurface.Proofs.Creations

/- Pruning is exact. A build creates nodes for the parts of its description in document order:
   for each placed leaf a widget, for each group a header, and for each group with items and
   for each item that gets one a container (`partsOf`). What became of them can be read off the
   log and the panel (`Fate`): the container of a group or of an item is still there if and only
   if a leaf below it is placed, and the widgets of placed leaves are all there
   (`build_prunes`). Pruning looks at the children of a container alone, and that this says
   the same is known of drawings (`bare_drawNode`, `bare_groupKids`). The rest is a run in
   which nodes that are gone stay gone, and nodes that are there stay as they are until their
   container is closed (`addNode_parts`). -/
namespace ControlSurface.Build

open Panel
open Panel.Tree (Container Grown Keeps)
open Nested (controls flattenAll standing bare)
open Appearance

/-! ## The parts of a description -/

/-- What a build creates a node for: a leaf, the header or the selector of a group, or the
    container of a group or of an item with the leaves in it. -/
inductive Part where
  | leaf (l : Leaf)
  | ornament (spec : Spec)
  | container (spec : Spec) (leaves : List Leaf)

/-- The leaves that a part stands for. -/
def Part.leaves : Part → List Leaf
  | leaf l => [l]
  | ornament _ => []
  | container _ ls => ls

/-- The header of a group. -/
def headerParts (config : Config) (label : String) (index : Nat) : List Part :=
  if config.isHeaderless label then []
  else
    [.ornament
      ⟨Label.nodeName label, offset config index, .widget .header [("Headerlabel", label)]⟩]

/-- The selector of a group, before it has labels. -/
def selectorParts (kind : GroupKind) : List Part :=
  if kind = .tabbed then [.ornament ⟨selectorName, 0, .widget .tabSelector []⟩] else []

mutual

/-- The parts of a node, the `index`-th among its siblings. -/
def partsOf (config : Config) (placed : Leaf → Bool) : ControlSurface.Node → Nat → List Part
  | .input c, _ => if placed (.input c) then [.leaf (.input c)] else []
  | .output c, _ => if placed (.output c) then [.leaf (.output c)] else []
  | .soundfile _, _ => []
  | .group kind label _ items, index =>
    headerParts config label index ++
      if items.isEmpty then []
      else
        .container (groupSpec config kind label index) (Node.leavesAll items) ::
          (selectorParts kind ++ partsOfItems config placed kind items 0)

/-- The parts of the items of a group, from the `index`-th on. On a page of tabs all items get
    a container, elsewhere all but input controls. -/
def partsOfItems (config : Config) (placed : Leaf → Bool) (kind : GroupKind) :
    List ControlSurface.Node → Nat → List Part
  | [], _ => []
  | item :: items, index =>
    (if kind = .tabbed ∨ !item.isInput then
      .container (slotSpec config item.label index) item.leaves ::
        partsOf config placed item index
    else partsOf config placed item index) ++ partsOfItems config placed kind items (index + 1)

end

/-- The parts of nodes side by side, from the `index`-th on. -/
def partsOfNodes (config : Config) (placed : Leaf → Bool) :
    List ControlSurface.Node → Nat → List Part
  | [], _ => []
  | node :: nodes, index =>
    partsOf config placed node index ++ partsOfNodes config placed nodes (index + 1)

theorem selectorParts_leaves (kind : GroupKind) :
    ∀ part ∈ selectorParts kind, part.leaves = [] := by
  intro part h
  rw [selectorParts] at h
  split at h
  · rw [List.mem_singleton.mp h]
    rfl
  · cases h

section
variable {config : Config} {placed : Leaf → Bool}

mutual

/-- The leaves of the parts of a node are leaves of the node. -/
theorem partsOf_leaves : ∀ (node : ControlSurface.Node) (index : Nat),
    ∀ part ∈ partsOf config placed node index, part.leaves ⊆ node.leaves
  | .input c, index, part, h => by
    rw [partsOf] at h
    split at h
    · rw [List.mem_singleton.mp h, Node.leaves_input]
      exact List.Subset.refl _
    · cases h
  | .output c, index, part, h => by
    rw [partsOf] at h
    split at h
    · rw [List.mem_singleton.mp h, Node.leaves_output]
      exact List.Subset.refl _
    · cases h
  | .soundfile f, index, part, h => by
    rw [partsOf] at h
    cases h
  | .group kind label info items, index, part, h => by
    rw [partsOf] at h
    rw [Node.leaves_group]
    rcases List.mem_append.mp h with h | h
    · rw [headerParts] at h
      split at h
      · cases h
      · rw [List.mem_singleton.mp h]
        exact List.nil_subset _
    · split at h
      · cases h
      · rcases List.mem_cons.mp h with rfl | h
        · exact List.Subset.refl _
        rcases List.mem_append.mp h with h | h
        · rw [selectorParts_leaves kind part h]
          exact List.nil_subset _
        · exact partsOfItems_leaves kind items 0 part h

theorem partsOfItems_leaves (kind : GroupKind) : ∀ (items : List ControlSurface.Node)
    (index : Nat), ∀ part ∈ partsOfItems config placed kind items index,
    part.leaves ⊆ Node.leavesAll items
  | [], index, part, h => by
    rw [partsOfItems] at h
    cases h
  | item :: items, index, part, h => by
    have hitem := partsOf_leaves item index part
    rw [partsOfItems] at h
    rw [Node.leavesAll_cons]
    rcases List.mem_append.mp h with h | h
    · apply List.subset_append_of_subset_left
      split at h
      · rcases List.mem_cons.mp h with rfl | h
        · exact List.Subset.refl _
        · exact hitem h
      · exact hitem h
    · exact List.subset_append_of_subset_right _ (partsOfItems_leaves kind items _ part h)

end

end

/-! ## What becomes of them -/

/-- What became of a part that a node was created for: the widget of a leaf is there and shows
    the leaf, and a container is there if and only if one of its leaves is placed. -/
inductive Fate (placed : Leaf → Bool) (shows : Leaf → Nested → Prop) (t : Tree) :
    Part → Nat × Spec → Prop
  | leaf {l : Leaf} {id : Nat} {spec : Spec} {n : Panel.Node} (chosen : placed l = true)
      (alive : t.node? id = some n) (control : n.alone.isControl = true)
      (bound : shows l n.alone) : Fate placed shows t (.leaf l) (id, spec)
  | ornament {id : Nat} {spec : Spec} : Fate placed shows t (.ornament spec) (id, spec)
  | container {id : Nat} {spec : Spec} {ls : List Leaf}
      (alive : (t.node? id).isSome = ls.any placed) :
      Fate placed shows t (.container spec ls) (id, spec)

namespace Fate
variable {placed : Leaf → Bool} {shows : Leaf → Nested → Prop} {t u : Tree} {part : Part}
  {r : Nat × Spec}

theorem congr (h : Fate placed shows t part r) (hu : u.node? r.1 = t.node? r.1) :
    Fate placed shows u part r := by
  cases h with
  | leaf hplaced halive hcontrol hshows => exact .leaf hplaced (hu.trans halive) hcontrol hshows
  | ornament => exact .ornament
  | container halive => exact .container ((congrArg Option.isSome hu).trans halive)

theorem keeps (h : Fate placed shows t part r) (hu : Keeps t u) : Fate placed shows u part r := by
  cases h with
  | leaf hplaced halive hcontrol hshows =>
    exact .leaf hplaced (hu.controls _ _ halive hcontrol) hcontrol hshows
  | ornament => exact .ornament
  | container halive => exact .container ((hu.alive _).trans halive)

/-- The container of a part of which no leaf is placed is gone and stays gone. -/
theorem gone {leaves : List Leaf} (h : Fate placed shows t part r)
    (hleaves : part.leaves ⊆ leaves) (hnone : leaves.any placed = false)
    (hu : t.node? r.1 = none → u.node? r.1 = none) : Fate placed shows u part r := by
  have hpart : part.leaves.any placed = false := by
    rw [List.any_eq_false] at hnone ⊢
    exact fun l hl => hnone l (hleaves hl)
  cases h with
  | leaf hplaced _ _ _ =>
    rw [Part.leaves, List.any_cons, hplaced] at hpart
    cases hpart
  | ornament => exact .ornament
  | @container id spec ls halive =>
    rw [Part.leaves] at hpart
    rw [hpart, Option.isSome_eq_false_iff, Option.isNone_iff_eq_none] at halive
    refine .container ?_
    rw [hu halive, hpart]
    rfl

theorem imp {shows' : Leaf → Nested → Prop} (h : Fate placed shows t part r)
    (hshows : ∀ l n, shows l n → shows' l n) : Fate placed shows' t part r := by
  cases h with
  | leaf hplaced halive hcontrol hs => exact .leaf hplaced halive hcontrol (hshows _ _ hs)
  | ornament => exact .ornament
  | container halive => exact .container halive

end Fate

variable {others : List Page} {own : List Binding} {b : Builder} {ls : List Leaf}
  {s v w x u : State} {c : Nat} {taken : List String}

/-- From a state to another nodes were created for parts, and became what they should. -/
def Parted (b : Builder) (s u : State) (ps : List Part) : Prop :=
  ∃ rs, Made s u rs ∧ List.Forall₂ (fun part r => Fate b.places b.Binds u.hosts.panel part r ∧
    s.hosts.panel.slots.size ≤ r.1 ∧ r.1 < u.hosts.panel.slots.size) ps rs

namespace Parted
variable {ps qs : List Part}

theorem nil (h : Made s u []) : Parted b s u [] := ⟨[], h, .nil⟩

/-- Steps after which nothing else was created, and the parts are still what they should be. -/
theorem after (h : Parted b s v ps) (hu : Made v u [])
    (hfate : ∀ part ∈ ps, ∀ r, r.1 < v.hosts.panel.slots.size →
      Fate b.places b.Binds v.hosts.panel part r → Fate b.places b.Binds u.hosts.panel part r) :
    Parted b s u ps := by
  obtain ⟨rs, hmade, hrs⟩ := h
  refine ⟨rs, List.append_nil rs ▸ hmade.trans hu, ?_⟩
  have hboth := (List.forall₂_and_left _ _).mpr ⟨hfate, hrs⟩
  refine hboth.imp ?_
  rintro part r ⟨hpart, hr, hlow, hhigh⟩
  exact ⟨hpart r hhigh hr, hlow, Nat.lt_of_lt_of_le hhigh hu.size_le⟩

/-- A step before that creates nothing. -/
theorem before (hs : Made s v []) (h : Parted b v u ps) : Parted b s u ps := by
  obtain ⟨rs, hmade, hrs⟩ := h
  refine ⟨rs, hs.trans hmade, hrs.imp ?_⟩
  rintro part r ⟨hr, hlow, hhigh⟩
  exact ⟨hr, Nat.le_trans hs.size_le hlow, hhigh⟩

/-- A step that leaves the nodes of the parts as they are. -/
theorem trans {ids : List Nat} {ns : List Nested} (h : Parted b s v ps)
    (h' : Parted b v u qs) (hgrown : Grown v.hosts.panel u.hosts.panel c ids ns)
    (hc : c < s.hosts.panel.slots.size) : Parted b s u (ps ++ qs) := by
  obtain ⟨rs, hmade, hrs⟩ := h
  obtain ⟨rs', hmade', hrs'⟩ := h'
  refine ⟨rs ++ rs', hmade.trans hmade', List.rel_append (hrs.imp ?_) (hrs'.imp ?_)⟩
  · rintro part r ⟨hr, hlow, hhigh⟩
    refine ⟨hr.congr (hgrown.frame r.1 hhigh (by omega)), hlow, ?_⟩
    exact Nat.lt_of_lt_of_le hhigh hmade'.size_le
  · rintro part r ⟨hr, hlow, hhigh⟩
    exact ⟨hr, Nat.le_trans hmade.size_le hlow, hhigh⟩

/-- A container that is opened for leaves, filled with their parts and closed. -/
theorem within {id : Nat} {spec : Spec} {leaves : List Leaf} (hopen : Made s w [(id, spec)])
    (hid : s.hosts.panel.slots.size ≤ id ∧ id < w.hosts.panel.slots.size)
    (h : Parted b w x ps) (hleaves : ∀ part ∈ ps, part.leaves ⊆ leaves)
    (halive : (x.hosts.panel.node? id).isSome = true)
    (hclose : Closed x u id (leaves.any b.places)) :
    Parted b s u (.container spec leaves :: ps) := by
  have hps : Parted b w u ps := by
    refine h.after hclose.made fun part hpart r hr hfate => ?_
    cases hplaced : leaves.any b.places with
    | true => exact hfate.keeps (hclose.kept hplaced)
    | false => exact hfate.gone (hleaves part hpart) hplaced (hclose.made.gone r.1 hr)
  have hstays : (u.hosts.panel.node? id).isSome = leaves.any b.places := by
    cases hplaced : leaves.any b.places with
    | true => rw [(hclose.kept hplaced).alive, halive]
    | false => rw [hclose.gone hplaced]; rfl
  obtain ⟨rs, hmade, hrs⟩ := hps
  refine ⟨_, hopen.trans hmade, .cons ⟨.container hstays, hid.1, ?_⟩ (hrs.imp ?_)⟩
  · exact Nat.lt_of_lt_of_le hid.2 hmade.size_le
  · rintro part r ⟨hr, hlow, hhigh⟩
    exact ⟨hr, Nat.le_trans hopen.size_le hlow, hhigh⟩

end Parted

/-! ## Leaves -/

/-- A creation that ends well in a container. -/
theorem create_made {id : Nat} {spec : Spec} (h : Ahead others own b ls s)
    (hc : Container s.hosts.panel c taken)
    (ho : (Step.call (.create c spec)).outcome s = (.ok id, u)) :
    Made s u [(id, spec)] ∧ s.hosts.panel.slots.size ≤ id ∧ id < u.hosts.panel.slots.size ∧
      Ahead others own b ls u ∧
      Grown s.hosts.panel u.hosts.panel c [id] [standing taken spec [] []] := by
  obtain ⟨hu, hgrown⟩ := (Step.Ends.create h hc spec).of_ok ho
  refine ⟨.of_call Call.noConfusion (fun _ h => Call.noConfusion h) ho, ?_, ?_, hu, hgrown⟩
  · exact hgrown.fresh id (List.mem_singleton_self id)
  · exact hgrown.forest.lt_size id (List.mem_singleton_self id)

/-- The widget of a leaf is created and bound. -/
theorem createBound_parts {l : Leaf} {spec : Spec} {binding : Binding} {id : Nat}
    (h : Ahead others own b ls s) (hc : Container s.hosts.panel c taken)
    (hplaced : b.places l = true)
    (hcontrol : (standing taken spec [binding] []).isControl = true)
    (hbinds : b.Binds l (standing taken spec [binding] []))
    (ho : (createBound c spec binding).outcome s = (.ok id, u)) :
    Parted b s u [.leaf l] := by
  obtain ⟨id', v, hcreate, hrest⟩ := Step.ok_of_bind_ok ho
  obtain ⟨_, w, hbind, hpure⟩ := Step.ok_of_bind_ok hrest
  cases hpure
  obtain ⟨hmade, hlow, hhigh, hv, hgrown⟩ := create_made h hc hcreate
  obtain ⟨-, hbound⟩ := (Step.Ends.bindNode hv hgrown binding).of_ok hbind
  obtain ⟨answer, hcall, -⟩ := Step.perform_ok hbind
  have hmade' : Made v u [] :=
    .of_call Call.noConfusion (fun _ h => Call.noConfusion h) hcall
  -- The node that is bound is the one that was created, with nothing below it.
  obtain ⟨n, hn, halone⟩ : ∃ n, u.hosts.panel.node? id = some n ∧
      n.alone = standing taken spec [binding] [] := hbound.forest.head_alone
  refine ⟨_, hmade.trans hmade', .cons ⟨?_, hlow, ?_⟩ .nil⟩
  · exact .leaf hplaced hn (halone ▸ hcontrol) (halone ▸ hbinds)
  · exact Nat.lt_of_lt_of_le hhigh hmade'.size_le

theorem addInput_parts {control : Input} {index : Nat} {a : Unit}
    (h : Ahead others own b (.input control :: ls) s) (hc : Container s.hosts.panel c taken)
    (ho : (addInput control index (some c)).outcome s = (.ok a, u)) :
    Parted b s u (if b.places (.input control) then [.leaf (.input control)] else []) := by
  rw [addInput_eq_bind] at ho
  obtain ⟨p, v, hadmit, hrest⟩ := Step.ok_of_bind_ok ho
  obtain ⟨hv, hpanel, hp⟩ := (admitInput_ends h).of_ok hadmit
  have hmade : Made s v [] := silent_basics.admitInput control s p v hadmit
  have hplaces : b.places (.input control) = p.isSome := by
    rw [Builder.places, Leaf.address_input, hp]
    cases b.hides control.address <;> rfl
  rw [hplaces]
  cases p with
  | none =>
    cases hrest
    exact .nil hmade
  | some p =>
    rw [← hpanel] at hc
    obtain ⟨config, v', hconfig, hrest⟩ := Step.ok_of_bind_ok hrest
    cases hconfig
    obtain ⟨id, w, hshow, hpure⟩ := Step.ok_of_bind_ok hrest
    cases hpure
    rw [hv.config] at hshow
    have hparameter : (b.widget? (b.key control.address)).bind (·.parameter) = some p := by
      split at hp
      · cases hp
      · exact hp.symm
    exact .before hmade (createBound_parts hv hc hplaces
      (inputSpec_isControl b.config control p index taken _) ⟨p, hparameter, rfl⟩ hshow)

theorem addOutput_parts {control : Output} {index : Nat} {a : Unit}
    (h : Ahead others own b (.output control :: ls) s) (hc : Container s.hosts.panel c taken)
    (ho : (addOutput control index (some c)).outcome s = (.ok a, u)) :
    Parted b s u (if b.places (.output control) then [.leaf (.output control)] else []) := by
  rw [addOutput_eq_bind] at ho
  obtain ⟨address, v, hadmit, hrest⟩ := Step.ok_of_bind_ok ho
  obtain ⟨hv, hpanel, haddress⟩ := (admitOutput_ends h).of_ok hadmit
  have hmade : Made s v [] := silent_basics.admitOutput control s address v hadmit
  have hplaces : b.places (.output control) = address.isSome := by
    rw [Builder.places, Leaf.address_output, haddress]
    cases b.hides control.address <;> rfl
  rw [hplaces]
  cases address with
  | none =>
    cases hrest
    exact .nil hmade
  | some address =>
    rw [← hpanel] at hc
    obtain ⟨config, v', hconfig, hrest⟩ := Step.ok_of_bind_ok hrest
    cases hconfig
    obtain ⟨id, w, hshow, hpure⟩ := Step.ok_of_bind_ok hrest
    cases hpure
    rw [hv.config] at hshow
    have hkey : address = b.key control.address := by
      split at haddress
      · cases haddress
      · exact Option.some.inj haddress
    subst hkey
    exact .before hmade (createBound_parts hv hc hplaces rfl rfl hshow)

/-! ## Groups -/

/-- A group opens with its header, and then with its container unless it has no items. -/
theorem openGroup_header {kind : GroupKind} {label : String} {isEmpty : Bool}
    {index depth : Nat} {g : OpenGroup} (h : Ahead others own b ls s)
    (hc : Container s.hosts.panel c taken)
    (ho : (openGroup kind label isEmpty index depth (some c)).outcome s = (.ok g, u)) :
    ∃ w, Parted b s w (headerParts b.config label index) ∧
      Drawn others own b ls s.hosts.panel c (drawHeader b.config label index taken) w ∧
      (if isEmpty then
        pure ⟨kind, none, none, some c, (planOf b.config kind label depth).isSequencer,
          (planOf b.config kind label depth).childDepth⟩
      else
        openContainer b.config c kind label index (planOf b.config kind label depth).isSequencer
          (planOf b.config kind label depth).childDepth : Step OpenGroup).outcome w =
        (.ok g, u) := by
  rw [openGroup_some] at ho
  obtain ⟨config, v, hconfig, hrest⟩ := Step.ok_of_bind_ok ho
  cases hconfig
  rw [h.config] at hrest
  rw [headerParts, drawHeader]
  cases hheader : b.config.isHeaderless label with
  | true =>
    rw [hheader] at hrest
    exact ⟨s, .nil (.refl s), h.drawn_nil hc, by simpa [planOf, hheader] using hrest⟩
  | false =>
    rw [hheader] at hrest
    obtain ⟨id, w, hcreate, hrest⟩ := Step.ok_of_bind_ok hrest
    obtain ⟨hmade, hlow, hhigh, hw, hgrown⟩ := create_made h hc hcreate
    refine ⟨w, ⟨_, hmade, .cons ⟨.ornament, hlow, hhigh⟩ .nil⟩, ⟨hw, [id], hgrown⟩, ?_⟩
    simpa [planOf, hheader] using hrest

/-- The container of a group is created, and then the selector in it if the group has tabs. -/
theorem openContainer_parts {kind : GroupKind} {label : String} {index : Nat}
    {isSequencer : Bool} {childDepth : Nat} {g : OpenGroup} (h : Ahead others own b ls s)
    (hc : Container s.hosts.panel c taken)
    (ho : (openContainer b.config c kind label index isSequencer childDepth).outcome s =
      (.ok g, u)) :
    ∃ w inner, g.inner = some inner ∧ Made s w [(inner, groupSpec b.config kind label index)] ∧
      s.hosts.panel.slots.size ≤ inner ∧ inner < w.hosts.panel.slots.size ∧
      Parted b w u (selectorParts kind) := by
  rw [openContainer] at ho
  obtain ⟨inner, w, hopen, hrest⟩ := Step.ok_of_bind_ok ho
  have hcreate : (Step.call (.create c (groupSpec b.config kind label index))).outcome s =
      (.ok inner, w) := hopen
  obtain ⟨hmade, hlow, hhigh, hw, hgrown⟩ := create_made h hc hcreate
  rw [selectorParts]
  by_cases htab : kind = .tabbed
  · rw [if_pos htab] at hrest ⊢
    obtain ⟨selector, x, hselector, hpure⟩ := Step.ok_of_bind_ok hrest
    cases hpure
    obtain ⟨hmade', hlow', hhigh', -⟩ := create_made hw (hgrown.opened rfl) hselector
    exact ⟨w, inner, rfl, hmade, hlow, hhigh, _, hmade', .cons ⟨.ornament, hlow', hhigh'⟩ .nil⟩
  · rw [if_neg htab] at hrest ⊢
    cases hrest
    exact ⟨_, inner, rfl, hmade, hlow, hhigh, .nil (.refl _)⟩

theorem openSlot_made {g : OpenGroup} {p : Plan} {item : ControlSurface.Node} {index : Nat}
    {slot : Option Nat} (h : Ahead others own b ls s) (hc : Container s.hosts.panel c taken)
    (hg : g.Follows p c) (hslots : p.slots item = true)
    (ho : (openSlot g item index).outcome s = (.ok slot, u)) :
    ∃ id, slot = some id ∧ Made s u [(id, slotSpec b.config item.label index)] ∧
      s.hosts.panel.slots.size ≤ id ∧ id < u.hosts.panel.slots.size ∧
      Ahead others own b ls u ∧ Grown s.hosts.panel u.hosts.panel c [id]
        [standing taken (slotSpec b.config item.label index) [] []] := by
  have hopens : g.kind = .tabbed ∨ (!item.isInput) = true := by
    simpa [Plan.slots, hg.kind] using hslots
  rw [openSlot, hg.inner] at ho
  dsimp only at ho
  rw [if_pos hopens] at ho
  obtain ⟨config, v, hconfig, hrest⟩ := Step.ok_of_bind_ok ho
  cases hconfig
  obtain ⟨id, w, hopen, hpure⟩ := Step.ok_of_bind_ok hrest
  cases hpure
  rw [h.config] at hopen
  have hcreate : (Step.call (.create c (slotSpec b.config item.label index))).outcome s =
      (.ok id, u) := hopen
  exact ⟨id, rfl, create_made h hc hcreate⟩

/-- A group with items, of which the parts become what they should. -/
theorem group_parts {kind : GroupKind} {label : String} {items : List ControlSurface.Node}
    {index depth : Nat} {g : OpenGroup} {labels : List String} {a : Unit}
    (h : Ahead others own b (Node.leavesAll items ++ ls) s)
    (hc : Container s.hosts.panel c taken)
    (hopen : (openGroup kind label false index depth (some c)).outcome s = (.ok g, v))
    (hitems : (addItems g items 0 []).outcome v = (.ok labels, x))
    (hclose : (closeGroup g labels).outcome x = (.ok a, u))
    (hparts : ∀ inner, g.Follows (planOf b.config kind label depth) inner →
      Ahead others own b (Node.leavesAll items ++ ls) v →
      Container v.hosts.panel inner (takenFor kind) →
      Parted b v x (partsOfItems b.config b.places kind items 0)) :
    Parted b s u (headerParts b.config label index ++
      .container (groupSpec b.config kind label index) (Node.leavesAll items) ::
        (selectorParts kind ++ partsOfItems b.config b.places kind items 0)) := by
  obtain ⟨w, hheader, hdrawn, hcontainer⟩ := openGroup_header h hc hopen
  rw [if_neg Bool.false_ne_true] at hcontainer
  obtain ⟨js, hjs⟩ := hdrawn.grown
  have hcw := Grown.grows hc hjs
  obtain ⟨y, inner, hinner, hmade, hlow, hhigh, hselector⟩ :=
    openContainer_parts hdrawn.ahead hcw hcontainer
  obtain ⟨t, inner', hopened⟩ := (openContainer_ends hdrawn.ahead hcw ..).of_ok hcontainer
  obtain rfl : inner = inner' := by
    have hsame := hopened.follows.inner
    rw [hinner] at hsame
    exact Option.some.inj hsame
  have hcv := Grown.grows hopened.empty hopened.selector
  rw [List.nil_append, blankSelector_names] at hcv
  have hpartsItems := hparts inner hopened.follows hopened.ahead hcv
  obtain ⟨rfl, hx, ids, hids⟩ := (addNode_ends.2 g items 0 [] ls v inner (takenFor kind)
    (planOf b.config kind label depth) hopened.follows hopened.ahead hcv).of_ok hitems
  have hclosed := closeGroup_closed (p := planOf b.config kind label depth) hcw hopened hx hids
    drawItems_eq_nil hclose
  obtain ⟨-, ks, hks⟩ := (closeGroup_ends (p := planOf b.config kind label depth) hcw hopened hx
    hids drawItems_eq_nil).of_ok hclose
  have hstays : (!bare (groupKids kind (drawItems b (planOf b.config kind label depth) items 0
      (takenFor kind) []))) = (Node.leavesAll items).any b.places := by
    rw [bare_groupKids, Bool.not_not]
  have hleaves : ∀ part ∈ selectorParts kind ++ partsOfItems b.config b.places kind items 0,
      part.leaves ⊆ Node.leavesAll items := by
    intro part hpart
    rcases List.mem_append.mp hpart with hpart | hpart
    · rw [selectorParts_leaves kind part hpart]
      exact List.nil_subset _
    · exact partsOfItems_leaves kind items 0 part hpart
  have hinside := hselector.trans hpartsItems hids hhigh
  have hgroup := Parted.within hmade ⟨hlow, hhigh⟩ hinside hleaves hids.alive (hstays ▸ hclosed)
  exact hheader.trans hgroup hks hjs.lt_size

/-- An item in a slot, of which the parts become what they should. -/
theorem slot_parts {g : OpenGroup} {p : Plan} {item : ControlSurface.Node} {index : Nat}
    {slot : Option Nat} {labels labels' : List String} {a : Unit}
    (h : Ahead others own b (item.leaves ++ ls) s) (hc : Container s.hosts.panel c taken)
    (hg : g.Follows p c) (hslots : p.slots item = true)
    (hopen : (openSlot g item index).outcome s = (.ok slot, v))
    (hitem : (addNode item index g.childDepth (slot <|> g.place)).outcome v = (.ok a, x))
    (hclose : (closeSlot g item slot labels).outcome x = (.ok labels', u))
    (hparts : ∀ id, slot = some id → Ahead others own b (item.leaves ++ ls) v →
      Container v.hosts.panel id [] → Parted b v x (partsOf b.config b.places item index)) :
    Parted b s u (.container (slotSpec b.config item.label index) item.leaves ::
        partsOf b.config b.places item index) ∧
      labels' = (drawItem b p item index taken labels).2 ∧
      Drawn others own b ls s.hosts.panel c (drawItem b p item index taken labels).1 u := by
  obtain ⟨id, rfl, hmade, hlow, hhigh, hv, hslot⟩ := openSlot_made h hc hg hslots hopen
  have hcv := hslot.opened rfl
  have hpartsItem := hparts id rfl hv hcv
  obtain ⟨hx, ids, hids⟩ :=
    (addNode_ends.1 item index g.childDepth _ ls v id [] rfl hv hcv).of_ok hitem
  have hwithin := hslot.within hids
  have hclosed := closeSlot_closed hx hc hwithin hclose
  have hdone := (closeSlot_ends hx hc hg hwithin).of_ok hclose
  have hstays : (!bare (drawNode b item index g.childDepth [])) = item.leaves.any b.places := by
    rw [bare_drawNode, Bool.not_not]
  rw [drawItem, if_pos hslots, ← hg.childDepth]
  exact ⟨.within hmade ⟨hlow, hhigh⟩ hpartsItem (partsOf_leaves item index) hids.alive
    (hstays ▸ hclosed), hdone⟩

/-- The parts of nodes become what they should: one case for each kind of node, and one for each
    shape of a list of items. -/
theorem addNode_parts :
    (∀ node index depth place, ∀ ls s u c taken a, place = some c →
      Ahead others own b (node.leaves ++ ls) s → Container s.hosts.panel c taken →
      (addNode node index depth place).outcome s = (.ok a, u) →
      Parted b s u (partsOf b.config b.places node index)) ∧
    ∀ g items index labels, ∀ ls s u c taken p labels', OpenGroup.Follows g p c →
      Ahead others own b (Node.leavesAll items ++ ls) s → Container s.hosts.panel c taken →
      (addItems g items index labels).outcome s = (.ok labels', u) →
      Parted b s u (partsOfItems b.config b.places p.kind items index) := by
  refine addNode.mutual_induct _ _ ?_ ?_ ?_ ?_ ?_ ?_
  · rintro control index depth _ ls s u c taken a rfl h hc ho
    rw [addNode] at ho
    rw [Node.leaves_input] at h
    rw [partsOf]
    exact addInput_parts h hc ho
  · rintro control index depth _ ls s u c taken a rfl h hc ho
    rw [addNode] at ho
    rw [Node.leaves_output] at h
    rw [partsOf]
    exact addOutput_parts h hc ho
  · rintro slot index depth _ ls s u c taken a rfl h hc ho
    rw [addNode] at ho
    rw [partsOf]
    cases ho
    exact .nil (.refl s)
  · rintro kind label info items index depth _ ih ls s u c taken a rfl h hc ho
    rw [addNode] at ho
    rw [Node.leaves_group] at h
    obtain ⟨g, v, hopen, hrest⟩ := Step.ok_of_bind_ok ho
    obtain ⟨labels, x, hitems, hclose⟩ := Step.ok_of_bind_ok hrest
    rw [partsOf]
    cases hempty : items.isEmpty with
    | true =>
      obtain rfl := List.isEmpty_iff.mp hempty
      obtain ⟨w, hheader, -, hnone⟩ := openGroup_header h hc hopen
      -- Without items there is nothing to close.
      cases hnone
      rw [addItems] at hitems
      cases hitems
      cases hclose
      rw [if_pos rfl, List.append_nil]
      exact hheader
    | false =>
      rw [hempty] at hopen
      rw [if_neg Bool.false_ne_true]
      refine group_parts h hc hopen hitems hclose fun inner hg hv hcv => ?_
      exact ih g ls v x inner _ _ labels hg hv hcv hitems
  · intro g index labels ls s u c taken p labels' hg h hc ho
    rw [addItems] at ho
    rw [partsOfItems]
    cases ho
    exact .nil (.refl s)
  · intro g item items index labels ih ihs ls s u c taken p labels' hg h hc ho
    rw [Node.leavesAll_cons, List.append_assoc] at h
    rw [addItems] at ho
    -- The items after this one leave its nodes alone.
    have hrest : ∀ (ps : List Part) (ns : List Nested) (labels : List String) (y : State),
        Parted b s y ps → Drawn others own b (Node.leavesAll items ++ ls) s.hosts.panel c ns y →
        (addItems g items (index + 1) labels).outcome y = (.ok labels', u) →
        Parted b s u (ps ++ partsOfItems b.config b.places p.kind items (index + 1)) := by
      rintro ps ns labels y hps ⟨hy, ids, hids⟩ hitems
      have hcy := Grown.grows hc hids
      have hlater := ihs labels ls y u c _ p labels' hg hy hcy hitems
      obtain ⟨-, -, js, hjs⟩ :=
        (addNode_ends.2 g items (index + 1) labels ls y c _ p hg hy hcy).of_ok hitems
      exact hps.trans hlater hjs hids.lt_size
    have hslotted : p.slots item = true ↔ p.kind = .tabbed ∨ (!item.isInput) = true := by
      simp [Plan.slots]
    rw [partsOfItems]
    cases hslots : p.slots item with
    | true =>
      rw [if_pos (hslotted.mp hslots)]
      obtain ⟨slot, v, hopen, ho⟩ := Step.ok_of_bind_ok ho
      obtain ⟨_, x, hitem, ho⟩ := Step.ok_of_bind_ok ho
      obtain ⟨labels, y, hclose, hitems⟩ := Step.ok_of_bind_ok ho
      obtain ⟨hps, -, hy⟩ := slot_parts h hc hg hslots hopen hitem hclose fun id hid hv hcv => by
        subst hid
        exact ih (some id) _ v x id [] _ rfl hv hcv hitem
      exact hrest _ _ labels y hps hy hitems
    | false =>
      rw [if_neg fun hs => Bool.false_ne_true (hslots.symm.trans (hslotted.mpr hs))]
      rw [openSlot_eq_none index hg hslots, pure_bind] at ho
      obtain ⟨_, x, hitem, ho⟩ := Step.ok_of_bind_ok ho
      have hps := ih none _ s x c taken _ hg.place h hc hitem
      have hx := (addNode_ends.1 item index g.childDepth _ _ s c taken hg.place h hc).of_ok hitem
      exact hrest _ _ labels x hps hx ho

theorem addNodes_parts {nodes : List ControlSurface.Node} {index : Nat} {a : Unit}
    (h : Ahead others own b (Node.leavesAll nodes ++ ls) s)
    (hc : Container s.hosts.panel c taken)
    (ho : (addNodes (some c) nodes index).outcome s = (.ok a, u)) :
    Parted b s u (partsOfNodes b.config b.places nodes index) := by
  induction nodes generalizing s index taken with
  | nil =>
    rw [addNodes] at ho
    rw [partsOfNodes]
    cases ho
    exact .nil (.refl _)
  | cons node nodes ih =>
    rw [addNodes] at ho
    rw [Node.leavesAll_cons, List.append_assoc] at h
    rw [partsOfNodes]
    obtain ⟨_, v, hnode, hrest⟩ := Step.ok_of_bind_ok ho
    have hps := addNode_parts.1 node index 0 _ _ s v c taken _ rfl h hc hnode
    obtain ⟨hv, ids, hids⟩ :=
      (addNode_ends.1 node index 0 _ _ s c taken rfl h hc).of_ok hnode
    have hcv := Grown.grows hc hids
    obtain ⟨-, js, hjs⟩ := (addNodes_ends hv hcv).of_ok hrest
    exact hps.trans (ih hv hcv hrest) hjs hids.lt_size

/-! ## The whole panel -/

/-- A header that stands alone goes, and otherwise nothing does. -/
theorem dropLoneHeader_made {t : Tree} {ns : List Nested} {a : Unit}
    (hempty : t.children Tree.root = []) (hs : Drawn others own b ls t Tree.root ns s)
    (ho : dropLoneHeader.outcome s = (.ok a, u)) :
    Made s u [] ∧ (bare ns = false → u = s) := by
  obtain ⟨h, ids, hg⟩ := hs
  have hchildren : s.hosts.panel.children Tree.root = ids := hg.children_eq hempty
  rw [dropLoneHeader] at ho
  obtain ⟨_, v, hpanel, hrest⟩ := Step.ok_of_bind_ok ho
  cases hpanel
  rw [hchildren] at hrest
  cases hg.forest with
  | nil =>
    cases hrest
    exact ⟨.refl s, fun _ => rfl⟩
  | @cons _ only later n kids ns node _ _ _ _ rest =>
    cases rest with
    | cons =>
      cases hrest
      exact ⟨.refl s, fun _ => rfl⟩
    | nil =>
      have htemplate : s.hosts.panel.template? only = n.kind.template? := by
        rw [Tree.template?, node, Option.bind_some]
      dsimp only at hrest
      rw [htemplate] at hrest
      by_cases hn : n.kind.template? = some .header
      · rw [if_pos hn] at hrest
        obtain ⟨hmade, -⟩ := destroy_made h.rooted.ascends hrest
        refine ⟨hmade, ?_⟩
        intro hbare
        have hheader : bare [.node n.name n.x n.kind n.bindings kids] =
            (n.kind.template? == some .header) := rfl
        rw [hheader, hn] at hbare
        cases hbare
      · rw [if_neg hn] at hrest
        cases hrest
        exact ⟨.refl s, fun _ => rfl⟩

theorem partsOfNodes_leaves {config : Config} {placed : Leaf → Bool}
    (nodes : List ControlSurface.Node) (index : Nat) :
    ∀ part ∈ partsOfNodes config placed nodes index, part.leaves ⊆ Node.leavesAll nodes := by
  induction nodes generalizing index with
  | nil =>
    rw [partsOfNodes]
    exact List.forall_mem_nil _
  | cons node nodes ih =>
    rw [partsOfNodes, Node.leavesAll_cons, List.forall_mem_append]
    constructor
    · intro part hpart
      exact List.subset_append_of_subset_left _ (partsOf_leaves node index part hpart)
    · intro part hpart
      exact List.subset_append_of_subset_right _ (ih (index + 1) part hpart)

/-- Of nodes that look bare no leaf is placed. -/
theorem any_of_bare_drawNodes {nodes : List ControlSurface.Node} {index : Nat}
    (h : bare (drawNodes b nodes index taken) = true) :
    (Node.leavesAll nodes).any b.places = false := by
  have hempty := controls_isEmpty (drawNodes_shows (b := b) nodes index taken)
  rw [Nested.controls_of_bare (drawNodes_widgetsHoldNothing _ _ _) h] at hempty
  simpa using hempty

/-- The parts of a description become what they should. -/
theorem arrange_parts {d : Description} {a : Unit} (h : Ahead others own b d.leaves s)
    (hc : Container s.hosts.panel Tree.root taken)
    (hempty : s.hosts.panel.children Tree.root = [])
    (ho : (arrange d true).outcome s = (.ok a, u)) :
    Parted b s u (partsOfNodes b.config b.places d.nodes 0) := by
  have hleaves : d.leaves = Node.leavesAll d.nodes ++ [] := (List.append_nil _).symm
  rw [hleaves] at h
  obtain ⟨_, v, hnodes, hdrop⟩ := Step.ok_of_bind_ok ho
  have hps := addNodes_parts h hc hnodes
  have hv := (addNodes_ends h hc).of_ok hnodes
  obtain ⟨hmade, hsame⟩ := dropLoneHeader_made hempty hv hdrop
  refine hps.after hmade fun part hpart r hr hfate => ?_
  cases hbare : bare (drawNodes b d.nodes 0 taken) with
  | false => exact hsame hbare ▸ hfate
  | true =>
    exact hfate.gone (partsOfNodes_leaves d.nodes 0 part hpart) (any_of_bare_drawNodes hbare)
      (hmade.gone r.1 hr)

/-! ## A build -/

theorem teardown_creations (A : Session) (usePanel : Bool) (made : List Call) :
    Call.creations A.hosts (teardownCalls A.builder.config usePanel ++ made) =
      Call.creations (A.swept usePanel).hosts made := by
  have hdown : Call.performAll A.hosts (teardownCalls A.builder.config usePanel) =
      .ok { (A.swept usePanel).hosts with routes := A.hosts.routes } := by
    cases usePanel <;> rfl
  have hnone : Call.creations A.hosts (teardownCalls A.builder.config usePanel) = [] := by
    cases usePanel <;> rfl
  rw [Call.creations_append hdown, hnone, List.nil_append, Call.creations_routes]

/-- What a build of which no call is refused creates, and what becomes of it. -/
theorem build_free_parts {A : Session} (hA : A.hosts.panel.Rooted own) (d : Description) :
    let u := ((buildDescription d true).outcome (A.start none)).2
    List.Forall₂ (Fate u.builder.places u.builder.Binds u.hosts.panel)
      (partsOfNodes u.builder.config u.builder.places d.nodes 0)
      (Call.creations A.hosts u.calls) := by
  obtain ⟨hroot, hempty⟩ := hA.clear_container
  have hahead := Session.ready_ahead hA d true
  obtain ⟨_, u, ho, hu⟩ := arrange_ends hahead hroot hempty
  obtain ⟨rs, ⟨⟨made, hcalls, -, rfl⟩, -, -⟩, hrs⟩ := arrange_parts hahead hroot hempty ho
  have hbuild : (buildDescription d true).outcome (A.start none) =
      (populate d true).outcome (A.cleared true) :=
    Step.outcome_bind_ok (A.teardown_free true)
  have hpopulate := populate_outcome_ok (s := A.cleared true) ho
  have hbuilder : u.builder = d.leaves.foldl Builder.admitted (A.ready d true) := hu.1.leads
  have hlog : u.calls = teardownCalls A.builder.config true ++ made := hcalls
  rw [hbuild, hpopulate]
  dsimp only
  rw [hlog, teardown_creations, hbuilder]
  exact hrs.imp fun _ _ h => h.1

/-- What a build creates, and what is left of it on the panel: each part of the description has
    its node, the containers that are there are those above a placed leaf, and the widgets of
    placed leaves are all there, bound as they should be. -/
structure Pruned (A : Session) (d : Description) (u : State) : Prop where
  parts : ∃ page, u.hosts.pages.page? A.builder.config.controlPage = some page ∧
    List.Forall₂ (Fate (isPlaced A.builder.config d)
        (Shows A.builder.config page.parameters u.hosts.routes.rows) u.hosts.panel)
      (partsOfNodes A.builder.config (isPlaced A.builder.config d) d.nodes 0)
      (Call.creations A.hosts u.calls)
  containers : ∃ root, u.hosts.panel.nested = some root ∧
    ∀ n ∈ flattenAll root.children, n.kind.isContainer = true → controls n.children ≠ []

/-- After a build that ends well, in any session, the panel is pruned exactly. -/
theorem build_prunes (config : Config) (events : List Event) (d : Description)
    (refusal : Option Nat) (report : Report)
    (h : ((buildDescription d true).outcome
      ((Session.history config events).start refusal)).1 = .ok report) :
    Pruned (Session.history config events) d
      ((buildDescription d true).outcome ((Session.history config events).start refusal)).2 := by
  obtain ⟨own, hrooted⟩ := Session.history_rooted config events
  generalize Session.history config events = A at h hrooted ⊢
  have hok : (A.take refusal (buildDescription d true)).1 = .ok report := h
  have hbuilt := built_of_ok hok
  have hnested := build_nested hrooted hok
  have hparts := build_free_parts hrooted d
  rw [Session.take_eq] at hbuilt hnested
  rw [Session.outcome_of_ok (buildDescription_obedient d true) h] at hbuilt hnested ⊢
  generalize ((buildDescription d true).outcome (A.start none)).2 = u at hbuilt hnested hparts ⊢
  constructor
  · refine ⟨_, hbuilt.config ▸ hbuilt.settled.page?, ?_⟩
    have hconfig : u.builder.config = A.builder.config := hbuilt.config
    have hplaces : u.builder.places = isPlaced A.builder.config d := hbuilt.places_eq_isPlaced
    dsimp only at hparts
    rw [hconfig, hplaces] at hparts
    exact hparts.imp fun _ _ hfate => hfate.imp fun _ _ hbinds => hbuilt.shows hbinds
  · refine ⟨_, hnested, ?_⟩
    intro n hn hcontainer
    exact (drawDescription_portrays d n hn).controls_ne_nil hcontainer

/-- Two pages: one of a read-out and an input in its shadow, and one of the operator's own
    control. -/
def silentPage : Description where
  name := none
  inputs := none
  outputs := none
  info := Meta.empty
  nodes := [.group .tabbed "pages" Meta.empty
    [.group .vertical "meters" Meta.empty
      [.output ⟨.verticalBargraph, "level", "/level", 0, 1, Meta.empty⟩,
       .input ⟨.button, "level", "/level", ⟨0, 0, 0, 0⟩, Meta.empty⟩],
     .group .vertical "keys" Meta.empty
      [.input ⟨.button, "stop", "/Panic", ⟨0, 0, 0, 0⟩, Meta.empty⟩]]]

/-- The build of the two pages, in a session with a page of its own. -/
def silentBuild : Except BuildError Report × State :=
  (buildDescription silentPage true).outcome
    ((Session.history Config.default [.addPage "Settings"]).start (some 99))

/-- The second page goes, with the header and the container on it. -/
theorem build_prunes_silent_page :
    silentBuild.1 = .ok ⟨0, 1, 1⟩ ∧
      ((Call.creations (Session.history Config.default [.addPage "Settings"]).hosts
        silentBuild.2.calls).filter
          fun r => (silentBuild.2.hosts.panel.node? r.1).isNone).map (·.2.name) =
        ["keys", "keys", "keys"] ∧
      Pruned (Session.history Config.default [.addPage "Settings"]) silentPage silentBuild.2 := by
  have h : silentBuild.1 = .ok ⟨0, 1, 1⟩ := by decide +kernel
  exact ⟨h, by decide +kernel, build_prunes _ _ _ _ _ h⟩

end ControlSurface.Build
