import ControlSurface.Proofs.History
import ControlSurface.Proofs.Placement

/- What the panel shows. Read depth first, without headers and selectors, it is the list of
   the leaves that the filter lets through, in document order, where only those inputs are
   missing that share their address with a read-out before them (`build_shows_leaves`). An
   input's widget goes both ways to a parameter of the control page, and that parameter is
   routed to the input's own address and to no other; a read-out's widget reads its own
   address within its own bounds. The drawing of a node shows the leaves of the node
   (`drawNode_shows`), since what is pruned shows none. -/
namespace ControlSurface

namespace Panel.Nested

mutual

/-- A node and all nodes below it, each before those below it. -/
def flatten : Nested → List Nested
  | .node name x kind bindings children =>
    .node name x kind bindings children :: flattenAll children

/-- The nodes of a list and all below them. -/
def flattenAll : List Nested → List Nested
  | [] => []
  | n :: ns => flatten n ++ flattenAll ns

end

theorem flattenAll_append (ns ms : List Nested) :
    flattenAll (ns ++ ms) = flattenAll ns ++ flattenAll ms := by
  induction ns with
  | nil => simp [flattenAll]
  | cons n ns ih => rw [List.cons_append, flattenAll, flattenAll, ih, List.append_assoc]

theorem flattenAll_cons (n : Nested) (ns : List Nested) :
    flattenAll (n :: ns) = flattenAll [n] ++ flattenAll ns := flattenAll_append [n] ns

/-- A node with all that stands below it. -/
theorem flattenAll_single (n : Nested) : flattenAll [n] = n :: flattenAll n.children := by
  cases n with
  | node name x kind bindings children =>
    rw [flattenAll, flatten, flattenAll, List.append_nil]
    rfl

/-- Whether a node is a widget that shows a leaf. -/
def isControl (n : Nested) : Bool :=
  match n.kind.template? with
  | none | some .header | some .tabSelector => false
  | some _ => true

/-- The widgets among nodes and below them that show leaves, depth first. -/
def controls (ns : List Nested) : List Nested := (flattenAll ns).filter isControl

@[simp] theorem controls_nil : controls [] = [] := by simp [controls, flattenAll]

theorem controls_append (ns ms : List Nested) :
    controls (ns ++ ms) = controls ns ++ controls ms := by
  rw [controls, flattenAll_append, List.filter_append]
  rfl

theorem controls_cons (n : Nested) (ns : List Nested) :
    controls (n :: ns) = controls [n] ++ controls ns := controls_append [n] ns

/-- A node that shows no leaf itself shows those below it. -/
theorem controls_single {n : Nested} (h : n.isControl = false) :
    controls [n] = controls n.children := by
  rw [controls, flattenAll_single, List.filter_cons, h]
  rfl

/-- A widget without anything below it that shows a leaf. -/
theorem controls_widget {n : Nested} (h : n.isControl = true) (hn : n.children = []) :
    controls [n] = [n] := by
  rw [controls, flattenAll_single, List.filter_cons, h, hn, flattenAll]
  rfl

/-- Nothing stands below the widgets among nodes. -/
def WidgetsHoldNothing (ns : List Nested) : Prop :=
  ∀ n ∈ ns, n.kind.isContainer = false → n.children = []

/-- What is bare is nothing, or a header alone. -/
theorem bare_cases {ns : List Nested} (h : bare ns = true) :
    ns = [] ∨ ∃ only, ns = [only] ∧ only.kind.template? = some .header ∧
      only.kind.isContainer = false := by
  match ns, h with
  | [], _ => exact .inl rfl
  | [only], h =>
    have htemplate : only.kind.template? = some .header := by simpa [bare] using h
    refine .inr ⟨only, rfl, htemplate, ?_⟩
    cases hk : only.kind with
    | container _ _ => rw [hk] at htemplate; cases htemplate
    | widget _ _ => rfl

/-- What is bare shows no leaf. -/
theorem controls_of_bare {ns : List Nested} (h : WidgetsHoldNothing ns) (hb : bare ns = true) :
    controls ns = [] := by
  obtain rfl | ⟨only, rfl, htemplate, hwidget⟩ := bare_cases hb
  · exact controls_nil
  · rw [controls_single, h only List.mem_cons_self hwidget, controls_nil]
    rw [isControl, htemplate]

end Panel.Nested

namespace Build

open Panel
open Nested (controls standing bare WidgetsHoldNothing)
open Appearance

/-! ## The drawing shows the leaves -/

/-- Whether a builder places a leaf on the panel: an input needs a parameter. -/
def Builder.places (b : Builder) (l : Leaf) : Bool :=
  !b.hides l.address && match l with
    | .input c => ((b.widget? (b.key c.address)).bind (·.parameter)).isSome
    | .output _ => true

/-- A widget that is bound as the leaf that it shows. -/
def Builder.Binds (b : Builder) : Leaf → Nested → Prop
  | .input c, n => ∃ p, (b.widget? (b.key c.address)).bind (·.parameter) = some p ∧
      n.bindings = [⟨.twoWay, .value, parameterExpression b.config p⟩]
  | .output c, n =>
      n.bindings = [⟨.readOnly, .value, outputExpression b.config c (b.key c.address)⟩]

variable {b : Builder}

theorem inputSpec_isControl (config : Config) (c : Input) (p : Parameter) (index : Nat)
    (taken : List String) (bindings : List Binding) :
    (standing taken (inputSpec config c p index) bindings []).isControl = true := by
  have htemplate : inputTemplate c ≠ .header ∧ inputTemplate c ≠ .tabSelector := by
    unfold inputTemplate
    split
    all_goals first | (split <;> decide) | decide
  show (match some (inputTemplate c) with
    | none | some .header | some .tabSelector => false
    | some _ => true) = true
  split
  · next h => cases h
  · next h => exact absurd (Option.some.inj h) htemplate.1
  · next h => exact absurd (Option.some.inj h) htemplate.2
  · rfl

theorem drawInput_shows (c : Input) (index : Nat) (taken : List String) :
    List.Forall₂ b.Binds ([Leaf.input c].filter b.places)
      (controls (drawInput b c index taken)) := by
  rw [drawInput, List.filter_cons, List.filter_nil, Builder.places, Leaf.address_input]
  cases b.hides c.address with
  | true => exact .nil
  | false =>
    cases hp : (b.widget? (b.key c.address)).bind (·.parameter) with
    | none => exact .nil
    | some p =>
      have hcontrol := inputSpec_isControl b.config c p index taken
        [⟨.twoWay, .value, parameterExpression b.config p⟩]
      refine Nested.controls_widget hcontrol rfl ▸ .cons ⟨p, hp, rfl⟩ .nil

theorem drawOutput_shows (c : Output) (index : Nat) (taken : List String) :
    List.Forall₂ b.Binds ([Leaf.output c].filter b.places)
      (controls (drawOutput b c index taken)) := by
  rw [drawOutput, List.filter_cons, List.filter_nil, Builder.places, Leaf.address_output]
  cases b.hides c.address with
  | true => exact .nil
  | false =>
    have hcontrol : (standing taken (outputSpec b.config c index)
        [⟨.readOnly, .value, outputExpression b.config c (b.key c.address)⟩] []).isControl =
          true := rfl
    exact Nested.controls_widget hcontrol rfl ▸ .cons rfl .nil

/-- A header shows no leaf. -/
theorem drawHeader_controls (config : Config) (label : String) (index : Nat)
    (taken : List String) : controls (drawHeader config label index taken) = [] := by
  rw [drawHeader]
  split
  · exact Nested.controls_nil
  · rw [Nested.controls_single rfl]
    exact Nested.controls_nil

theorem drawSelector_controls (labels : List String) : controls (drawSelector labels) = [] := by
  cases labels with
  | nil => exact Nested.controls_nil
  | cons l ls =>
    rw [drawSelector, Nested.controls_single rfl]
    · exact Nested.controls_nil
    · exact List.cons_ne_nil l ls

/-! ### Pruning takes no leaf away -/

/-- A container that may be left out. -/
theorem widgetsHoldNothing_container {c : Prop} [Decidable c] {n : Nested}
    (hn : n.kind.isContainer = true) : WidgetsHoldNothing (if c then [] else [n]) := by
  intro m hm hkind
  split at hm
  · cases hm
  · rw [List.mem_singleton.mp hm, hn] at hkind
    cases hkind

theorem drawNode_widgetsHoldNothing (node : ControlSurface.Node) (index depth : Nat)
    (taken : List String) : WidgetsHoldNothing (drawNode b node index depth taken) := by
  intro n hn hkind
  cases node with
  | input c =>
    rw [drawNode, drawInput] at hn
    split at hn
    · cases hn
    · split at hn
      · rw [List.mem_singleton.mp hn]
        rfl
      · cases hn
  | output c =>
    rw [drawNode, drawOutput] at hn
    split at hn
    · cases hn
    · rw [List.mem_singleton.mp hn]
      rfl
  | soundfile f =>
    rw [drawNode] at hn
    cases hn
  | group kind label info items =>
    rw [drawNode] at hn
    rcases List.mem_append.mp hn with h | h
    · rw [drawHeader] at h
      split at h
      · cases h
      · rw [List.mem_singleton.mp h]
        rfl
    · rw [drawGroup] at h
      exact widgetsHoldNothing_container rfl n h hkind

theorem drawSlot_widgetsHoldNothing (config : Config) (p : Plan) (item : ControlSurface.Node)
    (index : Nat) (taken labels : List String) (kids : List Nested) :
    WidgetsHoldNothing (drawSlot config p item index taken labels kids).1 := by
  intro n hn hkind
  rw [drawSlot] at hn
  split at hn
  · cases hn
  · split at hn
    · rw [List.mem_singleton.mp hn] at hkind
      cases hkind
    · rw [List.mem_singleton.mp hn] at hkind
      cases hkind

theorem drawItems_widgetsHoldNothing (p : Plan) (items : List ControlSurface.Node) (index : Nat)
    (taken labels : List String) :
    WidgetsHoldNothing (drawItems b p items index taken labels).1 := by
  induction items generalizing index taken labels with
  | nil =>
    rw [drawItems]
    exact List.forall_mem_nil _
  | cons item items ih =>
    rw [drawItems]
    dsimp only
    intro n hn
    rcases List.mem_append.mp hn with h | h
    · split at h
      · exact drawSlot_widgetsHoldNothing _ _ _ _ _ _ _ n h
      · exact drawNode_widgetsHoldNothing _ _ _ _ n h
    · exact ih _ _ _ n h

theorem drawSlot_controls (config : Config) (p : Plan) (item : ControlSurface.Node)
    (index : Nat) (taken labels : List String) {kids : List Nested}
    (hkids : WidgetsHoldNothing kids) :
    controls (drawSlot config p item index taken labels kids).1 = controls kids := by
  rw [drawSlot]
  split
  · -- What is pruned showed no leaf.
    next hb => rw [Nested.controls_nil, Nested.controls_of_bare hkids hb]
  · split
    · exact Nested.controls_single rfl
    · exact Nested.controls_single rfl

theorem drawGroup_controls (config : Config) (kind : GroupKind) (label : String) (index : Nat)
    (taken : List String) {items : List Nested × List String}
    (hitems : WidgetsHoldNothing items.1) :
    controls (drawGroup config kind label index taken items) = controls items.1 := by
  have hkids : ∀ kids, WidgetsHoldNothing kids → controls kids = controls items.1 →
      controls (if bare kids then []
        else [standing taken (groupSpec config kind label index) [] kids]) = controls items.1 := by
    intro kids hhold hsame
    split
    · next hb => rw [Nested.controls_nil, ← hsame, Nested.controls_of_bare hhold hb]
    · exact (Nested.controls_single rfl).trans hsame
  rw [drawGroup]
  apply hkids
  · split
    · intro n hn hkind
      rcases List.mem_append.mp hn with h | h
      · cases hl : items.2 with
        | nil =>
          rw [hl] at h
          cases h
        | cons l ls =>
          rw [hl, drawSelector] at h
          · rw [List.mem_singleton.mp h]
            rfl
          · exact List.cons_ne_nil l ls
      · exact hitems n h hkind
    · exact hitems
  · split
    · rw [Nested.controls_append, drawSelector_controls, List.nil_append]
    · rfl

mutual

/-- A node shows its leaves in document order. -/
theorem drawNode_shows : ∀ (node : ControlSurface.Node) (index depth : Nat) (taken : List String),
    List.Forall₂ b.Binds (node.leaves.filter b.places)
      (controls (drawNode b node index depth taken))
  | .input c, index, depth, taken => by
    rw [drawNode, Node.leaves_input]
    exact drawInput_shows c index taken
  | .output c, index, depth, taken => by
    rw [drawNode, Node.leaves_output]
    exact drawOutput_shows c index taken
  | .soundfile f, index, depth, taken => by
    rw [drawNode, Node.leaves_soundfile, Nested.controls_nil]
    exact .nil
  | .group kind label info items, index, depth, taken => by
    have hitems := drawItems_shows (planOf b.config kind label depth) items 0 (takenFor kind) []
    rw [drawNode, Node.leaves_group, Nested.controls_append, drawHeader_controls, List.nil_append,
      drawGroup_controls _ _ _ _ _ (drawItems_widgetsHoldNothing _ _ _ _ _)]
    exact hitems

/-- Items show the leaves of all of them in document order. -/
theorem drawItems_shows (p : Plan) : ∀ (items : List ControlSurface.Node) (index : Nat)
    (taken labels : List String),
    List.Forall₂ b.Binds ((Node.leavesAll items).filter b.places)
      (controls (drawItems b p items index taken labels).1)
  | [], index, taken, labels => by
    rw [drawItems, Node.leavesAll_nil, Nested.controls_nil]
    exact .nil
  | item :: items, index, taken, labels => by
    rw [drawItems, Node.leavesAll_cons, List.filter_append, Nested.controls_append]
    refine List.rel_append ?_ (drawItems_shows p items _ _ _)
    split
    · rw [drawSlot_controls _ _ _ _ _ _ (drawNode_widgetsHoldNothing _ _ _ _)]
      exact drawNode_shows item _ _ _
    · exact drawNode_shows item _ _ _

end

theorem drawNodes_shows (nodes : List ControlSurface.Node) (index : Nat) (taken : List String) :
    List.Forall₂ b.Binds ((Node.leavesAll nodes).filter b.places)
      (controls (drawNodes b nodes index taken)) := by
  induction nodes generalizing index taken with
  | nil =>
    rw [drawNodes, Node.leavesAll_nil, Nested.controls_nil]
    exact .nil
  | cons node nodes ih =>
    rw [drawNodes, Node.leavesAll_cons, List.filter_append, Nested.controls_append]
    exact List.rel_append (drawNode_shows node _ _ _) (ih _ _)

theorem drawNodes_widgetsHoldNothing (nodes : List ControlSurface.Node) (index : Nat)
    (taken : List String) : WidgetsHoldNothing (drawNodes b nodes index taken) := by
  induction nodes generalizing index taken with
  | nil =>
    rw [drawNodes]
    exact List.forall_mem_nil _
  | cons node nodes ih =>
    rw [drawNodes]
    intro n hn
    rcases List.mem_append.mp hn with h | h
    · exact drawNode_widgetsHoldNothing _ _ _ _ n h
    · exact ih _ _ n h

theorem drawDescription_shows (d : Description) :
    List.Forall₂ b.Binds (d.leaves.filter b.places) (controls (drawDescription b d)) := by
  have hnodes := drawNodes_shows (b := b) d.nodes 0 []
  rw [drawDescription]
  split
  · next hb =>
    rw [Nested.controls_of_bare (drawNodes_widgetsHoldNothing _ _ _) hb] at hnodes
    exact hnodes
  · exact hnodes

/-! ## The leaves that are placed -/

/-- Whether a leaf is an input of which the address was first shown by a read-out. -/
def isShadowed (config : Config) (d : Description) (l : Leaf) : Bool :=
  l.isInput &&
    ((shownLeaves config d).find? (sameControl config.stripRoot l)).any fun first => !first.isInput

/-- The leaves that the panel shows. -/
def placedLeaves (config : Config) (d : Description) : List Leaf :=
  (shownLeaves config d).filter fun l => !isShadowed config d l

/-- Whether a build places a leaf: the filter lets it through, and if it is an input, the first
    leaf of its address that is let through is an input too. -/
def isPlaced (config : Config) (d : Description) (l : Leaf) : Bool :=
  isShown config d l && match l with
    | .input _ =>
      ((shownLeaves config d).find? (sameControl config.stripRoot l)).any Leaf.isInput
    | .output _ => true

/-- A leaf of the description is placed if it is shown and not in a shadow. -/
theorem isPlaced_eq {config : Config} {d : Description} {l : Leaf} (hl : l ∈ d.leaves) :
    isPlaced config d l = (isShown config d l && !isShadowed config d l) := by
  unfold isPlaced
  cases hshown : isShown config d l with
  | false => rfl
  | true =>
    cases l with
    | output c => rfl
    | input c =>
      have hmem : Leaf.input c ∈ shownLeaves config d := List.mem_filter.mpr ⟨hl, hshown⟩
      dsimp only
      rw [isShadowed]
      cases hfirst : (shownLeaves config d).find? (sameControl config.stripRoot (.input c)) with
      | none =>
        -- The leaf itself is shown and has its own address.
        exact absurd (beq_self_eq_true _) (List.find?_eq_none.mp hfirst _ hmem)
      | some m =>
        show (true && m.isInput) = (true && !(true && !m.isInput))
        cases m.isInput <;> rfl

/-- Of leaves the first of an address stays the first when others of known addresses go. -/
theorem find?_eraseDupsBy (strip : Bool) (l : Leaf) (ls : List Leaf) :
    (ls.eraseDupsBy (sameControl strip)).find? (sameControl strip l) =
      ls.find? (sameControl strip l) := by
  induction ls using firstLeaves_induct strip with
  | nil => rfl
  | cons m ls ih =>
    rw [List.eraseDupsBy_cons, List.find?_cons, List.find?_cons]
    cases hm : sameControl strip l m with
    | true => rfl
    | false =>
      dsimp only
      rw [ih, List.find?_filter]
      congr 1
      funext k
      -- A leaf of the address looked for is not of the address of the leaf before.
      cases hk : sameControl strip l k with
      | false => simp
      | true =>
        have hlm : l.canonical strip ≠ m.canonical strip := by simpa [sameControl] using hm
        have hlk : l.canonical strip = k.canonical strip := by simpa [sameControl] using hk
        have hkm : sameControl strip k m = false := by simpa [sameControl, ← hlk] using hlm
        simp [hkm]

/-- Lists of which related elements satisfy related conditions: the first ones that do are
    related. -/
theorem forall₂_find? {α β : Type} {R : α → β → Prop} {p : α → Bool} {q : β → Bool}
    {xs : List α} {ys : List β} (h : List.Forall₂ R xs ys) (hpq : ∀ x y, R x y → p x = q y) :
    Option.Rel R (xs.find? p) (ys.find? q) := by
  induction h with
  | nil => exact .none
  | @cons x y xs ys hxy _ ih =>
    rw [List.find?_cons, List.find?_cons, hpq x y hxy]
    cases q y with
    | true => exact .some hxy
    | false => exact ih

/-- A widget whose parameter is that of a leaf: an input's own under some name, and none of a
    read-out. -/
def Widget.Carries : Leaf → Widget → Prop
  | .input c, w => ∃ name, w.parameter = some (Parameter.ofInput name c)
  | .output _, w => w.parameter = none

theorem Widget.Carries.isSome {l : Leaf} {w : Widget} (h : Widget.Carries l w) :
    w.parameter.isSome = l.isInput := by
  cases l with
  | input c =>
    obtain ⟨name, hp⟩ := h
    rw [hp]
    rfl
  | output c =>
    rw [show w.parameter = none from h]
    rfl

/-- Controls have the parameters of their leaves. -/
theorem forall₂_parameter {strip : Bool} {names : Naming.Allocator} {ls : List Leaf}
    {ws : List Widget} (h : List.Forall₂ (Widget.Tells strip) ls ws)
    (hp : ws.map (·.parameter) = parametersOf names ls) :
    List.Forall₂ (fun l w => Widget.Tells strip l w ∧ Widget.Carries l w) ls ws := by
  induction h generalizing names with
  | nil => exact .nil
  | @cons l w ls ws hlw _ ih =>
    cases l with
    | input c =>
      obtain ⟨hw, hrest⟩ := List.cons.inj hp
      exact .cons ⟨hlw, _, hw⟩ (ih hrest)
    | output c =>
      obtain ⟨hw, hrest⟩ := List.cons.inj hp
      exact .cons ⟨hlw, hw⟩ (ih hrest)

/-- The names of parameters that are allocated one after the other differ from each other and
    from those that were in use. -/
theorem parametersOf_names (names : Naming.Allocator) (ls : List Leaf) :
    (((parametersOf names ls).filterMap id).map (·.name)).Nodup ∧
      ∀ n ∈ ((parametersOf names ls).filterMap id).map (·.name), n ∉ names.used := by
  induction ls generalizing names with
  | nil => exact ⟨List.nodup_nil, List.forall_mem_nil _⟩
  | cons l ls ih =>
    cases l with
    | output c => exact ih names
    | input c =>
      obtain ⟨hnodup, hnew⟩ := ih (names.allocate c.label).2
      rw [parametersOf, List.filterMap_cons_some (f := id) rfl, List.map_cons]
      -- The name is in use for all that come after it.
      have hlater : (names.allocate c.label).1 ∉
          ((parametersOf (names.allocate c.label).2 ls).filterMap id).map (·.name) := by
        intro hmem
        exact hnew _ hmem List.mem_cons_self
      refine ⟨List.nodup_cons.mpr ⟨hlater, hnodup⟩, ?_⟩
      rw [List.forall_mem_cons]
      refine ⟨Naming.fresh_not_mem _ _, ?_⟩
      intro n hn hused
      exact hnew n hn (List.mem_cons_of_mem _ hused)

/-- Where no two rows have one key, a row alone has its key. -/
theorem filter_key_eq {α : Type} {key : α → String} {rows : List α} (h : (rows.map key).Nodup)
    {r : α} (hr : r ∈ rows) : rows.filter (key · == key r) = [r] := by
  induction rows with
  | nil => cases hr
  | cons q rows ih =>
    rw [List.map_cons, List.nodup_cons] at h
    rcases List.mem_cons.mp hr with rfl | hr
    · rw [List.filter_cons_of_pos (by simp), List.filter_eq_nil_iff.mpr]
      intro k hk hsame
      exact h.1 (eq_of_beq hsame ▸ List.mem_map_of_mem hk)
    · have hne : key q ≠ key r := fun he => h.1 (he ▸ List.mem_map_of_mem hr)
      rw [List.filter_cons_of_neg (by simpa using hne), ih h.2 hr]

theorem routesOf_parameters (ws : List Widget) :
    (routesOf ws).map (·.parameter) = ((ws.map (·.parameter)).filterMap id).map (·.name) := by
  rw [routesOf, List.map_filterMap, List.filterMap_map, List.map_filterMap]
  congr 1
  funext w
  show _ = w.parameter.map (·.name)
  cases w.parameter <;> rfl

theorem length_routesOf (ws : List Widget) :
    (routesOf ws).length = (ws.filterMap (·.parameter)).length := by
  rw [← List.length_map (·.parameter), routesOf_parameters, List.length_map, List.filterMap_map]
  rfl

namespace Built
variable {A B : Session} {d : Description} {usePanel : Bool} {report : Report}

theorem hides (h : Built A d usePanel report B) (l : Leaf) :
    B.builder.hides l.address = !isShown A.builder.config d l := by
  obtain ⟨hconfig, hvoices, -⟩ := (A.ready d usePanel).foldl_admitted_keeps d.leaves
  rw [← A.ready_hides d usePanel l, Builder.hides, Builder.hides, Builder.key, Builder.key,
    h.builder, hconfig, hvoices]

/-- The control of an address is that of the first shown leaf of the address. -/
theorem widget?_first (h : Built A d usePanel report B) (l : Leaf) :
    Option.Rel (fun m w => Widget.Tells A.builder.config.stripRoot m w ∧ Widget.Carries m w)
      ((shownLeaves A.builder.config d).find? (sameControl A.builder.config.stripRoot l))
      (B.builder.widget? (l.canonical A.builder.config.stripRoot)) := by
  obtain ⟨htells, hps⟩ := h.widgets
  rw [← find?_eraseDupsBy, h.widget?_eq_find?]
  refine forall₂_find? (forall₂_parameter htells hps) fun m w hmw => ?_
  rw [hmw.1.address, sameControl, Bool.eq_iff_iff, beq_iff_eq, beq_iff_eq, eq_comm]

/-- The builder that a build leaves places exactly these leaves. -/
theorem places_eq_isPlaced (h : Built A d usePanel report B) :
    B.builder.places = isPlaced A.builder.config d := by
  funext l
  unfold Builder.places isPlaced
  rw [h.hides, Bool.not_not]
  cases l with
  | output c => rfl
  | input c =>
    have hkey : B.builder.key c.address =
        (Leaf.input c).canonical A.builder.config.stripRoot := by
      rw [Builder.key, h.config]
      rfl
    have hfirst := h.widget?_first (.input c)
    dsimp only
    congr 1
    rw [hkey]
    generalize (shownLeaves A.builder.config d).find? _ = first at hfirst ⊢
    generalize B.builder.widget? _ = found at hfirst ⊢
    cases hfirst with
    | none => rfl
    | some hmw => exact hmw.2.isSome

/-- The placed leaves are those that the builder places. -/
theorem filter_places (h : Built A d usePanel report B) :
    d.leaves.filter B.builder.places = placedLeaves A.builder.config d := by
  rw [placedLeaves, shownLeaves, List.filter_filter, h.places_eq_isPlaced]
  apply List.filter_congr
  intro l hl
  rw [isPlaced_eq hl, Bool.and_comm]

/-- The parameter of an address is on the control page and has one route, to that address. -/
theorem route_eq (h : Built A d usePanel report B) {address : String} {p : Parameter}
    (hp : (B.builder.widget? address).bind (·.parameter) = some p) :
    p ∈ B.builder.widgets.filterMap (·.parameter) ∧
      B.hosts.routes.rows.filter (·.parameter == p.name) = [⟨p.name, address⟩] := by
  obtain ⟨w, hw, hwp⟩ := Option.bind_eq_some_iff.mp hp
  obtain ⟨hmem, haddress⟩ := Builder.of_widget?_eq_some hw
  have hrow : (⟨p.name, address⟩ : Route) ∈ B.hosts.routes.rows := by
    rw [h.routes, routesOf, List.mem_filterMap]
    exact ⟨w, hmem, by rw [hwp, haddress]; rfl⟩
  have hnodup : (B.hosts.routes.rows.map (·.parameter)).Nodup := by
    rw [h.routes, routesOf_parameters, h.widgets.2]
    exact (parametersOf_names _ _).1
  exact ⟨List.mem_filterMap.mpr ⟨w, hmem, hwp⟩, filter_key_eq hnodup hrow⟩

end Built

/-! ## The panel of a build -/

/-- A widget that is bound as the leaf that it shows: both ways to a parameter of the control
    page of which the only route goes to the input's address, or to the value of the read-out
    within its bounds. -/
def Shows (config : Config) (ps : List Parameter) (routes : List Route) : Leaf → Nested → Prop
  | .input c, n => ∃ p ∈ ps,
      routes.filter (·.parameter == p.name) =
        [⟨p.name, Label.canonical config.stripRoot c.address⟩] ∧
      n.bindings = [⟨.twoWay, .value, "op(\x22" ++ config.operatorPath ++ "\x22).par." ++ p.name⟩]
  | .output c, n =>
      n.bindings = [⟨.readOnly, .value,
        "tdu.remap(op(\x22" ++ config.operatorPath ++ "\x22).op(\x22info1\x22)[\x22" ++
          Label.canonical config.stripRoot c.address ++ "\x22], " ++
          Decimal.plainFormat.text c.min ++ ", " ++ Decimal.plainFormat.text c.max ++ ", 0, 1)"⟩]

theorem parameterExpression_eq (config : Config) (p : Parameter) :
    parameterExpression config p = "op(\x22" ++ config.operatorPath ++ "\x22).par." ++ p.name := by
  have hbefore : "op(\x22" = "op(" ++ "\x22" := by decide +kernel
  have hbehind : "\x22).par." = "\x22" ++ ").par." := by decide +kernel
  rw [hbefore, hbehind, parameterExpression, doubleQuoted]
  simp only [String.append_assoc]

theorem outputExpression_eq (config : Config) (c : Output) (address : String) :
    outputExpression config c address =
      "tdu.remap(op(\x22" ++ config.operatorPath ++ "\x22).op(\x22info1\x22)[\x22" ++ address ++
        "\x22], " ++ Decimal.plainFormat.text c.min ++ ", " ++ Decimal.plainFormat.text c.max ++
        ", 0, 1)" := by
  have hbefore : "tdu.remap(op(\x22" = "tdu.remap(op(" ++ "\x22" := by decide +kernel
  have hbetween : "\x22).op(\x22info1\x22)[\x22" =
      "\x22" ++ (").op(" ++ (doubleQuoted "info1" ++ (")[" ++ "\x22"))) := by decide +kernel
  have hbehind : "\x22], " = "\x22" ++ "], " := by decide +kernel
  unfold outputExpression
  generalize Decimal.plainFormat.text c.min = low
  generalize Decimal.plainFormat.text c.max = high
  rw [hbefore, hbetween, hbehind]
  simp only [doubleQuoted, String.append_assoc]

theorem Built.shows {A B : Session} {d : Description} {usePanel : Bool} {report : Report}
    (h : Built A d usePanel report B) {l : Leaf} {n : Nested} (hn : B.builder.Binds l n) :
    Shows A.builder.config (B.builder.widgets.filterMap (·.parameter)) B.hosts.routes.rows l n := by
  cases l with
  | input c =>
    obtain ⟨p, hp, hbindings⟩ := hn
    obtain ⟨hmem, hroute⟩ := h.route_eq hp
    rw [Builder.key, h.config] at hroute
    refine ⟨p, hmem, hroute, ?_⟩
    rw [hbindings, h.config, parameterExpression_eq]
  | output c =>
    rw [Builder.Binds, Builder.key, h.config, outputExpression_eq] at hn
    exact hn

/-- The panel shows the placed leaves one for one and in document order, each bound as it
    should be. -/
def PanelShows (A : Session) (d : Description) (B : Session) : Prop :=
  ∃ root page, B.hosts.panel.nested = some root ∧
    B.hosts.pages.page? A.builder.config.controlPage = some page ∧
    List.Forall₂ (Shows A.builder.config page.parameters B.hosts.routes.rows)
      (placedLeaves A.builder.config d) (controls [root])

/-- After a build that ends well, in any session, the panel shows what it should. -/
theorem build_shows_leaves (config : Config) (events : List Event) (d : Description)
    (refusal : Option Nat) (report : Report)
    (h : ((Session.history config events).take refusal (buildDescription d true)).1 = .ok report) :
    PanelShows (Session.history config events) d
      ((Session.history config events).take refusal (buildDescription d true)).2 := by
  obtain ⟨own, hrooted⟩ := Session.history_rooted config events
  generalize Session.history config events = A at h hrooted ⊢
  have hbuilt := built_of_ok h
  have hnested := build_nested hrooted h
  generalize (A.take refusal (buildDescription d true)).2 = B at hbuilt hnested ⊢
  have hdrawn := drawDescription_shows (b := B.builder) d
  rw [hbuilt.filter_places] at hdrawn
  refine ⟨_, _, hnested, hbuilt.config ▸ hbuilt.settled.page?, ?_⟩
  rw [Nested.controls_single rfl]
  exact hdrawn.imp fun l n hn => hbuilt.shows hn

/-- Two pages: on the first an input stands in the shadow of a read-out whose address is written
    otherwise, on the second a button stands beside the operator's own control. -/
def twoPages : Description where
  name := none
  inputs := none
  outputs := none
  info := Meta.empty
  nodes := [.group .tabbed "pages" Meta.empty
    [.group .vertical "meters" Meta.empty
      [.output ⟨.verticalBargraph, "level", "/level (dB)", -60, 0.5, Meta.empty⟩,
       .input ⟨.button, "level", "/level_dB", ⟨0, 0, 0, 0⟩, Meta.empty⟩],
     .group .vertical "keys" Meta.empty
      [.input ⟨.button, "go", "/go", ⟨0, 0, 0, 0⟩, Meta.empty⟩,
       .input ⟨.button, "stop", "/Panic", ⟨0, 0, 0, 0⟩, Meta.empty⟩]]]

/-- An operator that is not at its usual place. -/
def moved : Config := { operatorPath := "/project1/synth" }

/-- What the widgets of a panel are bound to, depth first. -/
def bindingsOf (B : Session) : Option (List (List Binding)) :=
  B.hosts.panel.nested.map fun root => (controls [root]).map (·.bindings)

theorem build_shows_leaves_of_two_pages :
    let A := Session.history moved [.addPage "Settings"]
    let B := (A.take (some 99) (buildDescription twoPages true)).2
    (A.take (some 99) (buildDescription twoPages true)).1 = .ok ⟨1, 2, 1⟩ ∧
      (placedLeaves moved twoPages).length = 2 ∧
      PanelShows A twoPages B ∧
      bindingsOf B = some [
        [⟨.readOnly, .value,
          "tdu.remap(op(\x22/project1/synth\x22).op(\x22info1\x22)[\x22/level_dB\x22], -60, 0.5, 0, 1)"⟩],
        [⟨.twoWay, .value, "op(\x22/project1/synth\x22).par.Go"⟩]] ∧
      B.hosts.routes.rows = [⟨"Go", "/go"⟩] := by
  intro A B
  have h : (A.take (some 99) (buildDescription twoPages true)).1 = .ok ⟨1, 2, 1⟩ := by
    decide +kernel
  exact ⟨h, by decide +kernel, build_shows_leaves _ _ _ _ _ h, by decide +kernel,
    by decide +kernel⟩

end Build

end ControlSurface
