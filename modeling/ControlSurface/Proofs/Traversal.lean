import ControlSurface.Proofs.Outcome

/- How a build goes through a description, once for all that is proved of it. A property of
   steps that the small steps have and that sequences keep (`Step.Rules`) is one of every part
   of the traversal, down to `arrange`, which is all that a build does between the teardown
   and the routes. A property speaks of a step, of the leaves that the step goes through, in
   document order, and of its answer, of which only this matters: what was created is not
   the root of the panel. A property that speaks of the step alone is one of all that stands
   beside the traversal if the small steps have it that leave the panel alone
   (`Step.Basics`). -/
namespace ControlSurface

namespace Node

/-- The leaves of a node, in document order. -/
def leaves (node : Node) : List Leaf := node.flatten.filterMap leaf?

/-- The leaves of nodes, in document order. -/
def leavesAll (nodes : List Node) : List Leaf := (flattenAll nodes).filterMap leaf?

@[simp] theorem leaves_input (c : Input) : (Node.input c).leaves = [.input c] := by
  simp [leaves, flatten, leaf?]

@[simp] theorem leaves_output (c : Output) : (Node.output c).leaves = [.output c] := by
  simp [leaves, flatten, leaf?]

@[simp] theorem leaves_soundfile (f : Soundfile) : (Node.soundfile f).leaves = [] := by
  simp [leaves, flatten, leaf?]

@[simp] theorem leaves_group (kind : GroupKind) (label : String) (info : Meta)
    (items : List Node) : (Node.group kind label info items).leaves = leavesAll items := by
  rw [leaves, leavesAll, flatten, List.filterMap_cons_none rfl]

@[simp] theorem leavesAll_nil : leavesAll [] = [] := by simp [leavesAll, flattenAll]

@[simp] theorem leavesAll_cons (node : Node) (nodes : List Node) :
    leavesAll (node :: nodes) = node.leaves ++ leavesAll nodes := by
  simp [leaves, leavesAll, flattenAll]

theorem leavesAll_append (nodes more : List Node) :
    leavesAll (nodes ++ more) = leavesAll nodes ++ leavesAll more := by
  induction nodes with
  | nil => rw [List.nil_append, leavesAll_nil, List.nil_append]
  | cons node nodes ih =>
    rw [List.cons_append, leavesAll_cons, ih, leavesAll_cons, List.append_assoc]

end Node

namespace Build

/-! ## A leaf before it is shown -/

/-- Makes an input leaf a control, or finds the control that it is. Gives the parameter to
    show, if there is one. -/
def admitInput (c : Input) : Step (Option Parameter) := do
  match ← visibleAddress c.address with
  | none => return none
  | some address => parameterFor c address

/-- Makes an output leaf a control, unless it is one already. Gives the address to show,
    unless the leaf is left out. -/
def admitOutput (c : Output) : Step (Option String) := do
  match ← visibleAddress c.address with
  | none => return none
  | some address =>
    if ((← Step.builder).widget? address).isNone then addWidget (outputWidget c address)
    return some address

/-- Shows a leaf: a node is created and bound. -/
def createBound (parent : Nat) (spec : Panel.Spec) (b : Panel.Binding) : Step Nat := do
  let id ← Step.call (.create parent spec)
  Step.perform (.bind id b)
  return id

theorem addInput_eq_bind (c : Input) (index : Nat) (place : Option Nat) :
    addInput c index place = admitInput c >>= fun p =>
      match place, p with
      | some parent, some p => do let _ ← Appearance.showInput (← Step.config) parent c p index
      | _, _ => return := by
  rw [addInput, admitInput, bind_assoc]
  congr 1
  funext address
  cases address with
  | none =>
    rw [pure_bind]
    cases place <;> rfl
  | some address => rfl

theorem addOutput_eq_bind (c : Output) (index : Nat) (place : Option Nat) :
    addOutput c index place = admitOutput c >>= fun address =>
      match place, address with
      | some parent, some address => do
        let _ ← Appearance.showOutput (← Step.config) parent c address index
      | _, _ => return := by
  rw [addOutput, admitOutput, bind_assoc]
  congr 1
  funext address
  cases address with
  | none =>
    rw [pure_bind]
    cases place <;> rfl
  | some address =>
    dsimp only
    rw [bind_assoc]
    congr 1
    funext b
    split
    · rw [bind_assoc]
      congr 1
      funext _
      rw [pure_bind]
      cases place <;> rfl
    · rw [pure_bind]
      cases place <;> rfl

/-! ## A group before its items -/

/-- Opens the container of a group, and the selector in it if the group has tabs. -/
def openContainer (config : Config) (parent : Nat) (kind : GroupKind) (label : String)
    (index : Nat) (isSequencer : Bool) (childDepth : Nat) : Step OpenGroup := do
  let inner ← Appearance.openGroup config parent kind label index
  if kind = .tabbed then
    let selector ← Appearance.openSelector inner
    return ⟨kind, some inner, some selector, some inner, isSequencer, childDepth⟩
  else return ⟨kind, some inner, none, some inner, isSequencer, childDepth⟩

theorem openGroup_some (kind : GroupKind) (label : String) (isEmpty : Bool)
    (index depth parent : Nat) :
    openGroup kind label isEmpty index depth (some parent) = (do
      let config ← Step.config
      let isSequencer := kind = .tabbed && depth = 0 && config.polyphony
        && label = config.sequencerLabel
      let childDepth := if config.isHeaderless label then depth else depth + 1
      if !config.isHeaderless label then let _ ← Appearance.showHeader config parent label index
      if isEmpty then return ⟨kind, none, none, some parent, isSequencer, childDepth⟩
      else openContainer config parent kind label index isSequencer childDepth) := rfl

/-! ## The traversal -/

/-- A call of the panel. -/
def Call.onPanel : Call → Bool
  | .resetPage _ | .appendParameter _ _ => false
  | .clearPanel | .create _ _ | .bind _ _ | .assign _ _ _ | .destroy _ => true

/-- A call that alters nodes of the panel and binds none but known ones. -/
def Call.Alters (known : Nat → Prop) : Call → Prop
  | .bind node _ => known node
  | .assign _ _ _ | .destroy _ => True
  | .resetPage _ | .appendParameter _ _ | .clearPanel | .create _ _ => False

theorem Call.Alters.onPanel {known : Nat → Prop} {c : Call} (hc : c.Alters known) :
    c.onPanel = true := by
  cases c <;> first | rfl | cases hc

/-- A property of steps, of the leaves they go through and of what is known of their answers,
    that sequences have if their parts do. -/
structure Step.Rules (known : Nat → Prop)
    (P : {α : Type} → Step α → List Leaf → (α → Prop) → Prop) : Prop where
  pure : ∀ {α : Type} {Q : α → Prop} {a : α}, Q a → P (Pure.pure a) [] Q
  bind : ∀ {α β : Type} {Q : α → Prop} {R : β → Prop} {ls ms : List Leaf} {x : Step α}
    {f : α → Step β}, P x ls Q → (∀ a, Q a → P (f a) ms R) → P (x >>= f) (ls ++ ms) R
  config : P Step.config [] fun _ => True
  panel : P Step.panel [] fun _ => True
  create : ∀ parent spec, P (Step.call (.create parent spec)) [] known
  alter : ∀ c : Call, c.Alters known → P (Step.call c) [] fun _ => True
  input : ∀ c, P (admitInput c) [.input c] fun _ => True
  output : ∀ c, P (admitOutput c) [.output c] fun _ => True

/-- Every answer of a step is as told. -/
def Step.Answers {α : Type} (x : Step α) (Q : α → Prop) : Prop :=
  ∀ s a, (x.outcome s).1 = .ok a → Q a

/-- A property that asks nothing of answers. In a sequence the second step matters only for
    answers that the first can give. -/
theorem Step.Rules.of_plain {P : {α : Type} → Step α → List Leaf → Prop}
    (pure : ∀ {α : Type} (a : α), P (Pure.pure a) [])
    (bind : ∀ {α β : Type} {ls ms : List Leaf} {x : Step α} {f : α → Step β}, P x ls →
      (∀ a s, (x.outcome s).1 = .ok a → P (f a) ms) → P (x >>= f) (ls ++ ms))
    (config : P Step.config []) (panel : P Step.panel [])
    (call : ∀ c : Call, c.onPanel = true → P (Step.call c) [])
    (input : ∀ c, P (admitInput c) [.input c]) (output : ∀ c, P (admitOutput c) [.output c]) :
    Rules (fun _ => True) fun x ls Q => P x ls ∧ x.Answers Q where
  pure ha := ⟨pure _, fun _ _ h => by cases h; exact ha⟩
  bind hx hf := by
    refine ⟨bind hx.1 fun a s ha => (hf a (hx.2 s a ha)).1, fun s b hb => ?_⟩
    obtain ⟨a, t, ho, hb⟩ := ok_of_bind_ok (Prod.ext hb rfl)
    exact (hf a (hx.2 s a (congrArg Prod.fst ho))).2 t b (congrArg Prod.fst hb)
  config := ⟨config, fun _ _ _ => trivial⟩
  panel := ⟨panel, fun _ _ _ => trivial⟩
  create _ _ := ⟨call _ rfl, fun _ _ _ => trivial⟩
  alter c hc := ⟨call c hc.onPanel, fun _ _ _ => trivial⟩
  input c := ⟨input c, fun _ _ _ => trivial⟩
  output c := ⟨output c, fun _ _ _ => trivial⟩

namespace Step.Rules
variable {known : Nat → Prop} {P : {α : Type} → Step α → List Leaf → (α → Prop) → Prop}
  {α β : Type} {Q : α → Prop} {R : β → Prop}

/-- A step of which no leaf comes, before others. -/
theorem silent (h : Rules known P) {ms : List Leaf} {x : Step α} {f : α → Step β} (hx : P x [] Q)
    (hf : ∀ a, Q a → P (f a) ms R) : P (x >>= f) ms R := h.bind hx hf

theorem last (h : Rules known P) {ls : List Leaf} {x : Step α} {f : α → Step β} (hx : P x ls Q)
    (hf : ∀ a, Q a → P (f a) [] R) : P (x >>= f) ls R := List.append_nil ls ▸ h.bind hx hf

theorem perform (h : Rules known P) {c : Call} (hc : c.Alters known) :
    P (Step.perform c) [] fun _ => True := h.silent (h.alter c hc) fun _ _ => h.pure trivial

end Step.Rules

section
variable {known : Nat → Prop} {P : {α : Type} → Step α → List Leaf → (α → Prop) → Prop}
  (h : Step.Rules known P)
include h

/-- What is bound was created. -/
theorem createBound_rule (parent : Nat) (spec : Panel.Spec) (b : Panel.Binding) :
    P (createBound parent spec b) [] fun _ => True := by
  refine h.silent (h.create parent spec) fun id hid => ?_
  exact h.silent (h.perform hid) fun _ _ => h.pure trivial

theorem addInput_rule (c : Input) (index : Nat) (place : Option Nat) :
    P (addInput c index place) [.input c] fun _ => True := by
  rw [addInput_eq_bind]
  refine h.last (h.input c) fun p _ => ?_
  split
  · refine h.silent h.config fun config _ => ?_
    exact h.silent (createBound_rule h ..) fun _ _ => h.pure trivial
  · exact h.pure trivial

theorem addOutput_rule (c : Output) (index : Nat) (place : Option Nat) :
    P (addOutput c index place) [.output c] fun _ => True := by
  rw [addOutput_eq_bind]
  refine h.last (h.output c) fun address _ => ?_
  split
  · refine h.silent h.config fun config _ => ?_
    exact h.silent (createBound_rule h ..) fun _ _ => h.pure trivial
  · exact h.pure trivial

theorem openContainer_rule (config : Config) (parent : Nat) (kind : GroupKind) (label : String)
    (index : Nat) (isSequencer : Bool) (childDepth : Nat) :
    P (openContainer config parent kind label index isSequencer childDepth) [] fun _ => True := by
  refine h.silent (h.create _ _) fun inner _ => ?_
  split
  · exact h.silent (h.create _ _) fun selector _ => h.pure trivial
  · exact h.pure trivial

theorem openGroup_rule (kind : GroupKind) (label : String) (isEmpty : Bool)
    (index depth : Nat) (place : Option Nat) :
    P (openGroup kind label isEmpty index depth place) [] fun _ => True := by
  cases place with
  | none => exact h.silent h.config fun _ _ => h.pure trivial
  | some parent =>
    -- A group without items opens no container.
    have hopen : ∀ (config : Config) (g : OpenGroup) (isSequencer : Bool) (childDepth : Nat),
        P (if isEmpty then Pure.pure g
          else openContainer config parent kind label index isSequencer childDepth) []
          fun _ => True := by
      intro config g isSequencer childDepth
      split
      · exact h.pure trivial
      · exact openContainer_rule h ..
    rw [openGroup_some]
    refine h.silent h.config fun config _ => ?_
    dsimp only
    split
    · exact h.silent (h.create _ _) fun _ _ => hopen ..
    · exact hopen ..

/-- The slot of an item was created. -/
theorem openSlot_rule (g : OpenGroup) (item : Node) (index : Nat) :
    P (openSlot g item index) [] fun slot => ∀ id ∈ slot, known id := by
  rw [openSlot]
  split
  · split
    · refine h.silent h.config fun _ _ => h.silent (h.create _ _) fun id hid => h.pure ?_
      intro k hk
      cases hk
      exact hid
    · exact h.pure fun _ hk => by cases hk
  · exact h.pure fun _ hk => by cases hk

theorem prune_rule (container : Nat) :
    P (Appearance.prune container) [] fun _ => True := by
  refine h.silent h.panel fun t _ => ?_
  split
  · exact h.silent (h.perform trivial) fun _ _ => h.pure trivial
  · exact h.pure trivial

theorem closeSlot_rule (g : OpenGroup) (item : Node) {slot : Option Nat}
    (hslot : ∀ id ∈ slot, known id) (labels : List String) :
    P (closeSlot g item slot labels) [] fun _ => True := by
  cases slot with
  | none => exact h.pure trivial
  | some slot =>
    refine h.silent (prune_rule h slot) fun stays _ => ?_
    split
    · exact h.silent (h.perform (hslot slot rfl)) fun _ _ => h.pure trivial
    · exact h.pure trivial

theorem closeGroup_rule (g : OpenGroup) (labels : List String) :
    P (closeGroup g labels) [] fun _ => True := by
  have hfinish : ∀ selector, P (Appearance.finishSelector selector labels) [] fun _ => True := by
    intro selector
    cases labels with
    | nil => exact h.perform trivial
    | cons l ls => exact h.silent (h.perform trivial) fun _ _ => h.perform trivial
  obtain ⟨kind, inner, selector, place, isSequencer, childDepth⟩ := g
  cases selector with
  | none =>
    cases inner with
    | none => exact h.pure trivial
    | some inner => exact h.silent (prune_rule h inner) fun _ _ => h.pure trivial
  | some selector =>
    refine h.silent (hfinish selector) fun _ _ => ?_
    cases inner with
    | none => exact h.pure trivial
    | some inner => exact h.silent (prune_rule h inner) fun _ _ => h.pure trivial

/-- A node goes through its leaves in document order, and items through those of all of them:
    one case for each kind of node, and one for each shape of a list of items. -/
theorem addNode_rule :
    (∀ node index depth place, P (addNode node index depth place) node.leaves fun _ => True) ∧
      ∀ g items index labels,
        P (addItems g items index labels) (Node.leavesAll items) fun _ => True := by
  refine addNode.mutual_induct _ _ ?_ ?_ ?_ ?_ ?_ ?_
  · intro c index depth place
    rw [addNode, Node.leaves_input]
    exact addInput_rule h c index place
  · intro c index depth place
    rw [addNode, Node.leaves_output]
    exact addOutput_rule h c index place
  · intro slot index depth place
    rw [addNode, Node.leaves_soundfile]
    exact h.pure trivial
  · intro kind label info items index depth place ih
    rw [addNode, Node.leaves_group]
    exact h.silent (openGroup_rule h ..) fun g _ => h.last (ih g) fun labels _ =>
      closeGroup_rule h g labels
  · intro g index labels
    rw [addItems, Node.leavesAll_nil]
    exact h.pure trivial
  · intro g item items index labels ih ihs
    rw [addItems, Node.leavesAll_cons]
    refine h.silent (openSlot_rule h g item index) fun slot hslot => ?_
    refine h.bind (ih slot) fun _ _ => ?_
    exact h.silent (closeSlot_rule h g item hslot labels) fun labels _ => ihs labels

theorem addNodes_rule (place : Option Nat) (nodes : List Node) (index : Nat) :
    P (addNodes place nodes index) (Node.leavesAll nodes) fun _ => True := by
  induction nodes generalizing index with
  | nil =>
    rw [addNodes, Node.leavesAll_nil]
    exact h.pure trivial
  | cons node nodes ih =>
    rw [addNodes, Node.leavesAll_cons]
    exact h.bind ((addNode_rule h).1 node index 0 place) fun _ _ => ih _

theorem dropLoneHeader_rule : P dropLoneHeader [] fun _ => True := by
  refine h.silent h.panel fun t _ => ?_
  split
  · split
    · exact h.perform trivial
    · exact h.pure trivial
  · exact h.pure trivial

end

/-! ## Without a panel -/

/-- Makes a leaf a control. -/
def admitLeaf : Leaf → Step Unit
  | .input c => do let _ ← admitInput c
  | .output c => do let _ ← admitOutput c

/-- Makes leaves controls. -/
def admitLeaves : List Leaf → Step Unit
  | [] => return
  | l :: ls => do
    admitLeaf l
    admitLeaves ls

theorem admitLeaves_append_outcome (ls ms : List Leaf) (s : State) :
    (admitLeaves (ls ++ ms)).outcome s =
      (admitLeaves ls >>= fun _ => admitLeaves ms).outcome s := by
  induction ls generalizing s with
  | nil => rfl
  | cons l ls ih =>
    rw [List.cons_append, admitLeaves, admitLeaves, bind_assoc, Step.outcome_bind,
      Step.outcome_bind]
    split
    · exact ih _
    · rfl

/-- Where there is no panel, groups do nothing, and a node is its leaves. -/
theorem addNode_outcome_none :
    (∀ node index depth place, place = none → ∀ s,
      (addNode node index depth place).outcome s = (admitLeaves node.leaves).outcome s) ∧
    ∀ g items index labels, g.inner = none → g.place = none → g.selector = none → ∀ s,
      (addItems g items index labels).outcome s =
        (admitLeaves (Node.leavesAll items) >>= fun _ => pure labels).outcome s := by
  refine addNode.mutual_induct _ _ ?_ ?_ ?_ ?_ ?_ ?_
  · rintro c index depth _ rfl s
    rw [addNode, addInput_eq_bind, Node.leaves_input, admitLeaves, admitLeaf, bind_assoc]
    rfl
  · rintro c index depth _ rfl s
    rw [addNode, addOutput_eq_bind, Node.leaves_output, admitLeaves, admitLeaf, bind_assoc]
    rfl
  · rintro slot index depth _ rfl s
    rw [addNode, Node.leaves_soundfile]
    rfl
  · rintro kind label info items index depth _ ih rfl s
    -- The group is opened without a call, and there is nothing to close.
    obtain ⟨g, hopen, hinner, hplace, hselector⟩ : ∃ g,
        (openGroup kind label items.isEmpty index depth none).outcome s = (.ok g, s) ∧
          g.inner = none ∧ g.place = none ∧ g.selector = none := ⟨_, rfl, rfl, rfl, rfl⟩
    have hclose : closeGroup g [] = pure () := by
      rw [closeGroup, hinner, hselector]
    rw [addNode, Node.leaves_group, Step.outcome_bind_ok hopen, Step.outcome_bind,
      ih g hinner hplace hselector, Step.outcome_bind]
    rcases (admitLeaves (Node.leavesAll items)).outcome s with ⟨e | _, t⟩
    · rfl
    · exact congrArg (Step.outcome · t) hclose
  · intro g index labels _ _ _ s
    rw [addItems, Node.leavesAll_nil]
    rfl
  · intro g item items index labels ih ihs hinner hplace hselector s
    have hopen : openSlot g item index = pure none := by rw [openSlot, hinner]
    have hitem := ih none (by rw [hplace]; rfl)
    rw [addItems, hopen, pure_bind, Node.leavesAll_cons, Step.outcome_bind, Step.outcome_bind,
      admitLeaves_append_outcome, hitem, Step.outcome_bind]
    rcases (admitLeaves item.leaves).outcome s with ⟨e | _, t⟩
    · rfl
    · exact (ihs labels hinner hplace hselector t).trans (Step.outcome_bind ..)

theorem addNodes_outcome_none (nodes : List Node) (index : Nat) (s : State) :
    (addNodes none nodes index).outcome s = (admitLeaves (Node.leavesAll nodes)).outcome s := by
  induction nodes generalizing index s with
  | nil =>
    rw [addNodes, Node.leavesAll_nil]
    rfl
  | cons node nodes ih =>
    rw [addNodes, Node.leavesAll_cons, admitLeaves_append_outcome, Step.outcome_bind,
      Step.outcome_bind, addNode_outcome_none.1 node index 0 none rfl]
    split
    · exact ih _ _
    · rfl

/-! ## What stands around the traversal -/

/-- The filter of a build. -/
def voicesOf (config : Config) (d : Description) : Voice.Filter :=
  .ofConfig config (d.addresses.map (Label.canonical config.stripRoot))

/-- What a build does between the choice of the filter and the routes. -/
def arrange (d : Description) (usePanel : Bool) : Step Unit := do
  addNodes (if usePanel then some Panel.Tree.root else none) d.nodes 0
  if usePanel then dropLoneHeader

theorem populate_eq_bind (d : Description) (usePanel : Bool) :
    populate d usePanel = do
      Step.update fun b => { b with voices := voicesOf b.config d }
      arrange d usePanel
      let b ← Step.builder
      Step.reroute fun t =>
        (routesOf b.widgets).foldl (fun t r => t.append r.parameter r.address) t
      return b.report := by
  unfold populate arrange
  cases usePanel <;> simp [voicesOf]

/-- Without a panel a build goes through the leaves and does nothing else. -/
theorem arrange_outcome_none (d : Description) (s : State) :
    (arrange d false).outcome s = (admitLeaves d.leaves).outcome s := by
  have harrange : arrange d false = addNodes none d.nodes 0 := bind_pure _
  rw [harrange, addNodes_outcome_none]
  rfl

theorem arrange_rule {known : Nat → Prop}
    {P : {α : Type} → Step α → List Leaf → (α → Prop) → Prop} (h : Step.Rules known P)
    (d : Description) (usePanel : Bool) :
    P (arrange d usePanel) d.leaves fun _ => True := by
  refine h.last (addNodes_rule h _ d.nodes 0) fun _ _ => ?_
  split
  · exact dropLoneHeader_rule h
  · exact h.pure trivial

/-- What a build of a text does after the teardown. -/
def construct (text : String) (usePanel : Bool) : Step Report :=
  if Text.isBlankText text then return ⟨0, 0, 0⟩
  else
    match Description.read text with
    | .ok d => populate d usePanel
    | .error e => throw e

theorem buildText_eq_bind (text : String) (usePanel : Bool) :
    buildText text usePanel = teardown usePanel >>= fun _ => construct text usePanel := rfl

/-! ## What a build does beside the panel -/

/-- A property of steps that sequences have if their parts do, and that the small steps have
    but for those that look at the panel or change it. A builder keeps its configuration. -/
structure Step.Basics (P : {α : Type} → Step α → Prop) : Prop where
  pure : ∀ {α : Type} (a : α), P (Pure.pure a)
  throw : ∀ {α : Type} (e : BuildError), P (MonadExcept.throw e : Step α)
  bind : ∀ {α β : Type} {x : Step α} {f : α → Step β}, P x → (∀ a, P (f a)) → P (x >>= f)
  builder : P Step.builder
  update : ∀ f : Builder → Builder, (∀ b, (f b).config = b.config) → P (Step.update f)
  reroute : ∀ f : RoutingTable → RoutingTable, P (Step.reroute f)
  append : ∀ (page : String) (p : Parameter), P (Step.call (.appendParameter page p))

namespace Step.Basics
variable {P : {α : Type} → Step α → Prop} {α β : Type}

/-- A step that is taken under a condition, before a step that is taken anyway. -/
theorem when (h : Basics P) {c : Prop} [Decidable c] {x : Step α} {y : Step β} (hx : P x)
    (hy : P y) : P (if c then x >>= fun _ => y else y) := by
  split
  · exact h.bind hx fun _ => hy
  · exact hy

theorem visibleAddress (h : Basics P) (address : String) : P (visibleAddress address) := by
  refine h.bind h.builder fun b => ?_
  dsimp only
  split
  · exact h.bind (h.update _ fun _ => rfl) fun _ => h.pure none
  · exact h.pure _

theorem addWidget (h : Basics P) (w : Widget) : P (addWidget w) := h.update _ fun _ => rfl

theorem parameterFor (h : Basics P) (c : Input) (address : String) :
    P (parameterFor c address) := by
  refine h.bind h.builder fun b => ?_
  split
  · exact h.pure _
  · refine h.bind (h.update _ fun _ => rfl) fun _ => ?_
    refine h.bind (h.bind (h.append _ _) fun _ => h.pure ()) fun _ => ?_
    exact h.bind (h.addWidget _) fun _ => h.pure _

theorem admitInput (h : Basics P) (c : Input) : P (admitInput c) := by
  refine h.bind (h.visibleAddress c.address) fun address => ?_
  split
  · exact h.pure none
  · exact h.parameterFor c _

theorem admitOutput (h : Basics P) (c : Output) : P (admitOutput c) := by
  refine h.bind (h.visibleAddress c.address) fun address => ?_
  split
  · exact h.pure none
  · exact h.bind h.builder fun b => h.when (h.addWidget _) (h.pure _)

theorem admitLeaves (h : Basics P) (ls : List Leaf) : P (admitLeaves ls) := by
  induction ls with
  | nil => exact h.pure ()
  | cons l ls ih =>
    refine h.bind ?_ fun _ => ih
    cases l with
    | input c => exact h.bind (h.admitInput c) fun _ => h.pure ()
    | output c => exact h.bind (h.admitOutput c) fun _ => h.pure ()

theorem populate (h : Basics P) {d : Description} {usePanel : Bool}
    (harrange : P (arrange d usePanel)) : P (populate d usePanel) := by
  rw [populate_eq_bind]
  refine h.bind (h.update _ fun _ => rfl) fun _ => h.bind harrange fun _ => ?_
  exact h.bind h.builder fun b => h.bind (h.reroute _) fun _ => h.pure b.report

theorem construct (h : Basics P) {usePanel : Bool} (harrange : ∀ d, P (arrange d usePanel))
    (text : String) : P (construct text usePanel) := by
  rw [Build.construct]
  split
  · exact h.pure _
  · split
    · next d _ => exact h.populate (harrange d)
    · next e _ => exact h.throw e

end Step.Basics

end Build

end ControlSurface
