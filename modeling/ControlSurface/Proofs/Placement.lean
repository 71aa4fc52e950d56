import ControlSurface.Proofs.Drawing
import ControlSurface.Proofs.Interruption
import ControlSurface.Proofs.Inventory

/- A build draws what `drawDescription` draws. From a state that is on course (`Ahead`), every
   part of a build of which no call is refused ends well, stays on course, and makes the
   panel grow by its drawing (`addNode_ends`): one case for each kind of node, and for items
   the slots are opened before and pruned after what they hold. -/
namespace ControlSurface.Build

open Panel
open Nested (standing bare)
open Panel.Tree (Container Grown)

/-- A step ends well, with an answer and in a state as told. -/
def Step.Ends {α : Type} (x : Step α) (s : State) (Q : α → State → Prop) : Prop :=
  ∃ a u, x.outcome s = (.ok a, u) ∧ Q a u

namespace Step.Ends
variable {α β : Type} {x : Step α} {f : α → Step β} {s : State} {Q Q' : α → State → Prop}
  {R : β → State → Prop}

theorem pure {a : α} (h : Q a s) : Ends (Pure.pure a) s Q := ⟨a, s, rfl, h⟩

theorem bind (hx : Ends x s Q) (hf : ∀ a u, Q a u → Ends (f a) u R) : Ends (x >>= f) s R := by
  obtain ⟨a, u, ho, hq⟩ := hx
  obtain ⟨b, v, ho', hr⟩ := hf a u hq
  exact ⟨b, v, (outcome_bind_ok ho).trans ho', hr⟩

theorem mono (hx : Ends x s Q) (h : ∀ a u, Q a u → Q' a u) : Ends x s Q' := by
  obtain ⟨a, u, ho, hq⟩ := hx
  exact ⟨a, u, ho, h a u hq⟩

/-- What a step that ends well is known to end in. -/
theorem of_ok {u : State} {a : α} (h : Ends x s Q) (ho : x.outcome s = (.ok a, u)) : Q a u := by
  obtain ⟨a', u', ho', hq⟩ := h
  rw [ho] at ho'
  cases ho'
  exact hq

theorem config {f : Config → Step β} (hf : Ends (f s.builder.config) s R) :
    Ends (Step.config >>= f) s R := hf

end Step.Ends

/-- A state from which leaves that are still to come lead to a builder, where no call is
    refused. -/
structure Ahead (others : List Page) (own : List Binding) (b : Builder) (ls : List Leaf)
    (s : State) : Prop where
  settled : Settled others s.builder s.hosts.pages
  rooted : s.hosts.panel.Rooted own
  free : s.refusal = none
  leads : ls.foldl Builder.admitted s.builder = b

variable {others : List Page} {own : List Binding} {b : Builder} {ls : List Leaf} {s : State}
  {t : Tree} {c : Nat} {taken : List String}

namespace Ahead

theorem config (h : Ahead others own b ls s) : s.builder.config = b.config := by
  rw [← h.leads]
  exact (s.builder.foldl_admitted_keeps ls).1.symm

theorem key (h : Ahead others own b ls s) (address : String) :
    s.builder.key address = b.key address := by
  rw [Builder.key, Builder.key, h.config]

theorem hides (h : Ahead others own b ls s) (address : String) :
    s.builder.hides address = b.hides address := by
  have hvoices : s.builder.voices = b.voices := by
    rw [← h.leads]
    exact (s.builder.foldl_admitted_keeps ls).2.1.symm
  rw [Builder.hides, Builder.hides, h.key, hvoices]

theorem widget? (h : Ahead others own b ls s) {address : String} {w : Widget}
    (hw : s.builder.widget? address = some w) : b.widget? address = some w := by
  rw [← h.leads]
  exact (s.builder.foldl_admitted_keeps ls).2.2 address w hw

end Ahead

/-! ## Calls of the panel -/

namespace Step.Ends

/-- A call that only the panel sees, and that it carries out. -/
theorem call (h : Ahead others own b ls s) {k : Call} (hk : k.sparesRoot) {id : Nat}
    (hp : k.perform s.hosts = .ok (id, { s.hosts with panel := t })) :
    (Step.call k).Ends s fun a u => a = id ∧ u.hosts.panel = t ∧ Ahead others own b ls u := by
  have ho : (Step.call k).outcome s =
      (.ok id, { s with hosts.panel := t, calls := s.calls ++ [k] }) := by
    rw [outcome_call, if_neg (by simp [h.free]), hp]
  obtain ⟨⟨own', hrooted, hspares⟩, -⟩ := Call.perform_rooted h.rooted hp
  exact ⟨id, _, ho, rfl, rfl, h.settled, hspares hk ▸ hrooted, h.free, h.leads⟩

theorem create (h : Ahead others own b ls s) (hc : Container s.hosts.panel c taken)
    (spec : Spec) : (Step.call (.create c spec)).Ends s fun id u => Ahead others own b ls u ∧
      Grown s.hosts.panel u.hosts.panel c [id] [standing taken spec [] []] := by
  obtain ⟨u, hu, hgrown⟩ := Grown.of_create hc spec
  refine (call h (k := .create c spec) trivial (by rw [Call.perform, hu]; rfl)).mono ?_
  rintro _ v ⟨rfl, rfl, hv⟩
  exact ⟨hv, hgrown⟩

section
variable {name : String} {x : Int64} {bindings : List Binding} {kids ns : List Nested}
  {id : Nat} {ids : List Nat}

theorem bindNode {kind : Kind} (h : Ahead others own b ls s)
    (hg : Grown t s.hosts.panel c (id :: ids) (.node name x kind bindings kids :: ns))
    (binding : Binding) :
    (Step.perform (.bind id binding)).Ends s fun _ u => Ahead others own b ls u ∧
      Grown t u.hosts.panel c (id :: ids)
        (.node name x kind (setBinding bindings binding) kids :: ns) := by
  -- A node that stands below another is not the root.
  have hid : id ≠ Tree.root := by
    have hlt : c < id := hg.forest.lt_of_mem id List.mem_cons_self
    have hroot : Tree.root = 0 := rfl
    omega
  obtain ⟨m, hm, -⟩ := hg.forest.head
  obtain ⟨u, hu⟩ : ∃ u, s.hosts.panel.bind id binding = .ok u := by
    rw [Tree.bind, hm]
    exact ⟨_, rfl⟩
  obtain ⟨n, hn, hsize, hnodes⟩ := Tree.bind_ok hu
  refine bind (call h (k := .bind id binding) hid (by rw [Call.perform, hu]; rfl)) ?_
  rintro _ v ⟨-, rfl, hv⟩
  refine pure ⟨hv, hg.touch hsize ?_⟩
  intro l hl hkind hbindings k
  rw [hn] at hl
  cases hl
  rw [hnodes, hkind.symm, hbindings]

theorem assign {template : Template} {properties : List (String × String)}
    (h : Ahead others own b ls s)
    (hg : Grown t s.hosts.panel c (id :: ids)
      (.node name x (.widget template properties) bindings kids :: ns)) (key value : String) :
    (Step.perform (.assign id key value)).Ends s fun _ u => Ahead others own b ls u ∧
      Grown t u.hosts.panel c (id :: ids)
        (.node name x (.widget template (setProperty key value properties)) bindings kids ::
          ns) := by
  obtain ⟨m, hm, -, hkind, -⟩ := hg.forest.head
  replace hkind : m.kind = .widget template properties := hkind
  obtain ⟨u, hu⟩ : ∃ u, s.hosts.panel.assign id key value = .ok u := by
    rw [Tree.assign, hm]
    dsimp only
    rw [hkind]
    exact ⟨_, rfl⟩
  obtain ⟨n, template', properties', hn, hkind', hsize, hnodes⟩ := Tree.assign_ok hu
  rw [hn] at hm
  cases hm
  rw [hkind] at hkind'
  cases hkind'
  refine bind (call h (k := .assign id key value) trivial (by rw [Call.perform, hu]; rfl)) ?_
  rintro _ v ⟨-, rfl, hv⟩
  refine pure ⟨hv, hg.touch hsize ?_⟩
  intro l hl _ hbindings k
  rw [hn] at hl
  cases hl
  rw [hnodes, hbindings]

theorem destroy {n : Nested} (h : Ahead others own b ls s) (hc : Container t c taken)
    (hg : Grown t s.hosts.panel c [id] [n]) :
    (Step.perform (.destroy id)).Ends s fun _ u => Ahead others own b ls u ∧
      Grown t u.hosts.panel c [] [] := by
  obtain ⟨u, hu, hgrown⟩ := Grown.drop hc hg h.rooted
  refine bind (call h (k := .destroy id) trivial (by rw [Call.perform, hu]; rfl)) ?_
  rintro _ v ⟨-, rfl, hv⟩
  exact pure ⟨hv, hgrown⟩

end

end Step.Ends

/-! ## Leaves -/

/-- A step that admits leaves and leaves the panel alone stays on course. -/
theorem Ahead.next {α : Type} {x : Step α} {ms : List Leaf} {a : α} {u : State}
    (h : Ahead others own b (ms ++ ls) s) (hx : x.Admits ms) (ho : x.outcome s = (.ok a, u))
    (hpanel : u.hosts.panel = s.hosts.panel) (hfree : u.refusal = none) :
    Ahead others own b ls u := by
  obtain ⟨hset, -, hb⟩ := hx.leadsTo others s h.settled
  rw [ho] at hset hb
  refine ⟨hset, hpanel ▸ h.rooted, hfree, ?_⟩
  rw [hb a rfl, ← List.foldl_append, h.leads]

/-- The parameter of a shown input is that of the widget of its address. -/
theorem parameterFor_ok (hs : Settled others s.builder s.hosts.pages) (hfree : s.refusal = none)
    (control : Input) :
    ∃ w u, (parameterFor control (s.builder.key control.address)).outcome s =
        (.ok w.parameter, u) ∧ u.builder.widget? (s.builder.key control.address) = some w ∧
      u.hosts.panel = s.hosts.panel ∧ u.refusal = none := by
  cases hw : s.builder.widget? (s.builder.key control.address) with
  | some w =>
    refine ⟨w, s, ?_, hw, rfl, hfree⟩
    rw [parameterFor, Step.outcome_bind_ok (Step.outcome_builder s), hw]
    rfl
  | none =>
    obtain ⟨qs, happend, -⟩ := hs.enter_input control
    have ho : (parameterFor control (s.builder.key control.address)).outcome s =
        (.ok (some (Parameter.ofInput (s.builder.names.allocate control.label).1 control)),
          { s with
            builder := s.builder.enter (.input control)
            hosts.pages := qs
            calls := s.calls ++ [.appendParameter s.builder.config.controlPage
              (Parameter.ofInput (s.builder.names.allocate control.label).1 control)] }) := by
      rw [parameterFor_outcome_new control hw]
      dsimp only
      rw [Step.outcome_call, if_neg (by simp [hfree]), Call.perform, happend]
      rfl
    have hadded : (s.builder.enter (.input control)).widget? (s.builder.key control.address) =
        some (inputWidget control (s.builder.key control.address)
          (Parameter.ofInput (s.builder.names.allocate control.label).1 control)) :=
      (s.builder.widget?_push _ _).trans (if_pos (inputWidget_address ..))
    rw [← inputWidget_parameter control (s.builder.key control.address)] at ho
    exact ⟨_, _, ho, hadded, rfl, hfree⟩

/-- An input is made a control, and what is shown of it is known. -/
theorem admitInput_ends {control : Input} (h : Ahead others own b (.input control :: ls) s) :
    (admitInput control).Ends s fun p u => Ahead others own b ls u ∧
      u.hosts.panel = s.hosts.panel ∧ p = if b.hides control.address then none
        else (b.widget? (b.key control.address)).bind (·.parameter) := by
  have hvisible := visibleAddress_outcome control.address s
  rw [h.hides] at hvisible
  cases hv : b.hides control.address with
  | true =>
    rw [if_pos hv] at hvisible
    have ho : (admitInput control).outcome s = (.ok none, _) := Step.outcome_bind_ok hvisible
    exact ⟨_, _, ho, h.next (admitInput_admits control) ho rfl h.free, rfl, rfl⟩
  | false =>
    rw [if_neg (by simp [hv])] at hvisible
    obtain ⟨w, u, hp, hw, hpanel, hfree⟩ := parameterFor_ok h.settled h.free control
    have ho : (admitInput control).outcome s = (.ok w.parameter, u) :=
      (Step.outcome_bind_ok hvisible).trans hp
    have hu := h.next (admitInput_admits control) ho hpanel hfree
    rw [h.key] at hw
    exact ⟨_, u, ho, hu, hpanel, by rw [hu.widget? hw]; rfl⟩

theorem admitOutput_ends {control : Output} (h : Ahead others own b (.output control :: ls) s) :
    (admitOutput control).Ends s fun address u => Ahead others own b ls u ∧
      u.hosts.panel = s.hosts.panel ∧
      address = if b.hides control.address then none else some (b.key control.address) := by
  have hvisible := visibleAddress_outcome control.address s
  rw [h.hides, h.key] at hvisible
  cases hv : b.hides control.address with
  | true =>
    rw [if_pos hv] at hvisible
    have ho : (admitOutput control).outcome s = (.ok none, _) := Step.outcome_bind_ok hvisible
    exact ⟨_, _, ho, h.next (admitOutput_admits control) ho rfl h.free, rfl, rfl⟩
  | false =>
    rw [if_neg (by simp [hv])] at hvisible
    obtain ⟨u, ho, hpanel, hfree⟩ : ∃ u, (admitOutput control).outcome s =
        (.ok (some (b.key control.address)), u) ∧ u.hosts.panel = s.hosts.panel ∧
          u.refusal = none := by
      rw [admitOutput, Step.outcome_bind_ok hvisible]
      dsimp only
      rw [Step.outcome_bind_ok (Step.outcome_builder s)]
      split
      · exact ⟨_, rfl, rfl, h.free⟩
      · exact ⟨_, rfl, rfl, h.free⟩
    exact ⟨_, u, ho, h.next (admitOutput_admits control) ho hpanel hfree, hpanel, rfl⟩

/-- A state on course, of which the panel grew from another by nodes in a container. -/
structure Drawn (others : List Page) (own : List Binding) (b : Builder) (ls : List Leaf) (t : Tree)
    (c : Nat) (ns : List Nested) (u : State) : Prop where
  ahead : Ahead others own b ls u
  grown : ∃ ids, Grown t u.hosts.panel c ids ns

/-- Nothing is drawn by a step that leaves the panel as it is. -/
theorem Ahead.drawn_nil (h : Ahead others own b ls s) (hc : Container s.hosts.panel c taken) :
    Drawn others own b ls s.hosts.panel c [] s := ⟨h, [], .refl hc⟩

theorem createBound_ends (h : Ahead others own b ls s) (hc : Container s.hosts.panel c taken)
    (spec : Spec) (binding : Binding) :
    (createBound c spec binding).Ends s fun _ u =>
      Drawn others own b ls s.hosts.panel c [standing taken spec [binding] []] u := by
  refine (Step.Ends.create h hc spec).bind fun id u hu => ?_
  refine (Step.Ends.bindNode hu.1 hu.2 binding).bind fun _ v hv => .pure ?_
  exact ⟨hv.1, [id], hv.2⟩

open Appearance

theorem addInput_ends {control : Input} (h : Ahead others own b (.input control :: ls) s)
    (hc : Container s.hosts.panel c taken) (index : Nat) :
    (addInput control index (some c)).Ends s fun _ u =>
      Drawn others own b ls s.hosts.panel c (drawInput b control index taken) u := by
  rw [addInput_eq_bind]
  refine (admitInput_ends h).bind fun p u hu => ?_
  obtain ⟨hu, hpanel, hp⟩ := hu
  rw [← hpanel] at hc ⊢
  rw [drawInput]
  split at hp
  · next hv =>
    rw [if_pos hv, hp]
    exact .pure (hu.drawn_nil hc)
  · next hv =>
    rw [if_neg hv, ← hp]
    cases p with
    | none => exact .pure (hu.drawn_nil hc)
    | some p =>
      refine .config ((createBound_ends hu hc _ _).bind fun _ v hv => .pure ?_)
      rw [← hu.config]
      exact hv

theorem addOutput_ends {control : Output} (h : Ahead others own b (.output control :: ls) s)
    (hc : Container s.hosts.panel c taken) (index : Nat) :
    (addOutput control index (some c)).Ends s fun _ u =>
      Drawn others own b ls s.hosts.panel c (drawOutput b control index taken) u := by
  rw [addOutput_eq_bind]
  refine (admitOutput_ends h).bind fun address u hu => ?_
  obtain ⟨hu, hpanel, haddress⟩ := hu
  rw [← hpanel] at hc ⊢
  rw [drawOutput]
  split at haddress
  · next hv =>
    rw [if_pos hv, haddress]
    exact .pure (hu.drawn_nil hc)
  · next hv =>
    rw [if_neg hv, haddress]
    refine .config ((createBound_ends hu hc _ _).bind fun _ v hv => .pure ?_)
    rw [← hu.config]
    exact hv

/-! ## Groups -/

/-- A bare node is pruned, and any other stays. -/
theorem prune_ends {name : String} {x : Int64} {kind : Kind} {bindings : List Binding}
    {kids : List Nested} {id : Nat} (h : Ahead others own b ls s) (hc : Container t c taken)
    (hg : Grown t s.hosts.panel c [id] [.node name x kind bindings kids]) :
    (prune id).Ends s fun stays u => Ahead others own b ls u ∧ stays = !bare kids ∧
      if bare kids then Grown t u.hosts.panel c [] []
      else Grown t u.hosts.panel c [id] [.node name x kind bindings kids] := by
  have hbare : isBare s.hosts.panel id = bare kids := hg.isBare_eq
  rw [prune]
  refine Step.Ends.bind (Q := fun p u => p = s.hosts.panel ∧ u = s) ⟨_, _, rfl, rfl, rfl⟩ ?_
  rintro _ _ ⟨rfl, rfl⟩
  rw [hbare]
  cases bare kids with
  | true => exact (Step.Ends.destroy h hc hg).bind fun _ u hu => .pure ⟨hu.1, rfl, hu.2⟩
  | false => exact .pure ⟨h, rfl, hg⟩

/-- An open group with a container that was opened as planned. -/
structure OpenGroup.Follows (g : OpenGroup) (p : Plan) (container : Nat) : Prop where
  kind : g.kind = p.kind
  isSequencer : g.isSequencer = p.isSequencer
  childDepth : g.childDepth = p.childDepth
  inner : g.inner = some container
  place : g.place = some container
  selector : g.selector.isSome = decide (p.kind = .tabbed)

/-- A selector without options. -/
def blankSelector (kind : GroupKind) : List Nested :=
  if kind = .tabbed then [standing [] ⟨selectorName, 0, .widget .tabSelector []⟩ [] []] else []

theorem blankSelector_names (kind : GroupKind) :
    (blankSelector kind).map (·.name) = takenFor kind := by
  cases kind <;> rfl

/-- A group without items opens its header alone. -/
theorem openGroup_empty_ends (h : Ahead others own b ls s)
    (hc : Container s.hosts.panel c taken) (kind : GroupKind) (label : String)
    (index depth : Nat) :
    (openGroup kind label true index depth (some c)).Ends s fun g u =>
      g.inner = none ∧ g.selector = none ∧
        Drawn others own b ls s.hosts.panel c (drawHeader b.config label index taken) u := by
  rw [openGroup_some]
  refine .config ?_
  rw [h.config]
  dsimp only
  rw [drawHeader]
  cases b.config.isHeaderless label with
  | true =>
    rw [if_neg (by decide), if_pos rfl]
    exact .pure ⟨rfl, rfl, h.drawn_nil hc⟩
  | false =>
    rw [if_pos Bool.not_false, if_neg Bool.false_ne_true]
    refine (Step.Ends.create h hc _).bind fun id u hu => ?_
    rw [if_pos rfl]
    exact .pure ⟨rfl, rfl, hu.1, [id], hu.2⟩

/-- A state on course in which a group was opened as planned: its container stands last in
    the container around it and holds nothing but a blank selector, if the group has tabs. -/
structure Opened (others : List Page) (own : List Binding) (b : Builder) (ls : List Leaf)
    (t : Tree) (c : Nat) (taken : List String) (spec : Spec) (p : Plan) (v : Tree) (inner : Nat)
    (g : OpenGroup) (u : State) : Prop where
  ahead : Ahead others own b ls u
  container : Grown t v c [inner] [standing taken spec [] []]
  empty : Container v inner []
  selector : Grown v u.hosts.panel inner g.selector.toList (blankSelector p.kind)
  follows : g.Follows p inner

theorem openContainer_ends (h : Ahead others own b ls s) (hc : Container s.hosts.panel c taken)
    (kind : GroupKind) (label : String) (index : Nat) (isSequencer : Bool) (childDepth : Nat) :
    (openContainer b.config c kind label index isSequencer childDepth).Ends s fun g u =>
      ∃ v inner, Opened others own b ls s.hosts.panel c taken (groupSpec b.config kind label index)
        ⟨kind, isSequencer, childDepth⟩ v inner g u := by
  rw [openContainer]
  refine (Step.Ends.create h hc (groupSpec b.config kind label index)).bind fun inner u hu => ?_
  have hinner : Container u.hosts.panel inner [] := hu.2.opened rfl
  split
  · next htab =>
    subst htab
    refine (Step.Ends.create hu.1 hinner _).bind fun selector v hv => .pure ?_
    exact ⟨_, inner, hv.1, hu.2, hinner, hv.2, ⟨rfl, rfl, rfl, rfl, rfl, rfl⟩⟩
  · next htab =>
    refine .pure ⟨_, inner, hu.1, hu.2, hinner, ?_, ⟨rfl, rfl, rfl, rfl, rfl, ?_⟩⟩
    · rw [blankSelector, if_neg htab]
      exact .refl hinner
    · simp [htab]

/-- A group with items opens its container behind its header. -/
theorem openGroup_ends (h : Ahead others own b ls s) (hc : Container s.hosts.panel c taken)
    (kind : GroupKind) (label : String) (index depth : Nat) :
    (openGroup kind label false index depth (some c)).Ends s fun g u => ∃ w v inner,
      Drawn others own b ls s.hosts.panel c (drawHeader b.config label index taken) w ∧
      Opened others own b ls w.hosts.panel c
        (taken ++ (drawHeader b.config label index taken).map (·.name))
        (groupSpec b.config kind label index) (planOf b.config kind label depth) v inner g u := by
  -- The container finds the header's name taken.
  have hrest : ∀ (w : State) (header : List Nested) (isSequencer : Bool) (childDepth : Nat),
      Drawn others own b ls s.hosts.panel c header w →
      (openContainer b.config c kind label index isSequencer childDepth).Ends w fun g u =>
        ∃ w v inner, Drawn others own b ls s.hosts.panel c header w ∧
          Opened others own b ls w.hosts.panel c (taken ++ header.map (·.name))
            (groupSpec b.config kind label index) ⟨kind, isSequencer, childDepth⟩ v inner g u := by
    intro w header isSequencer childDepth hw
    obtain ⟨ids, hids⟩ := hw.grown
    refine (openContainer_ends hw.ahead (Grown.grows hc hids) ..).mono fun g u hu => ?_
    obtain ⟨v, inner, hu⟩ := hu
    exact ⟨w, v, inner, hw, hu⟩
  rw [openGroup_some, planOf]
  refine .config ?_
  rw [h.config]
  dsimp only
  rw [drawHeader]
  cases b.config.isHeaderless label with
  | true =>
    rw [if_neg (by decide), if_neg Bool.false_ne_true]
    exact hrest s [] _ _ (h.drawn_nil hc)
  | false =>
    rw [if_pos Bool.not_false, if_neg Bool.false_ne_true, if_neg Bool.false_ne_true]
    refine (Step.Ends.create h hc _).bind fun id u hu => ?_
    exact hrest u _ _ _ ⟨hu.1, [id], hu.2⟩

/-- A selector gets the labels of the pages, or goes where there are none. -/
theorem finishSelector_ends {selector inner : Nat} {ids : List Nat} {kids : List Nested}
    {labels : List String} (h : Ahead others own b ls s) (hc : Container t inner [])
    (hg : Grown t s.hosts.panel inner (selector :: ids) (blankSelector .tabbed ++ kids))
    (hnone : labels = [] → kids = []) :
    (finishSelector selector labels).Ends s fun _ u =>
      Drawn others own b ls t inner (drawSelector labels ++ kids) u := by
  cases labels with
  | nil =>
    obtain rfl : kids = [] := hnone rfl
    obtain rfl : ids = [] := by
      have hlength := hg.forest.length_eq
      simpa [blankSelector] using hlength
    exact (Step.Ends.destroy h hc hg).mono fun _ u hu => ⟨hu.1, [], hu.2⟩
  | cons label labels =>
    refine (Step.Ends.assign h hg "Menunames" _).bind fun _ u hu => ?_
    exact (Step.Ends.assign hu.1 hu.2 "Menulabels" _).mono fun _ v hv => ⟨hv.1, _, hv.2⟩

/-- A group is closed: its selector is finished, and its container goes if it is bare. -/
theorem closeGroup_ends {g : OpenGroup} {p : Plan} {inner : Nat} {v : Tree} {config : Config}
    {label : String} {index : Nat} {before : List Leaf} {u : State} {ids : List Nat}
    {items : List Nested × List String} (hc : Container t c taken)
    (ho : Opened others own b before t c taken (groupSpec config p.kind label index) p v inner g u)
    (h : Ahead others own b ls s)
    (hitems : Grown u.hosts.panel s.hosts.panel inner ids items.1)
    (hnone : p.kind = .tabbed → items.2 = [] → items.1 = []) :
    (closeGroup g items.2).Ends s fun _ u =>
      Drawn others own b ls t c (drawGroup config p.kind label index taken items) u := by
  -- The container is pruned after its selector was finished.
  have hprune : ∀ (w : State) (kids : List Nested), Drawn others own b ls v inner kids w →
      (do let _ ← prune inner : Step Unit).Ends w fun _ u => Drawn others own b ls t c
        (if bare kids then []
          else [standing taken (groupSpec config p.kind label index) [] kids]) u := by
    rintro w kids ⟨hw, js, hjs⟩
    refine (prune_ends hw hc (ho.container.within hjs)).bind fun stays u hu => .pure ?_
    obtain ⟨hu, -, hgrown⟩ := hu
    split at hgrown
    · next hb => exact ⟨hu, [], by rw [if_pos hb]; exact hgrown⟩
    · next hb => exact ⟨hu, [inner], by rw [if_neg hb]; exact hgrown⟩
  have hselector := ho.follows.selector
  have hall := ho.selector.trans hitems
  rw [closeGroup, ho.follows.inner, drawGroup]
  cases hs : g.selector with
  | none =>
    rw [hs] at hselector hall
    have htab : p.kind ≠ .tabbed := by simpa using hselector
    rw [blankSelector, if_neg htab] at hall
    rw [if_neg htab]
    exact hprune s items.1 ⟨h, ids, hall⟩
  | some selector =>
    rw [hs] at hselector hall
    have htab : p.kind = .tabbed := by simpa using hselector
    rw [htab] at hall
    rw [if_pos htab]
    exact (finishSelector_ends h ho.empty hall (hnone htab)).bind fun _ u hu => hprune u _ hu

/-- A slot is closed around what its item looks like. -/
theorem closeSlot_ends {g : OpenGroup} {p : Plan} {inner slot : Nat} {item : ControlSurface.Node}
    {index : Nat} {labels : List String} {kids : List Nested} (h : Ahead others own b ls s)
    (hc : Container t c taken) (hg : g.Follows p inner)
    (hslot : Grown t s.hosts.panel c [slot]
      [standing taken (slotSpec b.config item.label index) [] kids]) :
    (closeSlot g item (some slot) labels).Ends s fun labels' u =>
      labels' = (drawSlot b.config p item index taken labels kids).2 ∧
        Drawn others own b ls t c (drawSlot b.config p item index taken labels kids).1 u := by
  have hselector := hg.selector
  rw [closeSlot, drawSlot]
  refine (prune_ends h hc hslot).bind fun stays u hu => ?_
  obtain ⟨hu, rfl, hgrown⟩ := hu
  rw [hselector]
  cases hb : bare kids with
  | true =>
    rw [hb] at hgrown
    exact .pure ⟨rfl, hu, [], hgrown⟩
  | false =>
    rw [hb] at hgrown
    by_cases htab : p.kind = .tabbed
    · rw [if_pos htab, if_pos (by simp [htab]), hg.isSequencer]
      refine (Step.Ends.bindNode hu hgrown _).bind fun _ v hv => .pure ?_
      exact ⟨rfl, hv.1, [slot], hv.2⟩
    · rw [if_neg htab, if_neg (by simp [htab])]
      exact .pure ⟨rfl, hu, [slot], hgrown⟩

/-- An item that gets a slot gets it in the container of its group. -/
theorem openSlot_ends {g : OpenGroup} {p : Plan} {item : ControlSurface.Node} {index : Nat}
    (h : Ahead others own b ls s) (hc : Container s.hosts.panel c taken) (hg : g.Follows p c)
    (hslots : p.slots item = true) :
    (openSlot g item index).Ends s fun slot u => ∃ id, slot = some id ∧
      Ahead others own b ls u ∧ Grown s.hosts.panel u.hosts.panel c [id]
        [standing taken (slotSpec b.config item.label index) [] []] := by
  have hopens : g.kind = .tabbed ∨ (!item.isInput) = true := by
    simpa [Plan.slots, hg.kind] using hslots
  rw [openSlot, hg.inner]
  dsimp only
  rw [if_pos hopens]
  refine .config ?_
  rw [h.config]
  refine (Step.Ends.create h hc (slotSpec b.config item.label index)).bind fun id u hu => ?_
  exact .pure ⟨id, rfl, hu⟩

theorem openSlot_eq_none {g : OpenGroup} {p : Plan} {item : ControlSurface.Node} (index : Nat)
    (hg : g.Follows p c) (hslots : p.slots item = false) :
    openSlot g item index = pure none := by
  have hopens : ¬(g.kind = .tabbed ∨ (!item.isInput) = true) := by
    simpa [Plan.slots, hg.kind] using hslots
  rw [openSlot, hg.inner]
  dsimp only
  rw [if_neg hopens]

/-- A group that shows nothing is not drawn. -/
theorem drawGroup_nil (config : Config) (kind : GroupKind) (label : String) (index : Nat)
    (taken : List String) : drawGroup config kind label index taken ([], []) = [] := by
  cases kind <;> rfl

/-- Slots of a tab group come with a label each. -/
theorem drawItems_labels {p : Plan} (hp : p.kind = .tabbed) (items : List ControlSurface.Node)
    (index : Nat) (taken labels : List String) :
    (drawItems b p items index taken labels).2.length =
      labels.length + (drawItems b p items index taken labels).1.length := by
  induction items generalizing index taken labels with
  | nil => rfl
  | cons item items ih =>
    have hslot : ∀ kids, (drawSlot b.config p item index taken labels kids).2.length =
        labels.length + (drawSlot b.config p item index taken labels kids).1.length := by
      intro kids
      rw [drawSlot, if_pos hp]
      split
      · rfl
      · rw [List.length_append]
        rfl
    rw [drawItems, if_pos (by simp [Plan.slots, hp])]
    dsimp only
    rw [ih, hslot, List.length_append, Nat.add_assoc]

/-- The labels of the pages of a group are as many as its pages. -/
theorem drawItems_labels_zero {p : Plan} (hp : p.kind = .tabbed)
    (items : List ControlSurface.Node) (index : Nat) (taken : List String) :
    (drawItems b p items index taken []).2.length =
      (drawItems b p items index taken []).1.length := by
  rw [drawItems_labels hp, List.length_nil, Nat.zero_add]

/-- Without a label there is no page, and the selector stands alone. -/
theorem drawItems_eq_nil {p : Plan} {items : List ControlSurface.Node} {index : Nat}
    {taken : List String} (hp : p.kind = .tabbed)
    (h : (drawItems b p items index taken []).2 = []) :
    (drawItems b p items index taken []).1 = [] := by
  have hlength := drawItems_labels_zero (b := b) hp items index taken
  rw [h] at hlength
  exact List.eq_nil_of_length_eq_zero hlength.symm

/-- Nodes are added as they are drawn: one case for each kind of node, and one for each shape
    of a list of items. -/
theorem addNode_ends :
    (∀ node index depth place, ∀ ls s c taken, place = some c →
      Ahead others own b (node.leaves ++ ls) s → Container s.hosts.panel c taken →
      (addNode node index depth place).Ends s fun _ u =>
        Drawn others own b ls s.hosts.panel c (drawNode b node index depth taken) u) ∧
    ∀ g items index labels, ∀ ls s c taken p, OpenGroup.Follows g p c →
      Ahead others own b (Node.leavesAll items ++ ls) s → Container s.hosts.panel c taken →
      (addItems g items index labels).Ends s fun labels' u =>
        labels' = (drawItems b p items index taken labels).2 ∧
          Drawn others own b ls s.hosts.panel c (drawItems b p items index taken labels).1 u := by
  refine addNode.mutual_induct _ _ ?_ ?_ ?_ ?_ ?_ ?_
  · rintro control index depth _ ls s c taken rfl h hc
    rw [addNode, drawNode]
    rw [Node.leaves_input] at h
    exact addInput_ends h hc index
  · rintro control index depth _ ls s c taken rfl h hc
    rw [addNode, drawNode]
    rw [Node.leaves_output] at h
    exact addOutput_ends h hc index
  · rintro slot index depth _ ls s c taken rfl h hc
    rw [addNode, drawNode]
    rw [Node.leaves_soundfile] at h
    exact .pure (h.drawn_nil hc)
  · rintro kind label info items index depth _ ih ls s c taken rfl h hc
    rw [addNode, drawNode]
    rw [Node.leaves_group] at h
    cases hempty : items.isEmpty with
    | true =>
      obtain rfl := List.isEmpty_iff.mp hempty
      refine (openGroup_empty_ends h hc kind label index depth).bind fun g u hu => ?_
      obtain ⟨hinner, hselector, hu⟩ := hu
      rw [Node.leavesAll_nil] at hu
      rw [drawItems, drawGroup_nil, List.append_nil, addItems, pure_bind, closeGroup, hinner,
        hselector]
      exact .pure hu
    | false =>
      refine (openGroup_ends h hc kind label index depth).bind fun g u hu => ?_
      obtain ⟨w, v, inner, hheader, ho⟩ := hu
      obtain ⟨ids, hids⟩ := hheader.grown
      have hcu := Grown.grows ho.empty ho.selector
      rw [List.nil_append, blankSelector_names] at hcu
      refine (ih g ls u inner _ _ ho.follows ho.ahead hcu).bind fun labels x hx => ?_
      obtain ⟨rfl, hx, js, hitems⟩ := hx
      refine (closeGroup_ends (p := planOf b.config kind label depth) (Grown.grows hc hids) ho hx
        hitems drawItems_eq_nil).mono fun _ y hy => ?_
      obtain ⟨hy, ks, hgroup⟩ := hy
      exact ⟨hy, _, hids.trans hgroup⟩
  · intro g index labels ls s c taken p hg h hc
    rw [addItems, drawItems]
    rw [Node.leavesAll_nil] at h
    exact .pure ⟨rfl, h.drawn_nil hc⟩
  · intro g item items index labels ih ihs ls s c taken p hg h hc
    rw [Node.leavesAll_cons, List.append_assoc] at h
    rw [addItems, drawItems, ← hg.childDepth]
    dsimp only
    -- The items after this one find its name taken.
    have hrest : ∀ (here : List Nested × List String) (u : State),
        Drawn others own b (Node.leavesAll items ++ ls) s.hosts.panel c here.1 u →
        (addItems g items (index + 1) here.2).Ends u fun labels' w =>
          labels' = (drawItems b p items (index + 1) (taken ++ here.1.map (·.name)) here.2).2 ∧
            Drawn others own b ls s.hosts.panel c (here.1 ++
              (drawItems b p items (index + 1) (taken ++ here.1.map (·.name)) here.2).1) w := by
      rintro here u ⟨hu, ids, hids⟩
      refine (ihs here.2 ls u c _ p hg hu (Grown.grows hc hids)).mono fun labels' w hw => ?_
      obtain ⟨hlabels, hw, js, hjs⟩ := hw
      exact ⟨hlabels, hw, _, hids.trans hjs⟩
    cases hslots : p.slots item with
    | true =>
      rw [if_pos rfl]
      refine (openSlot_ends h hc hg hslots).bind fun slot u hu => ?_
      obtain ⟨id, rfl, hu, hslot⟩ := hu
      refine (ih (some id) _ u id [] rfl hu (hslot.opened rfl)).bind fun _ v hv => ?_
      obtain ⟨hv, ids, hids⟩ := hv
      refine (closeSlot_ends hv hc hg (hslot.within hids)).bind fun labels' w hw => ?_
      obtain ⟨rfl, hw⟩ := hw
      exact hrest _ w hw
    | false =>
      rw [if_neg Bool.false_ne_true, openSlot_eq_none index hg hslots, pure_bind]
      refine (ih none _ s c taken hg.place h hc).bind fun _ u hu => ?_
      exact hrest (_, labels) u hu

/-! ## The whole panel -/

theorem addNodes_ends {nodes : List ControlSurface.Node} {index : Nat}
    (h : Ahead others own b (Node.leavesAll nodes ++ ls) s)
    (hc : Container s.hosts.panel c taken) :
    (addNodes (some c) nodes index).Ends s fun _ u =>
      Drawn others own b ls s.hosts.panel c (drawNodes b nodes index taken) u := by
  induction nodes generalizing s index taken with
  | nil =>
    rw [addNodes, drawNodes]
    rw [Node.leavesAll_nil] at h
    exact .pure (h.drawn_nil hc)
  | cons node nodes ih =>
    rw [addNodes, drawNodes]
    rw [Node.leavesAll_cons, List.append_assoc] at h
    refine (addNode_ends.1 node index 0 _ _ s c taken rfl h hc).bind fun _ u hu => ?_
    obtain ⟨hu, ids, hids⟩ := hu
    refine (ih hu (Grown.grows hc hids)).mono fun _ v hv => ?_
    obtain ⟨hv, js, hjs⟩ := hv
    exact ⟨hv, _, hids.trans hjs⟩

/-- On a panel that was empty a lone header goes. -/
theorem dropLoneHeader_ends {ns : List Nested} (hc : Container t Tree.root taken)
    (hempty : t.children Tree.root = []) (hs : Drawn others own b ls t Tree.root ns s) :
    dropLoneHeader.Ends s fun _ u =>
      Drawn others own b ls t Tree.root (if bare ns then [] else ns) u := by
  obtain ⟨h, ids, hg⟩ := hs
  have hchildren : s.hosts.panel.children Tree.root = ids := hg.children_eq hempty
  rw [dropLoneHeader]
  refine Step.Ends.bind (Q := fun p u => p = s.hosts.panel ∧ u = s) ⟨_, _, rfl, rfl, rfl⟩ ?_
  intro p u hu
  rw [hu.1, hu.2, hchildren]
  cases hg.forest with
  | nil => exact .pure ⟨h, [], hg⟩
  | @cons _ only later n kids ns node _ _ _ _ rest =>
    cases rest with
    | nil =>
      have htemplate : s.hosts.panel.template? only = n.kind.template? := by
        rw [Tree.template?, node, Option.bind_some]
      have hbare : bare [.node n.name n.x n.kind n.bindings kids] =
          (n.kind.template? == some .header) := rfl
      dsimp only
      rw [htemplate, hbare]
      by_cases hn : n.kind.template? = some .header
      · rw [if_pos hn, hn, if_pos (by decide)]
        exact (Step.Ends.destroy h hc hg).mono fun _ u hu => ⟨hu.1, [], hu.2⟩
      · rw [if_neg hn, if_neg (by simpa using hn)]
        exact .pure ⟨h, [only], hg⟩
    | cons => exact .pure ⟨h, _, hg⟩

/-- A build draws its description on a panel that was cleared. -/
theorem arrange_ends {d : Description} (h : Ahead others own b d.leaves s)
    (hc : Container s.hosts.panel Tree.root taken)
    (hempty : s.hosts.panel.children Tree.root = []) :
    (arrange d true).Ends s fun _ u =>
      Drawn others own b [] s.hosts.panel Tree.root (drawDescription b d) u := by
  have hleaves : d.leaves = Node.leavesAll d.nodes ++ [] := (List.append_nil _).symm
  rw [hleaves] at h
  obtain rfl : taken = [] := by
    rw [← hc.names, Tree.childNames, hempty]
    rfl
  exact (addNodes_ends h hc).bind fun _ u hu => dropLoneHeader_ends hc hempty hu

theorem Session.cleared_rooted {A : Session} (hA : A.hosts.panel.Rooted own) (usePanel : Bool) :
    (A.cleared usePanel).hosts.panel.Rooted own := by
  cases usePanel with
  | true => exact hA.clear
  | false => exact hA

/-- After a teardown a build is on course for the builder that has admitted all leaves. -/
theorem Session.ready_ahead {A : Session} (hA : A.hosts.panel.Rooted own) (d : Description)
    (usePanel : Bool) :
    Ahead (A.hosts.pages.besides A.builder.config.controlPage) own
      (d.leaves.foldl Builder.admitted (A.ready d usePanel)) d.leaves
      { A.cleared usePanel with builder := A.ready d usePanel } :=
  ⟨A.ready_settled d usePanel, cleared_rooted hA usePanel, rfl, rfl⟩

/-- The panel of a build that ends well is its root above the drawing of the description. -/
theorem build_nested {A : Session} {d : Description} {refusal : Option Nat} {report : Report}
    (hA : A.hosts.panel.Rooted own)
    (h : (A.take refusal (buildDescription d true)).1 = .ok report) :
    (A.take refusal (buildDescription d true)).2.hosts.panel.nested =
      some (.node Tree.freshRoot.name Tree.freshRoot.x Tree.freshRoot.kind own
        (drawDescription (A.take refusal (buildDescription d true)).2.builder d)) := by
  rw [Session.take_of_ok (buildDescription_obedient d true) h]
  obtain ⟨hroot, hempty⟩ := hA.clear_container
  obtain ⟨_, u, ho, hu, ids, hgrown⟩ := arrange_ends (Session.ready_ahead hA d true) hroot hempty
  have hbuilder : u.builder = d.leaves.foldl Builder.admitted (A.ready d true) := hu.leads
  have hbuild : A.take none (buildDescription d true) = _ := A.take_teardown true (populate d true)
  have hpopulate := populate_outcome_ok (s := A.cleared true) ho
  rw [hbuild, hpopulate]
  dsimp only [State.session]
  rw [hbuilder]
  exact hgrown.nested_eq hA

end ControlSurface.Build
