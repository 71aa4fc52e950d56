import ControlSurface.Proofs.Nodes
import ControlSurface.Proofs.Traversal

/- The root of the panel. It is there from the start and no change takes it away, since
   children have larger ids (`Rooted`); name, place and parent stay as they are. Its own bindings,
   which the clearing of the panel leaves, change only by a call that binds the root itself.
   No part of a build makes such a call (`Spares`), so a build leaves them alone also where
   it is cut short. -/
namespace ControlSurface

namespace Panel.Tree

/-- The root is there with bindings of its own, and children have larger ids. -/
structure Rooted (t : Tree) (own : List Binding) : Prop where
  alive : ∃ r, t.node? root = some r ∧ r.name = freshRoot.name ∧ r.parent = none ∧
    r.x = freshRoot.x ∧ r.bindings = own
  ascends : t.Ascends

theorem empty_rooted : empty.Rooted [] where
  alive := ⟨freshRoot, rfl, rfl, rfl, rfl, rfl⟩
  ascends id n h := by
    have hid : id < 1 := lt_size_of_node? h
    obtain rfl : id = 0 := by omega
    cases h
    exact List.forall_mem_nil _

namespace Rooted
variable {t u : Tree} {own : List Binding} {id : Nat}

theorem size_pos (h : t.Rooted own) : 0 < t.slots.size := by
  obtain ⟨r, hr, -⟩ := h.alive
  exact lt_size_of_node? hr

/-- A cleared panel is its root, of which children and layout are forgotten. -/
theorem clear_eq (h : t.Rooted own) :
    t.clear = ⟨#[some { freshRoot with bindings := own }]⟩ := by
  obtain ⟨⟨name, parent, children, x, kind, bindings⟩, hr, rfl, rfl, rfl, rfl⟩ := h.alive
  rw [clear, hr]
  rfl

/-- A change of one node that leaves name, parent and place as they are. -/
theorem of_set {n m : Node} {own' : List Binding} (h : t.Rooted own) (hn : t.node? id = some n)
    (hu : ∀ k, u.node? k = if k = id then some m else t.node? k) (hname : m.name = n.name)
    (hparent : m.parent = n.parent) (hx : m.x = n.x) (hchildren : ∀ child ∈ m.children, id < child)
    (hbound : m.bindings = n.bindings ∧ own' = own ∨ id = root ∧ m.bindings = own' ∨
      id ≠ root ∧ own' = own) : u.Rooted own' where
  alive := by
    obtain ⟨r, hr, h1, h2, h3, h4⟩ := h.alive
    by_cases hid : root = id
    · subst hid
      rw [hn] at hr
      cases hr
      refine ⟨m, by rw [hu, if_pos rfl], hname.trans h1, hparent.trans h2, hx.trans h3, ?_⟩
      rcases hbound with ⟨h5, rfl⟩ | ⟨-, h5⟩ | ⟨h5, -⟩
      · exact h5.trans h4
      · exact h5
      · exact absurd rfl h5
    · refine ⟨r, by rw [hu, if_neg hid, hr], h1, h2, h3, ?_⟩
      rcases hbound with ⟨-, rfl⟩ | ⟨h5, -⟩ | ⟨-, rfl⟩
      · exact h4
      · exact absurd h5.symm hid
      · exact h4
  ascends k l hl := by
    rw [hu] at hl
    split at hl
    · next hk =>
      cases hl
      exact hk ▸ hchildren
    · exact h.ascends k l hl

theorem clear (h : t.Rooted own) : t.clear.Rooted own := by
  rw [h.clear_eq]
  refine ⟨⟨_, rfl, rfl, rfl, rfl, rfl⟩, fun id n hn => ?_⟩
  have hid : id < 1 := lt_size_of_node? hn
  obtain rfl : id = 0 := by omega
  cases hn
  exact List.forall_mem_nil _

theorem create {parent : Nat} {spec : Spec} (h : t.Rooted own)
    (hu : t.create parent spec = .ok (id, u)) : u.Rooted own ∧ id ≠ root := by
  obtain ⟨p, hp, -, rfl, -, hnodes⟩ := create_ok hu
  have hne : root ≠ t.slots.size := Nat.ne_of_lt h.size_pos
  refine ⟨⟨?_, ?_⟩, hne.symm⟩
  · obtain ⟨r, hr, h1, h2, h3, h4⟩ := h.alive
    rw [hnodes, if_neg hne]
    split
    · next he =>
      -- The root is the parent, and gets a child.
      rw [← he, hr] at hp
      cases hp
      exact ⟨_, rfl, h1, h2, h3, h4⟩
    · exact ⟨r, hr, h1, h2, h3, h4⟩
  · intro k n hn
    rw [hnodes] at hn
    split at hn
    · cases hn
      exact List.forall_mem_nil _
    · split at hn
      · next hk =>
        -- The new node is the last of the panel, so its id is larger than its parent's.
        subst hk
        cases hn
        rw [List.forall_mem_append, List.forall_mem_singleton]
        exact ⟨h.ascends k p hp, lt_size_of_node? hp⟩
      · exact h.ascends k n hn

theorem bind {b : Binding} (h : t.Rooted own) (hu : t.bind id b = .ok u) :
    ∃ own', u.Rooted own' ∧ (id ≠ root → own' = own) := by
  obtain ⟨n, hn, -, hnodes⟩ := bind_ok hu
  have hchildren := h.ascends id n hn
  by_cases hid : id = root
  · exact ⟨_, h.of_set hn hnodes rfl rfl rfl hchildren (.inr (.inl ⟨hid, rfl⟩)),
      fun hne => absurd hid hne⟩
  · exact ⟨own, h.of_set hn hnodes rfl rfl rfl hchildren (.inr (.inr ⟨hid, rfl⟩)), fun _ => rfl⟩

theorem assign {key value : String} (h : t.Rooted own) (hu : t.assign id key value = .ok u) :
    u.Rooted own := by
  obtain ⟨n, template, properties, hn, -, -, hnodes⟩ := assign_ok hu
  exact h.of_set hn hnodes rfl rfl rfl (h.ascends id n hn) (.inl ⟨rfl, rfl⟩)

theorem remove (h : t.Rooted own) (depth : Nat) (hid : id ≠ root) :
    (t.remove depth id).Rooted own where
  alive := by
    have hpos : root < id := Nat.pos_of_ne_zero hid
    rw [remove_node?_of_lt h.ascends depth hpos]
    exact h.alive
  ascends := h.ascends.remove depth id

theorem destroy (h : t.Rooted own) (hu : t.destroy id = .ok u) : u.Rooted own := by
  obtain ⟨hid, s, rfl, ⟨-, rfl⟩ | ⟨parent, p, -, hp, rfl⟩⟩ := destroy_ok hu
  · exact h.remove _ hid
  · have hchildren : ∀ child ∈ p.children.filter (· != id), parent < child := by
      intro child hc
      exact h.ascends parent p hp child (List.mem_filter.mp hc).1
    refine Rooted.remove ?_ _ hid
    exact h.of_set hp (node?_set_of_live hp _) rfl rfl rfl hchildren (.inl ⟨rfl, rfl⟩)

end Rooted

end Panel.Tree

namespace Build

open Panel

/-- A call that does not bind the root itself. -/
def Call.sparesRoot : Call → Prop
  | .bind node _ => node ≠ Tree.root
  | .resetPage _ | .appendParameter _ _ | .clearPanel | .create _ _ | .assign _ _ _ | .destroy _ =>
    True

/-- A call keeps the panel rooted, and the root's bindings unless it binds the root. What it
    creates is not the root. -/
theorem Call.perform_rooted {c : Call} {h k : Hosts} {id : Nat} {own : List Binding}
    (hroot : h.panel.Rooted own) (hk : c.perform h = .ok (id, k)) :
    (∃ own', k.panel.Rooted own' ∧ (c.sparesRoot → own' = own)) ∧
      ∀ parent spec, c = .create parent spec → id ≠ Tree.root := by
  have hsame : ∀ {t : Tree}, t.Rooted own →
      ∃ own', t.Rooted own' ∧ (c.sparesRoot → own' = own) := fun ht => ⟨own, ht, fun _ => rfl⟩
  cases c with
  | resetPage page =>
    cases hk
    exact ⟨hsame hroot, fun _ _ hc => by cases hc⟩
  | appendParameter page p =>
    obtain ⟨ps, -, rfl⟩ := perform_ok hk
    exact ⟨hsame hroot, fun _ _ hc => by cases hc⟩
  | clearPanel =>
    cases hk
    exact ⟨hsame hroot.clear, fun _ _ hc => by cases hc⟩
  | create parent spec =>
    obtain ⟨u, hu, rfl⟩ := perform_ok hk
    exact ⟨hsame (hroot.create hu).1, fun _ _ _ => (hroot.create hu).2⟩
  | bind node b =>
    obtain ⟨u, hu, rfl⟩ := perform_ok hk
    exact ⟨hroot.bind hu, fun _ _ hc => by cases hc⟩
  | assign node key value =>
    obtain ⟨u, hu, rfl⟩ := perform_ok hk
    exact ⟨hsame (hroot.assign hu), fun _ _ hc => by cases hc⟩
  | destroy node =>
    obtain ⟨u, hu, rfl⟩ := perform_ok hk
    exact ⟨hsame (hroot.destroy hu), fun _ _ hc => by cases hc⟩

/-! ## Steps that spare the root -/

/-- A step that leaves a rooted panel rooted with the same bindings at the root, and whose
    answer, if it ends well, is as told. -/
structure Step.Spares {α : Type} (x : Step α) (Q : α → Prop) : Prop where
  panel : ∀ own s, s.hosts.panel.Rooted own → (x.outcome s).2.hosts.panel.Rooted own
  answer : ∀ own s, s.hosts.panel.Rooted own → ∀ a, (x.outcome s).1 = .ok a → Q a

/-- Nothing is told of the answer. -/
abbrev Step.SparesRoot {α : Type} (x : Step α) : Prop := x.Spares fun _ => True

namespace Step.Spares
variable {α β : Type} {Q : α → Prop} {R : β → Prop}

/-- A step that leaves the panel alone. -/
theorem of_panel {x : Step α}
    (hx : ∀ s, (x.outcome s).2.hosts.panel = s.hosts.panel ∧ ∀ a, (x.outcome s).1 = .ok a → Q a) :
    Spares x Q where
  panel _ s hs := (hx s).1.symm ▸ hs
  answer _ s _ := (hx s).2

theorem pure {a : α} (ha : Q a) : Spares (Pure.pure a : Step α) Q :=
  of_panel fun _ => ⟨rfl, fun _ h => by cases h; exact ha⟩

theorem throw (e : BuildError) : Spares (MonadExcept.throw e : Step α) Q :=
  of_panel fun _ => ⟨rfl, fun _ h => by cases h⟩

theorem builder : SparesRoot Step.builder := of_panel fun _ => ⟨rfl, fun _ _ => trivial⟩

theorem config : SparesRoot Step.config := of_panel fun _ => ⟨rfl, fun _ _ => trivial⟩

theorem look : SparesRoot Step.panel := of_panel fun _ => ⟨rfl, fun _ _ => trivial⟩

theorem get : SparesRoot (MonadState.get : Step State) :=
  of_panel fun _ => ⟨rfl, fun _ _ => trivial⟩

theorem update (f : Builder → Builder) : SparesRoot (Step.update f) :=
  of_panel fun _ => ⟨rfl, fun _ _ => trivial⟩

theorem reroute (f : RoutingTable → RoutingTable) : SparesRoot (Step.reroute f) :=
  of_panel fun _ => ⟨rfl, fun _ _ => trivial⟩

theorem bind {x : Step α} {f : α → Step β} (hx : Spares x Q) (hf : ∀ a, Q a → Spares (f a) R) :
    Spares (x >>= f) R := by
  constructor
  · intro own s hs
    have hpanel := hx.panel own s hs
    have hanswer := hx.answer own s hs
    rcases ho : x.outcome s with ⟨e | a, t⟩ <;> rw [ho] at hpanel hanswer
    · rw [outcome_bind_error ho]
      exact hpanel
    · rw [outcome_bind_ok ho]
      exact (hf a (hanswer a rfl)).panel own t hpanel
  · intro own s hs b hb
    obtain ⟨a, t, ho, -⟩ := ok_of_bind_ok (Prod.ext hb rfl)
    have hpanel := hx.panel own s hs
    have hanswer := hx.answer own s hs
    rw [ho] at hpanel hanswer
    rw [outcome_bind_ok ho] at hb
    exact (hf a (hanswer a rfl)).answer own t hpanel b hb

/-- What is told of an answer may be left out. -/
theorem forget {x : Step α} (hx : Spares x Q) : SparesRoot x :=
  ⟨hx.panel, fun _ _ _ _ _ => trivial⟩

/-- A first step of whose answer nothing is told. -/
theorem andThen {x : Step α} {f : α → Step β} (hx : SparesRoot x) (hf : ∀ a, Spares (f a) R) :
    Spares (x >>= f) R := bind hx fun a _ => hf a

theorem call {c : Call} (hc : c.sparesRoot) :
    Spares (Step.call c) fun id => ∀ parent spec, c = .create parent spec → id ≠ Tree.root := by
  constructor
  · intro own s hs
    obtain ⟨e, he⟩ | ⟨id, k, hk, ho⟩ := outcome_call_cases c s
    · rw [he]
      exact hs
    · rw [ho]
      obtain ⟨⟨own', hown, hspares⟩, -⟩ := Call.perform_rooted hs hk
      exact hspares hc ▸ hown
  · intro own s hs a ha
    obtain ⟨e, he⟩ | ⟨id, k, hk, ho⟩ := outcome_call_cases c s
    · rw [he] at ha
      cases ha
    · rw [ho] at ha
      cases ha
      exact (Call.perform_rooted hs hk).2

/-- What is created is not the root. -/
theorem create (parent : Nat) (spec : Spec) :
    Spares (Step.call (.create parent spec)) (· ≠ Tree.root) := by
  have hcall := call (c := .create parent spec) trivial
  exact ⟨hcall.panel, fun own s hs id hid => hcall.answer own s hs id hid parent spec rfl⟩

theorem perform {c : Call} (hc : c.sparesRoot) : SparesRoot (Step.perform c) :=
  bind (call hc) fun _ _ => pure trivial

end Step.Spares

open Step (Spares SparesRoot)

theorem spares_basics : Step.Basics fun x => SparesRoot x where
  pure _ := .pure trivial
  throw := .throw
  bind := .andThen
  builder := .builder
  update f _ := .update f
  reroute := .reroute
  append page p := (Spares.call (c := .appendParameter page p) trivial).forget

/-- All that a build binds it has created, so the root is not bound. -/
theorem spares_rules : Step.Rules (· ≠ Tree.root) fun x _ Q => Spares x Q where
  pure := .pure
  bind := .bind
  config := .config
  panel := .look
  create := .create
  alter c hc := by
    have hspares : c.sparesRoot := by
      cases c <;> first | exact hc | exact trivial
    exact (Spares.call hspares).forget
  input := spares_basics.admitInput
  output := spares_basics.admitOutput

theorem arrange_spares (d : Description) (usePanel : Bool) : SparesRoot (arrange d usePanel) :=
  arrange_rule spares_rules d usePanel

theorem teardown_spares (usePanel : Bool) : SparesRoot (teardown usePanel) := by
  refine .andThen (.update _) fun _ => .andThen .config fun _ => ?_
  refine .andThen (.perform trivial) fun _ => .andThen .get fun _ => ?_
  refine .andThen (.update _) fun _ => ?_
  exact spares_basics.when (.perform trivial) (.reroute _)

theorem buildDescription_spares (d : Description) (usePanel : Bool) :
    SparesRoot (buildDescription d usePanel) :=
  .andThen (teardown_spares usePanel) fun _ => spares_basics.populate (arrange_spares d usePanel)

theorem buildText_spares (text : String) (usePanel : Bool) :
    SparesRoot (buildText text usePanel) :=
  .andThen (teardown_spares usePanel) fun _ =>
    spares_basics.construct (fun d => arrange_spares d usePanel) text

end Build

end ControlSurface
