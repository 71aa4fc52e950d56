import ControlSurface.Proofs.Descent
import Mathlib.Data.List.Nodup

/- The table of nodes is a tree (`WellFormed`). A parent lists its children, a child points to
   its parent, and the table says which nodes are there; the three agree in every panel that
   changes make of an empty one (`after_wellFormed`), whatever ids the changes are asked for:
   those of nodes that are gone, those from before the panel was cleared, and those that were
   never given out. Each kind of change keeps the tree, and one that fails leaves the panel to
   the next as it was. -/
namespace ControlSurface.Panel

/-- Nodes of one name in one place, both containers or both widgets. -/
structure Node.Alike (n m : Node) : Prop where
  name : m.name = n.name
  parent : m.parent = n.parent
  isContainer : m.kind.isContainer = n.kind.isContainer

theorem Node.Alike.refl (n : Node) : n.Alike n := ⟨rfl, rfl, rfl⟩

/-- A node without a child. -/
def Node.forget (n : Node) (child : Nat) : Node :=
  { n with children := n.children.filter (· != child) }

theorem Node.forget_of_not_mem {n : Node} {child : Nat} (h : child ∉ n.children) :
    n.forget child = n := by
  have hall : n.children.filter (· != child) = n.children := by
    rw [List.filter_eq_self]
    intro c hc
    exact bne_iff_ne.mpr fun he => h (he ▸ hc)
  rw [forget, hall]

/-- Of two bindings with one target the older one goes. -/
theorem setBinding_targets {bs : List Binding} (h : (bs.map (·.target)).Nodup) (b : Binding) :
    ((setBinding bs b).map (·.target)).Nodup := by
  rw [setBinding, List.map_append, List.nodup_append]
  refine ⟨h.sublist (List.filter_sublist.map _), by simp, fun x hx y hy => ?_⟩
  obtain ⟨c, hc, rfl⟩ := List.mem_map.mp hx
  simp only [List.map_cons, List.map_nil, List.mem_singleton] at hy
  simpa [hy] using (List.mem_filter.mp hc).2

namespace Tree

/-- What makes a table of nodes a tree. The root is a container without a parent. Any other
    node has a container as parent, which lists it. What is listed is there, points back and
    has a larger id; it is listed once. A widget has no children. Siblings differ in their
    names, and bindings of one node in their targets. -/
structure WellFormed (t : Tree) : Prop where
  top : ∃ r, t.node? root = some r ∧ r.kind.isContainer = true ∧ r.parent = none
  parent : ∀ id n, t.node? id = some n → id ≠ root →
    ∃ p q, n.parent = some p ∧ t.node? p = some q ∧ q.kind.isContainer = true ∧ id ∈ q.children
  child : ∀ id, ∀ c ∈ t.children id, id < c ∧ ∃ n, t.node? c = some n ∧ n.parent = some id
  once : ∀ id, (t.children id).Nodup
  leaf : ∀ id n, t.node? id = some n → n.kind.isContainer = false → n.children = []
  names : ∀ id, (t.childNames id).Nodup
  targets : ∀ id n, t.node? id = some n → (n.bindings.map (·.target)).Nodup

variable {t u : Tree} {id k : Nat}

namespace WellFormed

theorem ascends (h : t.WellFormed) : t.Ascends := by
  intro id n hn c hc
  rw [← children_eq hn] at hc
  exact (h.child id c hc).1

/-- A node that is listed has the one that lists it as parent, and no other lists it. -/
theorem eq_of_mem_children (h : t.WellFormed) {p q c : Nat} (hp : c ∈ t.children p)
    (hq : c ∈ t.children q) : p = q := by
  obtain ⟨-, n, hn, hparent⟩ := h.child p c hp
  obtain ⟨-, n', hn', hparent'⟩ := h.child q c hq
  rw [hn] at hn'
  cases hn'
  exact Option.some.inj (hparent.symm.trans hparent')

/-- A node other than the root has a parent that is a container, and is listed once, by that
    parent alone. -/
theorem count_children (h : t.WellFormed) {n : Node} (hn : t.node? id = some n)
    (hid : id ≠ root) : ∃ p q, n.parent = some p ∧ t.node? p = some q ∧
      q.kind.isContainer = true ∧ ∀ k, (t.children k).count id = if k = p then 1 else 0 := by
  obtain ⟨p, q, hparent, hq, hcontainer, hmem⟩ := h.parent id n hn hid
  refine ⟨p, q, hparent, hq, hcontainer, fun k => ?_⟩
  rw [← children_eq hq] at hmem
  split
  · next hk =>
    subst hk
    exact List.count_eq_one_of_mem (h.once k) hmem
  · next hk =>
    exact List.count_eq_zero.mpr fun hother => hk (h.eq_of_mem_children hother hmem)

/-! ## A root alone -/

theorem single {r : Node} (hkind : r.kind.isContainer = true) (hparent : r.parent = none)
    (hchildren : r.children = []) (htargets : (r.bindings.map (·.target)).Nodup) :
    (⟨#[some r]⟩ : Tree).WellFormed := by
  have honly : ∀ id n, (⟨#[some r]⟩ : Tree).node? id = some n → id = root ∧ n = r := by
    intro id n hn
    have hid : id < 1 := lt_size_of_node? hn
    obtain rfl : id = 0 := by omega
    cases hn
    exact ⟨rfl, rfl⟩
  have hnone : ∀ id, (⟨#[some r]⟩ : Tree).children id = [] := by
    intro id
    cases hn : (⟨#[some r]⟩ : Tree).node? id with
    | none => exact children_eq_nil hn
    | some n => rw [children_eq hn, (honly id n hn).2, hchildren]
  constructor
  · exact ⟨r, rfl, hkind, hparent⟩
  · intro id n hn hid
    exact absurd (honly id n hn).1 hid
  · simp [hnone]
  · simp [hnone]
  · intro id n hn _
    rw [(honly id n hn).2, hchildren]
  · simp [childNames, hnone]
  · intro id n hn
    rw [(honly id n hn).2]
    exact htargets

theorem of_empty : empty.WellFormed := single rfl rfl rfl List.nodup_nil

theorem clear (h : t.WellFormed) : t.clear.WellFormed := by
  obtain ⟨r, hr, -, hparent⟩ := h.top
  rw [Tree.clear, hr]
  exact single rfl hparent rfl (h.targets root r hr)

/-! ## Bindings and properties -/

/-- A change of one node that leaves its place in the tree and its children as they are. -/
theorem of_set {n m : Node} (h : t.WellFormed) (hn : t.node? id = some n)
    (hu : ∀ k, u.node? k = if k = id then some m else t.node? k) (halike : n.Alike m)
    (hchildren : m.children = n.children) (htargets : (m.bindings.map (·.target)).Nodup) :
    u.WellFormed := by
  have hafter : ∀ {k l}, t.node? k = some l → ∃ l', u.node? k = some l' ∧ l.Alike l' ∧
      l'.children = l.children := by
    intro k l hl
    rw [hu]
    split
    · next hk =>
      subst hk
      rw [hn] at hl
      cases hl
      exact ⟨m, rfl, halike, hchildren⟩
    · exact ⟨l, hl, .refl l, rfl⟩
  have hbefore : ∀ {k l'}, u.node? k = some l' → ∃ l, t.node? k = some l ∧ l.Alike l' ∧
      l'.children = l.children ∧ (l'.bindings.map (·.target)).Nodup := by
    intro k l' hl
    rw [hu] at hl
    split at hl
    · next hk =>
      subst hk
      cases hl
      exact ⟨n, hn, halike, hchildren, htargets⟩
    · exact ⟨l', hl, .refl l', rfl, h.targets k l' hl⟩
  have hlists : ∀ k, u.children k = t.children k := by
    intro k
    by_cases hk : k = id
    · subst hk
      rw [children_eq hn, children_eq ((hu k).trans (if_pos rfl)), hchildren]
    · rw [children, children, hu, if_neg hk]
  constructor
  · obtain ⟨r, hr, hcontainer, htop⟩ := h.top
    obtain ⟨r', hr', hlike, -⟩ := hafter hr
    exact ⟨r', hr', hlike.isContainer.trans hcontainer, hlike.parent.trans htop⟩
  · intro k l' hl' hk
    obtain ⟨l, hl, hlike, -⟩ := hbefore hl'
    obtain ⟨p, q, hp, hq, hcontainer, hmem⟩ := h.parent k l hl hk
    obtain ⟨q', hq', hlike', hlist⟩ := hafter hq
    exact ⟨p, q', hlike.parent.trans hp, hq', hlike'.isContainer.trans hcontainer, hlist ▸ hmem⟩
  · intro k c hc
    rw [hlists] at hc
    obtain ⟨hlt, l, hl, hback⟩ := h.child k c hc
    obtain ⟨l', hl', hlike, -⟩ := hafter hl
    exact ⟨hlt, l', hl', hlike.parent.trans hback⟩
  · intro k
    rw [hlists]
    exact h.once k
  · intro k l' hl' hwidget
    obtain ⟨l, hl, hlike, hlist, -⟩ := hbefore hl'
    exact hlist.trans (h.leaf k l hl (hlike.isContainer.symm.trans hwidget))
  · intro k
    have hnames : ∀ c ∈ t.children k, (u.node? c).map (·.name) = (t.node? c).map (·.name) := by
      intro c hc
      obtain ⟨-, l, hl, -⟩ := h.child k c hc
      obtain ⟨l', hl', hlike, -⟩ := hafter hl
      rw [hl, hl', Option.map_some, Option.map_some, hlike.name]
    rw [childNames, hlists, List.filterMap_congr hnames]
    exact h.names k
  · intro k l' hl'
    obtain ⟨l, -, -, -, htargets'⟩ := hbefore hl'
    exact htargets'

theorem bind {b : Binding} (h : t.WellFormed) (hu : t.bind id b = .ok u) : u.WellFormed := by
  obtain ⟨n, hn, -, hnodes⟩ := bind_ok hu
  exact h.of_set hn hnodes ⟨rfl, rfl, rfl⟩ rfl (setBinding_targets (h.targets id n hn) b)

theorem assign {key value : String} (h : t.WellFormed) (hu : t.assign id key value = .ok u) :
    u.WellFormed := by
  obtain ⟨n, template, properties, hn, hkind, -, hnodes⟩ := assign_ok hu
  exact h.of_set hn hnodes ⟨rfl, rfl, by rw [hkind]; rfl⟩ rfl (h.targets id n hn)

end WellFormed

/-! ## A new node -/

section
variable {parent : Nat} {spec : Spec}

theorem create_new (hu : t.create parent spec = .ok (id, u)) :
    id = t.slots.size ∧ t.node? id = none ∧
      u.node? id = some (created (t.childNames parent) parent spec) := by
  obtain ⟨p, hp, -, rfl, -, hnodes⟩ := create_ok hu
  exact ⟨rfl, node?_eq_none_of_le (Nat.le_refl _), (hnodes _).trans (if_pos rfl)⟩

theorem create_children (hu : t.create parent spec = .ok (id, u)) (k : Nat) :
    u.children k = if k = parent then t.children k ++ [id] else t.children k := by
  obtain ⟨hid, hnone, hnew⟩ := create_new hu
  obtain ⟨p, hp, -, rfl, -, hnodes⟩ := create_ok hu
  by_cases hk : k = t.slots.size
  · subst hk
    have hparent : t.slots.size ≠ parent := by
      rintro rfl
      rw [hnone] at hp
      cases hp
    rw [if_neg hparent, children_eq hnew, children_eq_nil hnone]
    rfl
  · have hold := (hnodes k).trans (if_neg hk)
    split
    · next hk' =>
      subst hk'
      rw [children_eq hp, children_eq (hold.trans (if_pos rfl))]
    · next hk' => rw [children, children, hold, if_neg hk']

/-- A node that was there is as it was, but for the children of the parent. -/
theorem create_after {l : Node} (hu : t.create parent spec = .ok (id, u))
    (hl : t.node? k = some l) :
    ∃ l', u.node? k = some l' ∧ l.Alike l' ∧ ∀ c ∈ l.children, c ∈ l'.children := by
  obtain ⟨p, hp, -, rfl, -, hnodes⟩ := create_ok hu
  rw [hnodes, if_neg (Nat.ne_of_lt (lt_size_of_node? hl))]
  split
  · next hk =>
    subst hk
    rw [hp] at hl
    cases hl
    exact ⟨_, rfl, ⟨rfl, rfl, rfl⟩, fun c hc => List.mem_append_left _ hc⟩
  · exact ⟨l, hl, .refl l, fun c hc => hc⟩

/-- A node other than the new one was there. -/
theorem create_before {l' : Node} (hu : t.create parent spec = .ok (id, u))
    (hl : u.node? k = some l') (hk : k ≠ id) :
    ∃ l, t.node? k = some l ∧ l.Alike l' ∧ l'.bindings = l.bindings := by
  obtain ⟨p, hp, -, rfl, -, hnodes⟩ := create_ok hu
  rw [hnodes, if_neg hk] at hl
  split at hl
  · next hk' =>
    subst hk'
    cases hl
    exact ⟨p, hp, ⟨rfl, rfl, rfl⟩, rfl⟩
  · exact ⟨l', hl, .refl l', rfl⟩

end

namespace WellFormed

/-- A new node is in its place at once: its id is larger than any, its name is its own among
    its siblings, and it stands last among them. -/
theorem create {parent : Nat} {spec : Spec} (h : t.WellFormed)
    (hu : t.create parent spec = .ok (id, u)) : u.WellFormed := by
  obtain ⟨hid, hnone, hnew⟩ := create_new hu
  obtain ⟨p, hp, hcontainer, -⟩ := create_ok hu
  have hnot : ∀ {k c}, c ∈ t.children k → c ≠ id := by
    rintro k c hc rfl
    obtain ⟨-, n, hn, -⟩ := h.child k c hc
    rw [hnone] at hn
    cases hn
  have hnames : ∀ k, ∀ c ∈ t.children k, (u.node? c).map (·.name) = (t.node? c).map (·.name) := by
    intro k c hc
    obtain ⟨-, l, hl, -⟩ := h.child k c hc
    obtain ⟨l', hl', hlike, -⟩ := create_after hu hl
    rw [hl, hl', Option.map_some, Option.map_some, hlike.name]
  constructor
  · obtain ⟨r, hr, hroot, htop⟩ := h.top
    obtain ⟨r', hr', hlike, -⟩ := create_after hu hr
    exact ⟨r', hr', hlike.isContainer.trans hroot, hlike.parent.trans htop⟩
  · intro k l' hl' hk
    by_cases hlast : k = id
    · subst hlast
      rw [hnew] at hl'
      cases hl'
      obtain ⟨p', hp', hlike, -⟩ := create_after hu hp
      refine ⟨parent, p', rfl, hp', hlike.isContainer.trans hcontainer, ?_⟩
      rw [← children_eq hp', create_children hu, if_pos rfl]
      exact List.mem_append_right _ (List.mem_singleton_self _)
    · obtain ⟨l, hl, hlike, -⟩ := create_before hu hl' hlast
      obtain ⟨q, m, hq, hm, hmc, hmem⟩ := h.parent k l hl hk
      obtain ⟨m', hm', hlike', hsub⟩ := create_after hu hm
      exact ⟨q, m', hlike.parent.trans hq, hm', hlike'.isContainer.trans hmc, hsub k hmem⟩
  · intro k c hc
    have hkept : c ∈ t.children k → k < c ∧ ∃ n, u.node? c = some n ∧ n.parent = some k := by
      intro hold
      obtain ⟨hlt, l, hl, hback⟩ := h.child k c hold
      obtain ⟨l', hl', hlike, -⟩ := create_after hu hl
      exact ⟨hlt, l', hl', hlike.parent.trans hback⟩
    rw [create_children hu] at hc
    split at hc
    · next hk =>
      subst hk
      rcases List.mem_append.mp hc with hc | hc
      · exact hkept hc
      · rw [List.mem_singleton.mp hc]
        exact ⟨hid ▸ lt_size_of_node? hp, _, hnew, rfl⟩
    · exact hkept hc
  · intro k
    rw [create_children hu]
    split
    · refine List.nodup_append.mpr ⟨h.once k, List.nodup_singleton _, fun a ha b hb => ?_⟩
      rw [List.mem_singleton.mp hb]
      exact hnot ha
    · exact h.once k
  · intro k l' hl' hwidget
    by_cases hlast : k = id
    · subst hlast
      rw [hnew] at hl'
      cases hl'
      rfl
    · obtain ⟨l, hl, hlike, -⟩ := create_before hu hl' hlast
      have hk : k ≠ parent := by
        rintro rfl
        rw [hp] at hl
        cases hl
        rw [hlike.isContainer, hcontainer] at hwidget
        cases hwidget
      rw [← children_eq hl', create_children hu, if_neg hk, children_eq hl]
      exact h.leaf k l hl (hlike.isContainer.symm.trans hwidget)
  · intro k
    rw [childNames, create_children hu]
    split
    · next hk =>
      subst hk
      rw [List.filterMap_append, List.filterMap_congr (hnames k), List.filterMap_cons, hnew]
      refine List.nodup_append.mpr ⟨h.names k, List.nodup_singleton _, ?_⟩
      rintro a ha b hb rfl
      rw [List.mem_singleton.mp hb] at ha
      exact Naming.fresh_not_mem _ _ ha
    · rw [List.filterMap_congr (hnames k)]
      exact h.names k
  · intro k l' hl'
    by_cases hlast : k = id
    · subst hlast
      rw [hnew] at hl'
      cases hl'
      exact List.nodup_nil
    · obtain ⟨l, hl, -, hbindings⟩ := create_before hu hl' hlast
      rw [hbindings]
      exact h.targets k l hl

/-! ## A node that is taken away -/

/-- A node below another is that other itself, or its parent is below it too. -/
theorem eq_or_reaches_parent (h : t.WellFormed) {p c : Nat} (hc : c ∈ t.children p)
    (hreach : t.Reaches id c) : c = id ∨ t.Reaches id p := by
  rcases Relation.ReflTransGen.cases_tail hreach with he | ⟨q, hq, hmem⟩
  · exact .inl he
  · exact .inr (h.eq_of_mem_children hmem hc ▸ hq)

/-- What is below a node that is destroyed goes with it; any other node stays, and no longer
    lists the node as a child. -/
theorem destroy_node? (h : t.WellFormed) (hu : t.destroy id = .ok u) :
    ∀ k, (t.Reaches id k → u.node? k = none) ∧
      (¬t.Reaches id k → u.node? k = (t.node? k).map (·.forget id)) := by
  have hroot : id ≠ root := (destroy_ok hu).1
  -- Only the parent lists the node.
  have hother : ∀ k, id ∉ t.children k → (t.node? k).map (·.forget id) = t.node? k := by
    intro k hk
    cases hn : t.node? k with
    | none => rfl
    | some n =>
      rw [children_eq hn] at hk
      rw [Option.map_some, Node.forget_of_not_mem hk]
  intro k
  cases hn : t.node? id with
  | none =>
    have hlisted : ∀ k, id ∉ t.children k := by
      intro k hmem
      obtain ⟨-, n, hn', -⟩ := h.child k id hmem
      rw [hn] at hn'
      cases hn'
    obtain ⟨-, s, rfl, ⟨-, rfl⟩ | ⟨_, _, hparent, -⟩⟩ := destroy_ok hu
    · have hremoved := remove_without h.ascends id
      exact ⟨hremoved.gone k, fun hk => (hremoved.kept k hk).trans (hother k (hlisted k)).symm⟩
    · simp [hn] at hparent
  | some n =>
    obtain ⟨p, q, hparent, hq, -, hmem⟩ := h.parent id n hn hroot
    rw [← children_eq hq] at hmem
    obtain ⟨hgone, hlist, hkept⟩ :=
      destroy_without h.ascends hu hn hparent hq (h.child p id hmem).1 k
    refine ⟨hgone, fun hk => ?_⟩
    by_cases hkp : k = p
    · rw [hlist hkp, hkp, hq]
      rfl
    · rw [hkept hk hkp, hother k fun hk' => hkp (h.eq_of_mem_children hk' hmem)]

theorem destroy (h : t.WellFormed) (hu : t.destroy id = .ok u) : u.WellFormed := by
  have hnodes := h.destroy_node? hu
  have hafter : ∀ {k l}, t.node? k = some l → ¬t.Reaches id k →
      u.node? k = some (l.forget id) := by
    intro k l hl hk
    rw [(hnodes k).2 hk, hl, Option.map_some]
  have hbefore : ∀ {k l'}, u.node? k = some l' →
      ¬t.Reaches id k ∧ ∃ l, t.node? k = some l ∧ l' = l.forget id := by
    intro k l' hl'
    have hk : ¬t.Reaches id k := fun hk => by rw [(hnodes k).1 hk] at hl'; cases hl'
    rw [(hnodes k).2 hk, Option.map_eq_some_iff] at hl'
    obtain ⟨l, hl, rfl⟩ := hl'
    exact ⟨hk, l, hl, rfl⟩
  -- A node that stays lists of its children the others, and these stay too.
  have hlists : ∀ {k c}, c ∈ u.children k → c ∈ t.children k ∧ ¬t.Reaches id c := by
    intro k c hc
    obtain ⟨l', hl'⟩ := exists_node_of_mem_children hc
    obtain ⟨hk, l, hl, rfl⟩ := hbefore hl'
    rw [children_eq hl'] at hc
    obtain ⟨hmem, hne⟩ := List.mem_filter.mp hc
    rw [← children_eq hl] at hmem
    refine ⟨hmem, fun hreach => ?_⟩
    exact (h.eq_or_reaches_parent hmem hreach).elim (bne_iff_ne.mp hne) hk
  have hsublist : ∀ k, List.Sublist (u.children k) (t.children k) := by
    intro k
    cases hl' : u.node? k with
    | none => rw [children_eq_nil hl']; exact List.nil_sublist _
    | some l' =>
      obtain ⟨-, l, hl, rfl⟩ := hbefore hl'
      rw [children_eq hl', children_eq hl]
      exact List.filter_sublist
  constructor
  · obtain ⟨r, hr, hcontainer, htop⟩ := h.top
    have hstays : ¬t.Reaches id root := by
      intro hreach
      have hle := h.ascends.le_of_reaches hreach
      exact (destroy_ok hu).1 (Nat.le_zero.mp hle)
    exact ⟨r.forget id, hafter hr hstays, hcontainer, htop⟩
  · intro k l' hl' hroot
    obtain ⟨hk, l, hl, rfl⟩ := hbefore hl'
    obtain ⟨p, q, hparent, hq, hcontainer, hmem⟩ := h.parent k l hl hroot
    have hstays : ¬t.Reaches id p := fun hp => hk (hp.tail (children_eq hq ▸ hmem))
    have hne : k ≠ id := fun he => hk (he ▸ .refl)
    exact ⟨p, q.forget id, hparent, hafter hq hstays, hcontainer,
      List.mem_filter.mpr ⟨hmem, bne_iff_ne.mpr hne⟩⟩
  · intro k c hc
    obtain ⟨hmem, hstays⟩ := hlists hc
    obtain ⟨hlt, n, hn, hback⟩ := h.child k c hmem
    exact ⟨hlt, n.forget id, hafter hn hstays, hback⟩
  · intro k
    exact (h.once k).sublist (hsublist k)
  · intro k l' hl' hwidget
    obtain ⟨-, l, hl, rfl⟩ := hbefore hl'
    rw [Node.forget, h.leaf k l hl hwidget]
    rfl
  · intro k
    have hnames : u.childNames k =
        (u.children k).filterMap fun c => (t.node? c).map (·.name) := by
      refine List.filterMap_congr fun c hc => ?_
      obtain ⟨hmem, hstays⟩ := hlists hc
      obtain ⟨-, n, hn, -⟩ := h.child k c hmem
      rw [hafter hn hstays, hn]
      rfl
    rw [hnames]
    exact (h.names k).sublist ((hsublist k).filterMap _)
  · intro k l' hl'
    obtain ⟨-, l, hl, rfl⟩ := hbefore hl'
    exact h.targets k l hl

end WellFormed

end Tree

/-! ## Panels that came about by changes -/

/-- A change of the panel that an operator can be asked for. -/
inductive Change where
  | create (parent : Nat) (spec : Spec)
  | bind (node : Nat) (b : Binding)
  | assign (node : Nat) (key value : String)
  | destroy (node : Nat)
  | clear

/-- Carries a change out. The answer is the id of the node that was created; other changes
    answer with the root. -/
def Change.perform (t : Tree) : Change → Except HostFault (Nat × Tree)
  | create parent spec => t.create parent spec
  | bind node b => (t.bind node b).map fun u => (Tree.root, u)
  | assign node key value => (t.assign node key value).map fun u => (Tree.root, u)
  | destroy node => (t.destroy node).map fun u => (Tree.root, u)
  | clear => .ok (Tree.root, t.clear)

/-- The panel after one change more. A change that fails leaves it as it was. -/
def Change.carry (t : Tree) (c : Change) : Tree := ((c.perform t).toOption.map (·.2)).getD t

/-- What changes make of an empty panel. -/
def Tree.after (changes : List Change) : Tree := changes.foldl Change.carry Tree.empty

/-- What each kind of change keeps, a change keeps that may also fail. -/
theorem Change.carry_induct {P : Tree → Prop}
    (hcreate : ∀ {t u id parent spec}, P t → t.create parent spec = .ok (id, u) → P u)
    (hbind : ∀ {t u id b}, P t → t.bind id b = .ok u → P u)
    (hassign : ∀ {t u id key value}, P t → t.assign id key value = .ok u → P u)
    (hdestroy : ∀ {t u id}, P t → t.destroy id = .ok u → P u)
    (hclear : ∀ {t}, P t → P t.clear) {t : Tree} (ht : P t) (c : Change) : P (c.carry t) := by
  have hmap : ∀ {x : Except HostFault Tree}, (∀ {u}, x = .ok u → P u) →
      P (((x.map fun u => (Tree.root, u)).toOption.map (·.2)).getD t) := by
    intro x hx
    cases x with
    | error fault => exact ht
    | ok u => exact hx rfl
  cases c with
  | create parent spec =>
    rw [carry, perform]
    cases hc : t.create parent spec with
    | error fault => exact ht
    | ok made => exact hcreate ht hc
  | bind node b => exact hmap (hbind ht)
  | assign node key value => exact hmap (hassign ht)
  | destroy node => exact hmap (hdestroy ht)
  | clear => exact hclear ht

namespace Tree

/-- What each kind of change keeps holds after all changes if it holds of an empty panel. -/
theorem after_induct {P : Tree → Prop} (hempty : P empty)
    (hcreate : ∀ {t u id parent spec}, P t → t.create parent spec = .ok (id, u) → P u)
    (hbind : ∀ {t u id b}, P t → t.bind id b = .ok u → P u)
    (hassign : ∀ {t u id key value}, P t → t.assign id key value = .ok u → P u)
    (hdestroy : ∀ {t u id}, P t → t.destroy id = .ok u → P u)
    (hclear : ∀ {t}, P t → P t.clear) (changes : List Change) : P (after changes) := by
  have hrun : ∀ t : Tree, P t → P (changes.foldl Change.carry t) := by
    induction changes with
    | nil => intro t ht; exact ht
    | cons c changes ih =>
      intro t ht
      exact ih _ (Change.carry_induct hcreate hbind hassign hdestroy hclear ht c)
  exact hrun empty hempty

/-- Changes make a tree of an empty panel, whatever they are asked for. -/
theorem after_wellFormed (changes : List Change) : (after changes).WellFormed :=
  after_induct .of_empty .create .bind .assign .destroy .clear changes

end Tree

end ControlSurface.Panel
