import ControlSurface.Proofs.Nodes
import Mathlib.Logic.Relation

/- What stands below a node, and what a removal takes away. A node reaches itself, its children
   and so on downwards (`Reaches`); since children have larger ids, it reaches no smaller id.
   A removal walks the children lists while it empties them, so what it takes away is stated
   of the panel that it started from: exactly the nodes that the removed node reaches there,
   and all others stay as they are (`remove_without`). The induction is on the depth that is
   left, and it carries the nodes that are lost already (`remove_takes`). With each node these
   hold its children, from the id on at which the walk is (`ClosedFrom`). -/
namespace ControlSurface.Panel.Tree

/-- A node leads down to another: it is that node, or a child of it leads to that node. -/
abbrev Reaches (t : Tree) : Nat → Nat → Prop :=
  Relation.ReflTransGen fun id child => child ∈ t.children id

/-- A panel without the nodes of some ids, and the same elsewhere. -/
structure Without (t u : Tree) (lost : Nat → Prop) : Prop where
  gone : ∀ k, lost k → u.node? k = none
  kept : ∀ k, ¬lost k → u.node? k = t.node? k

variable {t u : Tree} {id k : Nat}

theorem node?_eq_none_of_le (h : t.slots.size ≤ k) : t.node? k = none := by
  cases hn : t.node? k with
  | none => rfl
  | some n => exact absurd (lt_size_of_node? hn) (Nat.not_lt.mpr h)

theorem children_eq {n : Node} (h : t.node? id = some n) : t.children id = n.children := by
  simp [children, h]

theorem children_eq_nil (h : t.node? id = none) : t.children id = [] := by
  simp [children, h]

/-- A node with a child is there. -/
theorem exists_node_of_mem_children (h : k ∈ t.children id) : ∃ n, t.node? id = some n := by
  cases hn : t.node? id with
  | none => simp [children_eq_nil hn] at h
  | some n => exact ⟨n, rfl⟩

theorem Ascends.lt_of_mem (h : t.Ascends) (hk : k ∈ t.children id) : id < k := by
  obtain ⟨n, hn⟩ := exists_node_of_mem_children hk
  rw [children_eq hn] at hk
  exact h id n hn k hk

/-- No node leads to one of a smaller id. -/
theorem Ascends.le_of_reaches (h : t.Ascends) (hk : t.Reaches id k) : id ≤ k := by
  induction hk with
  | refl => exact Nat.le_refl id
  | tail _ hchild ih =>
    have := h.lt_of_mem hchild
    omega

/-- A node leads to itself and to what its children lead to. -/
theorem reaches_iff : t.Reaches id k ↔ k = id ∨ ∃ child ∈ t.children id, t.Reaches child k := by
  rw [eq_comm]
  exact Relation.ReflTransGen.cases_head_iff

/-- A node that is not there leads nowhere else. -/
theorem eq_of_reaches_of_none (h : t.node? id = none) (hk : t.Reaches id k) : k = id := by
  rcases Relation.ReflTransGen.cases_head hk with rfl | ⟨child, hchild, -⟩
  · rfl
  · simp [children_eq_nil h] at hchild

/-- What a node reaches depends on the nodes from its id on. -/
theorem Reaches.congr {low : Nat} (ht : t.Ascends)
    (hsame : ∀ k, low ≤ k → u.children k = t.children k) (hid : low ≤ id)
    (h : t.Reaches id k) : u.Reaches id k := by
  induction h with
  | refl => exact .refl
  | @tail j child hreach hchild ih =>
    have hj := ht.le_of_reaches hreach
    exact ih.tail (by rw [hsame j (by omega)]; exact hchild)

/-- Of what is lost, each node from an id on has lost its children too. -/
def ClosedFrom (t : Tree) (low : Nat) (lost : Nat → Prop) : Prop :=
  ∀ k, low ≤ k → lost k → ∀ child ∈ t.children k, lost child

theorem ClosedFrom.mono {low high : Nat} {lost : Nat → Prop} (h : t.ClosedFrom low lost)
    (hle : low ≤ high) : t.ClosedFrom high lost := fun k hk => h k (by omega)

/-- What a lost node reaches is lost. -/
theorem ClosedFrom.of_reaches {lost : Nat → Prop} (h : t.ClosedFrom id lost) (ht : t.Ascends)
    (hid : lost id) (hk : t.Reaches id k) : lost k := by
  induction hk with
  | refl => exact hid
  | tail hreach hchild hj => exact h _ (ht.le_of_reaches hreach) hj _ hchild

/-- Where some nodes are lost already, a removal of a node takes away what the node reaches. -/
def Takes (t : Tree) (depth id : Nat) : Prop :=
  ∀ (u : Tree) (lost : Nat → Prop), t.ClosedFrom id lost → t.Without u lost →
    t.Without (u.remove depth id) fun k => lost k ∨ t.Reaches id k

/-- Children that are removed one after the other. -/
theorem foldl_remove_without {depth : Nat} (cs : List Nat) :
    ∀ (u : Tree) (lost : Nat → Prop), (∀ c ∈ cs, id < c ∧ t.Takes depth c) →
      t.ClosedFrom (id + 1) lost → t.Without u lost →
      t.Without (cs.foldl (Tree.remove depth) u) fun k => lost k ∨ ∃ c ∈ cs, t.Reaches c k := by
  induction cs with
  | nil =>
    intro u lost _ _ hu
    simpa using hu
  | cons c cs ih =>
    intro u lost hcs hclosed hu
    rw [List.forall_mem_cons] at hcs
    have hfirst := hcs.1.2 u lost (hclosed.mono hcs.1.1) hu
    -- What the first child reached is closed, so the others start as it did.
    have hafter : t.ClosedFrom (id + 1) fun k => lost k ∨ t.Reaches c k :=
      fun k hk hlost child hchild =>
        hlost.imp (fun h => hclosed k hk h child hchild) fun h => h.tail hchild
    have hrest := ih _ _ hcs.2 hafter hfirst
    simpa [or_assoc] using hrest

/-- A removal takes away what the removed node reaches. -/
theorem remove_takes (ht : t.Ascends) (depth : Nat) :
    ∀ id, t.slots.size ≤ id + depth → t.Takes depth id := by
  induction depth with
  | zero =>
    intro id hsize u lost _ hu
    have hnone : t.node? id = none := node?_eq_none_of_le hsize
    refine ⟨fun k hk => ?_, fun k hk => hu.kept k fun h => hk (.inl h)⟩
    by_cases hlost : lost k
    · exact hu.gone k hlost
    · obtain rfl := eq_of_reaches_of_none hnone (hk.resolve_left hlost)
      exact (hu.kept k hlost).trans hnone
  | succ depth ih =>
    intro id hsize u lost hclosed hu
    rw [remove]
    split
    · next hnone =>
      -- The node was not there, or it is lost and all that it reaches with it.
      refine ⟨fun k hk => ?_, fun k hk => hu.kept k fun h => hk (.inl h)⟩
      by_cases hid : lost id
      · exact hu.gone k (hk.elim (fun h => h) (hclosed.of_reaches ht hid))
      · rcases hk with hk | hk
        · exact hu.gone k hk
        · rw [eq_of_reaches_of_none ((hu.kept id hid).symm.trans hnone) hk]
          exact hnone
    · next n hn =>
      have hid : ¬lost id := fun h => by simp [hu.gone id h] at hn
      have hchildren : n.children = t.children id := by
        rw [children_eq ((hu.kept id hid).symm.trans hn)]
      have hset : t.Without (u.set id none) fun k => lost k ∨ k = id := by
        refine ⟨fun k hk => ?_, fun k hk => ?_⟩
        · rw [node?_set_none]
          split
          · rfl
          · next hne => exact hu.gone k (hk.resolve_right hne)
        · rw [node?_set_none, if_neg fun h => hk (.inr h)]
          exact hu.kept k fun h => hk (.inl h)
      have hafter : t.ClosedFrom (id + 1) fun k => lost k ∨ k = id := by
        intro k hk hlost child hchild
        exact .inl (hclosed k (by omega) (hlost.resolve_right (by omega)) child hchild)
      have hbelow : ∀ c ∈ n.children, id < c ∧ t.Takes depth c := by
        intro c hc
        have hlt : id < c := ht.lt_of_mem (hchildren ▸ hc)
        exact ⟨hlt, ih c (by omega)⟩
      have hrest := foldl_remove_without n.children _ _ hbelow hafter hset
      have hsame : ∀ k, ((lost k ∨ k = id) ∨ ∃ c ∈ n.children, t.Reaches c k) ↔
          lost k ∨ t.Reaches id k := by
        intro k
        rw [or_assoc, hchildren, ← reaches_iff]
      exact ⟨fun k hk => hrest.gone k ((hsame k).mpr hk),
        fun k hk => hrest.kept k fun h => hk ((hsame k).mp h)⟩

/-- A removal takes away exactly what the removed node reaches. -/
theorem remove_without (ht : t.Ascends) (id : Nat) :
    t.Without (t.remove t.slots.size id) (t.Reaches id) := by
  have hnothing : t.Without t fun _ => False := ⟨fun _ h => h.elim, fun _ _ => rfl⟩
  have h := remove_takes ht t.slots.size id (by omega) t _ (fun _ _ h => h.elim) hnothing
  simpa using h

/-- A node that is destroyed goes with all that it reaches and leaves its parent's children;
    everything else stays as it is. -/
theorem destroy_without {parent : Nat} {n p : Node} (ht : t.Ascends) (hu : t.destroy id = .ok u)
    (hn : t.node? id = some n) (hparent : n.parent = some parent)
    (hp : t.node? parent = some p) (hlt : parent < id) (k : Nat) :
    (t.Reaches id k → u.node? k = none) ∧
      (k = parent → u.node? k = some { p with children := p.children.filter (· != id) }) ∧
      (¬t.Reaches id k → k ≠ parent → u.node? k = t.node? k) := by
  obtain ⟨-, s, rfl, ⟨hnone, -⟩ | ⟨parent', p', hparent', hp', rfl⟩⟩ := destroy_ok hu
  · simp [hn, hparent] at hnone
  simp only [hn, Option.bind_some, hparent, Option.some.injEq] at hparent'
  subst hparent'
  obtain rfl : p = p' := Option.some.inj (hp.symm.trans hp')
  have hsize : (t.set parent (some { p with
      children := p.children.filter (· != id) })).slots.size = t.slots.size := size_set ..
  have hnodes := node?_set_of_live hp (some { p with children := p.children.filter (· != id) })
  generalize t.set parent (some { p with
    children := p.children.filter (· != id) }) = s at hnodes hsize
  have hs : s.Ascends := by
    intro k m hm child hchild
    rw [hnodes] at hm
    split at hm
    · next hk =>
      subst hk
      cases hm
      exact ht k p hp child (List.mem_filter.mp hchild).1
    · exact ht k m hm child hchild
  -- The parent is not below the node, so the node reaches in both panels the same.
  have hchildren : ∀ k, id ≤ k → s.children k = t.children k := by
    intro k hk
    simp only [children, hnodes, if_neg (show k ≠ parent by omega)]
  have hreach : ∀ k, s.Reaches id k ↔ t.Reaches id k := fun k =>
    ⟨Reaches.congr hs (fun j hj => (hchildren j hj).symm) (Nat.le_refl id),
      Reaches.congr ht hchildren (Nat.le_refl id)⟩
  have hremoved := remove_without hs id
  rw [hsize] at hremoved
  refine ⟨fun hk => ?_, fun hk => ?_, fun hk hne => ?_⟩
  · exact hremoved.gone k ((hreach k).mpr hk)
  · subst hk
    have hnot : ¬s.Reaches id k := fun h => by
      have := hs.le_of_reaches h
      omega
    rw [hremoved.kept k hnot, hnodes, if_pos rfl]
  · rw [hremoved.kept k fun h => hk ((hreach k).mp h), hnodes, if_neg hne]

end ControlSurface.Panel.Tree
