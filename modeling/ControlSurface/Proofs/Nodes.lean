import ControlSurface.Panel.Tree

/- What each change of the panel does to each node. A change that succeeds has one lemma: the
   nodes it needs were there, and every node after it is given by the nodes before. A removal
   takes single nodes away one after the other, from the removed node on downwards
   (`remove_induct`). Children have larger ids than their parents (`Ascends`), so nodes of
   smaller ids stay. -/
namespace ControlSurface.Panel.Tree
variable {t u : Tree} {id parent : Nat}

@[simp] theorem size_set (t : Tree) (id : Nat) (n : Option Node) :
    (t.set id n).slots.size = t.slots.size := Array.size_setIfInBounds

/-- A node behind all others. -/
theorem node?_push (t : Tree) (n : Option Node) (k : Nat) :
    (⟨t.slots.push n⟩ : Tree).node? k = if k = t.slots.size then n else t.node? k := by
  simp only [node?, Array.getElem?_push]
  split
  · rfl
  · rfl

/-- A node that is there is replaced. -/
theorem node?_set_of_live {n : Node} (h : t.node? id = some n) (m : Option Node) (k : Nat) :
    (t.set id m).node? k = if k = id then m else t.node? k := by
  rw [node?_set, if_pos (lt_size_of_node? h)]
  by_cases hk : k = id
  · rw [if_pos hk.symm, if_pos hk]
  · rw [if_neg fun h => hk h.symm, if_neg hk]

/-- The node of a specification, below a parent of which children have the names given. -/
def created (taken : List String) (parent : Nat) (spec : Spec) : Node :=
  ⟨Naming.fresh taken spec.name, some parent, [], spec.x, spec.kind, []⟩

/-- A new node stands behind all others, and last among the children of its parent. -/
theorem create_ok {spec : Spec} (h : t.create parent spec = .ok (id, u)) :
    ∃ p, t.node? parent = some p ∧ p.kind.isContainer = true ∧ id = t.slots.size ∧
      u.slots.size = t.slots.size + 1 ∧ ∀ k, u.node? k =
        if k = t.slots.size then some (created (t.childNames parent) parent spec)
        else if k = parent then some { p with children := p.children ++ [t.slots.size] }
        else t.node? k := by
  rw [create] at h
  split at h
  · next p hp =>
    split at h
    · next hc =>
      cases h
      refine ⟨p, hp, hc, rfl, by simp, fun k => ?_⟩
      rw [node?_push, size_set, node?_set_of_live hp]
      rfl
    · cases h
  · cases h

theorem bind_ok {b : Binding} (h : t.bind id b = .ok u) :
    ∃ n, t.node? id = some n ∧ u.slots.size = t.slots.size ∧ ∀ k, u.node? k =
      if k = id then some { n with bindings := setBinding n.bindings b } else t.node? k := by
  rw [bind] at h
  split at h
  · next n hn =>
    cases h
    exact ⟨n, hn, size_set .., node?_set_of_live hn _⟩
  · cases h

theorem assign_ok {key value : String} (h : t.assign id key value = .ok u) :
    ∃ n template properties, t.node? id = some n ∧ n.kind = .widget template properties ∧
      u.slots.size = t.slots.size ∧ ∀ k, u.node? k =
        if k = id then some { n with kind := .widget template (setProperty key value properties) }
        else t.node? k := by
  rw [assign] at h
  split at h
  · next n hn =>
    split at h
    · next template properties hk =>
      cases h
      exact ⟨n, template, properties, hn, hk, size_set .., node?_set_of_live hn _⟩
    · cases h
  · cases h

/-- A node that is taken away leaves its parent's children, and other nodes may go with it. -/
theorem destroy_ok (h : t.destroy id = .ok u) :
    id ≠ root ∧ ∃ s : Tree, u = s.remove t.slots.size id ∧
      ((t.node? id).bind (·.parent) = none ∧ s = t ∨
        ∃ parent p, (t.node? id).bind (·.parent) = some parent ∧ t.node? parent = some p ∧
          s = t.set parent (some { p with children := p.children.filter (· != id) })) := by
  rw [destroy] at h
  split at h
  · cases h
  · next hid =>
    refine ⟨hid, ?_⟩
    split at h
    · next hp =>
      cases h
      exact ⟨t, rfl, .inl ⟨hp, rfl⟩⟩
    · next parent hp =>
      split at h
      · cases h
      · next p hpar =>
        cases h
        exact ⟨_, by simp, .inr ⟨parent, p, hp, hpar, rfl⟩⟩

/-! ## Removal -/

/-- Children have larger ids. -/
def Ascends (t : Tree) : Prop := ∀ id n, t.node? id = some n → ∀ child ∈ n.children, id < child

theorem node?_set_none (t : Tree) (id k : Nat) :
    (t.set id none).node? k = if k = id then none else t.node? k := by
  rw [node?_set]
  by_cases hk : k = id
  · rw [if_pos hk.symm, if_pos hk, ite_self]
  · rw [if_neg fun h => hk h.symm, if_neg hk]

theorem Ascends.set_none (h : t.Ascends) (id : Nat) : (t.set id none).Ascends := by
  intro k n hn
  rw [node?_set_none] at hn
  split at hn
  · cases hn
  · exact h k n hn

/-- What holds of panels as nodes from an id on are taken away holds after a removal. -/
theorem remove_induct {P : Tree → Prop} {low : Nat}
    (hset : ∀ t id, low ≤ id → P t → P (t.set id none)) (depth : Nat) (h : t.Ascends)
    (hid : low ≤ id) (ht : P t) : (t.remove depth id).Ascends ∧ P (t.remove depth id) := by
  induction depth generalizing t id with
  | zero => exact ⟨h, ht⟩
  | succ depth ih =>
    rw [remove]
    split
    · exact ⟨h, ht⟩
    · next n hn =>
      have hchildren : ∀ child ∈ n.children, low ≤ child := by
        intro child hc
        have hlt : id < child := h id n hn child hc
        omega
      -- The node goes first, then its children, one after the other.
      have hrest : (t.set id none).Ascends ∧ P (t.set id none) := ⟨h.set_none id, hset t id hid ht⟩
      generalize n.children = cs at hchildren
      generalize t.set id none = s at hrest
      induction cs generalizing s with
      | nil => exact hrest
      | cons c cs ihs =>
        rw [List.forall_mem_cons] at hchildren
        exact ihs hchildren.2 _ (ih hrest.1 hchildren.1 hrest.2)

theorem Ascends.remove (h : t.Ascends) (depth id : Nat) : (t.remove depth id).Ascends :=
  (remove_induct (P := fun _ => True) (fun _ _ _ _ => trivial) depth h (Nat.le_refl id) trivial).1

/-- A removal leaves the nodes of smaller ids alone. -/
theorem remove_node?_of_lt (h : t.Ascends) (depth : Nat) {k : Nat} (hk : k < id) :
    (t.remove depth id).node? k = t.node? k := by
  have hset : ∀ (u : Tree) (i : Nat), k + 1 ≤ i → u.node? k = t.node? k →
      (u.set i none).node? k = t.node? k := by
    intro u i hi hu
    rw [node?_set_none, if_neg (by omega), hu]
  exact (remove_induct (P := fun u => u.node? k = t.node? k) hset depth h hk rfl).2

theorem remove_size (h : t.Ascends) (depth id : Nat) :
    (t.remove depth id).slots.size = t.slots.size := by
  have hset : ∀ (u : Tree) (i : Nat), 0 ≤ i → u.slots.size = t.slots.size →
      (u.set i none).slots.size = t.slots.size := by
    intro u i _ hu
    rw [size_set, hu]
  exact (remove_induct (P := fun u => u.slots.size = t.slots.size) hset depth h
    (Nat.zero_le id) rfl).2

/-- A removal brings no node back. -/
theorem remove_gone {k : Nat} (h : t.Ascends) (depth id : Nat) (hk : t.node? k = none) :
    (t.remove depth id).Ascends ∧ (t.remove depth id).node? k = none := by
  have hset : ∀ (u : Tree) (i : Nat), 0 ≤ i → u.node? k = none → (u.set i none).node? k = none := by
    intro u i _ hu
    rw [node?_set_none, hu, ite_self]
  exact remove_induct (P := fun u => u.node? k = none) hset depth h (Nat.zero_le id) hk

/-- A node that is removed is gone. -/
theorem remove_self (h : t.Ascends) (depth id : Nat) :
    (t.remove (depth + 1) id).node? id = none := by
  rw [remove]
  split
  · next hn => exact hn
  · next n hn =>
    -- The node goes first, and the removal of its children does not bring it back.
    have hrest : (t.set id none).Ascends ∧ (t.set id none).node? id = none := by
      refine ⟨h.set_none id, ?_⟩
      rw [node?_set_none, if_pos rfl]
    generalize n.children = children
    generalize t.set id none = s at hrest
    induction children generalizing s with
    | nil => exact hrest.2
    | cons child children ih => exact ih _ (remove_gone hrest.1 depth child hrest.2)

/-- A change of a node that is there brings none back. -/
theorem gone_of_set {n m : Node} (hn : t.node? id = some n)
    (hu : ∀ k, u.node? k = if k = id then some m else t.node? k) (k : Nat)
    (hk : t.node? k = none) : u.node? k = none := by
  have hne : k ≠ id := by
    rintro rfl
    rw [hn] at hk
    cases hk
  rw [hu, if_neg hne, hk]

/-- A node is destroyed by its removal from a panel on which no more nodes are there. -/
theorem destroy_eq_remove (h : t.Ascends) (hu : t.destroy id = .ok u) :
    ∃ s : Tree, s.Ascends ∧ s.slots.size = t.slots.size ∧
      (∀ k, t.node? k = none → s.node? k = none) ∧ u = s.remove t.slots.size id := by
  obtain ⟨-, s, rfl, ⟨-, rfl⟩ | ⟨parent, p, -, hp, rfl⟩⟩ := destroy_ok hu
  · exact ⟨_, h, rfl, fun k hk => hk, rfl⟩
  · have hnodes := node?_set_of_live hp (some { p with children := p.children.filter (· != id) })
    refine ⟨_, ?_, size_set .., ?_, rfl⟩
    · intro k n hn
      rw [hnodes] at hn
      split at hn
      · next hk =>
        cases hn
        intro child hc
        rw [hk]
        exact h parent p hp child (List.mem_filter.mp hc).1
      · exact h k n hn
    · exact gone_of_set hp hnodes

/-- A node that is destroyed is gone, and no other comes back. -/
theorem destroy_gone (h : t.Ascends) (hu : t.destroy id = .ok u) :
    u.slots.size = t.slots.size ∧ u.node? id = none ∧
      ∀ k, t.node? k = none → u.node? k = none := by
  obtain ⟨s, hs, hsize, hgone, rfl⟩ := destroy_eq_remove h hu
  refine ⟨?_, ?_, fun k hk => (remove_gone hs _ id (hgone k hk)).2⟩
  · rw [remove_size hs, hsize]
  · cases hid : t.node? id with
    | none => exact (remove_gone hs _ id (hgone id hid)).2
    | some n =>
      have hlt := lt_size_of_node? hid
      obtain ⟨depth, hdepth⟩ : ∃ depth, t.slots.size = depth + 1 :=
        ⟨t.slots.size - 1, by omega⟩
      rw [hdepth]
      exact remove_self hs depth id

end ControlSurface.Panel.Tree
