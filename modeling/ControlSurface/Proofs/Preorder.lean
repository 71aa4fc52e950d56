import ControlSurface.Proofs.Arena

/- The nodes of a panel in depth-first order. In a tree every node is below the root
   (`WellFormed.reaches_of_node?`), and siblings have nothing below them in common, so that a walk
   from the root meets each node once. The outline is such a walk: it has one line for each
   node below the root (`WellFormed.length_outline`). -/
namespace ControlSurface.Panel.Tree

/-- Nodes and all below them, each before its children. -/
def preorder (t : Tree) : Nat → List Nat → List Nat
  | 0, _ => []
  | depth + 1, ids =>
    ids.flatMap fun id =>
      if (t.node? id).isSome then id :: t.preorder depth (t.children id) else []

/-- An outline has a line for each node that the walk meets. -/
theorem length_outlineFrom (t : Tree) (depth indent : Nat) (ids : List Nat) :
    (t.outlineFrom depth indent ids).length = (t.preorder depth ids).length := by
  induction depth generalizing indent ids with
  | zero => rfl
  | succ depth ih =>
    simp only [outlineFrom, preorder, List.length_flatMap]
    congr 1
    refine List.map_congr_left fun id _ => ?_
    cases hn : t.node? id with
    | none => simp
    | some n => simp [children_eq hn, ih]

/-- Depth enough for a walk to come to all that nodes reach. -/
def Deep (t : Tree) (depth : Nat) (ids : List Nat) : Prop :=
  ∀ id ∈ ids, t.slots.size ≤ id + depth

variable {t : Tree} {id k depth : Nat} {ids : List Nat}

/-- Each step down leads to larger ids, so there is depth enough for the children too. -/
theorem Deep.children (h : t.Deep (depth + 1) ids) (ht : t.Ascends) (hid : id ∈ ids) :
    t.Deep depth (t.children id) := by
  intro c hc
  have hlt := ht.lt_of_mem hc
  have hsize := h id hid
  omega

/-- Deep enough, a walk meets what its nodes reach. -/
theorem mem_preorder (ht : t.Ascends) (hdepth : t.Deep depth ids) :
    k ∈ t.preorder depth ids ↔ (∃ id ∈ ids, t.Reaches id k) ∧ (t.node? k).isSome = true := by
  induction depth generalizing ids with
  | zero =>
    simp only [preorder, List.not_mem_nil, false_iff, not_and, Bool.not_eq_true,
      Option.isSome_eq_false_iff, Option.isNone_iff_eq_none]
    rintro ⟨id, hid, hreach⟩
    have hle := ht.le_of_reaches hreach
    have hsize := hdepth id hid
    exact node?_eq_none_of_le (by omega)
  | succ depth ih =>
    rw [preorder, List.mem_flatMap]
    constructor
    · rintro ⟨id, hid, hk⟩
      split at hk
      · next hlive =>
        rcases List.mem_cons.mp hk with rfl | hk
        · exact ⟨⟨k, hid, .refl⟩, hlive⟩
        · obtain ⟨⟨c, hc, hreach⟩, hlive⟩ := (ih (hdepth.children ht hid)).mp hk
          exact ⟨⟨id, hid, .head hc hreach⟩, hlive⟩
      · cases hk
    · rintro ⟨⟨id, hid, hreach⟩, hlive⟩
      refine ⟨id, hid, ?_⟩
      rcases reaches_iff.mp hreach with rfl | ⟨c, hc, hbelow⟩
      · rw [if_pos hlive]
        exact List.mem_cons_self
      · obtain ⟨n, hn⟩ := exists_node_of_mem_children hc
        rw [if_pos (Option.isSome_of_eq_some hn)]
        have hmem := (ih (hdepth.children ht hid)).mpr ⟨⟨c, hc, hbelow⟩, hlive⟩
        exact List.mem_cons_of_mem _ hmem

namespace WellFormed

/-- Every node is below the root. The induction is on ids, since a parent has a smaller one. -/
theorem reaches_of_node? (h : t.WellFormed) {n : Node} (hn : t.node? id = some n) :
    t.Reaches root id := by
  induction id using Nat.strongRecOn generalizing n with
  | _ id ih =>
    by_cases hid : id = root
    · rw [hid]
    · obtain ⟨p, q, -, hq, -, hmem⟩ := h.parent id n hn hid
      rw [← children_eq hq] at hmem
      exact (ih p (h.child p id hmem).1 hq).tail hmem

/-- Siblings have nothing below them in common: of two nodes above one the one is above
    the other, since parents are unique. -/
theorem eq_of_reaches (h : t.WellFormed) {p a b : Nat} (ha : a ∈ t.children p)
    (hb : b ∈ t.children p) (hak : t.Reaches a k) (hbk : t.Reaches b k) : a = b := by
  have hunique : Relator.RightUnique (Function.swap fun id child => child ∈ t.children id) :=
    fun _ _ _ hp hq => h.eq_of_mem_children hp hq
  -- A sibling below a sibling would have their parent below that one.
  have hnot : ∀ {a b}, a ∈ t.children p → b ∈ t.children p → t.Reaches a b → b = a := by
    intro a b ha hb hab
    refine (h.eq_or_reaches_parent hb hab).resolve_right fun hp => ?_
    have hlt := (h.child p a ha).1
    have hle := h.ascends.le_of_reaches hp
    omega
  rcases Relation.ReflTransGen.total_of_right_unique hunique
    (Relation.reflTransGen_swap.mpr hak) (Relation.reflTransGen_swap.mpr hbk) with hab | hab
  · exact hnot hb ha (Relation.reflTransGen_swap.mp hab)
  · exact (hnot ha hb (Relation.reflTransGen_swap.mp hab)).symm

/-- A walk from nodes that have nothing below them in common meets no node twice. -/
theorem nodup_preorder (h : t.WellFormed) (hids : ids.Nodup)
    (hapart : ∀ a ∈ ids, ∀ b ∈ ids, ∀ k, t.Reaches a k → t.Reaches b k → a = b)
    (hdepth : t.Deep depth ids) : (t.preorder depth ids).Nodup := by
  induction depth generalizing ids with
  | zero => exact List.nodup_nil
  | succ depth ih =>
    have hbelow : ∀ {id}, id ∈ ids → t.Deep depth (t.children id) :=
      fun hid => hdepth.children h.ascends hid
    -- What the walk meets from a node on is what the node reaches.
    have hmet : ∀ id ∈ ids, ∀ k, (k ∈ if (t.node? id).isSome then
        id :: t.preorder depth (t.children id) else []) → t.Reaches id k := by
      intro id hid k hk
      split at hk
      · rcases List.mem_cons.mp hk with rfl | hk
        · exact .refl
        · obtain ⟨⟨c, hc, hreach⟩, -⟩ := (mem_preorder h.ascends (hbelow hid)).mp hk
          exact .head hc hreach
      · cases hk
    rw [preorder, List.nodup_flatMap]
    refine ⟨fun id hid => ?_, hids.imp_of_mem fun ha hb hne k hak hbk => ?_⟩
    · split
      · refine List.nodup_cons.mpr ⟨fun hk => ?_, ?_⟩
        · obtain ⟨⟨c, hc, hreach⟩, -⟩ := (mem_preorder h.ascends (hbelow hid)).mp hk
          have hlt := h.ascends.lt_of_mem hc
          have hle := h.ascends.le_of_reaches hreach
          omega
        · exact ih (h.once id) (fun a ha b hb k => h.eq_of_reaches ha hb) (hbelow hid)
      · exact List.nodup_nil
    · exact hne (hapart _ ha _ hb k (hmet _ ha k hak) (hmet _ hb k hbk))

/-- The walk from the root meets every node once. -/
theorem preorder_perm (h : t.WellFormed) :
    (root :: t.preorder t.slots.size (t.children root)).Perm
      ((List.range t.slots.size).filter fun id => (t.node? id).isSome) := by
  obtain ⟨r, hr, -⟩ := h.top
  have hall : t.preorder (t.slots.size + 1) [root] =
      root :: t.preorder t.slots.size (t.children root) := by
    simp [preorder, hr]
  have hdepth : t.Deep (t.slots.size + 1) [root] := by
    intro id _
    omega
  have honce : (t.preorder (t.slots.size + 1) [root]).Nodup := by
    refine h.nodup_preorder (List.nodup_singleton _) (fun a ha b hb _ _ _ => ?_) hdepth
    rw [List.mem_singleton.mp ha, List.mem_singleton.mp hb]
  rw [← hall, List.perm_ext_iff_of_nodup honce (List.nodup_range.filter _)]
  intro k
  rw [mem_preorder h.ascends hdepth, List.mem_filter, List.mem_range]
  constructor
  · rintro ⟨-, hlive⟩
    obtain ⟨n, hn⟩ := Option.isSome_iff_exists.mp hlive
    exact ⟨lt_size_of_node? hn, hlive⟩
  · rintro ⟨-, hlive⟩
    obtain ⟨n, hn⟩ := Option.isSome_iff_exists.mp hlive
    exact ⟨⟨root, List.mem_singleton_self _, h.reaches_of_node? hn⟩, hlive⟩

end WellFormed

/-- The nodes in the table are the nodes of its ids. -/
theorem toList_slots (t : Tree) : t.slots.toList = (List.range t.slots.size).map t.node? := by
  refine List.ext_getElem (by simp) fun i hi _ => ?_
  rw [Array.length_toList] at hi
  simp [node?, hi]

theorem WellFormed.length_outline (h : t.WellFormed) : t.outline.length = t.size := by
  have hcount : (t.slots.toList.filter Option.isSome).length =
      ((List.range t.slots.size).filter fun id => (t.node? id).isSome).length := by
    rw [toList_slots, List.filter_map, List.length_map]
    rfl
  rw [outline, length_outlineFrom, size, hcount, ← h.preorder_perm.length_eq]
  rfl

end ControlSurface.Panel.Tree
