import ControlSurface.Proofs.Root
import Mathlib.Data.List.Basic

/- What grows on the panel. A forest is what stands below a node, as nested nodes (`Forest`);
   its ids ascend, so that a node is created behind all of it and changes none of it. A panel
   is grown from another at a container if it differs from it by a forest at the end of the
   container's children (`Grown`). The changes that a build makes take a grown panel to a
   grown panel: a creation and further growth at the same container or within the last node,
   a binding or a property of the first new node, and the removal of the only new node. -/
namespace ControlSurface.Panel

namespace Nested

/-- The name of a node. -/
def name : Nested → String
  | node name _ _ _ _ => name

/-- Where a node stands. -/
def x : Nested → Int64
  | node _ x _ _ _ => x

/-- What a node is. -/
def kind : Nested → Kind
  | node _ _ kind _ _ => kind

/-- The bindings of a node. -/
def bindings : Nested → List Binding
  | node _ _ _ bindings _ => bindings

/-- The nodes right below a node. -/
def children : Nested → List Nested
  | node _ _ _ _ children => children

/-- The node of a specification that stands beside siblings of which the names are taken. -/
def standing (taken : List String) (spec : Spec) (bindings : List Binding)
    (children : List Nested) : Nested :=
  .node (Naming.fresh taken spec.name) spec.x spec.kind bindings children

/-- Whether nodes are none at all, or a header alone. -/
def bare : List Nested → Bool
  | [] => true
  | [only] => only.kind.template? == some .header
  | _ => false

end Nested

namespace Tree
open Nested (standing bare)

/-- The nodes of the ids, with all that stands below them, stand below a parent. -/
inductive Forest (t : Tree) : Nat → List Nat → List Nested → Prop
  | nil (parent : Nat) : Forest t parent [] []
  | cons {parent id : Nat} {ids : List Nat} {n : Node} {kids ns : List Nested}
      (node : t.node? id = some n) (up : n.parent = some parent) (above : parent < id)
      (first : ∀ later ∈ ids, id < later) (below : Forest t id n.children kids)
      (rest : Forest t parent ids ns) :
      Forest t parent (id :: ids) (.node n.name n.x n.kind n.bindings kids :: ns)

namespace Forest
variable {t u : Tree} {parent : Nat} {ids js : List Nat} {ns ms : List Nested}

theorem lt_of_mem (h : Forest t parent ids ns) : ∀ id ∈ ids, parent < id := by
  cases h with
  | nil => exact List.forall_mem_nil _
  | cons _ _ above first _ _ =>
    rw [List.forall_mem_cons]
    exact ⟨above, fun later hl => Nat.lt_trans above (first later hl)⟩

theorem lt_size (h : Forest t parent ids ns) : ∀ id ∈ ids, id < t.slots.size := by
  induction h with
  | nil => exact List.forall_mem_nil _
  | cons node _ _ _ _ _ _ ih =>
    rw [List.forall_mem_cons]
    exact ⟨lt_size_of_node? node, ih⟩

theorem length_eq (h : Forest t parent ids ns) : ids.length = ns.length := by
  induction h with
  | nil => rfl
  | cons _ _ _ _ _ _ _ ih => rw [List.length_cons, List.length_cons, ih]

/-- Nothing stands below a node without children. -/
theorem eq_nil (h : Forest t parent ids []) : ids = [] := by
  cases h with
  | nil => rfl

/-- A forest stands as well on a panel that has the same nodes from its lowest id on. -/
theorem congr {low : Nat} (h : Forest t parent ids ns) (hlow : ∀ id ∈ ids, low ≤ id)
    (hsame : ∀ k, low ≤ k → k < t.slots.size → u.node? k = t.node? k) :
    Forest u parent ids ns := by
  induction h with
  | nil => exact .nil _
  | cons node up above first below rest ihb ihr =>
    rw [List.forall_mem_cons] at hlow
    -- What stands below a node has larger ids than the node.
    refine .cons ?_ up above first (ihb ?_) (ihr hlow.2)
    · rw [hsame _ hlow.1 (lt_size_of_node? node), node]
    · intro id hid
      exact Nat.le_trans hlow.1 (Nat.le_of_lt (below.lt_of_mem id hid))

theorem append (h : Forest t parent ids ns) (h' : Forest t parent js ms)
    (hlt : ∀ id ∈ ids, ∀ j ∈ js, id < j) : Forest t parent (ids ++ js) (ns ++ ms) := by
  induction h with
  | nil => exact h'
  | cons node up above first below _ _ ih =>
    rw [List.forall_mem_cons] at hlt
    refine .cons node up above ?_ below (ih h' hlt.2)
    intro later hl
    rcases List.mem_append.mp hl with hl | hl
    · exact first later hl
    · exact hlt.1 later hl

theorem names (h : Forest t parent ids ns) :
    (ids.filterMap fun id => (t.node? id).map (·.name)) = ns.map (·.name) := by
  induction h with
  | nil => rfl
  | cons node _ _ _ _ _ _ ih =>
    rw [List.filterMap_cons_some (by rw [node]; rfl), ih]
    rfl

/-- The nested view of a forest that is looked at deep enough. -/
theorem nestedFrom (h : Forest t parent ids ns) (depth : Nat)
    (hdepth : t.slots.size ≤ parent + 1 + depth) : t.nestedFrom depth ids = ns := by
  induction h generalizing depth with
  | nil => cases depth <;> rfl
  | @cons parent id ids n kids ns node _ above _ _ _ ihb ihr =>
    have hid := lt_size_of_node? node
    -- Ids grow with each level, so the depth is spent only where no node is left.
    cases depth with
    | zero => omega
    | succ depth =>
      have hkids := ihb depth (by omega)
      have hrest := ihr (depth + 1) hdepth
      rw [Tree.nestedFrom] at hrest ⊢
      rw [List.filterMap_cons_some (by rw [node]; rfl), hrest]
      dsimp only
      rw [hkids]

/-- The first node of a forest. -/
theorem head {id : Nat} {n : Nested} (h : Forest t parent (id :: ids) (n :: ns)) :
    ∃ m, t.node? id = some m ∧ m.parent = some parent ∧ m.kind = n.kind ∧
      Forest t id m.children n.children := by
  cases h with
  | cons node up _ _ below _ => exact ⟨_, node, up, rfl, below⟩

end Forest

/-- A container that is there and of which the children have the names given. -/
structure Container (t : Tree) (c : Nat) (taken : List String) : Prop where
  node : ∃ p, t.node? c = some p ∧ p.kind.isContainer = true ∧
    ∀ id ∈ p.children, c < id ∧ id < t.slots.size
  names : t.childNames c = taken

/-- The root of a cleared panel is a container without children. -/
theorem Rooted.clear_container {t : Tree} {own : List Binding} (h : t.Rooted own) :
    Container t.clear root [] ∧ t.clear.children root = [] := by
  rw [h.clear_eq]
  exact ⟨⟨⟨_, rfl, rfl, List.forall_mem_nil _⟩, rfl⟩, rfl⟩

/-- A panel with a forest more at the end of a container's children. -/
structure Grown (t u : Tree) (c : Nat) (ids : List Nat) (ns : List Nested) : Prop where
  size_le : t.slots.size ≤ u.slots.size
  frame : ∀ k, k < t.slots.size → k ≠ c → u.node? k = t.node? k
  container : ∃ p, t.node? c = some p ∧ u.node? c = some { p with children := p.children ++ ids }
  forest : Forest u c ids ns
  fresh : ∀ id ∈ ids, t.slots.size ≤ id

namespace Grown
variable {t u v : Tree} {c id : Nat} {taken : List String} {ids js : List Nat}
  {ns ms kids : List Nested}

theorem refl (h : Container t c taken) : Grown t t c [] [] := by
  obtain ⟨p, hp, -⟩ := h.node
  refine ⟨Nat.le_refl _, fun _ _ _ => rfl, ⟨p, hp, ?_⟩, .nil c, List.forall_mem_nil _⟩
  rw [hp, List.append_nil]

theorem lt_size (h : Grown t u c ids ns) : c < t.slots.size := by
  obtain ⟨p, hp, -⟩ := h.container
  exact lt_size_of_node? hp

theorem alive (h : Grown t u c ids ns) : (u.node? c).isSome = true := by
  obtain ⟨p, -, hpu⟩ := h.container
  rw [hpu]
  rfl

/-- A container that was empty holds the forest alone. -/
theorem children_eq (h : Grown t u c ids ns) (hempty : t.children c = []) : u.children c = ids := by
  obtain ⟨p, hp, hpu⟩ := h.container
  have hnone : p.children = [] := by simpa [Tree.children, hp] using hempty
  rw [Tree.children, hpu, Option.map_some, Option.getD_some, hnone, List.nil_append]

/-- Growth at the same container. -/
theorem trans (h : Grown t u c ids ns) (h' : Grown u v c js ms) :
    Grown t v c (ids ++ js) (ns ++ ms) := by
  have hc := h.lt_size
  obtain ⟨p, hp, hpu⟩ := h.container
  obtain ⟨q, hq, hqv⟩ := h'.container
  rw [hpu] at hq
  cases hq
  refine ⟨Nat.le_trans h.size_le h'.size_le, ?_, ⟨p, hp, ?_⟩, ?_, ?_⟩
  · intro k hk hkc
    rw [h'.frame k (Nat.lt_of_lt_of_le hk h.size_le) hkc, h.frame k hk hkc]
  · rw [hqv, List.append_assoc]
  · -- The first forest lies behind the container, so the second growth leaves it alone.
    have hold : Forest v c ids ns := by
      apply h.forest.congr h.fresh
      intro k hlow hk
      exact h'.frame k hk (by omega)
    apply hold.append h'.forest
    intro i hi j hj
    have hsize : i < u.slots.size := h.forest.lt_size i hi
    have hfresh : u.slots.size ≤ j := h'.fresh j hj
    omega
  · rw [List.forall_mem_append]
    refine ⟨h.fresh, ?_⟩
    intro j hj
    exact Nat.le_trans h.size_le (h'.fresh j hj)

/-- The names of the siblings after growth. -/
theorem grows (hc : Container t c taken) (h : Grown t u c ids ns) :
    Container u c (taken ++ ns.map (·.name)) := by
  obtain ⟨p, hp, hkind, hchildren⟩ := hc.node
  obtain ⟨q, hq, hqu⟩ := h.container
  rw [hp] at hq
  cases hq
  constructor
  · refine ⟨_, hqu, hkind, ?_⟩
    rw [List.forall_mem_append]
    constructor
    · intro i hi
      exact ⟨(hchildren i hi).1, Nat.lt_of_lt_of_le (hchildren i hi).2 h.size_le⟩
    · intro i hi
      exact ⟨h.forest.lt_of_mem i hi, h.forest.lt_size i hi⟩
  · have hold : (p.children.filterMap fun i => (u.node? i).map (·.name)) = taken := by
      rw [← hc.names, childNames, children, hp]
      apply List.filterMap_congr
      intro i hi
      obtain ⟨hlow, hsize⟩ := hchildren i hi
      rw [h.frame i hsize (by omega)]
    rw [childNames, children, hqu]
    show (p.children ++ ids).filterMap _ = _
    rw [List.filterMap_append, hold, h.forest.names]

/-- A container that was just created takes children. -/
theorem opened {name : String} {x : Int64} {kind : Kind} {bindings : List Binding}
    (h : Grown t u c [id] [.node name x kind bindings []]) (hkind : kind.isContainer = true) :
    Container u id [] := by
  obtain ⟨m, hm, -, hmk, hbelow⟩ := h.forest.head
  have hnone : m.children = [] := hbelow.eq_nil
  refine ⟨⟨m, hm, hmk ▸ hkind, ?_⟩, ?_⟩
  · rw [hnone]
    exact List.forall_mem_nil _
  · rw [childNames, children, hm, Option.map_some, Option.getD_some, hnone]
    rfl

/-- A creation in a container succeeds. -/
theorem of_create (hc : Container t c taken) (spec : Spec) :
    ∃ u, t.create c spec = .ok (t.slots.size, u) ∧
      Grown t u c [t.slots.size] [standing taken spec [] []] := by
  obtain ⟨p, hp, hkind, hchildren⟩ := hc.node
  have hlt := lt_size_of_node? hp
  have hok : ∃ r, t.create c spec = .ok r := by
    rw [create, hp]
    dsimp only
    rw [if_pos hkind]
    exact ⟨_, rfl⟩
  obtain ⟨⟨id, u⟩, hu⟩ := hok
  obtain ⟨q, hq, -, rfl, hsize, hnodes⟩ := create_ok hu
  rw [hp] at hq
  cases hq
  refine ⟨u, hu, by omega, ?_, ⟨p, hp, ?_⟩, ?_, ?_⟩
  · intro k hk hkc
    rw [hnodes, if_neg (Nat.ne_of_lt hk), if_neg hkc]
  · rw [hnodes, if_neg (Nat.ne_of_lt hlt), if_pos rfl]
  · have hnew : u.node? t.slots.size = some (created taken c spec) := by
      rw [hnodes, if_pos rfl, hc.names]
    exact .cons hnew rfl hlt (List.forall_mem_nil _) (.nil _) (.nil c)
  · exact List.forall_mem_singleton.mpr (Nat.le_refl _)

/-- Growth within a node that was just created. -/
theorem within {name : String} {x : Int64} {kind : Kind} {bindings : List Binding}
    (h : Grown t u c [id] [.node name x kind bindings []]) (h' : Grown u v id js ms) :
    Grown t v c [id] [.node name x kind bindings ms] := by
  have hc := h.lt_size
  have hid : t.slots.size ≤ id := h.fresh id (List.mem_singleton_self id)
  obtain ⟨p, hp, hpu⟩ := h.container
  obtain ⟨q, hq, hqv⟩ := h'.container
  refine ⟨Nat.le_trans h.size_le h'.size_le, ?_, ⟨p, hp, ?_⟩, ?_, h.fresh⟩
  · intro k hk hkc
    rw [h'.frame k (Nat.lt_of_lt_of_le hk h.size_le) (by omega), h.frame k hk hkc]
  · rw [h'.frame c (Nat.lt_of_lt_of_le hc h.size_le) (by omega), hpu]
  · cases h.forest with
    | @cons _ _ _ n _ _ node up above first below rest =>
      rw [hq] at node
      cases node
      rw [below.eq_nil, List.nil_append] at hqv
      exact .cons (n := { q with children := js }) hqv up above first h'.forest (.nil c)

/-- A change of kind and bindings of the first new node. -/
theorem touch {name : String} {x : Int64} {kind kind' : Kind} {bindings bindings' : List Binding}
    (h : Grown t u c (id :: ids) (.node name x kind bindings kids :: ns))
    (hsize : v.slots.size = u.slots.size)
    (hv : ∀ n, u.node? id = some n → n.kind = kind → n.bindings = bindings → ∀ k, v.node? k =
      if k = id then some { n with kind := kind', bindings := bindings' } else u.node? k) :
    Grown t v c (id :: ids) (.node name x kind' bindings' kids :: ns) := by
  have hc := h.lt_size
  obtain ⟨hid, hids⟩ := List.forall_mem_cons.mp h.fresh
  obtain ⟨p, hp, hpu⟩ := h.container
  cases h.forest with
  | cons node up above first below rest =>
    have hv := hv _ node rfl rfl
    -- What stands below the node and behind it has larger ids.
    have hlater : ∀ k, id + 1 ≤ k → k < u.slots.size → v.node? k = u.node? k := by
      intro k hk _
      rw [hv, if_neg (by omega)]
    refine ⟨hsize ▸ h.size_le, ?_, ⟨p, hp, ?_⟩, ?_, h.fresh⟩
    · intro k hk hkc
      rw [hv, if_neg (by omega), h.frame k hk hkc]
    · rw [hv, if_neg (by omega), hpu]
    · have hnew := hv id
      rw [if_pos rfl] at hnew
      exact .cons hnew up above first (below.congr below.lt_of_mem hlater)
        (rest.congr first hlater)

/-- The only new node is taken away. -/
theorem drop {own : List Binding} {n : Nested} (hc : Container t c taken)
    (h : Grown t u c [id] [n]) (hu : u.Rooted own) :
    ∃ v, u.destroy id = .ok v ∧ Grown t v c [] [] := by
  have hlt := h.lt_size
  have hid : t.slots.size ≤ id := h.fresh id (List.mem_singleton_self id)
  obtain ⟨m, hm, hup, -, -⟩ := h.forest.head
  obtain ⟨p, hp, -, hchildren⟩ := hc.node
  obtain ⟨q, hq, hqu⟩ := h.container
  rw [hp] at hq
  cases hq
  -- The parent's children are the old ones again.
  have hold : (p.children ++ [id]).filter (· != id) = p.children := by
    rw [List.filter_append, List.filter_eq_self.mpr]
    · simp
    · intro i hi
      have := (hchildren i hi).2
      simp
      omega
  let s := u.set c (some { p with children := p.children })
  have hs : ∀ k, s.node? k = if k = c then some p else u.node? k := node?_set_of_live hqu _
  have hdestroy : u.destroy id = .ok (s.remove u.slots.size id) := by
    have hroot : id ≠ root := fun h => by
      rw [h] at hid
      exact absurd (Nat.lt_of_lt_of_le hlt hid) (Nat.not_lt_zero c)
    rw [destroy, if_neg hroot, hm, Option.bind_some, hup]
    dsimp only
    rw [hqu]
    dsimp only
    rw [hold, size_set]
  have hascends : s.Ascends := by
    intro k l hl
    rw [hs] at hl
    split at hl
    · next hk =>
      cases hl
      intro i hi
      rw [hk]
      exact (hchildren i hi).1
    · exact hu.ascends k l hl
  refine ⟨_, hdestroy, ?_, ?_, ⟨p, hp, ?_⟩, .nil c, List.forall_mem_nil _⟩
  · rw [remove_size hascends, size_set]
    exact h.size_le
  · intro k hk hkc
    rw [remove_node?_of_lt hascends _ (by omega), hs, if_neg hkc, h.frame k hk hkc]
  · rw [remove_node?_of_lt hascends _ (by omega), hs, if_pos rfl, List.append_nil]

/-- Whether the only new node is bare shows in its nested view. -/
theorem isBare_eq {n : Nested} (h : Grown t u c [id] [n]) :
    Build.Appearance.isBare u id = bare n.children := by
  obtain ⟨m, hm, -, -, hbelow⟩ := h.forest.head
  have hchildren : u.children id = m.children := by
    rw [children, hm]
    rfl
  rw [Build.Appearance.isBare, hchildren]
  generalize m.children = cs at hbelow
  generalize n.children = kids at hbelow
  cases hbelow with
  | nil => rfl
  | cons node _ _ _ _ rest =>
    cases rest with
    | nil =>
      dsimp only
      rw [template?, node]
      rfl
    | cons => rfl

/-- The nested view of what grew on a cleared panel. -/
theorem nested_eq {own : List Binding} (h : t.Rooted own) (hg : Grown t.clear u root ids ns) :
    u.nested = some (.node freshRoot.name freshRoot.x freshRoot.kind own ns) := by
  obtain ⟨p, hp, hu⟩ := hg.container
  rw [h.clear_eq] at hp
  cases hp
  have hns := hg.forest.nestedFrom u.slots.size (by omega)
  rw [nested, Tree.nestedFrom, List.filterMap_cons_some (by rw [hu]; rfl), List.head?_cons]
  exact congrArg (fun kids => some (Nested.node _ _ _ _ kids)) hns

end Grown

end Tree

end ControlSurface.Panel
