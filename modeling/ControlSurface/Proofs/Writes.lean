import ControlSurface.Proofs.Preorder

/- The panel's changes write by write. A change is a few reads and writes of the table, and a
   read of a node that is not there is a fault: it ends the change, and what was written before
   stays. Creating and clearing a panel read a node after they have written (`Writes.create`,
   `Writes.clear`), so it is not plain that a change that fails leaves the panel as it was.
   It does, in every tree: what is read late is there, and write by write each change comes to
   what it does at once (`Change.writes_outcome`). The panels that changes make of an empty one
   are trees, so this holds of all of them (`after_stays_tree`). -/
namespace ControlSurface.Panel

/-- Reads and writes of a panel, of which a fault undoes nothing. -/
abbrev Writes : Type → Type := ExceptT HostFault (StateM Tree)

namespace Writes

/-- The answer or the fault, and the panel that is left. -/
def outcome {α : Type} (x : Writes α) (t : Tree) : Except HostFault α × Tree :=
  StateT.run (ExceptT.run x) t

/-- The node of an id. -/
def node (id : Nat) : Writes Node := do
  match (← get).node? id with
  | some n => return n
  | none => throw (.noNode id)

/-- Another node in the place of one. -/
def write (id : Nat) (n : Node) : Writes Unit := modify (·.set id (some n))

/-- The new node is written first, then its parent is read and gets it as a child. -/
def create (parent : Nat) (spec : Spec) : Writes Nat := do
  let t ← get
  if (t.node? parent).any (·.kind.isContainer) then
    set (⟨t.slots.push (some (Tree.created (t.childNames parent) parent spec))⟩ : Tree)
    let p ← node parent
    write parent { p with children := p.children ++ [t.slots.size] }
    return t.slots.size
  else throw (.notContainer parent)

def bind (id : Nat) (b : Binding) : Writes Nat := do
  let n ← node id
  write id { n with bindings := setBinding n.bindings b }
  return Tree.root

def assign (id : Nat) (key value : String) : Writes Nat := do
  let n ← node id
  match n.kind with
  | .widget template properties =>
    write id { n with kind := .widget template (setProperty key value properties) }
    return Tree.root
  | .container _ _ => throw (.noProperties n.name)

/-- The parent is read and written before anything is taken away. -/
def destroy (id : Nat) : Writes Nat := do
  if id = Tree.root then throw .rootDestroyed
  else
    let t ← get
    match (t.node? id).bind (·.parent) with
    | some parent =>
      let p ← node parent
      write parent { p with children := p.children.filter (· != id) }
    | none => pure ()
    modify fun s => s.remove t.slots.size id
    return Tree.root

/-- All places but the root's go first, then the root is read and written. -/
def clear : Writes Nat := do
  modify fun t => ⟨t.slots.take 1⟩
  let r ← node Tree.root
  write Tree.root { r with children := [], kind := .container .vertical none }
  return Tree.root

section
variable {α β : Type} (t : Tree)

@[simp] theorem outcome_pure (a : α) : (pure a : Writes α).outcome t = (.ok a, t) := rfl

@[simp] theorem outcome_throw (e : HostFault) :
    (throw e : Writes α).outcome t = (.error e, t) := rfl

@[simp] theorem outcome_get : (get : Writes Tree).outcome t = (.ok t, t) := rfl

@[simp] theorem outcome_set (u : Tree) : (set u : Writes Unit).outcome t = (.ok (), u) := rfl

@[simp] theorem outcome_modify (f : Tree → Tree) :
    (modify f : Writes Unit).outcome t = (.ok (), f t) := rfl

@[simp] theorem outcome_write (id : Nat) (n : Node) :
    (write id n).outcome t = (.ok (), t.set id (some n)) := rfl

variable {t}

theorem outcome_bind_ok {x : Writes α} {f : α → Writes β} {u : Tree} {a : α}
    (h : x.outcome t = (.ok a, u)) : (x >>= f).outcome t = (f a).outcome u := by
  simp only [outcome, ExceptT.run_bind, StateT.run_bind] at h ⊢
  rw [h]
  rfl

theorem outcome_bind_error {x : Writes α} {f : α → Writes β} {u : Tree} {e : HostFault}
    (h : x.outcome t = (.error e, u)) : (x >>= f).outcome t = (.error e, u) := by
  simp only [outcome, ExceptT.run_bind, StateT.run_bind] at h ⊢
  rw [h]
  rfl

theorem outcome_node {id : Nat} {n : Node} (h : t.node? id = some n) :
    (node id).outcome t = (.ok n, t) := by
  rw [node, outcome_bind_ok (outcome_get t), h]
  rfl

theorem outcome_node_error {id : Nat} (h : t.node? id = none) :
    (node id).outcome t = (.error (.noNode id), t) := by
  rw [node, outcome_bind_ok (outcome_get t), h]
  rfl

end

end Writes

/-- A change write by write. -/
def Change.writes : Change → Writes Nat
  | create parent spec => .create parent spec
  | bind node b => .bind node b
  | assign node key value => .assign node key value
  | destroy node => .destroy node
  | clear => .clear

/-- What a change comes to that is done at once: after a fault the panel is as it was. -/
def Change.settle (t : Tree) : Except HostFault (Nat × Tree) → Except HostFault Nat × Tree
  | .ok (id, u) => (.ok id, u)
  | .error fault => (.error fault, t)

namespace Tree
variable {t : Tree}

/-- A new place at the end does not move the others. -/
theorem set_push {parent : Nat} {p : Node} (hp : t.node? parent = some p) (n m : Option Node) :
    (⟨t.slots.push n⟩ : Tree).set parent m = ⟨(t.set parent m).slots.push n⟩ := by
  have hlt := lt_size_of_node? hp
  simp only [set, Tree.mk.injEq]
  grind

/-- The first place alone is that of the root. -/
theorem slots_take (h : 0 < t.slots.size) : t.slots.take 1 = #[t.node? root] := by
  refine Array.ext (by simp; omega) fun i _ hi => ?_
  obtain rfl : i = 0 := by simpa using hi
  simp [node?, root, h]

end Tree

namespace Writes
open Panel.Tree
variable {t : Tree}

theorem create_outcome (t : Tree) (parent : Nat) (spec : Spec) :
    (create parent spec).outcome t = Change.settle t (t.create parent spec) := by
  rw [create, outcome_bind_ok (outcome_get t), Tree.create]
  cases hp : t.node? parent with
  | none => rfl
  | some p =>
    simp only [Option.any_some]
    split
    · -- The parent was there before the new node, and is there after it.
      have hparent : (⟨t.slots.push (some (created (t.childNames parent) parent spec))⟩ :
          Tree).node? parent = some p := by
        rw [node?_push, if_neg (Nat.ne_of_lt (lt_size_of_node? hp)), hp]
      rw [outcome_bind_ok (outcome_set t _), outcome_bind_ok (outcome_node hparent),
        outcome_bind_ok (outcome_write _ _ _), outcome_pure, set_push hp]
      rfl
    · rfl

theorem bind_outcome (t : Tree) (id : Nat) (b : Binding) :
    (bind id b).outcome t = Change.settle t ((t.bind id b).map fun u => (root, u)) := by
  rw [bind, Tree.bind]
  cases hn : t.node? id with
  | none => exact outcome_bind_error (outcome_node_error hn)
  | some n => rw [outcome_bind_ok (outcome_node hn)]; rfl

theorem assign_outcome (t : Tree) (id : Nat) (key value : String) :
    (assign id key value).outcome t =
      Change.settle t ((t.assign id key value).map fun u => (root, u)) := by
  rw [assign, Tree.assign]
  cases hn : t.node? id with
  | none => exact outcome_bind_error (outcome_node_error hn)
  | some n =>
    rw [outcome_bind_ok (outcome_node hn)]
    dsimp only
    cases n.kind <;> rfl

theorem destroy_outcome (t : Tree) (id : Nat) :
    (destroy id).outcome t = Change.settle t ((t.destroy id).map fun u => (root, u)) := by
  rw [destroy, Tree.destroy]
  split
  · rfl
  · rw [outcome_bind_ok (outcome_get t)]
    cases (t.node? id).bind (·.parent) with
    | none => rfl
    | some parent =>
      dsimp only
      cases hp : t.node? parent with
      | none => exact outcome_bind_error (outcome_node_error hp)
      | some p =>
        rw [outcome_bind_ok (outcome_node hp), outcome_bind_ok (outcome_write _ _ _)]
        simp only [size_set]
        rfl

/-- A panel without its root would be left with less than it had. -/
theorem clear_outcome (h : t.WellFormed) :
    clear.outcome t = Change.settle t (.ok (root, t.clear)) := by
  obtain ⟨r, hr, -⟩ := h.top
  have htake : t.slots.take 1 = #[some r] := by
    rw [slots_take (lt_size_of_node? hr), hr]
  have hroot : (⟨t.slots.take 1⟩ : Tree).node? root = some r := by
    rw [htake]
    rfl
  rw [clear, outcome_bind_ok (outcome_modify t _), outcome_bind_ok (outcome_node hroot),
    outcome_bind_ok (outcome_write _ _ _), outcome_pure, htake, Tree.clear, hr]
  rfl

end Writes

/-- Write by write a change of a tree comes to what it does at once. -/
theorem Change.writes_outcome {t : Tree} (h : t.WellFormed) (c : Change) :
    c.writes.outcome t = settle t (c.perform t) := by
  cases c with
  | create parent spec => exact Writes.create_outcome t parent spec
  | bind node b => exact Writes.bind_outcome t node b
  | assign node key value => exact Writes.assign_outcome t node key value
  | destroy node => exact Writes.destroy_outcome t node
  | clear => exact Writes.clear_outcome h

theorem Change.settle_error {t : Tree} {x : Except HostFault (Nat × Tree)} {fault : HostFault}
    (h : (settle t x).1 = .error fault) : (settle t x).2 = t := by
  cases x with
  | error fault => rfl
  | ok made => cases h

theorem Change.settle_carry (t : Tree) (c : Change) : (settle t (c.perform t)).2 = c.carry t := by
  rw [carry]
  cases c.perform t <;> rfl

/-- Whatever changes are asked for, the panel stays a tree, of which the outline shows every
    node. The changes may as well be made write by write: they give the same answers and leave
    the same panels, and one that ends in a fault leaves the panel as it was. -/
theorem Tree.after_stays_tree (changes : List Change) :
    let t := after changes
    t.WellFormed ∧
      (∀ id n, t.node? id = some n → id ≠ root →
        ∃ p q, n.parent = some p ∧ t.node? p = some q ∧ q.kind.isContainer = true ∧
          ∀ k, (t.children k).count id = if k = p then 1 else 0) ∧
      (∀ id n, t.node? id = some n → t.Reaches root id) ∧
      t.outline.length = t.size ∧
      ∀ c : Change,
        c.writes.outcome t = Change.settle t (c.perform t) ∧
        (c.writes.outcome t).2 = after (changes ++ [c]) ∧
        ∀ fault, (c.writes.outcome t).1 = .error fault → (c.writes.outcome t).2 = t := by
  intro t
  have h : t.WellFormed := after_wellFormed changes
  refine ⟨h, fun id n hn hid => h.count_children hn hid, fun id n hn => h.reaches_of_node? hn,
    h.length_outline, fun c => ?_⟩
  have hlast : after (changes ++ [c]) = c.carry t := by
    rw [after, List.foldl_append]
    rfl
  rw [Change.writes_outcome h c, hlast]
  exact ⟨rfl, Change.settle_carry t c, fun fault hfault => Change.settle_error hfault⟩

end ControlSurface.Panel
