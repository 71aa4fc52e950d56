import ControlSurface.Error
import ControlSurface.Naming
import ControlSurface.Panel.Basic
import ControlSurface.Text.Segments

/- The panel as a table of nodes. A node's id is its place in the table; a destroyed node
   leaves its place empty, and ids are not given out again until the panel is cleared. The
   root has id zero and is always there. Siblings have different names. -/
namespace ControlSurface.Panel

/-- A node of the panel. -/
structure Node where
  name : String
  parent : Option Nat
  children : List Nat
  x : Int64
  kind : Kind
  bindings : List Binding
deriving DecidableEq

/-- The table of nodes. -/
structure Tree where
  slots : Array (Option Node)
deriving DecidableEq

namespace Tree

/-- The id of the root. -/
def root : Nat := 0

/-- The root of a panel that nothing was done to. -/
def freshRoot : Node := ⟨"ui", none, [], 0, .container .vertical none, []⟩

/-- A panel with nothing in it. -/
def empty : Tree := ⟨#[some freshRoot]⟩

/-- The node of an id. -/
def node? (t : Tree) (id : Nat) : Option Node := t.slots[id]?.join

/-- A panel in which the node of an id is another. -/
def set (t : Tree) (id : Nat) (n : Option Node) : Tree := ⟨t.slots.setIfInBounds id n⟩

@[simp] theorem node?_set (t : Tree) (id other : Nat) (n : Option Node) :
    (t.set id n).node? other =
      if id = other then (if id < t.slots.size then n else none) else t.node? other := by
  simp only [node?, set, Array.getElem?_setIfInBounds]
  split
  · split <;> simp
  · rfl

theorem lt_size_of_node? {t : Tree} {id : Nat} {n : Node} (h : t.node? id = some n) :
    id < t.slots.size := by
  false_or_by_contra
  rename_i hn
  simp [node?, Array.getElem?_eq_none (Nat.le_of_not_lt hn)] at h

/-- The children of a node; none for a node that is not there. -/
def children (t : Tree) (id : Nat) : List Nat := ((t.node? id).map (·.children)).getD []

/-- The template of a widget. -/
def template? (t : Tree) (id : Nat) : Option Template := (t.node? id).bind (·.kind.template?)

/-- The value of a property of a widget. -/
def property? (t : Tree) (id : Nat) (key : String) : Option String :=
  (t.node? id).bind fun n =>
    match n.kind with
    | .widget _ properties => lookupProperty key properties
    | .container _ _ => none

/-- The names of the children of a node. -/
def childNames (t : Tree) (id : Nat) : List String :=
  (t.children id).filterMap fun c => (t.node? c).map (·.name)

/-- The count of nodes below the root. -/
def size (t : Tree) : Nat := (t.slots.toList.filter Option.isSome).length - 1

/-- The child of a node that has a name. -/
def childNamed? (t : Tree) (id : Nat) (name : String) : Option Nat :=
  (t.children id).find? fun c => (t.node? c).any (·.name == name)

/-- The node at the end of a path of names below a node. -/
def walk (t : Tree) (id : Nat) : List String → Option Nat
  | [] => some id
  | name :: names => (t.childNamed? id name).bind fun c => t.walk c names

/-- The node at a path below the root; empty segments do not count. -/
def find? (t : Tree) (path : String) : Option Nat :=
  let names := ((Text.segments '/' path.toList).filter (· ≠ [])).map String.ofList
  t.walk root names

/-! ## Changes -/

/-- A panel of which the root alone is left, without children and laid out vertically. The
    root's bindings stay. -/
def clear (t : Tree) : Tree :=
  match t.node? root with
  | some r => ⟨#[some { r with children := [], kind := .container .vertical none }]⟩
  | none => t

/-- A new node at the end of a container's children, and its id. Its name is made different
    from its siblings' names. -/
def create (t : Tree) (parent : Nat) (spec : Spec) : Except HostFault (Nat × Tree) :=
  match t.node? parent with
  | some p =>
    if p.kind.isContainer then
      let id := t.slots.size
      let name := Naming.fresh (t.childNames parent) spec.name
      let node : Node := ⟨name, some parent, [], spec.x, spec.kind, []⟩
      let t := t.set parent (some { p with children := p.children ++ [id] })
      .ok (id, ⟨t.slots.push (some node)⟩)
    else .error (.notContainer parent)
  | none => .error (.notContainer parent)

/-- A binding of a node, in place of the one that had its target. -/
def bind (t : Tree) (id : Nat) (b : Binding) : Except HostFault Tree :=
  match t.node? id with
  | some n => .ok (t.set id (some { n with bindings := setBinding n.bindings b }))
  | none => .error (.noNode id)

/-- A property of a widget. -/
def assign (t : Tree) (id : Nat) (key value : String) : Except HostFault Tree :=
  match t.node? id with
  | some n =>
    match n.kind with
    | .widget template properties =>
      let kind := .widget template (setProperty key value properties)
      .ok (t.set id (some { n with kind := kind }))
    | .container _ _ => .error (.noProperties n.name)
  | none => .error (.noNode id)

/-- A panel without a node and all below it. `depth` bounds how far down they reach. -/
def remove : Nat → Tree → Nat → Tree
  | 0, t, _ => t
  | depth + 1, t, id =>
    match t.node? id with
    | none => t
    | some n => n.children.foldl (remove depth) (t.set id none)

/-- A panel without a node, all below it and its place among its siblings. The root stays. -/
def destroy (t : Tree) (id : Nat) : Except HostFault Tree :=
  if id = root then .error .rootDestroyed
  else
    match (t.node? id).bind (·.parent) with
    | none => .ok (t.remove t.slots.size id)
    | some parent =>
      match t.node? parent with
      | none => .error (.noNode parent)
      | some p =>
        let t := t.set parent (some { p with children := p.children.filter (· != id) })
        .ok (t.remove t.slots.size id)

/-! ## Views -/

/-- The lines of an outline for nodes and all below them. -/
def outlineFrom (t : Tree) : Nat → Nat → List Nat → List String
  | 0, _, _ => []
  | depth + 1, indent, ids =>
    ids.flatMap fun id =>
      match t.node? id with
      | none => []
      | some n =>
        (String.join (List.replicate indent "  ") ++ n.name ++ " [" ++ n.kind.outlineWord ++ "]")
          :: t.outlineFrom depth (indent + 1) n.children

/-- One line for each node below the root, in depth-first order, indented by depth. -/
def outline (t : Tree) : List String := t.outlineFrom t.slots.size 0 (t.children root)

end Tree

/-- A node with the nodes below it, without ids. -/
inductive Nested where
  | node (name : String) (x : Int64) (kind : Kind) (bindings : List Binding)
      (children : List Nested)

namespace Tree

/-- The nodes below given ones, nested, to a depth. -/
def nestedFrom (t : Tree) : Nat → List Nat → List Nested
  | 0, _ => []
  | depth + 1, ids =>
    ids.filterMap fun id =>
      (t.node? id).map fun n =>
        .node n.name n.x n.kind n.bindings (t.nestedFrom depth n.children)

/-- The panel as nested nodes, from the root on. -/
def nested (t : Tree) : Option Nested := (t.nestedFrom (t.slots.size + 1) [root]).head?

end Tree

end ControlSurface.Panel
