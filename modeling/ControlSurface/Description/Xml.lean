import ControlSurface.Description.Basic
import ControlSurface.Description.Facet
import ControlSurface.Error
import ControlSurface.Xml.Reader

/- Descriptions written in XML. Widgets are declared once, in flat lists, under an id; the
   layout is a tree of groups that refer to widgets by id. A reference becomes a node of the
   tree like any other, and its address is the path of labels that leads to it. -/
namespace ControlSurface.Description.Xml

open ControlSurface.Xml (Element)

/-- The lists that declare widgets, in the order in which they are read. -/
def widgetLists : List String := ["activewidgets", "passivewidgets", "soundfilewidgets"]

/-- The declared widgets under their ids, in the order of declaration. -/
def declarations (ui : Element) : List (String × Element) :=
  widgetLists.flatMap fun list =>
    match ui.child? list with
    | none => []
    | some l =>
      (l.childrenNamed "widget").filterMap fun w => (w.attribute? "id").map fun id => (id, w)

/-- The widget under an id; the last declaration counts. -/
def widget? (declared : List (String × Element)) (id : String) : Option Element :=
  declared.reverse.lookup id

/-- The annotations of an element: its `meta` children that have a key. -/
def metaOf (e : Element) : Meta :=
  ⟨(e.childrenNamed "meta").filterMap fun m =>
    (m.attribute? "key").map fun key => (key, m.trimmedText)⟩

/-- The label of an element. -/
def labelOf (e : Element) : String := (e.childText? "label").getD ""

/-- The number in a child of an element; an absent child is zero. -/
def number (e : Element) (name : String) : Except BuildError Float :=
  match e.child? name with
  | none => .ok 0.0
  | some child =>
    match Facet.read child.trimmedText with
    | some x => .ok x
    | none => .error (.description (.badElementNumber name child.trimmedText child.position))

/-- The address of a leaf: a slash before the label of each group around it, the outermost
    first, and before its own. -/
def addressOf (path : List String) (label : String) : String :=
  String.join ((path ++ [label]).map ("/" ++ ·))

theorem addressOf_eq_intercalate (path : List String) (label : String) :
    addressOf path label = "/" ++ "/".intercalate (path ++ [label]) := by
  have hjoin : ∀ (s : String) (ss : List String),
      String.join ((s :: ss).map ("/" ++ ·)) = "/" ++ "/".intercalate (s :: ss) := by
    intro s ss
    induction ss generalizing s with
    | nil =>
      rw [List.map_cons, List.map_nil, String.join_cons, String.join_nil, String.append_empty,
        String.intercalate_singleton]
    | cons t ss ih =>
      rw [List.map_cons, String.join_cons, ih, String.intercalate_cons_cons]
      simp only [String.append_assoc]
  cases path with
  | nil => exact hjoin _ _
  | cons s path => exact hjoin _ _

/-- The kind that a type stands for. -/
def kindOf (type : String) : Except BuildError NodeKind :=
  match NodeKind.ofWord? type with
  | some kind => .ok kind
  | none => .error (.unknownWidget type)

/-- The leaf that a declared widget becomes below a path of groups. -/
def leaf (path : List String) (e : Element) : Except BuildError Node := do
  let type := (e.attribute? "type").getD ""
  let label := labelOf e
  let address := addressOf path label
  match ← kindOf type with
  | .input kind =>
    let min ← number e "min"
    let max ← number e "max"
    let step ← number e "step"
    let init ← number e "init"
    .ok (.input ⟨kind, label, address, ⟨min, max, step, init⟩, metaOf e⟩)
  | .output kind =>
    let min ← number e "min"
    let max ← number e "max"
    .ok (.output ⟨kind, label, address, min, max, metaOf e⟩)
  | .soundfile => .ok (.soundfile ⟨label, some address, e.childText? "url"⟩)
  | .group _ => .error (.description (.widgetOfGroupType type e.position))

/-- The leaf that a reference stands for. -/
def reference (declared : List (String × Element)) (path : List String) (e : Element) :
    Except BuildError Node :=
  match e.attribute? "id" with
  | none => .error (.description (.referenceWithoutId e.position))
  | some id =>
    match widget? declared id with
    | none => .error (.description (.unknownReference id e.position))
    | some w => leaf path w

mutual

/-- The node of a group element below a path of groups. -/
def group (declared : List (String × Element)) (path : List String) :
    Element → Except BuildError Node
  | ⟨name, attributes, text, children, position⟩ => do
    let e : Element := ⟨name, attributes, text, children, position⟩
    let type := (e.attribute? "type").getD "vgroup"
    match ← kindOf type with
    | .group kind =>
      let label := labelOf e
      let nodes ← items declared (path ++ [label]) children
      .ok (.group kind label (metaOf e) nodes)
    | _ => .error (.description (.groupOfOtherType type position))

/-- The nodes of the groups and references among elements; other elements are passed over. -/
def items (declared : List (String × Element)) (path : List String) :
    List Element → Except BuildError (List Node)
  | [] => .ok []
  | e :: es => do
    if e.name = "group" then
      let node ← group declared path e
      let nodes ← items declared path es
      .ok (node :: nodes)
    else if e.name = "widgetref" then
      let node ← reference declared path e
      let nodes ← items declared path es
      .ok (node :: nodes)
    else items declared path es

end

/-- The nodes of a layout: its groups, in order. -/
def layoutGroups (declared : List (String × Element)) : List Element →
    Except BuildError (List Node)
  | [] => .ok []
  | e :: es => do
    let node ← group declared [] e
    let nodes ← layoutGroups declared es
    .ok (node :: nodes)

/-- The count that a child of an element states, if it is a number below `2 ^ 32`. -/
def count? (e : Element) (name : String) : Option Nat :=
  (e.childText? name).bind fun text => Decimal.readNatural 10 (Nat.pow 2 32) text.toList

/-- The description that a document holds. -/
def ofRoot (root : Element) : Except BuildError Description := do
  match root.find? "ui" with
  | none => .error (.description (.missingUi root.position))
  | some ui =>
    let groups := ((ui.child? "layout").map (·.childrenNamed "group")).getD []
    let nodes ← layoutGroups (declarations ui) groups
    .ok ⟨root.childText? "name", count? root "inputs", count? root "outputs", metaOf root, nodes⟩

/-- Reads a description from an XML text. -/
def read (text : String) : Except BuildError Description :=
  match ControlSurface.Xml.readDocument text with
  | .ok root => ofRoot root
  | .error failure => .error (.description (.xml failure))

end ControlSurface.Description.Xml
