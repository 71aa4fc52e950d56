import ControlSurface.Description.Xml
import Mathlib.Data.List.Forall2

/- The resolution of XML descriptions. The layout of a document refers to widgets that are declared
   elsewhere under ids. Each function that resolves a part of a document has one lemma, which says
   both what the part becomes and where a failure is told to be (`Settles`).

   What is proved:
     1. `widget?_eq_some`: a reference stands for the widget that is declared last under its id.
     2. `items_settles`: the items of a group stand for its groups and references, one for one and
        in order (`Resolves`), and the address of a leaf among them is the path of labels to it.
     3. `ofRoot_settles`: so does a whole layout; and whatever is wrong with a document, apart from
        a type that no node has, is told with the position of one of its elements.
     4. `read_mirrors`: a text that is read becomes what mirrors the document in it. -/
namespace ControlSurface

/-! ## Results and failures -/

/-- A reader comes to a result of a kind or to a failure of a kind. -/
def Comes {ε α : Type} (Q : α → Prop) (F : ε → Prop) : Except ε α → Prop
  | .ok a => Q a
  | .error f => F f

namespace Comes
variable {ε α β : Type} {P Q : α → Prop} {R : β → Prop} {F G : ε → Prop} {r : Except ε α}

theorem ok {a : α} (h : Q a) : Comes Q F (.ok a) := h

theorem imp (h : Comes P F r) (hPQ : ∀ a, P a → Q a) : Comes Q F r := by
  cases r with
  | ok a => exact hPQ a h
  | error f => exact h

theorem imp_error (h : Comes Q F r) (hFG : ∀ f, F f → G f) : Comes Q G r := by
  cases r with
  | ok a => exact h
  | error f => exact hFG f h

/-- What follows a result is read on from the result; what follows a failure is the failure. -/
theorem bind {g : α → Except ε β} (h : Comes P F r) (hg : ∀ a, P a → Comes R F (g a)) :
    Comes R F (r >>= g) := by
  cases r with
  | ok a => exact hg a h
  | error f => exact h

theorem map {g : α → β} (h : Comes (fun a => R (g a)) F r) : Comes R F (r.map g) := by
  cases r with
  | ok a => exact h
  | error f => exact h

end Comes

namespace Xml.Element

/-! ## Elements below an element -/

theorem mem_flatten_self (e : Element) : e ∈ e.flatten := by
  rw [flatten_eq]
  exact List.mem_cons_self

theorem flatten_subset_flattenAll {e : Element} {es : List Element} (h : e ∈ es) :
    e.flatten ⊆ flattenAll es := by
  induction es with
  | nil => cases h
  | cons d es ih =>
    rw [flattenAll]
    rcases List.mem_cons.mp h with rfl | h
    · exact List.subset_append_left _ _
    · exact List.Subset.trans (ih h) (List.subset_append_right _ _)

/-- The elements below a child are below the element. -/
theorem flatten_subset_of_mem_children {d e : Element} (h : d ∈ e.children) :
    d.flatten ⊆ e.flatten := by
  rw [flatten_eq e]
  exact List.Subset.trans (flatten_subset_flattenAll h) (List.subset_cons_self _ _)

mutual

/-- The elements below an element below another one are below that one. -/
theorem flatten_subset_flatten {d : Element} : ∀ (e : Element), d ∈ e.flatten →
    d.flatten ⊆ e.flatten
  | ⟨name, attributes, text, children, position⟩, h => by
    rw [flatten] at h
    rcases List.mem_cons.mp h with rfl | h
    · exact List.Subset.refl _
    · rw [flatten]
      exact List.Subset.trans (flattenAll_subset_flattenAll children h) (List.subset_cons_self _ _)

theorem flattenAll_subset_flattenAll {d : Element} : ∀ (es : List Element), d ∈ flattenAll es →
    d.flatten ⊆ flattenAll es
  | [], h => by cases h
  | e :: es, h => by
    rw [flattenAll] at h ⊢
    rcases List.mem_append.mp h with h | h
    · exact List.Subset.trans (flatten_subset_flatten e h) (List.subset_append_left _ _)
    · exact List.Subset.trans (flattenAll_subset_flattenAll es h) (List.subset_append_right _ _)

end

theorem flattenAll_subset {ds es : List Element} (h : ∀ d ∈ ds, d.flatten ⊆ es) :
    flattenAll ds ⊆ es := by
  induction ds with
  | nil => exact List.nil_subset es
  | cons d ds ih =>
    obtain ⟨hd, hds⟩ := List.forall_mem_cons.mp h
    rw [flattenAll]
    exact List.append_subset.mpr ⟨hd, ih hds⟩

theorem flatten_subset_of_child? {c e : Element} {name : String} (h : e.child? name = some c) :
    c.flatten ⊆ e.flatten :=
  flatten_subset_of_mem_children (List.mem_of_find?_eq_some h)

/-- The children with a name of the first child with another name. -/
def grandchildren (e : Element) (child name : String) : List Element :=
  ((e.child? child).map (·.childrenNamed name)).getD []

theorem mem_grandchildren {d e : Element} {child name : String}
    (h : d ∈ e.grandchildren child name) : d.name = name ∧ d.flatten ⊆ e.flatten := by
  unfold grandchildren at h
  cases hchild : e.child? child with
  | none =>
    rw [hchild] at h
    cases h
  | some c =>
    rw [hchild] at h
    obtain ⟨hmem, hname⟩ := List.mem_filter.mp h
    exact ⟨beq_iff_eq.mp hname, List.Subset.trans (flatten_subset_of_mem_children hmem)
      (flatten_subset_of_child? hchild)⟩

end Xml.Element

namespace Description.Xml

open ControlSurface.Xml (Element readDocument)

/-! ## What a document stands for -/

/-- The widgets that are declared, in the order of declaration. -/
def declaredWidgets (ui : Element) : List Element :=
  ["activewidgets", "passivewidgets", "soundfilewidgets"].flatMap fun list =>
    ui.grandchildren list "widget"

/-- A widget is declared under an id, and no widget is after it. -/
def LastDeclared (ui : Element) (id : String) (w : Element) : Prop :=
  ∃ earlier later, declaredWidgets ui = earlier ++ w :: later ∧ w.attribute? "id" = some id ∧
    ∀ v ∈ later, v.attribute? "id" ≠ some id

/-- An element states a number in a child with a name. Without the child the number is zero. -/
inductive States (e : Element) (name : String) : Float → Prop where
  | absent : e.child? name = none → States e name 0.0
  | present {c : Element} {x : Float} :
    e.child? name = some c → Facet.read c.trimmedText = some x → States e name x

/-- An element has annotations: each is one of its `meta` children that have a key, with the text
    of the child, in their order. -/
def AnnotatedBy (e : Element) (info : Meta) : Prop :=
  List.Forall₂ (fun child entry =>
      child.attribute? "key" = some entry.1 ∧ child.trimmedText = entry.2)
    (e.children.filter fun child => child.name == "meta" && (child.attribute? "key").isSome)
    info.entries

/-- A widget converts to a leaf, which has the kind, the label, the numbers, the annotations and
    the file that the widget states. The address is no part of the widget. -/
inductive Converts (w : Element) : Node → Prop where
  | input {c : Input} : w.attribute? "type" = some c.kind.word → c.label = labelOf w →
    States w "min" c.range.min → States w "max" c.range.max → States w "step" c.range.step →
    States w "init" c.range.init → AnnotatedBy w c.info → Converts w (.input c)
  | output {c : Output} : w.attribute? "type" = some c.kind.word → c.label = labelOf w →
    States w "min" c.min → States w "max" c.max → AnnotatedBy w c.info → Converts w (.output c)
  | soundfile {s : Soundfile} : w.attribute? "type" = some "soundfile" → s.label = labelOf w →
    s.url = w.childText? "url" → Converts w (.soundfile s)

/-- Whether an element is an item of a group. -/
def isItem (e : Element) : Bool := e.name == "group" || e.name == "widgetref"

/-- An item of a layout resolves to a node: a group to a group of what its own items resolve to,
    a reference to what the widget converts to that is declared last under its id. -/
inductive Resolves (ui : Element) : Element → Node → Prop where
  | group {e : Element} {kind : GroupKind} {info : Meta} {items : List Node} : e.name = "group" →
    (e.attribute? "type").getD "vgroup" = kind.word → AnnotatedBy e info →
    List.Forall₂ (Resolves ui) (e.children.filter isItem) items →
    Resolves ui e (.group kind (labelOf e) info items)
  | reference {e w : Element} {id : String} {node : Node} : e.name = "widgetref" →
    e.attribute? "id" = some id → LastDeclared ui id w → Converts w node → Resolves ui e node

mutual

/-- The leaves of a node below a path of groups, each with the labels of the groups around it, the
    outermost first. -/
def leavesUnder (path : List String) : Node → List (List String × Node)
  | .group _ label _ items => leavesUnderAll (path ++ [label]) items
  | .input c => [(path, .input c)]
  | .output c => [(path, .output c)]
  | .soundfile s => [(path, .soundfile s)]

/-- The leaves of nodes below a path of groups. -/
def leavesUnderAll (path : List String) : List Node → List (List String × Node)
  | [] => []
  | node :: nodes => leavesUnder path node ++ leavesUnderAll path nodes

end

/-- Leaves have the labels on the way to them as their addresses, with a slash before each. -/
def Addressed (leaves : List (List String × Node)) : Prop :=
  ∀ p ∈ leaves, p.2.address? = some ("/" ++ "/".intercalate (p.1 ++ [p.2.label]))

/-- Nodes mirror a document: they are what the groups in the layout of its first user interface
    stand for, in order, and their leaves have the addresses that the layout gives them. -/
def Mirrors (nodes : List Node) (root : Element) : Prop :=
  ∃ ui, root.flatten.find? (·.name == "ui") = some ui ∧
    List.Forall₂ (Resolves ui) (ui.grandchildren "layout" "group") nodes ∧
    Addressed (leavesUnderAll [] nodes)

/-! ## Steps of the resolution -/

/-- A step of the resolution has a result of a kind, or its failure has no position or that of one
    of some elements. -/
abbrev Settles {α : Type} (es : List Element) (Q : α → Prop) : Except BuildError α → Prop :=
  Comes Q fun error => error.className = "ParseError" →
    ∃ e ∈ es, error.place = (e.position.line, e.position.column)

namespace Settles
variable {α : Type} {ds es : List Element} {Q : α → Prop}

/-- A failure is told with the position of an element. -/
theorem blame {e : Element} (he : e ∈ es) {fault : DescriptionFault}
    (h : fault.place = (e.position.line, e.position.column)) :
    Settles es Q (.error (.description fault)) := fun _ => ⟨e, he, h⟩

theorem among {r : Except BuildError α} (h : Settles ds Q r) (hsub : ds ⊆ es) :
    Settles es Q r := by
  refine h.imp_error fun error herror hclass => ?_
  obtain ⟨e, he, hplace⟩ := herror hclass
  exact ⟨e, hsub he, hplace⟩

end Settles

theorem kindOf_settles (es : List Element) (type : String) :
    Settles es (fun kind => type = kind.word) (kindOf type) := by
  unfold kindOf
  split
  · next kind h => exact .ok (NodeKind.ofWord?_eq_some_iff.mp h)
  · exact fun hclass => absurd hclass (by simp [BuildError.className])

theorem number_settles (e : Element) (name : String) :
    Settles e.flatten (States e name) (number e name) := by
  unfold number
  split
  · next habsent => exact .ok (.absent habsent)
  · next c hc =>
    split
    · next x hx => exact .ok (.present hc hx)
    · exact Settles.blame (Element.flatten_subset_of_child? hc (Element.mem_flatten_self c)) rfl

/-- No kind has an empty word, so a type that stands for a kind is there. -/
theorem type_eq_some {type : Option String} {kind : NodeKind} (h : type.getD "" = kind.word) :
    type = some kind.word := by
  cases type with
  | some word => exact congrArg some h
  | none =>
    have hwords : ∀ k ∈ NodeKind.all, k.word ≠ "" := by decide
    exact absurd h.symm (hwords kind (NodeKind.mem_all kind))

/-- What is read as the annotations of an element are its annotations. -/
theorem metaOf_annotates (e : Element) : AnnotatedBy e (metaOf e) := by
  rw [AnnotatedBy, metaOf, Element.childrenNamed]
  induction e.children with
  | nil => exact .nil
  | cons child children ih =>
    cases hname : child.name == "meta" with
    | false => simpa [hname] using ih
    | true =>
      cases hkey : child.attribute? "key" with
      | none => simpa [hname, hkey] using ih
      | some key => simpa [hname, hkey] using ih

theorem leaf_settles (path : List String) (w : Element) :
    Settles w.flatten (fun node => Converts w node ∧ Addressed (leavesUnder path node))
      (leaf path w) := by
  have haddress := addressOf_eq_intercalate path (labelOf w)
  refine .bind (kindOf_settles _ _) fun kind hkind => ?_
  have htype := type_eq_some hkind
  cases kind with
  | input kind =>
    refine .bind (number_settles w "min") fun min hmin => ?_
    refine .bind (number_settles w "max") fun max hmax => ?_
    refine .bind (number_settles w "step") fun step hstep => ?_
    refine .bind (number_settles w "init") fun init hinit => ?_
    refine .ok ⟨.input htype rfl hmin hmax hstep hinit (metaOf_annotates w), ?_⟩
    rw [leavesUnder, Addressed, List.forall_mem_singleton]
    exact congrArg some haddress
  | output kind =>
    refine .bind (number_settles w "min") fun min hmin => ?_
    refine .bind (number_settles w "max") fun max hmax => ?_
    refine .ok ⟨.output htype rfl hmin hmax (metaOf_annotates w), ?_⟩
    rw [leavesUnder, Addressed, List.forall_mem_singleton]
    exact congrArg some haddress
  | soundfile =>
    refine .ok ⟨.soundfile htype rfl rfl, ?_⟩
    rw [leavesUnder, Addressed, List.forall_mem_singleton]
    exact congrArg some haddress
  | group kind => exact Settles.blame (Element.mem_flatten_self w) rfl

/-! ## Declarations -/

theorem declarations_eq (ui : Element) :
    declarations ui = (declaredWidgets ui).filterMap fun w =>
      (w.attribute? "id").map fun id => (id, w) := by
  rw [declarations, declaredWidgets, List.filterMap_flatMap]
  refine List.flatMap_congr fun list _ => ?_
  unfold Element.grandchildren
  cases ui.child? list with
  | none => rfl
  | some l => rfl

/-- What is found under an id is the widget that is declared last under it. -/
theorem widget?_eq_some {ui : Element} {id : String} {w : Element}
    (h : widget? (declarations ui) id = some w) : LastDeclared ui id w := by
  rw [widget?, List.lookup_eq_some_iff] at h
  obtain ⟨later, earlier, hsplit, hlater⟩ := h
  have hdeclared := congrArg List.reverse hsplit
  rw [List.reverse_reverse, List.reverse_append, List.reverse_cons, List.append_assoc,
    List.singleton_append, declarations_eq, List.filterMap_eq_append_iff] at hdeclared
  obtain ⟨before, rest, hwidgets, -, hrest⟩ := hdeclared
  rw [List.filterMap_eq_cons_iff] at hrest
  obtain ⟨skipped, v, after, hafter, -, hv, hmore⟩ := hrest
  obtain ⟨id', hid', hpair⟩ := Option.map_eq_some_iff.mp hv
  cases hpair
  refine ⟨before ++ skipped, after, by rw [hwidgets, hafter, List.append_assoc], hid', ?_⟩
  intro x hx hxid
  have hmem : (id, x) ∈ later.reverse := by
    rw [← hmore, List.mem_filterMap]
    exact ⟨x, hx, by rw [hxid]; rfl⟩
  have hne := hlater _ (List.mem_reverse.mp hmem)
  simp at hne

/-- Whatever is declared stands in the document. -/
theorem LastDeclared.flatten_subset {ui : Element} {id : String} {w : Element}
    (h : LastDeclared ui id w) : w.flatten ⊆ ui.flatten := by
  obtain ⟨earlier, later, hsplit, -⟩ := h
  have hmem : w ∈ declaredWidgets ui := by
    rw [hsplit]
    exact List.mem_append_right _ List.mem_cons_self
  obtain ⟨list, -, hw⟩ := List.mem_flatMap.mp hmem
  exact (Element.mem_grandchildren hw).2

/-! ## Layouts -/

section
variable {ui : Element} {es : List Element}

theorem reference_settles (hui : ui.flatten ⊆ es) (path : List String) {e : Element}
    (hname : e.name = "widgetref") (he : e ∈ es) :
    Settles es (fun node => Resolves ui e node ∧ Addressed (leavesUnder path node))
      (reference (declarations ui) path e) := by
  unfold reference
  split
  · exact Settles.blame he rfl
  · next id hid =>
    split
    · exact Settles.blame he rfl
    · next w hw =>
      have hlast := widget?_eq_some hw
      have hsub := List.Subset.trans hlast.flatten_subset hui
      refine .imp (Settles.among (leaf_settles path w) hsub) ?_
      rintro node ⟨hconverts, haddressed⟩
      exact ⟨.reference hname hid hlast hconverts, haddressed⟩

mutual

theorem group_settles (hui : ui.flatten ⊆ es) (path : List String) : ∀ (e : Element),
    e.name = "group" → e.flatten ⊆ es →
    Settles es (fun node => Resolves ui e node ∧ Addressed (leavesUnder path node))
      (group (declarations ui) path e)
  | ⟨name, attributes, text, children, position⟩, hname, he => by
    have hself := he (Element.mem_flatten_self _)
    rw [Element.flatten] at he
    have hchildren := List.Subset.trans (List.subset_cons_self _ _) he
    rw [group]
    refine .bind (kindOf_settles _ _) fun kind hkind => ?_
    cases kind with
    | group kind =>
      refine .bind (items_settles hui _ children hchildren) ?_
      rintro nodes ⟨hresolves, haddressed⟩
      refine .ok ⟨.group hname hkind (metaOf_annotates _) hresolves, ?_⟩
      rw [leavesUnder]
      exact haddressed
    | input kind => exact Settles.blame hself rfl
    | output kind => exact Settles.blame hself rfl
    | soundfile => exact Settles.blame hself rfl

theorem items_settles (hui : ui.flatten ⊆ es) (path : List String) : ∀ (ds : List Element),
    Element.flattenAll ds ⊆ es →
    Settles es (fun nodes => List.Forall₂ (Resolves ui) (ds.filter isItem) nodes ∧
      Addressed (leavesUnderAll path nodes)) (items (declarations ui) path ds)
  | [], _ => by
    rw [items]
    refine .ok ⟨.nil, ?_⟩
    rw [leavesUnderAll]
    exact List.forall_mem_nil _
  | d :: ds, hds => by
    rw [Element.flattenAll, List.append_subset] at hds
    have hothers := items_settles hui path ds hds.2
    -- The node of an item stands before those of the items after it.
    have hitem : ∀ r : Except BuildError Node, isItem d = true →
        Settles es (fun node => Resolves ui d node ∧ Addressed (leavesUnder path node)) r →
        Settles es (fun nodes => List.Forall₂ (Resolves ui) ((d :: ds).filter isItem) nodes ∧
          Addressed (leavesUnderAll path nodes))
          (r >>= fun node => items (declarations ui) path ds >>= fun nodes =>
            .ok (node :: nodes)) := by
      intro r hd hr
      refine .bind hr ?_
      rintro node ⟨hnode, haddress⟩
      refine .bind hothers ?_
      rintro nodes ⟨hnodes, haddresses⟩
      refine .ok ⟨?_, ?_⟩
      · rw [List.filter_cons_of_pos hd]
        exact .cons hnode hnodes
      · rw [leavesUnderAll]
        exact List.forall_mem_append.mpr ⟨haddress, haddresses⟩
    rw [items]
    split
    · next hname =>
      exact hitem _ (by simp [isItem, hname]) (group_settles hui path d hname hds.1)
    · next hgroup =>
      split
      · next hname =>
        exact hitem _ (by simp [isItem, hname])
          (reference_settles hui path hname (hds.1 (Element.mem_flatten_self d)))
      · next hreference =>
        rw [List.filter_cons_of_neg (by simp [isItem, hgroup, hreference])]
        exact hothers

end

theorem layoutGroups_settles (hui : ui.flatten ⊆ es) : ∀ (gs : List Element),
    (∀ g ∈ gs, g.name = "group") → Element.flattenAll gs ⊆ es →
    Settles es (fun nodes => List.Forall₂ (Resolves ui) gs nodes ∧
      Addressed (leavesUnderAll [] nodes)) (layoutGroups (declarations ui) gs)
  | [], _, _ => by
    refine .ok ⟨.nil, ?_⟩
    rw [leavesUnderAll]
    exact List.forall_mem_nil _
  | g :: gs, hnames, hgs => by
    rw [Element.flattenAll, List.append_subset] at hgs
    obtain ⟨hname, hnames⟩ := List.forall_mem_cons.mp hnames
    refine .bind (group_settles hui [] g hname hgs.1) ?_
    rintro node ⟨hnode, haddress⟩
    refine .bind (layoutGroups_settles hui gs hnames hgs.2) ?_
    rintro nodes ⟨hnodes, haddresses⟩
    refine .ok ⟨.cons hnode hnodes, ?_⟩
    rw [leavesUnderAll]
    exact List.forall_mem_append.mpr ⟨haddress, haddresses⟩

end

/-- The root of a document becomes what mirrors the document. -/
theorem ofRoot_settles (root : Element) :
    Settles root.flatten (fun d => Mirrors d.nodes root) (ofRoot root) := by
  unfold ofRoot
  split
  · exact Settles.blame (Element.mem_flatten_self root) rfl
  · next ui hui =>
    have hsub : ui.flatten ⊆ root.flatten :=
      Element.flatten_subset_flatten root (List.mem_of_find?_eq_some hui)
    have hgroups : Element.flattenAll (ui.grandchildren "layout" "group") ⊆ root.flatten :=
      Element.flattenAll_subset fun g hg =>
        List.Subset.trans (Element.mem_grandchildren hg).2 hsub
    refine .bind (layoutGroups_settles hsub _
      (fun g hg => (Element.mem_grandchildren hg).1) hgroups) ?_
    intro nodes hnodes
    exact .ok ⟨ui, hui, hnodes⟩

/-- A text that is read becomes what mirrors the document in it: below the groups of the layout,
    each item of a group stands for a group or for the widget that is declared last under the id
    that is referred to, and the address of every leaf is the path of labels that leads to it. -/
theorem read_mirrors {text : String} {d : Description} (h : read text = .ok d) :
    ∃ root, readDocument text = .ok root ∧ Mirrors d.nodes root := by
  unfold read at h
  split at h
  · next root hroot =>
    have hsettles := ofRoot_settles root
    rw [h] at hsettles
    exact ⟨root, hroot, hsettles⟩
  · cases h

/-- A text with two widgets under one id, to which two groups refer. The outer group and the second
    widget have an annotation, and the widget has one without a key. -/
def repeatedId : List String :=
  ["<ui><activewidgets>", "<widget id=\x271\x27 type=\x27button\x27/>",
    "<widget id=\x271\x27 type=\x27checkbox\x27>", "<label>c</label>",
    "<meta key=\x27unit\x27> Hz </meta>", "<meta>led</meta></widget>",
    "</activewidgets><layout>", "<group><label>a</label>",
    "<meta key=\x27tooltip\x27>all</meta>", "<group><label>b</label>",
    "<widgetref id=\x271\x27/></group>", "<widgetref id=\x271\x27/></group>", "</layout></ui>"]

/-- The annotations of a node. -/
def annotationsOf : Node → List (String × String)
  | .group _ _ info _ => info.entries
  | .input c => c.info.entries
  | .output c => c.info.entries
  | .soundfile _ => []

/-- The leaves below nodes, with the labels around them and their addresses. -/
def outlineOf (nodes : List Node) : List (List String × NodeKind × Option String) :=
  (leavesUnderAll [] nodes).map fun p => (p.1, p.2.kind, p.2.address?)

/-- The annotations of nodes and of the nodes below them. -/
def notesOf (nodes : List Node) : List (String × List (String × String)) :=
  (Node.flattenAll nodes).map fun node => (node.label, annotationsOf node)

theorem nodes_repeatedId :
    (read (String.join repeatedId)).toOption.any (fun d =>
      outlineOf d.nodes = [(["a", "b"], .input .checkbox, some "/a/b/c"),
        (["a"], .input .checkbox, some "/a/c")] ∧
      notesOf d.nodes = [("a", [("tooltip", "all")]), ("b", []),
        ("c", [("unit", "Hz")]), ("c", [("unit", "Hz")])]) = true := by
  rw [read, readDocument, String.toList_join]
  simp only [repeatedId, List.flatMap_cons, List.flatMap_nil, String.reduceToList,
    List.cons_append, List.nil_append]
  decide +kernel

/-- The text is read, and each reference in it stands for the last widget of its id. -/
theorem read_mirrors_repeatedId :
    ∃ d, read (String.join repeatedId) = .ok d ∧
      (∃ root, readDocument (String.join repeatedId) = .ok root ∧ Mirrors d.nodes root) ∧
      outlineOf d.nodes = [(["a", "b"], .input .checkbox, some "/a/b/c"),
        (["a"], .input .checkbox, some "/a/c")] ∧
      notesOf d.nodes = [("a", [("tooltip", "all")]), ("b", []),
        ("c", [("unit", "Hz")]), ("c", [("unit", "Hz")])] := by
  have hnodes := nodes_repeatedId
  cases hread : read (String.join repeatedId) with
  | error error =>
    rw [hread] at hnodes
    cases hnodes
  | ok d =>
    rw [hread] at hnodes
    exact ⟨d, rfl, read_mirrors hread, of_decide_eq_true hnodes⟩

end Description.Xml

end ControlSurface
