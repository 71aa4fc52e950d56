import ControlSurface.Proofs.Drafts
import ControlSurface.Proofs.MarkupReading

/- Layouts: drafts as XML documents. Each control is declared as a widget under its id, among the
   active or the passive ones and in any order; the layout has an element for each group, which
   refers to its controls by id (`IsDocument`). Blanks may stand around every text. A document
   says what it says wherever it stands (`IsDocument.alike`), so every text of a document of
   groups, whose controls have different ids, is read as what the groups mean
   (`Xml.read_draft`). -/
namespace ControlSurface

namespace Draft

mutual

/-- The controls of a draft under their ids. -/
def controls : Draft → List (String × ControlDraft)
  | control id c => [(id, c)]
  | group _ _ _ items => controlsOf items

/-- The controls of drafts under their ids. -/
def controlsOf : List Draft → List (String × ControlDraft)
  | [] => []
  | d :: ds => controls d ++ controlsOf ds

end

end Draft

namespace Description.Xml

open ControlSurface.Xml (Element)

/-! ## Documents -/

/-- What an element without children says: its name, its attributes, and its text without the
    blanks around it. -/
structure Plain where
  name : String
  attributes : List (String × String)
  text : String

/-- What an element says without its children. -/
def Plain.of (e : Element) : Plain := ⟨e.name, e.attributes, e.trimmedText⟩

/-- Elements without children that say something. -/
structure Say (ps : List Plain) (es : List Element) : Prop where
  words : es.map Plain.of = ps
  childless : ∀ e ∈ es, e.children = []

def labelPlain (label : TightText) : Plain := ⟨"label", [], label.text⟩

/-- The children for annotations. -/
def notePlains (notes : Notes) : List Plain :=
  notes.map fun note => ⟨"meta", [("key", note.1)], note.2.text⟩

/-- The child for a number, if it is there. -/
def numberPlains (name : String) (n : Option NumberText) : List Plain :=
  (n.map fun n => ⟨name, [], Text.trimmed n.text⟩).toList

/-- The children of the widget of a control. -/
def controlPlains (c : ControlDraft) : List Plain :=
  labelPlain c.label :: (numberPlains "min" c.min ++ (numberPlains "max" c.max ++
    (numberPlains "step" c.step ++ (numberPlains "init" c.init ++ notePlains c.notes))))

/-- An element that declares a control under an id. -/
structure IsWidget (p : String × ControlDraft) (e : Element) : Prop where
  name : e.name = "widget"
  type : e.attribute? "type" = some p.2.kind.nodeKind.word
  id : e.attribute? "id" = some p.1
  children : Say (controlPlains p.2) e.children

/-- An element that declares controls. -/
structure IsDeclaration (name : String) (ps : List (String × ControlDraft)) (e : Element) :
    Prop where
  name : e.name = name
  widgets : List.Forall₂ IsWidget ps e.children

mutual

/-- An element for a draft: a reference to a control, or a group with its items behind its label
    and its annotations. -/
def IsItem : Draft → Element → Prop
  | .control id _, e => e.name = "widgetref" ∧ e.attribute? "id" = some id ∧ e.children = []
  | .group kind label notes items, e =>
    e.name = "group" ∧ e.attribute? "type" = some kind.word ∧
      ∃ head tail, Say (labelPlain label :: notePlains notes) head ∧ AreItems items tail ∧
        e.children = head ++ tail

/-- Elements for drafts, one after the other. -/
def AreItems : List Draft → List Element → Prop
  | [], es => es = []
  | d :: ds, es => ∃ first rest, IsItem d first ∧ AreItems ds rest ∧ es = first :: rest

end

/-- The element of a user interface that consists of groups. -/
def IsUi (groups : List Draft) (ui : Element) : Prop :=
  ∃ active passive actives passives layout, (active ++ passive).Perm (Draft.controlsOf groups) ∧
    IsDeclaration "activewidgets" active actives ∧
    IsDeclaration "passivewidgets" passive passives ∧
    layout.name = "layout" ∧ AreItems groups layout.children ∧
    ui.name = "ui" ∧ ui.children = [actives, passives, layout]

/-- The root of a document of groups. -/
def IsDocument (groups : List Draft) (root : Element) : Prop :=
  root.name = "faust" ∧ ∃ ui, IsUi groups ui ∧ root.children = [ui]

/-! ## Places do not count -/

theorem Plain.of_unplaced (e : Element) : Plain.of e.unplaced = Plain.of e := by
  obtain ⟨name, attributes, text, children, position⟩ := e
  rw [Element.unplaced]
  rfl

section
variable {e e' : Element} {es es' : List Element}

theorem attribute?_alike (h : e'.unplaced = e.unplaced) (name : String) :
    e'.attribute? name = e.attribute? name := by
  rw [Element.attribute?, (Element.unplaced_eq_iff.mp h).2.1, Element.attribute?]

theorem children_eq_nil_alike (h : e'.unplaced = e.unplaced) (hnil : e.children = []) :
    e'.children = [] := by
  have hchildren := (Element.unplaced_eq_iff.mp h).2.2.2
  rw [hnil] at hchildren
  exact List.map_eq_nil_iff.mp hchildren

theorem Say.alike {ps : List Plain} (hsay : Say ps es)
    (h : es'.map Element.unplaced = es.map Element.unplaced) : Say ps es' where
  words := by
    have hwords : ∀ xs : List Element,
        xs.map Plain.of = (xs.map Element.unplaced).map Plain.of := by
      intro xs
      rw [List.map_map]
      exact List.map_congr_left fun x _ => (Plain.of_unplaced x).symm
    rw [hwords, h, ← hwords]
    exact hsay.words
  childless := by
    intro x hx
    have hmem := List.mem_map_of_mem (f := Element.unplaced) hx
    rw [h] at hmem
    obtain ⟨y, hy, hyx⟩ := List.mem_map.mp hmem
    exact children_eq_nil_alike hyx.symm (hsay.childless y hy)

theorem IsWidget.alike {p : String × ControlDraft} (hwidget : IsWidget p e)
    (h : e'.unplaced = e.unplaced) : IsWidget p e' where
  name := (Element.unplaced_eq_iff.mp h).1.trans hwidget.name
  type := (attribute?_alike h _).trans hwidget.type
  id := (attribute?_alike h _).trans hwidget.id
  children := hwidget.children.alike (Element.unplaced_eq_iff.mp h).2.2.2

theorem areWidgets_alike {ps : List (String × ControlDraft)}
    (hwidgets : List.Forall₂ IsWidget ps es) :
    ∀ {es' : List Element}, es'.map Element.unplaced = es.map Element.unplaced →
      List.Forall₂ IsWidget ps es' := by
  induction hwidgets with
  | nil =>
    intro es' h
    rw [List.map_eq_nil_iff.mp h]
    exact .nil
  | cons hwidget _ ih =>
    intro es' h
    obtain ⟨x, xs, rfl, hx, hxs⟩ := List.map_eq_cons_iff.mp h
    exact .cons (hwidget.alike hx) (ih hxs)

theorem IsDeclaration.alike {name : String} {ps : List (String × ControlDraft)}
    (hdeclaration : IsDeclaration name ps e) (h : e'.unplaced = e.unplaced) :
    IsDeclaration name ps e' where
  name := (Element.unplaced_eq_iff.mp h).1.trans hdeclaration.name
  widgets := areWidgets_alike hdeclaration.widgets (Element.unplaced_eq_iff.mp h).2.2.2

end

mutual

theorem isItem_alike : ∀ (d : Draft) {e e' : Element}, IsItem d e → e'.unplaced = e.unplaced →
    IsItem d e'
  | .control id c, e, e', hitem, h => by
    rw [IsItem] at hitem ⊢
    exact ⟨(Element.unplaced_eq_iff.mp h).1.trans hitem.1, (attribute?_alike h _).trans hitem.2.1,
      children_eq_nil_alike h hitem.2.2⟩
  | .group kind label notes items, e, e', hitem, h => by
    rw [IsItem] at hitem ⊢
    obtain ⟨hname, htype, head, tail, hhead, htail, hchildren⟩ := hitem
    have hsplit := (Element.unplaced_eq_iff.mp h).2.2.2
    rw [hchildren, List.map_append, List.map_eq_append_iff] at hsplit
    obtain ⟨head', tail', hchildren', hhead', htail'⟩ := hsplit
    exact ⟨(Element.unplaced_eq_iff.mp h).1.trans hname, (attribute?_alike h _).trans htype,
      head', tail', hhead.alike hhead', areItems_alike items htail htail', hchildren'⟩

theorem areItems_alike : ∀ (ds : List Draft) {es es' : List Element}, AreItems ds es →
    es'.map Element.unplaced = es.map Element.unplaced → AreItems ds es'
  | [], es, es', hitems, h => by
    rw [AreItems] at hitems ⊢
    rw [hitems] at h
    exact List.map_eq_nil_iff.mp h
  | d :: ds, es, es', hitems, h => by
    rw [AreItems] at hitems ⊢
    obtain ⟨first, rest, hfirst, hrest, rfl⟩ := hitems
    obtain ⟨first', rest', rfl, hfirst', hrest'⟩ := List.map_eq_cons_iff.mp h
    exact ⟨first', rest', isItem_alike d hfirst hfirst', areItems_alike ds hrest hrest', rfl⟩

end

theorem IsUi.alike {groups : List Draft} {ui ui' : Element} (hui : IsUi groups ui)
    (h : ui'.unplaced = ui.unplaced) : IsUi groups ui' := by
  obtain ⟨active, passive, actives, passives, layout, hperm, hactives, hpassives, hlayout, hitems,
    hname, hchildren⟩ := hui
  obtain ⟨hname', -, -, hchildren'⟩ := Element.unplaced_eq_iff.mp h
  rw [hchildren] at hchildren'
  obtain ⟨actives', rest, hsplit, hactives', hrest⟩ := List.map_eq_cons_iff.mp hchildren'
  obtain ⟨passives', rest, rfl, hpassives', hrest⟩ := List.map_eq_cons_iff.mp hrest
  obtain ⟨layout', rest, rfl, hlayout', hrest⟩ := List.map_eq_cons_iff.mp hrest
  obtain rfl := List.map_eq_nil_iff.mp hrest
  obtain ⟨hlayoutName, -, -, hlayoutChildren⟩ := Element.unplaced_eq_iff.mp hlayout'
  exact ⟨active, passive, actives', passives', layout', hperm, hactives.alike hactives',
    hpassives.alike hpassives', hlayoutName.trans hlayout,
    areItems_alike groups hitems hlayoutChildren, hname'.trans hname, hsplit⟩

/-- What a document says does not depend on the places in it. -/
theorem IsDocument.alike {groups : List Draft} {root root' : Element}
    (hroot : IsDocument groups root) (h : root'.unplaced = root.unplaced) :
    IsDocument groups root' := by
  obtain ⟨hname, ui, hui, hchildren⟩ := hroot
  obtain ⟨hname', -, -, hchildren'⟩ := Element.unplaced_eq_iff.mp h
  rw [hchildren] at hchildren'
  obtain ⟨ui', rest, hsplit, hui', hrest⟩ := List.map_eq_cons_iff.mp hchildren'
  obtain rfl := List.map_eq_nil_iff.mp hrest
  exact ⟨hname'.trans hname, ui', hui.alike hui', hsplit⟩

/-! ## Levels -/

theorem Say.levels {ps : List Plain} {es : List Element} (h : Say ps es) :
    Element.levelsOf es ≤ 1 := by
  rw [Element.levelsOf_le_iff]
  intro e he
  rw [Element.levels_eq, h.childless e he]
  rfl

theorem IsDeclaration.levels {name : String} {ps : List (String × ControlDraft)} {e : Element}
    (h : IsDeclaration name ps e) : e.levels ≤ 3 := by
  have hwidgets : ∀ {ps : List (String × ControlDraft)} {es : List Element},
      List.Forall₂ IsWidget ps es → Element.levelsOf es ≤ 2 := by
    intro ps es hes
    induction hes with
    | nil => exact Nat.zero_le _
    | @cons p e ps es he _ ih =>
      have hchildren := he.children.levels
      rw [Element.levelsOf, Element.levels_eq]
      omega
  have hchildren := hwidgets h.widgets
  rw [Element.levels_eq]
  omega

mutual

theorem levels_item : ∀ (d : Draft) {e : Element}, IsItem d e → e.levels ≤ d.depth + 1
  | .control id c, e, h => by
    rw [IsItem] at h
    rw [Element.levels_eq, h.2.2]
    exact Nat.le_refl _
  | .group kind label notes items, e, h => by
    rw [IsItem] at h
    obtain ⟨-, -, head, tail, hhead, htail, hchildren⟩ := h
    have hheadLevels := hhead.levels
    have htailLevels := levels_items items htail
    rw [Element.levels_eq, hchildren, Element.levelsOf_append, Draft.depth]
    omega

theorem levels_items : ∀ (ds : List Draft) {es : List Element}, AreItems ds es →
    Element.levelsOf es ≤ Draft.depthOf ds + 1
  | [], es, h => by
    rw [AreItems] at h
    rw [h]
    exact Nat.zero_le _
  | d :: ds, es, h => by
    rw [AreItems] at h
    obtain ⟨first, rest, hfirst, hrest, rfl⟩ := h
    have hfirstLevels := levels_item d hfirst
    have hrestLevels := levels_items ds hrest
    rw [Element.levelsOf, Draft.depthOf]
    omega

end

/-- A document has four levels more than its groups. -/
theorem IsDocument.levels {groups : List Draft} {root : Element} (h : IsDocument groups root) :
    root.levels ≤ Draft.depthOf groups + 5 := by
  obtain ⟨-, ui, ⟨active, passive, actives, passives, layout, -, hactives, hpassives, -, hitems, -,
    hui⟩, hroot⟩ := h
  have hactiveLevels := hactives.levels
  have hpassiveLevels := hpassives.levels
  have hlayoutLevels := levels_items groups hitems
  have hlayout := Element.levels_eq layout
  rw [Element.levels_eq, hroot, Element.levelsOf, Element.levels_eq, hui]
  simp only [Element.levelsOf]
  omega

/-! ## Widgets mean controls -/

theorem addressOf_eq (path : List String) (c : ControlDraft) :
    addressOf path c.label.text = c.address path :=
  addressOf_eq_intercalate path c.label.text

theorem childText?_eq (e : Element) (name : String) :
    e.childText? name = ((e.children.map Plain.of).find? (·.name == name)).map Plain.text := by
  rw [List.find?_map, Option.map_map]
  rfl

theorem metaOf_eq (e : Element) :
    metaOf e = ⟨((e.children.map Plain.of).filter (·.name == "meta")).filterMap fun p =>
      (p.attributes.lookup "key").map fun key => (key, p.text)⟩ := by
  rw [List.filter_map, List.filterMap_map]
  rfl

/-- The number of a child is what its text is read as. -/
theorem number_ok {e : Element} {name : String} {n : Option NumberText}
    (h : (e.children.map Plain.of).find? (·.name == name) =
      n.map fun n => ⟨name, [], Text.trimmed n.text⟩) :
    number e name = .ok (NumberText.valueOf n) := by
  rw [List.find?_map] at h
  change (e.child? name).map Plain.of = _ at h
  rw [number]
  cases n with
  | none =>
    rw [Option.map_eq_none_iff.mp h]
    rfl
  | some n =>
    obtain ⟨child, hchild, hof⟩ := Option.map_eq_some_iff.mp h
    have htext : child.trimmedText = Text.trimmed n.text := congrArg Plain.text hof
    rw [hchild]
    dsimp only
    rw [htext, n.reads_trimmed]
    rfl

theorem find?_numberPlains (name other : String) (n : Option NumberText) :
    (numberPlains other n).find? (·.name == name) =
      if other = name then n.map fun n => ⟨name, [], Text.trimmed n.text⟩ else none := by
  cases n with
  | none =>
    rw [Option.map_none, ite_self]
    rfl
  | some n =>
    by_cases h : other = name
    · subst h
      rw [if_pos rfl]
      exact List.find?_cons_of_pos (beq_self_eq_true other)
    · rw [if_neg h]
      exact List.find?_cons_of_neg (by simpa using h)

theorem find?_notePlains {name : String} (h : name ≠ "meta") (notes : Notes) :
    (notePlains notes).find? (·.name == name) = none := by
  rw [List.find?_eq_none]
  intro p hp
  obtain ⟨note, -, rfl⟩ := List.mem_map.mp hp
  exact ne_true_of_eq_false (beq_false_of_ne h.symm)

theorem filter_numberPlains {name : String} (h : name ≠ "meta") (n : Option NumberText) :
    (numberPlains name n).filter (·.name == "meta") = [] := by
  rw [List.filter_eq_nil_iff]
  intro p hp
  cases n with
  | none => cases hp
  | some n =>
    obtain rfl := List.mem_singleton.mp hp
    exact ne_true_of_eq_false (beq_false_of_ne h)

theorem filter_notePlains (notes : Notes) :
    (notePlains notes).filter (·.name == "meta") = notePlains notes := by
  rw [List.filter_eq_self]
  intro p hp
  obtain ⟨note, -, rfl⟩ := List.mem_map.mp hp
  rfl

/-- The annotations of an element are those of the children for annotations. -/
theorem metaOf_ok {e : Element} {notes : Notes}
    (h : (e.children.map Plain.of).filter (·.name == "meta") = notePlains notes) :
    metaOf e = notes.info := by
  rw [metaOf_eq, h, notePlains, List.filterMap_map, Notes.info, ← List.filterMap_eq_map]
  rfl

section
variable {p : String × ControlDraft} {e : Element}

theorem IsWidget.labelOf (h : IsWidget p e) : labelOf e = p.2.label.text := by
  rw [Xml.labelOf, childText?_eq, h.children.words]
  rfl

theorem IsWidget.metaOf (h : IsWidget p e) : metaOf e = p.2.notes.info := by
  apply metaOf_ok
  rw [h.children.words]
  simp [controlPlains, labelPlain, filter_numberPlains, filter_notePlains]

theorem IsWidget.number (h : IsWidget p e) :
    number e "min" = .ok (NumberText.valueOf p.2.min) ∧
      number e "max" = .ok (NumberText.valueOf p.2.max) ∧
      number e "step" = .ok (NumberText.valueOf p.2.step) ∧
      number e "init" = .ok (NumberText.valueOf p.2.init) := by
  refine ⟨number_ok ?_, number_ok ?_, number_ok ?_, number_ok ?_⟩
  all_goals
    rw [h.children.words]
    simp [controlPlains, labelPlain, find?_numberPlains, find?_notePlains]

theorem kindOf_word (kind : NodeKind) : kindOf kind.word = .ok kind := by
  rw [kindOf, NodeKind.ofWord?_word]

/-- The widget of a control becomes its node, wherever it is referred to. -/
theorem IsWidget.leaf (h : IsWidget p e) (path : List String) :
    leaf path e = .ok (p.2.node path) := by
  obtain ⟨id, c⟩ := p
  obtain ⟨hmin, hmax, hstep, hinit⟩ := h.number
  rw [Xml.leaf, h.type, h.labelOf, h.metaOf, addressOf_eq, hmin, hmax, hstep, hinit]
  dsimp only [Option.getD_some]
  rw [kindOf_word]
  obtain ⟨kind, label, min, max, step, init, notes⟩ := c
  cases kind with
  | input kind => rfl
  | output kind => rfl

end

/-! ## Declarations -/

/-- Declared widgets in which each of some controls is found under its id. -/
def Declares (declared : List (String × Element)) (ps : List (String × ControlDraft)) : Prop :=
  ∀ p ∈ ps, ∃ e, widget? declared p.1 = some e ∧ IsWidget p e

/-- The widgets among elements under their ids. -/
def declaredIn (es : List Element) : List (String × Element) :=
  (es.filter (·.name == "widget")).filterMap fun w => (w.attribute? "id").map fun id => (id, w)

/-- What is declared is what the controls are declared as. -/
theorem declaredIn_widgets {ps : List (String × ControlDraft)} {es : List Element}
    (h : List.Forall₂ IsWidget ps es) :
    List.Forall₂ (fun p d => p.1 = d.1 ∧ IsWidget p d.2) ps (declaredIn es) := by
  induction h with
  | nil => exact .nil
  | @cons p e ps es he _ ih =>
    have hname : (e.name == "widget") = true := beq_iff_eq.mpr he.name
    rw [declaredIn, List.filter_cons, if_pos hname, List.filterMap_cons, he.id]
    exact .cons ⟨rfl, he⟩ ih

theorem exists_of_mem_left {α β : Type} {R : α → β → Prop} {as : List α} {bs : List β}
    (h : List.Forall₂ R as bs) {a : α} (ha : a ∈ as) : ∃ b ∈ bs, R a b := by
  induction h with
  | nil => cases ha
  | @cons a' b as bs hab _ ih =>
    rcases List.mem_cons.mp ha with rfl | ha
    · exact ⟨b, List.mem_cons_self, hab⟩
    · obtain ⟨b', hb', hab'⟩ := ih ha
      exact ⟨b', List.mem_cons_of_mem _ hb', hab'⟩

theorem lookup_eq_some_of_mem {α : Type} {l : List (String × α)} (hnodup : (l.map Prod.fst).Nodup)
    {k : String} {a : α} (h : (k, a) ∈ l) : l.lookup k = some a := by
  obtain ⟨before, after, rfl⟩ := List.append_of_mem h
  rw [List.lookup_eq_some_iff]
  refine ⟨before, after, rfl, fun p hp => ?_⟩
  rw [List.map_append, List.nodup_append] at hnodup
  exact bne_iff_ne.mpr (hnodup.2.2 p.1 (List.mem_map_of_mem hp) k List.mem_cons_self).symm

/-- Each control of a document is found under its id, if the ids differ. -/
theorem IsUi.declares {groups : List Draft} {ui : Element} (h : IsUi groups ui)
    (hids : ((Draft.controlsOf groups).map Prod.fst).Nodup) :
    Declares (declarations ui) (Draft.controlsOf groups) := by
  obtain ⟨active, passive, actives, passives, layout, hperm, hactives, hpassives, hlayout, -, -,
    hchildren⟩ := h
  have hdeclarations : declarations ui =
      declaredIn actives.children ++ declaredIn passives.children := by
    have hlists : ui.child? "activewidgets" = some actives ∧
        ui.child? "passivewidgets" = some passives ∧ ui.child? "soundfilewidgets" = none := by
      simp [Element.child?, hchildren, hactives.name, hpassives.name, hlayout]
    rw [declarations, widgetLists, List.flatMap_cons, List.flatMap_cons, List.flatMap_cons,
      hlists.1, hlists.2.1, hlists.2.2]
    exact congrArg _ (List.append_nil _)
  have hdeclared : List.Forall₂ (fun p d => p.1 = d.1 ∧ IsWidget p d.2) (active ++ passive)
      (declarations ui) := by
    rw [hdeclarations]
    exact List.rel_append (declaredIn_widgets hactives.widgets)
      (declaredIn_widgets hpassives.widgets)
  have hnodup : ((declarations ui).map Prod.fst).Nodup := by
    have hkeys : List.Forall₂ (· = ·) ((active ++ passive).map Prod.fst)
        ((declarations ui).map Prod.fst) := by
      rw [List.forall₂_map_left_iff, List.forall₂_map_right_iff]
      exact hdeclared.imp fun _ _ h => h.1
    rw [List.forall₂_eq_eq_eq] at hkeys
    rw [← hkeys]
    exact (hperm.map Prod.fst).nodup_iff.mpr hids
  intro p hp
  obtain ⟨d, hd, hid, hwidget⟩ := exists_of_mem_left hdeclared (hperm.mem_iff.mpr hp)
  refine ⟨d.2, ?_, hwidget⟩
  rw [widget?]
  apply lookup_eq_some_of_mem
  · rw [List.map_reverse]
    exact List.pairwise_reverse.mpr (hnodup.imp Ne.symm)
  · rw [List.mem_reverse, hid]
    exact hd

/-! ## Layouts mean groups -/

/-- What the element of a draft is called. -/
def itemName : Draft → String
  | .control _ _ => "widgetref"
  | .group _ _ _ _ => "group"

theorem IsItem.name : ∀ {d : Draft} {e : Element}, IsItem d e → e.name = itemName d
  | .control _ _, e, h => by
    rw [IsItem] at h
    exact h.1
  | .group _ _ _ _, e, h => by
    rw [IsItem] at h
    exact h.1

/-- What holds of the element of each draft holds of all of the elements. -/
theorem AreItems.forall_mem {P : Element → Prop} : ∀ {ds : List Draft} {es : List Element},
    AreItems ds es → (∀ d ∈ ds, ∀ e, IsItem d e → P e) → ∀ e ∈ es, P e
  | [], es, h, _ => by
    rw [AreItems] at h
    rw [h]
    exact List.forall_mem_nil _
  | d :: ds, es, h, hitem => by
    rw [AreItems] at h
    obtain ⟨first, rest, hfirst, hrest, rfl⟩ := h
    rw [List.forall_mem_cons] at hitem
    exact List.forall_mem_cons.mpr ⟨hitem.1 first hfirst, hrest.forall_mem hitem.2⟩

/-- What a group says before its items is no item. -/
theorem items_append {head tail : List Element} {label : TightText} {notes : Notes}
    (h : Say (labelPlain label :: notePlains notes) head) (declared : List (String × Element))
    (path : List String) : items declared path (head ++ tail) = items declared path tail := by
  have hnames : ∀ e ∈ head, e.name = "label" ∨ e.name = "meta" := by
    intro e he
    have hmem := List.mem_map_of_mem (f := Plain.of) he
    rw [h.words, List.mem_cons] at hmem
    rcases hmem with heq | hmem
    · exact .inl (congrArg Plain.name heq)
    · obtain ⟨note, -, heq⟩ := List.mem_map.mp hmem
      exact .inr (congrArg Plain.name heq).symm
  clear h
  induction head with
  | nil => rfl
  | cons e head ih =>
    rw [List.forall_mem_cons] at hnames
    have hgroup : e.name ≠ "group" := by rcases hnames.1 with h | h <;> rw [h] <;> decide
    have hreference : e.name ≠ "widgetref" := by rcases hnames.1 with h | h <;> rw [h] <;> decide
    rw [List.cons_append, items, if_neg hgroup, if_neg hreference]
    exact ih hnames.2

/-- What a group says of itself is what its draft says. -/
theorem group_words {head tail : List Element} {label : TightText} {notes : Notes}
    {items : List Draft} {e : Element} (hhead : Say (labelPlain label :: notePlains notes) head)
    (htail : AreItems items tail) (he : e.children = head ++ tail) :
    labelOf e = label.text ∧ metaOf e = notes.info := by
  have hwords : e.children.map Plain.of =
      (labelPlain label :: notePlains notes) ++ tail.map Plain.of := by
    rw [he, List.map_append, hhead.words]
  have hitems : (tail.map Plain.of).filter (·.name == "meta") = [] := by
    rw [List.filter_eq_nil_iff, List.forall_mem_map]
    refine htail.forall_mem fun d _ e h => ?_
    rw [show (Plain.of e).name = e.name from rfl, h.name]
    cases d with
    | control id c => exact ne_true_of_eq_false rfl
    | group kind label notes items => exact ne_true_of_eq_false rfl
  constructor
  · rw [labelOf, childText?_eq, hwords]
    rfl
  · apply metaOf_ok
    rw [hwords, List.filter_append, hitems, List.append_nil]
    exact filter_notePlains notes

/-- How the element of a draft is read. -/
def readItem (declared : List (String × Element)) (path : List String) :
    Draft → Element → Except BuildError Node
  | .control _ _, e => reference declared path e
  | .group _ _ _ _, e => group declared path e

/-- The items of a group are read one after the other. -/
theorem items_cons {d : Draft} {e : Element} (h : IsItem d e) (declared : List (String × Element))
    (path : List String) (es : List Element) :
    items declared path (e :: es) = (readItem declared path d e).bind fun node =>
      (items declared path es).map (node :: ·) := by
  have hbind : ∀ r : Except BuildError Node, (r.bind fun node => (items declared path es).bind
      fun nodes => .ok (node :: nodes)) =
        r.bind fun node => (items declared path es).map (node :: ·) := by
    intro r
    cases r with
    | error f => rfl
    | ok node => exact ControlSurface.Xml.bind_ok_eq_map _ _
  rw [items, h.name]
  cases d with
  | control id c =>
    rw [itemName, if_neg (by decide), if_pos rfl]
    exact hbind _
  | group kind label notes ds =>
    rw [itemName, if_pos rfl]
    exact hbind _

mutual

theorem readItem_ok {declared : List (String × Element)} : ∀ (d : Draft) {e : Element}
    (path : List String), IsItem d e → Declares declared d.controls →
    readItem declared path d e = .ok (d.node path)
  | .control id c, e, path, h, hdeclares => by
    rw [IsItem] at h
    obtain ⟨w, hw, hwidget⟩ := hdeclares (id, c) (List.mem_singleton.mpr rfl)
    rw [readItem, reference, h.2.1]
    dsimp only
    rw [hw, Draft.node]
    exact hwidget.leaf path
  | .group kind label notes ds, e, path, h, hdeclares => by
    rw [IsItem] at h
    obtain ⟨-, htype, head, tail, hhead, htail, hchildren⟩ := h
    obtain ⟨hlabel, hinfo⟩ := group_words hhead htail hchildren
    have hitems := items_ok ds (path ++ [label.text]) htail hdeclares
    obtain ⟨name, attributes, text, children, position⟩ := e
    obtain rfl : children = head ++ tail := hchildren
    rw [readItem, group, Draft.node]
    dsimp only
    rw [htype, Option.getD_some, show kind.word = (NodeKind.group kind).word from rfl, kindOf_word]
    dsimp only [bind, Except.bind]
    rw [hlabel, items_append hhead, hitems, hinfo]

theorem items_ok {declared : List (String × Element)} : ∀ (ds : List Draft) {es : List Element}
    (path : List String), AreItems ds es → Declares declared (Draft.controlsOf ds) →
    items declared path es = .ok (Draft.nodes path ds)
  | [], es, path, h, _ => by
    rw [AreItems] at h
    rw [h, items, Draft.nodes]
  | d :: ds, es, path, h, hdeclares => by
    rw [AreItems] at h
    obtain ⟨first, rest, hfirst, hrest, rfl⟩ := h
    have hboth := List.forall_mem_append.mp hdeclares
    rw [items_cons hfirst, readItem_ok d path hfirst hboth.1, Draft.nodes]
    exact congrArg (Except.map (d.node path :: ·)) (items_ok ds path hrest hboth.2)

end

/-- Groups at the top of a layout are read one after the other. -/
theorem layoutGroups_ok {declared : List (String × Element)} : ∀ {groups : List Draft}
    {es : List Element}, (∀ d ∈ groups, d.isGroup = true) → AreItems groups es →
    Declares declared (Draft.controlsOf groups) →
    layoutGroups declared es = .ok (Draft.nodes [] groups)
  | [], es, _, h, _ => by
    rw [AreItems] at h
    rw [h, layoutGroups, Draft.nodes]
  | .control id c :: groups, es, hgroups, _, _ => by
    cases (List.forall_mem_cons.mp hgroups).1
  | .group kind label notes ds :: groups, es, hgroups, h, hdeclares => by
    rw [AreItems] at h
    obtain ⟨first, rest, hfirst, hrest, rfl⟩ := h
    have hboth := List.forall_mem_append.mp hdeclares
    have hnode : group declared [] first = _ := readItem_ok _ [] hfirst hboth.1
    rw [layoutGroups, hnode, Draft.nodes]
    dsimp only [bind, Except.bind]
    rw [layoutGroups_ok (List.forall_mem_cons.mp hgroups).2 hrest hboth.2]

/-- The root of a document of groups means what the groups mean. -/
theorem ofRoot_ok {groups : List Draft} {root : Element} (hgroups : ∀ d ∈ groups, d.isGroup = true)
    (hids : ((Draft.controlsOf groups).map Prod.fst).Nodup) (hroot : IsDocument groups root) :
    ofRoot root = .ok (Draft.description groups) := by
  obtain ⟨hname, ui, hui, hchildren⟩ := hroot
  have hdeclares := hui.declares hids
  obtain ⟨active, passive, actives, passives, layout, -, hactives, hpassives, hlayout, hitems,
    huiName, huiChildren⟩ := hui
  have hfind : root.find? "ui" = some ui := by
    have hroot : ¬(root.name == "ui") = true := by rw [hname]; decide
    have hui : (ui.name == "ui") = true := beq_iff_eq.mpr huiName
    rw [Element.find?, Element.flatten_eq, hchildren, Element.flattenAll, Element.flatten_eq,
      List.find?_cons, List.cons_append, List.find?_cons]
    simp only [hroot, hui]
  have hchild : ui.child? "layout" = some layout := by
    simp [Element.child?, huiChildren, hactives.name, hpassives.name, hlayout]
  have hall : layout.childrenNamed "group" = layout.children := by
    rw [Element.childrenNamed, List.filter_eq_self]
    refine hitems.forall_mem fun d hd e he => beq_iff_eq.mpr ?_
    have hgroup := hgroups d hd
    rw [he.name]
    cases d with
    | control id c => cases hgroup
    | group kind label notes items => rfl
  have hroot : root.childText? "name" = none ∧ count? root "inputs" = none ∧
      count? root "outputs" = none ∧ metaOf root = Meta.empty := by
    simp [count?, Element.childText?, Element.child?, metaOf, Element.childrenNamed, hchildren,
      huiName, Meta.empty]
  rw [ofRoot, hfind]
  dsimp only
  rw [hchild, Option.map_some, Option.getD_some, hall, layoutGroups_ok hgroups hitems hdeclares,
    hroot.1, hroot.2.1, hroot.2.2.1, hroot.2.2.2]
  rfl

/-- Every XML text of a document of groups is read as what the groups mean. -/
theorem read_draft {groups : List Draft} (hgroups : ∀ d ∈ groups, d.isGroup = true)
    (hdepth : Draft.depthOf groups ≤ 50) (hids : ((Draft.controlsOf groups).map Prod.fst).Nodup)
    {root : Element} (hroot : IsDocument groups root) {text : String}
    (htext : ControlSurface.Xml.WritesDocument root text) :
    read text = .ok (Draft.description groups) := by
  have hlevels := hroot.levels
  obtain ⟨root', hread, hroot'⟩ := ControlSurface.Xml.readDocument_ok
    (show root.levels ≤ ControlSurface.Xml.maxDepth + 1 by
      rw [ControlSurface.Xml.maxDepth]
      omega) htext
  rw [read, hread]
  exact ofRoot_ok hgroups hids (hroot.alike hroot')

end Description.Xml

end ControlSurface
