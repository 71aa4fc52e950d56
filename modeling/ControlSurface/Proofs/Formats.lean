import ControlSurface.Build.Run
import ControlSurface.Proofs.Layouts

/- Formats: a description is read the same from either format. Groups have a compact text in each
   (`Draft.jsonText`, `Draft.xmlText`), and many others. Every JSON text of groups and every XML
   text of them is told apart by its first character, and both are read as what the groups mean,
   so whatever is built from one is built from the other. -/
namespace ControlSurface

open ControlSurface.Xml (Element)

/-! ## Compact texts -/

namespace Description.Xml

open Text (Position)

/-- An element that says it. -/
def Plain.element (p : Plain) : Element := ⟨p.name, p.attributes, p.text, [], Position.start⟩

theorem say_elements {ps : List Plain} (h : ∀ p ∈ ps, Text.trimmed p.text = p.text) :
    Say ps (ps.map Plain.element) where
  words := by
    rw [List.map_map]
    refine (List.map_congr_left fun p hp => ?_).trans (List.map_id ps)
    show (⟨p.name, p.attributes, Text.trimmed p.text⟩ : Plain) = p
    rw [h p hp]
  childless := by
    rw [List.forall_mem_map]
    exact fun p _ => rfl

theorem trimmed_trimmed (s : String) : Text.trimmed (Text.trimmed s) = Text.trimmed s := by
  rw [Text.trimmed, Text.trimmed, String.toList_ofList, Text.trim_trim]

theorem trimmed_notePlains {notes : Notes} :
    ∀ p ∈ notePlains notes, Text.trimmed p.text = p.text := by
  rw [notePlains, List.forall_mem_map]
  exact fun note _ => note.2.trimmed

theorem trimmed_numberPlains {name : String} {n : Option NumberText} :
    ∀ p ∈ numberPlains name n, Text.trimmed p.text = p.text := by
  cases n with
  | none => exact List.forall_mem_nil _
  | some n => exact List.forall_mem_singleton.mpr (trimmed_trimmed n.text)

theorem trimmed_controlPlains (c : ControlDraft) :
    ∀ p ∈ controlPlains c, Text.trimmed p.text = p.text := by
  simp only [controlPlains, List.forall_mem_cons, List.forall_mem_append]
  exact ⟨c.label.trimmed, trimmed_numberPlains, trimmed_numberPlains, trimmed_numberPlains,
    trimmed_numberPlains, trimmed_notePlains⟩

/-- The widget of a control under an id. -/
def widgetElement (p : String × ControlDraft) : Element :=
  ⟨"widget", [("type", p.2.kind.nodeKind.word), ("id", p.1)], "",
    (controlPlains p.2).map Plain.element, Position.start⟩

mutual

/-- The element of a draft in a layout. -/
def itemElement : Draft → Element
  | .control id _ => ⟨"widgetref", [("id", id)], "", [], Position.start⟩
  | .group kind label notes items => ⟨"group", [("type", kind.word)], "",
      (labelPlain label :: notePlains notes).map Plain.element ++ itemElements items,
      Position.start⟩

/-- The elements of drafts in a layout. -/
def itemElements : List Draft → List Element
  | [] => []
  | d :: ds => itemElement d :: itemElements ds

end

/-- An element that only holds others. -/
def container (name : String) (children : List Element) : Element :=
  ⟨name, [], "", children, Position.start⟩

/-- Whether a control is declared among the active ones. -/
def isActive (p : String × ControlDraft) : Bool :=
  match p.2.kind with
  | .input _ => true
  | .output _ => false

/-- The document of groups: inputs are active, and outputs passive. -/
def document (groups : List Draft) : Element :=
  container "faust" [container "ui"
    [container "activewidgets" (((Draft.controlsOf groups).filter isActive).map widgetElement),
      container "passivewidgets"
        (((Draft.controlsOf groups).filter fun p => !isActive p).map widgetElement),
      container "layout" (itemElements groups)]]

theorem isWidget_element (p : String × ControlDraft) : IsWidget p (widgetElement p) where
  name := rfl
  type := rfl
  id := rfl
  children := say_elements (trimmed_controlPlains p.2)

theorem isDeclaration_container (name : String) (ps : List (String × ControlDraft)) :
    IsDeclaration name ps (container name (ps.map widgetElement)) where
  name := rfl
  widgets := List.forall₂_map_right_iff.mpr (List.forall₂_same.mpr fun p _ => isWidget_element p)

mutual

theorem isItem_element : ∀ d : Draft, IsItem d (itemElement d)
  | .control id c => by
    rw [IsItem, itemElement]
    exact ⟨rfl, rfl, rfl⟩
  | .group kind label notes items => by
    rw [IsItem, itemElement]
    have htrimmed : ∀ p ∈ labelPlain label :: notePlains notes, Text.trimmed p.text = p.text :=
      List.forall_mem_cons.mpr ⟨label.trimmed, trimmed_notePlains⟩
    exact ⟨rfl, rfl, _, _, say_elements htrimmed, areItems_elements items, rfl⟩

theorem areItems_elements : ∀ ds : List Draft, AreItems ds (itemElements ds)
  | [] => by
    rw [AreItems, itemElements]
  | d :: ds => by
    rw [AreItems, itemElements]
    exact ⟨_, _, isItem_element d, areItems_elements ds, rfl⟩

end

theorem isDocument_document (groups : List Draft) : IsDocument groups (document groups) :=
  ⟨rfl, _, ⟨_, _, _, _, _, List.filter_append_perm _ _, isDeclaration_container _ _,
    isDeclaration_container _ _, rfl, areItems_elements groups, rfl, rfl⟩, rfl⟩

/-- The names of elements and attributes in documents. -/
def words : List String :=
  ["faust", "ui", "activewidgets", "passivewidgets", "layout", "widget", "group", "widgetref",
    "label", "meta", "min", "max", "step", "init", "type", "id", "key"]

theorem isName_word : ∀ s ∈ words, ControlSurface.Xml.isName s = true :=
  List.all_eq_true.mp (by decide +kernel)

theorem isNamed_plain {name : String} {attributes : List (String × String)} (text : String)
    (h : ControlSurface.Xml.isName name = true)
    (h' : attributes.all (ControlSurface.Xml.isName ·.1) = true) :
    (Plain.element ⟨name, attributes, text⟩).isNamed = true := by
  rw [Plain.element, Element.isNamed, h, h', Element.areNamed]
  rfl

theorem isNamed_container {name : String} {children : List Element}
    (h : ControlSurface.Xml.isName name = true) (h' : Element.areNamed children = true) :
    (container name children).isNamed = true := by
  rw [container, Element.isNamed, h, h']
  rfl

theorem isNamed_notePlains (notes : Notes) :
    ∀ p ∈ notePlains notes, (Plain.element p).isNamed = true := by
  rw [notePlains, List.forall_mem_map]
  exact fun note _ => isNamed_plain _ (isName_word "meta" (by decide))
    (by rw [List.all_cons, isName_word "key" (by decide)]; rfl)

theorem isNamed_numberPlains {name : String} (h : ControlSurface.Xml.isName name = true)
    (n : Option NumberText) : ∀ p ∈ numberPlains name n, (Plain.element p).isNamed = true := by
  cases n with
  | none => exact List.forall_mem_nil _
  | some n => exact List.forall_mem_singleton.mpr (isNamed_plain _ h rfl)

theorem isNamed_labelPlain (label : TightText) :
    (Plain.element (labelPlain label)).isNamed = true :=
  isNamed_plain _ (isName_word "label" (by decide)) rfl

theorem isNamed_widget (p : String × ControlDraft) : (widgetElement p).isNamed = true := by
  have hchildren : ∀ q ∈ controlPlains p.2, (Plain.element q).isNamed = true := by
    simp only [controlPlains, List.forall_mem_cons, List.forall_mem_append]
    exact ⟨isNamed_labelPlain _, isNamed_numberPlains (isName_word "min" (by decide)) _,
      isNamed_numberPlains (isName_word "max" (by decide)) _,
      isNamed_numberPlains (isName_word "step" (by decide)) _,
      isNamed_numberPlains (isName_word "init" (by decide)) _, isNamed_notePlains _⟩
  rw [← List.forall_mem_map (P := fun e => Element.isNamed e = true), ← Element.areNamed_iff]
    at hchildren
  rw [widgetElement, Element.isNamed, hchildren, isName_word "widget" (by decide), List.all_cons,
    isName_word "type" (by decide), List.all_cons, isName_word "id" (by decide)]
  rfl

mutual

theorem isNamed_item : ∀ d : Draft, (itemElement d).isNamed = true
  | .control id c => by
    rw [itemElement, Element.isNamed, isName_word "widgetref" (by decide), List.all_cons,
      isName_word "id" (by decide)]
    rfl
  | .group kind label notes items => by
    have hchildren : ∀ e ∈ (labelPlain label :: notePlains notes).map Plain.element ++
        itemElements items, e.isNamed = true := by
      rw [List.forall_mem_append, List.forall_mem_map, List.forall_mem_cons]
      exact ⟨⟨isNamed_labelPlain label, isNamed_notePlains notes⟩,
        Element.areNamed_iff.mp (areNamed_items items)⟩
    rw [itemElement, Element.isNamed, Element.areNamed_iff.mpr hchildren,
      isName_word "group" (by decide), List.all_cons, isName_word "type" (by decide)]
    rfl

theorem areNamed_items : ∀ ds : List Draft, Element.areNamed (itemElements ds) = true
  | [] => by
    rw [itemElements, Element.areNamed]
  | d :: ds => by
    rw [itemElements, Element.areNamed, isNamed_item d, areNamed_items ds]
    rfl

end

theorem isNamed_document (groups : List Draft) : (document groups).isNamed = true := by
  have hwidgets : ∀ ps : List (String × ControlDraft),
      Element.areNamed (ps.map widgetElement) = true := by
    intro ps
    rw [Element.areNamed_iff, List.forall_mem_map]
    exact fun p _ => isNamed_widget p
  have hlists : Element.areNamed [container "activewidgets"
      (((Draft.controlsOf groups).filter isActive).map widgetElement), container "passivewidgets"
      (((Draft.controlsOf groups).filter fun p => !isActive p).map widgetElement),
      container "layout" (itemElements groups)] = true := by
    simp only [Element.areNamed, Bool.and_eq_true]
    exact ⟨isNamed_container (isName_word _ (by decide)) (hwidgets _),
      isNamed_container (isName_word _ (by decide)) (hwidgets _),
      isNamed_container (isName_word _ (by decide)) (areNamed_items groups), trivial⟩
  have hui := isNamed_container (isName_word "ui" (by decide)) hlists
  exact isNamed_container (isName_word "faust" (by decide))
    (Element.areNamed_iff.mpr (List.forall_mem_singleton.mpr hui))

end Description.Xml

namespace Draft

open ControlSurface.Json (areTextual_iff membersAreTextual_iff)

theorem isTextual_notes (notes : Notes) : notes.json.isTextual = true := by
  rw [Notes.json, Json.Value.isTextual, areTextual_iff, List.forall_mem_map]
  exact fun note _ => rfl

theorem isTextual_number (name : String) (n : Option NumberText) :
    ∀ m ∈ NumberText.member name n, m.2.isTextual = true := by
  cases n with
  | none => exact List.forall_mem_nil _
  | some n => exact List.forall_mem_singleton.mpr rfl

mutual

theorem isTextual_json : ∀ (d : Draft) (path : List String), (d.json path).isTextual = true
  | .control id c, path => by
    rw [json, ControlDraft.json, Json.Value.isTextual, membersAreTextual_iff]
    simp only [ControlDraft.numberMembers, List.forall_mem_append, List.forall_mem_cons]
    exact ⟨⟨rfl, rfl, rfl, List.forall_mem_nil _⟩, ⟨isTextual_number _ _, isTextual_number _ _,
      isTextual_number _ _, isTextual_number _ _⟩, isTextual_notes _, List.forall_mem_nil _⟩
  | .group kind label notes items, path => by
    rw [json, Json.Value.isTextual, membersAreTextual_iff]
    simp only [List.forall_mem_cons]
    exact ⟨rfl, rfl, isTextual_notes notes, areTextual_jsons items _, List.forall_mem_nil _⟩

theorem areTextual_jsons : ∀ (ds : List Draft) (path : List String),
    Json.areTextual (jsons path ds) = true
  | [], path => by
    rw [jsons, Json.areTextual]
  | d :: ds, path => by
    rw [jsons, Json.areTextual, isTextual_json d path, areTextual_jsons ds path]
    rfl

end

/-- The compact JSON text of groups. -/
def jsonText (groups : List Draft) : String := (documentJson groups).compact

/-- The compact XML text of groups. -/
def xmlText (groups : List Draft) : String :=
  String.ofList (Description.Xml.document groups).compact

theorem spells_jsonText (groups : List Draft) :
    Json.SpellsDocument (documentJson groups) (jsonText groups) := by
  have htextual : (documentJson groups).isTextual = true := by
    rw [documentJson, Json.Value.isTextual, membersAreTextual_iff]
    exact List.forall_mem_singleton.mpr (areTextual_jsons groups [])
  exact ⟨_, [], Json.Value.spells_compact _ htextual, Json.isGap_nil, (List.append_nil _).symm⟩

theorem writes_xmlText (groups : List Draft) :
    ControlSurface.Xml.WritesDocument (Description.Xml.document groups) (xmlText groups) :=
  ControlSurface.Xml.writesDocument_compact (Description.Xml.isNamed_document groups)

end Draft

/-! ## Either format -/

namespace Description

/-- The format of a text shows behind its first blanks. -/
theorem formatOf_eq {text : String} {gap rest : List Char} {d : Char}
    (hgap : ∀ c ∈ gap, Text.isBlank c = true) (hd : Text.isBlank d = false)
    (h : text.toList = gap ++ d :: rest) :
    formatOf text = (if d = '<' then .xml else .json) ∧ Text.isBlankText text = false := by
  have htrim : Text.trimStart text.toList = d :: rest := by
    rw [h, Text.trimStart, List.dropWhile_append_of_pos hgap,
      List.dropWhile_cons_of_neg (ne_true_of_eq_false hd)]
  constructor
  · simp only [formatOf, htrim, List.head?_cons, Option.some.injEq]
  · rw [Text.isBlankText, h, List.all_append, List.all_cons, hd, Bool.false_and, Bool.and_false]

theorem formatOf_json {ms : List (String × ControlSurface.Json.Value)} {text : String}
    (h : ControlSurface.Json.SpellsDocument (.object ms) text) :
    formatOf text = .json ∧ Text.isBlankText text = false := by
  obtain ⟨t, behind, ht, -, htext⟩ := h
  rw [ControlSurface.Json.Value.Spells] at ht
  obtain ⟨gap, body, hgap, -, rfl⟩ := ht
  have hblank : ∀ c ∈ gap, Text.isBlank c = true := by
    intro c hc
    have hgap := hgap c hc
    simp only [ControlSurface.Json.Cursor.isGap, Bool.or_eq_true, beq_iff_eq] at hgap
    rcases hgap with ((rfl | rfl) | rfl) | rfl <;> decide
  rw [List.append_assoc] at htext
  exact formatOf_eq hblank (by decide) htext

theorem formatOf_xml {root : Element} {text : String}
    (h : ControlSurface.Xml.WritesDocument root text) :
    formatOf text = .xml ∧ Text.isBlankText text = false := by
  obtain ⟨before, t, after, hbefore, ht, -, htext⟩ := h
  obtain ⟨d, tail, rfl, -⟩ := ht.head
  have hbracket : ∃ gap rest, before ++ '<' :: (d :: tail ++ after) = gap ++ '<' :: rest ∧
      ControlSurface.Xml.IsBlanks gap := by
    clear htext
    induction hbefore with
    | nil => exact ⟨[], _, rfl, ControlSurface.Xml.isBlanks_nil⟩
    | @blank c ts blank _ ih =>
      obtain ⟨gap, rest, hsplit, hgap⟩ := ih
      exact ⟨c :: gap, rest, congrArg (c :: ·) hsplit, List.forall_mem_cons.mpr ⟨blank, hgap⟩⟩
    | comment _ _ _ => exact ⟨[], _, rfl, ControlSurface.Xml.isBlanks_nil⟩
    | instruction _ _ _ => exact ⟨[], _, rfl, ControlSurface.Xml.isBlanks_nil⟩
  obtain ⟨gap, rest, hsplit, hgap⟩ := hbracket
  exact formatOf_eq hgap (by decide) (htext.trans hsplit)

/-- A text that is read as an XML document is read so, whatever it holds. -/
theorem read_of_xml {text : String} {d : Description} (h : Xml.read text = .ok d) :
    read text = .ok d ∧ Text.isBlankText text = false := by
  have hhead : (Text.trimStart text.toList).head? = some '<' := by
    rw [Xml.read] at h
    split at h
    · next root hroot => exact ControlSurface.Xml.head_of_readDocument hroot
    · cases h
  constructor
  · rw [read, formatOf, if_pos hhead, readAs, h]
  · by_contra hblank
    rw [Bool.not_eq_false, Text.isBlankText, List.all_eq_true] at hblank
    rw [Text.trimStart, List.dropWhile_eq_nil_iff.mpr hblank] at hhead
    cases hhead

/-- A text is built as the description that it is read as. -/
theorem buildText_of_read {text : String} {d : Description} (hblank : Text.isBlankText text = false)
    (h : read text = .ok d) (usePanel : Bool) :
    Build.buildText text usePanel = Build.buildDescription d usePanel := by
  rw [Build.buildText, hblank, h]
  rfl

/-- Groups are read the same from either format, and built the same. -/
theorem read_formats {groups : List Draft} (hgroups : ∀ d ∈ groups, d.isGroup = true)
    (hdepth : Draft.depthOf groups ≤ 50) (hids : ((Draft.controlsOf groups).map Prod.fst).Nodup)
    {json xml : String}
    (hjson : ControlSurface.Json.SpellsDocument (Draft.documentJson groups) json)
    {root : Element} (hroot : Xml.IsDocument groups root)
    (hxml : ControlSurface.Xml.WritesDocument root xml) :
    formatOf json = .json ∧ formatOf xml = .xml ∧
      read json = .ok (Draft.description groups) ∧ read xml = .ok (Draft.description groups) ∧
      ∀ (A : Build.Session) (usePanel : Bool) (refusal : Option Nat),
        A.build json usePanel refusal = A.build xml usePanel refusal := by
  obtain ⟨hjsonFormat, hjsonBlank⟩ := formatOf_json hjson
  obtain ⟨hxmlFormat, hxmlBlank⟩ := formatOf_xml hxml
  have hjsonRead : read json = .ok (Draft.description groups) := by
    rw [read, hjsonFormat]
    exact Json.read_draft hdepth hjson
  have hxmlRead : read xml = .ok (Draft.description groups) := by
    rw [read, hxmlFormat]
    exact Xml.read_draft hgroups hdepth hids hroot hxml
  refine ⟨hjsonFormat, hxmlFormat, hjsonRead, hxmlRead, fun A usePanel refusal => ?_⟩
  rw [Build.Session.build, Build.Session.build, buildText_of_read hjsonBlank hjsonRead,
    buildText_of_read hxmlBlank hxmlRead]

/-- A button, and a meter in a group of its own. -/
def organ : List Draft :=
  [.group .vertical (.ofTrimmed "organ" (by decide)) []
    [.control "1" ⟨.input .button, .ofTrimmed "Panic" (by decide), none, none, none, none,
        [("tooltip", .ofTrimmed "all notes off" (by decide))]⟩,
      .group .tabbed (.ofTrimmed "tone & level" (by decide))
        [("style", .ofTrimmed "\x22wide\x22" (by decide))]
        [.control "2" ⟨.output .verticalBargraph, .ofTrimmed "out < 1" (by decide), none, none,
          none, none, []⟩]]]

theorem read_formats_organ :
    (∀ d ∈ organ, d.isGroup = true) ∧ Draft.depthOf organ ≤ 50 ∧
      ((Draft.controlsOf organ).map Prod.fst).Nodup ∧
      read (Draft.jsonText organ) = .ok (Draft.description organ) ∧
      read (Draft.xmlText organ) = .ok (Draft.description organ) ∧
      (Build.Session.new Config.default).build (Draft.jsonText organ) true none =
        (Build.Session.new Config.default).build (Draft.xmlText organ) true none := by
  have hgroups : ∀ d ∈ organ, d.isGroup = true := by decide
  have hdepth : Draft.depthOf organ ≤ 50 := by decide
  have hids : ((Draft.controlsOf organ).map Prod.fst).Nodup := by decide
  obtain ⟨-, -, hjson, hxml, hbuilds⟩ := read_formats hgroups hdepth hids
    (Draft.spells_jsonText organ) (Xml.isDocument_document organ) (Draft.writes_xmlText organ)
  exact ⟨hgroups, hdepth, hids, hjson, hxml, hbuilds _ true none⟩

end Description

end ControlSurface
