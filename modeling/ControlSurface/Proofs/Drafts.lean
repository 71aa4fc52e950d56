import ControlSurface.Description.Read
import ControlSurface.Proofs.Spelling

/- Drafts: trees of groups and controls with the texts that either format writes down, labels and
   annotations without blanks at their ends and numbers as text. A draft has a meaning, the
   nodes that it stands for (`Draft.node`), with the path of labels as address, and it has a
   JSON value (`Draft.json`). Every spelling of the value of a document whose groups are nested at
   most fifty deep is read as what the groups mean (`Json.read_draft`). -/
namespace ControlSurface

namespace Text

/-- A text without blanks at its ends is not trimmed. -/
theorem trim_eq_self {cs : List Char} (hhead : ∀ c ∈ cs.head?, isBlank c = false)
    (hlast : ∀ c ∈ cs.getLast?, isBlank c = false) : trim cs = cs := by
  have hdrop : ∀ ds : List Char, (∀ c ∈ ds.head?, isBlank c = false) →
      ds.dropWhile isBlank = ds := by
    intro ds hds
    cases ds with
    | nil => rfl
    | cons d ds => exact List.dropWhile_cons_of_neg (by simp [hds d rfl])
  rw [trim, trimStart, hdrop cs hhead, hdrop cs.reverse, List.reverse_reverse]
  rw [List.head?_reverse]
  exact hlast

theorem head?_dropWhile_isBlank (cs : List Char) :
    ∀ c ∈ (cs.dropWhile isBlank).head?, isBlank c = false := by
  intro c hc
  have h := List.head?_dropWhile_not isBlank cs
  rw [hc] at h
  simpa using h

/-- A trimmed text does not start with a blank. -/
theorem head?_trim (cs : List Char) : ∀ c ∈ (trim cs).head?, isBlank c = false := by
  intro c hc
  -- What is left of the front is a prefix, so it starts as the front does.
  have hprefix : trim cs <+: trimStart cs := by
    have hsuffix := List.dropWhile_suffix isBlank (l := (trimStart cs).reverse)
    rw [trim, ← List.reverse_suffix, List.reverse_reverse]
    exact hsuffix
  obtain ⟨rest, hrest⟩ := hprefix
  apply head?_dropWhile_isBlank cs c
  show c ∈ (trimStart cs).head?
  rw [← hrest, List.head?_append, hc]
  rfl

/-- A trimmed text does not end with a blank. -/
theorem getLast?_trim (cs : List Char) : ∀ c ∈ (trim cs).getLast?, isBlank c = false := by
  intro c hc
  rw [trim, List.getLast?_reverse] at hc
  exact head?_dropWhile_isBlank _ c hc

theorem trim_trim (cs : List Char) : trim (trim cs) = trim cs :=
  trim_eq_self (head?_trim cs) (getLast?_trim cs)

end Text

/-- A text that neither starts nor ends with a blank. -/
structure TightText where
  text : String
  start : ∀ c ∈ text.toList.head?, Text.isBlank c = false
  stop : ∀ c ∈ text.toList.getLast?, Text.isBlank c = false

/-- A text that trimming leaves as it is. -/
def TightText.ofTrimmed (s : String) (h : Text.trimmed s = s) : TightText where
  text := s
  start := by
    rw [← h, Text.trimmed, String.toList_ofList]
    exact Text.head?_trim s.toList
  stop := by
    rw [← h, Text.trimmed, String.toList_ofList]
    exact Text.getLast?_trim s.toList

theorem TightText.trimmed (t : TightText) : Text.trimmed t.text = t.text := by
  rw [Text.trimmed, Text.trim_eq_self t.start t.stop, String.ofList_toList]

/-- A text that is read as a number, which is finite then. -/
structure NumberText where
  text : String
  value : Float
  reads : Facet.read text = some value

/-- Blanks around a number do not count. -/
theorem NumberText.reads_trimmed (n : NumberText) :
    Facet.read (Text.trimmed n.text) = some n.value := by
  rw [← n.reads, Facet.read, Facet.read, Text.trimmed, String.toList_ofList, Text.trim_trim]

/-- What a control can be. -/
inductive ControlKind where
  | input (kind : InputKind)
  | output (kind : OutputKind)
deriving Repr, DecidableEq

def ControlKind.nodeKind : ControlKind → NodeKind
  | input kind => .input kind
  | output kind => .output kind

/-- The pairs of annotations. -/
abbrev Notes : Type := List (String × TightText)

/-- A control as it is written: its numbers may be absent. -/
structure ControlDraft where
  kind : ControlKind
  label : TightText
  min : Option NumberText
  max : Option NumberText
  step : Option NumberText
  init : Option NumberText
  notes : Notes

/-- A tree of groups and controls. A control has an id, under which it may be declared apart. -/
inductive Draft where
  | control (id : String) (control : ControlDraft)
  | group (kind : GroupKind) (label : TightText) (notes : Notes) (items : List Draft)

/-! ## What drafts mean -/

/-- The annotations of a node. -/
def Notes.info (notes : Notes) : Meta := ⟨notes.map fun note => (note.1, note.2.text)⟩

/-- The number of a text; an absent one is zero. -/
def NumberText.valueOf (n : Option NumberText) : Float := (n.map NumberText.value).getD 0.0

/-- The address of a control: the labels of the groups around it and its own, joined by
    slashes. -/
def ControlDraft.address (path : List String) (c : ControlDraft) : String :=
  "/" ++ String.intercalate "/" (path ++ [c.label.text])

/-- The node of a control below a path of labels. -/
def ControlDraft.node (path : List String) (c : ControlDraft) : Node :=
  match c.kind with
  | .input kind => .input ⟨kind, c.label.text, c.address path,
      ⟨NumberText.valueOf c.min, NumberText.valueOf c.max, NumberText.valueOf c.step,
        NumberText.valueOf c.init⟩, c.notes.info⟩
  | .output kind => .output ⟨kind, c.label.text, c.address path, NumberText.valueOf c.min,
      NumberText.valueOf c.max, c.notes.info⟩

namespace Draft

mutual

/-- The node of a draft below a path of labels. -/
def node (path : List String) : Draft → Node
  | control _ c => c.node path
  | group kind label notes items =>
    .group kind label.text notes.info (nodes (path ++ [label.text]) items)

/-- The nodes of drafts below a path of labels. -/
def nodes (path : List String) : List Draft → List Node
  | [] => []
  | d :: ds => node path d :: nodes path ds

end

mutual

/-- How deep groups are nested in a draft, the draft itself included. -/
def depth : Draft → Nat
  | control _ _ => 0
  | group _ _ _ items => depthOf items + 1

/-- How deep groups are nested in drafts. -/
def depthOf : List Draft → Nat
  | [] => 0
  | d :: ds => max (depth d) (depthOf ds)

end

/-- Whether a draft is a group. -/
def isGroup : Draft → Bool
  | control _ _ => false
  | group _ _ _ _ => true

/-- The description that groups make. -/
def description (groups : List Draft) : Description :=
  ⟨none, none, none, Meta.empty, nodes [] groups⟩

end Draft

/-! ## The values of drafts -/

open ControlSurface.Json (Value ReadsAs ReadsMember ReadsMembers Cursor Failure)

/-- The value of annotations: an object for each pair. -/
def Notes.json (notes : Notes) : Value :=
  .list (notes.map fun note => .object [(note.1, .text note.2.text)])

/-- The member of a number, if it is there. -/
def NumberText.member (name : String) : Option NumberText → List (String × Value)
  | none => []
  | some n => [(name, .text n.text)]

/-- The members of the numbers of a control. -/
def ControlDraft.numberMembers (c : ControlDraft) : List (String × Value) :=
  NumberText.member "min" c.min ++ (NumberText.member "max" c.max ++
    (NumberText.member "step" c.step ++ NumberText.member "init" c.init))

/-- The value of a control. -/
def ControlDraft.json (path : List String) (c : ControlDraft) : Value :=
  .object ([("type", .text c.kind.nodeKind.word), ("label", .text c.label.text),
    ("address", .text (c.address path))] ++ (c.numberMembers ++ [("meta", c.notes.json)]))

namespace Draft

mutual

/-- The value of a draft below a path of labels. -/
def json (path : List String) : Draft → Value
  | control _ c => c.json path
  | group kind label notes items =>
    .object [("type", .text kind.word), ("label", .text label.text), ("meta", notes.json),
      ("items", .list (jsons (path ++ [label.text]) items))]

/-- The values of drafts below a path of labels. -/
def jsons (path : List String) : List Draft → List Value
  | [] => []
  | d :: ds => json path d :: jsons path ds

end

/-- The value of a document. -/
def documentJson (groups : List Draft) : Value := .object [("ui", .list (jsons [] groups))]

end Draft

/-! ## Raw nodes -/

namespace Description.Json

/-- The raw annotations of notes. -/
def rawNotes (notes : Notes) : RawMeta := notes.map fun note => [(note.1, .text note.2.text)]

/-- The raw number of a text. -/
def rawNumber (n : Option NumberText) : Option RawFacet := n.map fun n => .text n.text

/-- The raw node of a control. -/
def rawControl (path : List String) (c : ControlDraft) : RawNode where
  type := c.kind.nodeKind.word
  label := c.label.text
  address := some (c.address path)
  url := none
  min := rawNumber c.min
  max := rawNumber c.max
  step := rawNumber c.step
  init := rawNumber c.init
  info := rawNotes c.notes
  items := []

mutual

/-- The raw node of a draft below a path of labels. -/
def rawOf (path : List String) : Draft → RawNode
  | .control _ c => rawControl path c
  | .group kind label notes items =>
    ⟨kind.word, label.text, none, none, none, none, none, none, rawNotes notes,
      rawsOf (path ++ [label.text]) items⟩

/-- The raw nodes of drafts below a path of labels. -/
def rawsOf (path : List String) : List Draft → List RawNode
  | [] => []
  | d :: ds => rawOf path d :: rawsOf path ds

end

/-! ## Raw nodes are read -/

theorem readsAs_facet (levels : Nat) (settle : Cursor → Cursor) (s : String) :
    ReadsAs (facet levels settle) (.text s) (some (.text s)) := by
  apply ReadsAs.optional
  intro t ht c rest hc
  obtain ⟨c', hread, hc'⟩ := Json.readsAs_value_text levels s t ht c rest hc
  refine ⟨c', ?_, hc'⟩
  dsimp only
  rw [hread]
  rfl

theorem readsAs_annotations (levels : Nat) (notes : Notes) :
    ReadsAs (annotations (levels + 2)) notes.json (rawNotes notes) := by
  apply Json.readsAs_list
  rw [rawNotes, List.forall₂_map_left_iff, List.forall₂_map_right_iff, List.forall₂_same]
  intro note _
  exact Json.readsAs_object_single (Json.readsAs_value_text levels note.2.text)

/-- A member that is read once, into a state that had none of it. -/
theorem readsMember_once {σ α : Type} {member : σ → String → Cursor → Except Failure (σ × Cursor)}
    {s : σ} {key : String} {read : Cursor → Except Failure (α × Cursor)} {f : Option α → σ}
    {v : Value} {a : α} (h : ReadsAs read v a)
    (hmember : member s key = fun c => do
      let (a, c) ← once key none read c
      .ok (f a, c)) : ReadsMember (member s key) v (f (some a)) := by
  rw [hmember]
  intro gap t hgap ht c rest hc
  obtain ⟨c', hread, hc'⟩ := h.behind_colon some gap t hgap ht c rest hc
  refine ⟨c', ?_, hc'⟩
  have honce : once key none read c = .ok (some a, c') := hread
  dsimp only
  rw [honce]
  rfl

section
variable {levels : Nat} {items : Cursor → Except Failure (List RawNode × Cursor)}

/-- A number that may be absent, read into a node that has none of its name. -/
theorem readsMembers_number {s : NodeFields} {name : String}
    {f : Option (Option RawFacet) → NodeFields} (n : Option NumberText) (hnone : f none = s)
    (hmember : nodeMember levels items s name = fun c => do
      let (a, c) ← once name none (facet levels Cursor.settleObject) c
      .ok (f a, c)) :
    ReadsMembers (nodeMember levels items) s (NumberText.member name n)
      (f (n.map fun n => some (.text n.text))) := by
  cases n with
  | none =>
    rw [Option.map_none, hnone]
    exact .nil
  | some n => exact .single (readsMember_once (readsAs_facet _ _ _) hmember)

theorem readsMember_type (s : NodeFields) (h : s.type = none) (type : String) :
    ReadsMember (nodeMember levels items s "type") (.text type) { s with type := some type } :=
  readsMember_once (f := fun a => { s with type := a }) (Json.readsAs_text type) (by rw [← h]; rfl)

theorem readsMember_label (s : NodeFields) (h : s.label = none) (label : String) :
    ReadsMember (nodeMember levels items s "label") (.text label) { s with label := some label } :=
  readsMember_once (f := fun a => { s with label := a }) (Json.readsAs_text label)
    (by rw [← h]; rfl)

theorem readsMember_address (s : NodeFields) (h : s.address = none) (address : String) :
    ReadsMember (nodeMember levels items s "address") (.text address)
      { s with address := some (some address) } :=
  readsMember_once (f := fun a => { s with address := a }) (Json.readsAs_text address).optional
    (by rw [← h]; rfl)

theorem readsMember_meta (s : NodeFields) (h : s.info = none) (notes : Notes) :
    ReadsMember (nodeMember (levels + 2) items s "meta") notes.json
      { s with info := some (rawNotes notes) } :=
  readsMember_once (f := fun a => { s with info := a }) (readsAs_annotations levels notes)
    (by rw [← h]; rfl)

theorem readsMember_items (s : NodeFields) (h : s.items = none) {v : Value} {raws : List RawNode}
    (hitems : ReadsAs items v raws) :
    ReadsMember (nodeMember levels items s "items") v { s with items := some raws } :=
  readsMember_once (f := fun a => { s with items := a }) hitems (by rw [← h]; rfl)

/-- The numbers of a control are read into a node that has none. -/
theorem readsMembers_numbers (s : NodeFields)
    (h : s.min = none ∧ s.max = none ∧ s.step = none ∧ s.init = none) (c : ControlDraft) :
    ReadsMembers (nodeMember levels items) s c.numberMembers
      { s with
        min := c.min.map fun n => some (.text n.text)
        max := c.max.map fun n => some (.text n.text)
        step := c.step.map fun n => some (.text n.text)
        init := c.init.map fun n => some (.text n.text) } := by
  obtain ⟨type, label, address, url, min, max, step, init, info, nodes⟩ := s
  obtain ⟨rfl, rfl, rfl, rfl⟩ := h
  refine .append (readsMembers_number (f := fun a => ⟨type, label, address, url, a, _, _, _, info,
    nodes⟩) c.min rfl rfl) ?_
  refine .append (readsMembers_number (f := fun a => ⟨type, label, address, url, _, a, _, _, info,
    nodes⟩) c.max rfl rfl) ?_
  refine .append (readsMembers_number (f := fun a => ⟨type, label, address, url, _, _, a, _, info,
    nodes⟩) c.step rfl rfl) ?_
  exact readsMembers_number (f := fun a => ⟨type, label, address, url, _, _, _, a, info, nodes⟩)
    c.init rfl rfl

end

/-- An object is read as a node if its members are, and one of them is a type. -/
theorem readsAs_nodeIn {levels : Nat} {items : Cursor → Except Failure (List RawNode × Cursor)}
    {ms : List (String × Value)} {f : NodeFields} {type : String}
    (h : ReadsMembers (nodeMember levels items) {} ms f) (htype : f.type = some type) :
    ReadsAs (nodeIn (some (levels, items))) (.object ms) (f.node type) := by
  intro t ht c rest hc
  obtain ⟨body, hbody, hskip⟩ := Json.spells_object_rest ht hc
  have hstep : c.skipGaps.step.rest = body ++ rest := by
    rw [Cursor.step_rest, hskip]
    rfl
  have hhead : c.skipGaps.rest.head? = some '\x7b' := by rw [hskip]; rfl
  have hne : c.skipGaps.rest ≠ [] := by rw [hskip]; exact List.cons_ne_nil _ _
  obtain ⟨c', hread, hc'⟩ := Json.members_ok h hbody hstep
  refine ⟨c', ?_, hc'⟩
  have hopen : openNode levels items c.skipGaps = .ok (f.node type, c') := by
    rw [openNode, if_pos hhead, hread]
    dsimp only [bind, Except.bind]
    rw [htype]
  rw [nodeIn, if_neg hne, if_pos (.inl hhead)]
  exact hopen

/-- The items of a node are read as a list of nodes. -/
theorem readsAs_node {levels : Nat} {ms : List (String × Value)} {f : NodeFields} {type : String}
    (h : ReadsMembers (nodeMember (levels + 1) (Json.Reader.list (levels + 1) node)) {} ms f)
    (htype : f.type = some type) : ReadsAs (node (levels + 2)) (.object ms) (f.node type) := by
  rw [node]
  exact readsAs_nodeIn h htype

/-- A control is read as its raw node. -/
theorem readsAs_control (levels : Nat) (path : List String) (c : ControlDraft) :
    ReadsAs (node (levels + 3)) (c.json path) (rawControl path c) := by
  have hhead : ReadsMembers (nodeMember (levels + 2) (Json.Reader.list (levels + 2) node)) {}
      [("type", .text c.kind.nodeKind.word), ("label", .text c.label.text),
        ("address", .text (c.address path))] _ :=
    .cons (readsMember_type _ rfl _) (.cons (readsMember_label _ rfl _)
      (.single (readsMember_address _ rfl _)))
  have hall := hhead.append ((readsMembers_numbers _ ⟨rfl, rfl, rfl, rfl⟩ c).append
    (.single (readsMember_meta _ rfl c.notes)))
  have hnode := readsAs_node hall rfl
  have hraw : ∀ n : Option NumberText,
      (n.map fun n => some (RawFacet.text n.text)).getD none = rawNumber n := by
    intro n
    cases n <;> rfl
  rw [NodeFields.node] at hnode
  simp only [hraw] at hnode
  exact hnode

mutual

/-- A draft is read as its raw node where there are levels for its groups. -/
theorem readsAs_draft : ∀ (d : Draft) (path : List String) (levels : Nat),
    2 * d.depth + 3 ≤ levels → ReadsAs (node levels) (d.json path) (rawOf path d)
  | .control id c, path, levels, hlevels => by
    obtain ⟨more, rfl⟩ := Nat.exists_eq_add_of_le' hlevels
    rw [Draft.json, rawOf]
    exact readsAs_control _ path c
  | .group kind label notes items, path, levels, hlevels => by
    rw [Draft.depth] at hlevels
    obtain ⟨more, rfl⟩ := Nat.exists_eq_add_of_le' (show 4 ≤ levels by omega)
    rw [Draft.json, rawOf]
    have hitems := readsAs_drafts items (path ++ [label.text]) (more + 2) (by omega)
    have hmembers : ReadsMembers (nodeMember (more + 3) (Json.Reader.list (more + 3) node)) {}
        [("type", .text kind.word), ("label", .text label.text), ("meta", notes.json),
          ("items", .list (Draft.jsons (path ++ [label.text]) items))] _ :=
      .cons (readsMember_type _ rfl _) (.cons (readsMember_label _ rfl _)
        (.cons (readsMember_meta _ rfl _) (.single (readsMember_items _ rfl hitems))))
    exact readsAs_node hmembers rfl

/-- Drafts are read as their raw nodes. -/
theorem readsAs_drafts : ∀ (ds : List Draft) (path : List String) (levels : Nat),
    2 * Draft.depthOf ds + 3 ≤ levels →
    ReadsAs (Json.Reader.list (levels + 1) node) (.list (Draft.jsons path ds)) (rawsOf path ds)
  | ds, path, levels, hlevels => Json.readsAs_list (forall₂_readsAs ds path levels hlevels)

theorem forall₂_readsAs : ∀ (ds : List Draft) (path : List String) (levels : Nat),
    2 * Draft.depthOf ds + 3 ≤ levels →
    List.Forall₂ (ReadsAs (node levels)) (Draft.jsons path ds) (rawsOf path ds)
  | [], path, levels, _ => by
    rw [Draft.jsons, rawsOf]
    exact .nil
  | d :: ds, path, levels, hlevels => by
    rw [Draft.depthOf] at hlevels
    rw [Draft.jsons, rawsOf]
    exact .cons (readsAs_draft d path levels (by omega))
      (forall₂_readsAs ds path levels (by omega))

end

/-- A text of a document of groups is read as their raw nodes. -/
theorem readRaw_ok {groups : List Draft} (h : Draft.depthOf groups ≤ 50) {text : String}
    (htext : Json.SpellsDocument (Draft.documentJson groups) text) :
    readRaw text = .ok ⟨none, none, none, [], rawsOf [] groups⟩ := by
  obtain ⟨t, gap, ht, hgap, hsplit⟩ := htext
  obtain ⟨body, hbody, hskip⟩ := Json.spells_object_rest (c := Cursor.start text.toList) ht hsplit
  have hstep : (Cursor.start text.toList).skipGaps.step.rest = body ++ gap := by
    rw [Cursor.step_rest, hskip]
    rfl
  have hui : ReadsMember (documentMember (Json.Reader.maxLevels - 1) {} "ui")
      (.list (Draft.jsons [] groups)) { nodes := some (rawsOf [] groups) } :=
    readsMember_once (f := fun a => ({ nodes := a } : DocumentFields))
      (readsAs_drafts groups [] 125 (by omega)) rfl
  obtain ⟨c', hread, hc'⟩ := Json.members_ok (.single hui) hbody hstep
  have hdocument : document (Cursor.start text.toList) =
      .ok (⟨none, none, none, [], rawsOf [] groups⟩, c') := by
    rw [document, hskip]
    dsimp only
    rw [hread]
    rfl
  rw [readRaw, hdocument]
  dsimp only [bind, Except.bind]
  rw [Json.finish_ok (hc' ▸ hgap)]

/-! ## Raw nodes mean what drafts mean -/

theorem metaOf_rawNotes (notes : Notes) : metaOf (rawNotes notes) = notes.info := by
  rw [metaOf, rawNotes, Notes.info]
  congr 1
  induction notes with
  | nil => rfl
  | cons note notes ih =>
    rw [List.map_cons, List.flatten_cons, List.map_append, ih]
    rfl

theorem number_rawNumber (name label : String) (n : Option NumberText) :
    number name label (rawNumber n) = .ok (NumberText.valueOf n) := by
  cases n with
  | none => rfl
  | some n =>
    show number name label (some (.text n.text)) = .ok n.value
    rw [number, n.reads]

theorem convert_control (path : List String) (c : ControlDraft) :
    convert (rawControl path c) = .ok (c.node path) := by
  obtain ⟨kind, label, min, max, step, init, notes⟩ := c
  cases kind with
  | input kind =>
    rw [rawControl, convert, NodeKind.ofWord?_word]
    dsimp only [ControlKind.nodeKind, bind, Except.bind]
    simp only [number_rawNumber, requiredAddress, metaOf_rawNotes]
    rfl
  | output kind =>
    rw [rawControl, convert, NodeKind.ofWord?_word]
    dsimp only [ControlKind.nodeKind, bind, Except.bind]
    simp only [number_rawNumber, requiredAddress, metaOf_rawNotes]
    rfl

mutual

/-- The raw node of a draft becomes its node. -/
theorem convert_draft : ∀ (d : Draft) (path : List String),
    convert (rawOf path d) = .ok (d.node path)
  | .control _ c, path => by
    rw [rawOf, Draft.node]
    exact convert_control path c
  | .group kind label notes items, path => by
    have hitems := convert_drafts items (path ++ [label.text])
    have hword : NodeKind.ofWord? kind.word = some (.group kind) :=
      NodeKind.ofWord?_word (.group kind)
    rw [rawOf, Draft.node, convert, hword]
    dsimp only [bind, Except.bind]
    rw [hitems, metaOf_rawNotes]

theorem convert_drafts : ∀ (ds : List Draft) (path : List String),
    convertAll (rawsOf path ds) = .ok (Draft.nodes path ds)
  | [], path => by
    rw [rawsOf, Draft.nodes, convertAll]
  | d :: ds, path => by
    rw [rawsOf, Draft.nodes, convertAll, convert_draft d path]
    dsimp only [bind, Except.bind]
    rw [convert_drafts ds path]

end

/-- Every JSON text of a document of groups is read as what the groups mean. -/
theorem read_draft {groups : List Draft} (h : Draft.depthOf groups ≤ 50) {text : String}
    (htext : Json.SpellsDocument (Draft.documentJson groups) text) :
    read text = .ok (Draft.description groups) := by
  rw [read, readRaw_ok h htext]
  dsimp only
  rw [ofRaw, convert_drafts]
  rfl

end Description.Json

end ControlSurface
