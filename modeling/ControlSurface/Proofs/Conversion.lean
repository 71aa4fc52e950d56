import ControlSurface.Description.Json
import Mathlib.Data.List.Forall2

/- The conversion of a JSON document. Its raw nodes become nodes one for one, in document order, and
   the conversion stops at the first that cannot. Which nodes are looked at (`RawNode.reached`) and
   what is wrong with one (`RawNode.fault?`) is told apart from the conversion; each function of the
   conversion has one lemma, which says that it answers the first fault (`Answers`).

   What is proved:
     1. `fault?_eq_none_iff`: a node has no fault if and only if it offends in none of three ways.
     2. `convert_answers`, `convertAll_answers`: a tree fails with the fault of the first node in
        pre-order that has one, and else becomes a tree that it is the raw form of (`Becomes`).
     3. `read_converts`: so does a document, as soon as its text is read into raw nodes. -/
namespace ControlSurface

/-- Whether a kind is that of a control or of a read-out, which has an address. -/
def NodeKind.isLeaf : NodeKind → Bool
  | input _ => true
  | output _ => true
  | _ => false

/-- A text denotes a number: without the blanks around it, and without one `f` at its end, it is a
    literal of this number, which is finite. -/
def Facet.Denotes (text : String) (x : Float) : Prop :=
  Decimal.readLiteral (withoutMark (Text.trim text.toList)) = some x ∧ x.isFinite = true

theorem Facet.read_eq_some_iff {text : String} {x : Float} :
    read text = some x ↔ Denotes text x := Option.filter_eq_some_iff

/-! ## Answers to faults -/

/-- A conversion answers a fault: it fails with the fault if there is one, and else it has a result
    of a kind. -/
def Answers {ε α : Type} (fault : Option ε) (Q : α → Prop) : Except ε α → Prop
  | .ok a => fault = none ∧ Q a
  | .error e => fault = some e

namespace Answers
variable {ε α β : Type} {fault fault' : Option ε} {P Q : α → Prop} {R : β → Prop}
  {r : Except ε α}

theorem ok {a : α} (h : Q a) : Answers (none : Option ε) Q (.ok a) := ⟨rfl, h⟩

theorem error {e : ε} : Answers (some e) Q (.error e) := rfl

/-- The fault of a first part counts before that of what follows. -/
theorem bind {f : α → Except ε β} (h : Answers fault P r)
    (hf : ∀ a, P a → Answers fault' R (f a)) : Answers (fault.or fault') R (r >>= f) := by
  cases r with
  | ok a =>
    obtain ⟨rfl, ha⟩ := h
    exact hf a ha
  | error e =>
    obtain rfl : fault = some e := h
    exact error

/-- Nothing is wrong any more behind the last part. -/
theorem last {f : α → Except ε β} (h : Answers fault P r)
    (hf : ∀ a, P a → Answers none R (f a)) : Answers fault R (r >>= f) :=
  Option.or_none (o := fault) ▸ h.bind hf

theorem eq_error_iff (h : Answers fault Q r) {e : ε} : r = .error e ↔ fault = some e := by
  cases r with
  | ok a => rw [h.1]; simp
  | error e' => rw [show fault = some e' from h]; simp

theorem exists_ok (h : Answers fault Q r) (hnone : fault = none) : ∃ a, r = .ok a ∧ Q a := by
  cases r with
  | ok a => exact ⟨a, rfl, h.2⟩
  | error e => rw [show fault = some e from h] at hnone; cases hnone

end Answers

namespace Description.Json

open ControlSurface.Json (Value)

/-! ## What can be wrong with a document -/

namespace RawNode

/-- The facets that are looked at in a node of a kind, in order, each with its name. -/
def facets (n : RawNode) : NodeKind → List (String × Option RawFacet)
  | .input _ => [("min", n.min), ("max", n.max), ("step", n.step), ("init", n.init)]
  | .output _ => [("min", n.min), ("max", n.max)]
  | _ => []

/-- A node offends: its type is unknown, or a facet that is looked at is a text that denotes no
    number, or it is a leaf without an address. -/
inductive Offends (n : RawNode) : Prop where
  | type : (∀ kind : NodeKind, n.type ≠ kind.word) → Offends n
  | facet {kind : NodeKind} {name text : String} : n.type = kind.word →
    (name, some (.text text)) ∈ n.facets kind → (∀ x, ¬Facet.Denotes text x) → Offends n
  | address {kind : NodeKind} : n.type = kind.word → kind.isLeaf = true → n.address = none →
    Offends n

/-- What is wrong with a facet of a node with a label. -/
def facetFault? (label : String) : String × Option RawFacet → Option BuildError
  | (name, some (.text text)) =>
    if (Facet.read text).isSome then none else some (.description (.badNumber name text label))
  | _ => none

/-- What is wrong with the address of a node of a kind. -/
def addressFault? (n : RawNode) (kind : NodeKind) : Option BuildError :=
  if kind.isLeaf && n.address.isNone then some (.description (.noAddress n.label)) else none

/-- What is wrong with a node: its unknown type, else the first facet that is no number, else the
    address that it has not. -/
def fault? (n : RawNode) : Option BuildError :=
  match NodeKind.ofWord? n.type with
  | none => some (.unknownWidget n.type)
  | some kind => ((n.facets kind).findSome? (facetFault? n.label)).or (n.addressFault? kind)

mutual

/-- A node and the nodes below it that are reached through items of groups, each before those below
    it. -/
def reached : RawNode → List RawNode
  | ⟨type, label, address, url, min, max, step, init, info, items⟩ =>
    ⟨type, label, address, url, min, max, step, init, info, items⟩ ::
      match NodeKind.ofWord? type with
      | some (.group _) => reachedAll items
      | _ => []

/-- The nodes of a list and those below them that are reached through items of groups. -/
def reachedAll : List RawNode → List RawNode
  | [] => []
  | n :: ns => reached n ++ reachedAll ns

end

/-! ## Faults -/

theorem facetFault?_eq_none_iff {label name : String} {f : Option RawFacet} :
    facetFault? label (name, f) = none ↔
      ∀ text, f = some (.text text) → ∃ x, Facet.Denotes text x := by
  rcases f with _ | ⟨x⟩ | ⟨text⟩
  · simp [facetFault?]
  · simp [facetFault?]
  · simp [facetFault?, Option.isSome_iff_exists, Facet.read_eq_some_iff]

theorem addressFault?_eq_none_iff {n : RawNode} {kind : NodeKind} :
    n.addressFault? kind = none ↔ (kind.isLeaf = true → n.address ≠ none) := by
  simp [addressFault?]

/-- A node has a fault if and only if it offends. -/
theorem fault?_eq_none_iff {n : RawNode} : n.fault? = none ↔ ¬n.Offends := by
  unfold fault?
  cases hkind : NodeKind.ofWord? n.type with
  | none =>
    exact iff_of_false (fun h => by cases h)
      (not_not_intro (.type (NodeKind.ofWord?_eq_none_iff.mp hkind)))
  | some kind =>
    have hword := NodeKind.ofWord?_eq_some_iff.mp hkind
    have honly : ∀ k : NodeKind, n.type = k.word → k = kind := fun k hk =>
      Option.some.inj ((NodeKind.ofWord?_eq_some_iff.mpr hk).symm.trans hkind)
    rw [Option.or_eq_none_iff, List.findSome?_eq_none_iff, addressFault?_eq_none_iff]
    constructor
    · rintro ⟨hfacets, haddress⟩ (h | ⟨hk, hmem, hbad⟩ | ⟨hk, hleaf, hnone⟩)
      · exact h kind hword
      · obtain rfl := honly _ hk
        obtain ⟨x, hx⟩ := facetFault?_eq_none_iff.mp (hfacets _ hmem) _ rfl
        exact hbad x hx
      · obtain rfl := honly _ hk
        exact haddress hleaf hnone
    · intro h
      refine ⟨fun p hp => ?_, fun hleaf hnone => h (.address hword hleaf hnone)⟩
      obtain ⟨name, f⟩ := p
      refine facetFault?_eq_none_iff.mpr fun text htext => ?_
      by_contra hbad
      exact h (.facet hword (htext ▸ hp) (not_exists.mp hbad))

end RawNode

/-! ## What a document becomes -/

/-- A facet gives a number; an absent one gives zero. -/
inductive Gives : Option RawFacet → Float → Prop where
  | absent : Gives none 0.0
  | number (x : Float) : Gives (some (.number x)) x
  | text {text : String} {x : Float} : Facet.Denotes text x → Gives (some (.text text)) x

/-- The pairs of all objects of annotations, one object after the other. A text is the value as it
    is; any other value is written out. -/
def entriesOf (info : RawMeta) : List (String × String) :=
  info.flatMap fun object => object.map fun p => (p.1, p.2.plain)

/-- A raw node becomes a node of the kind that its type is the word for. The node has its label,
    its numbers, its address and its annotations, as far as a node of its kind has them; a group
    has what its items become, one for one and in order. -/
inductive Becomes : RawNode → Node → Prop where
  | input {n : RawNode} {c : Input} : n.type = c.kind.word → c.label = n.label →
    n.address = some c.address → Gives n.min c.range.min → Gives n.max c.range.max →
    Gives n.step c.range.step → Gives n.init c.range.init → c.info.entries = entriesOf n.info →
    Becomes n (.input c)
  | output {n : RawNode} {c : Output} : n.type = c.kind.word → c.label = n.label →
    n.address = some c.address → Gives n.min c.min → Gives n.max c.max →
    c.info.entries = entriesOf n.info → Becomes n (.output c)
  | group {n : RawNode} {kind : GroupKind} {info : Meta} {items : List Node} :
    n.type = kind.word → info.entries = entriesOf n.info → List.Forall₂ Becomes n.items items →
    Becomes n (.group kind n.label info items)
  | soundfile {n : RawNode} {s : Soundfile} : n.type = "soundfile" → s.label = n.label →
    s.address = n.address → s.url = n.url → Becomes n (.soundfile s)

/-- A description is that of a raw document: it has its name, its counts and its annotations, and
    what its nodes become. -/
structure Mirrors (raw : RawDocument) (d : Description) : Prop where
  name : d.name = raw.name
  inputs : d.inputs = raw.inputs
  outputs : d.outputs = raw.outputs
  info : d.info.entries = entriesOf raw.info
  nodes : List.Forall₂ Becomes raw.nodes d.nodes

/-! ## The conversion -/

theorem metaOf_entries (info : RawMeta) : (metaOf info).entries = entriesOf info := by
  rw [metaOf, entriesOf, List.map_flatten, ← List.flatMap_def]

theorem number_answers (name label : String) (f : Option RawFacet) :
    Answers (RawNode.facetFault? label (name, f)) (Gives f) (number name label f) := by
  rcases f with _ | ⟨x⟩ | ⟨text⟩
  · exact .ok .absent
  · exact .ok (.number x)
  · rw [number, RawNode.facetFault?]
    cases hread : Facet.read text with
    | none => exact .error
    | some x => exact .ok (.text (Facet.read_eq_some_iff.mp hread))

theorem requiredAddress_answers {n : RawNode} {kind : NodeKind} (h : kind.isLeaf = true) :
    Answers (n.addressFault? kind) (fun a => n.address = some a)
      (requiredAddress n.label n.address) := by
  unfold RawNode.addressFault? requiredAddress
  rw [h]
  cases n.address with
  | none => exact .error
  | some a => exact .ok rfl

theorem findSome?_cons_or {α β : Type} (f : α → Option β) (a : α) (as : List α) :
    (a :: as).findSome? f = (f a).or (as.findSome? f) := by
  rw [List.findSome?_cons]
  cases f a <;> rfl

/-- The faults of a node of a kind that is there, in the order in which they count. -/
theorem RawNode.fault?_of_kind {n : RawNode} {kind : NodeKind} (h : n.type = kind.word) :
    n.fault? =
      ((n.facets kind).findSome? (facetFault? n.label)).or (n.addressFault? kind) := by
  rw [fault?, NodeKind.ofWord?_eq_some_iff.mpr h]

mutual

/-- A node fails with the fault of the first node reached from it that has one. -/
theorem convert_answers : ∀ n : RawNode,
    Answers (n.reached.findSome? RawNode.fault?) (Becomes n) (convert n)
  | ⟨type, label, address, url, min, max, step, init, info, items⟩ => by
    rw [convert, RawNode.reached, findSome?_cons_or]
    cases hkind : NodeKind.ofWord? type with
    | none =>
      rw [RawNode.fault?, hkind]
      exact .error
    | some kind =>
      have hword := NodeKind.ofWord?_eq_some_iff.mp hkind
      rw [RawNode.fault?_of_kind hword]
      cases kind with
      | input kind =>
        simp only [RawNode.facets, findSome?_cons_or, List.findSome?_nil, Option.or_none,
          Option.or_assoc]
        refine (number_answers "min" label min).bind fun min hmin => ?_
        refine (number_answers "max" label max).bind fun max hmax => ?_
        refine (number_answers "step" label step).bind fun step hstep => ?_
        refine (number_answers "init" label init).bind fun init hinit => ?_
        refine (requiredAddress_answers rfl).last fun address haddress => ?_
        exact .ok (.input hword rfl haddress hmin hmax hstep hinit (metaOf_entries info))
      | output kind =>
        simp only [RawNode.facets, findSome?_cons_or, List.findSome?_nil, Option.or_none,
          Option.or_assoc]
        refine (number_answers "min" label min).bind fun min hmin => ?_
        refine (number_answers "max" label max).bind fun max hmax => ?_
        refine (requiredAddress_answers rfl).last fun address haddress => ?_
        exact .ok (.output hword rfl haddress hmin hmax (metaOf_entries info))
      | group kind =>
        exact (convertAll_answers items).last fun nodes hnodes =>
          .ok (.group hword (metaOf_entries info) hnodes)
      | soundfile => exact .ok (.soundfile hword rfl rfl rfl)

theorem convertAll_answers : ∀ ns : List RawNode,
    Answers ((RawNode.reachedAll ns).findSome? RawNode.fault?) (List.Forall₂ Becomes ns)
      (convertAll ns)
  | [] => .ok .nil
  | n :: ns => by
    rw [convertAll, RawNode.reachedAll, List.findSome?_append]
    refine (convert_answers n).bind fun node hnode => ?_
    exact (convertAll_answers ns).last fun nodes hnodes => .ok (.cons hnode hnodes)

end

theorem ofRaw_answers (raw : RawDocument) :
    Answers ((RawNode.reachedAll raw.nodes).findSome? RawNode.fault?) (Mirrors raw) (ofRaw raw) :=
  (convertAll_answers raw.nodes).last fun _ hnodes =>
    .ok ⟨rfl, rfl, rfl, metaOf_entries raw.info, hnodes⟩

/-- A text that is read into raw nodes is no description if and only if one of those that are
    reached offends, and then it fails with the fault of the first of them in pre-order. If none
    offends, the text is read, and the description is that of the raw document. -/
theorem read_converts {text : String} {raw : RawDocument} (hraw : readRaw text = .ok raw) :
    ((∃ e, read text = .error e) ↔ ∃ n ∈ RawNode.reachedAll raw.nodes, n.Offends) ∧
      (∀ e, read text = .error e ↔ ∃ before n after,
        RawNode.reachedAll raw.nodes = before ++ n :: after ∧ (∀ m ∈ before, ¬m.Offends) ∧
          n.fault? = some e) ∧
      ((∀ n ∈ RawNode.reachedAll raw.nodes, ¬n.Offends) →
        ∃ d, read text = .ok d ∧ Mirrors raw d) := by
  have hread : read text = ofRaw raw := by rw [read, hraw]
  have hanswers := ofRaw_answers raw
  have hnone : (RawNode.reachedAll raw.nodes).findSome? RawNode.fault? = none ↔
      ∀ n ∈ RawNode.reachedAll raw.nodes, ¬n.Offends := by
    simp only [List.findSome?_eq_none_iff, RawNode.fault?_eq_none_iff]
  rw [hread]
  refine ⟨?_, fun e => ?_, fun h => hanswers.exists_ok (hnone.mpr h)⟩
  · simp only [hanswers.eq_error_iff, ← Option.ne_none_iff_exists', ne_eq, hnone]
    push Not
    rfl
  · rw [hanswers.eq_error_iff, List.findSome?_eq_some_iff]
    simp only [RawNode.fault?_eq_none_iff]
    tauto

/-- A node with a type, further members that are texts, and items. -/
def written (type : String) (members : List (String × String)) (items : List Value) : Value :=
  .object (("type", .text type) :: ("items", .list items) ::
    members.map fun p => (p.1, .text p.2))

/-- The text of a document with nodes. -/
def documentText (nodes : List Value) : String := (Value.object [("ui", .list nodes)]).compact

/-- Nodes of which the first two have faults that do not count. The upper bound of the slider behind
    them is no number, and what follows offends as well. -/
def loudSlider : String := documentText
  [written "vgroup" []
    [written "soundfile" [("max", "x")] [written "knob" [] []],
      written "hslider" [("max", "loud")] []],
    written "knob" [] []]

/-- A button in a group, with faults that do not count. -/
def quietButton : String := documentText
  [written "hgroup" [("max", "x")]
    [written "button" [("label", "b"), ("address", "/b")] [written "knob" [] []]]]

/-- The types of the nodes that are reached, and what the nodes become. -/
def outlineOf (raw : RawDocument) :
    List String × Except BuildError (List (String × Option String)) :=
  ((RawNode.reachedAll raw.nodes).map (·.type),
    (ofRaw raw).map fun d => (Node.flattenAll d.nodes).map fun n => (n.kind.word, n.address?))

theorem outline_loudSlider : (readRaw loudSlider).map outlineOf =
    .ok (["vgroup", "soundfile", "hslider", "knob"],
      .error (.description (.badNumber "max" "loud" ""))) := by
  decide +kernel

theorem outline_quietButton : (readRaw quietButton).map outlineOf =
    .ok (["hgroup", "button"], .ok [("hgroup", none), ("button", some "/b")]) := by
  decide +kernel

theorem exists_of_map_eq_ok {ε α β : Type} {r : Except ε α} {f : α → β} {b : β}
    (h : r.map f = .ok b) : ∃ a, r = .ok a ∧ f a = b := by
  cases r with
  | ok a => exact ⟨a, rfl, Except.ok.inj h⟩
  | error e => cases h

theorem eq_error_of_map {ε α β : Type} {r : Except ε α} {f : α → β} {e : ε}
    (h : r.map f = .error e) : r = .error e := by
  cases r with
  | ok a => cases h
  | error e' => exact congrArg Except.error (Except.error.inj h)

/-- The first document fails with the fault of its slider, the third of the nodes that are reached.
    The second is read, and is what its raw form becomes. -/
theorem read_converts_loudSlider :
    (∃ raw, readRaw loudSlider = .ok raw ∧
      (RawNode.reachedAll raw.nodes).map (·.type) = ["vgroup", "soundfile", "hslider", "knob"] ∧
      (∃ n ∈ RawNode.reachedAll raw.nodes, n.Offends) ∧
      read loudSlider = .error (.description (.badNumber "max" "loud" ""))) ∧
    ∃ raw d, readRaw quietButton = .ok raw ∧
      (RawNode.reachedAll raw.nodes).map (·.type) = ["hgroup", "button"] ∧
      read quietButton = .ok d ∧ Mirrors raw d ∧
      (Node.flattenAll d.nodes).map (fun n => (n.kind.word, n.address?)) =
        [("hgroup", none), ("button", some "/b")] := by
  constructor
  · obtain ⟨raw, hraw, houtline⟩ := exists_of_map_eq_ok outline_loudSlider
    obtain ⟨htypes, hnodes⟩ := Prod.mk.inj houtline
    have herror : read loudSlider = .error (.description (.badNumber "max" "loud" "")) := by
      rw [read, hraw]
      exact eq_error_of_map hnodes
    exact ⟨raw, hraw, htypes, (read_converts hraw).1.mp ⟨_, herror⟩, herror⟩
  · obtain ⟨raw, hraw, houtline⟩ := exists_of_map_eq_ok outline_quietButton
    obtain ⟨htypes, hnodes⟩ := Prod.mk.inj houtline
    obtain ⟨d, hconverted, hd⟩ := exists_of_map_eq_ok hnodes
    have hread : read quietButton = .ok d := by
      rw [read, hraw]
      exact hconverted
    obtain ⟨hoffends, -, hok⟩ := read_converts hraw
    have hnone : ∀ n ∈ RawNode.reachedAll raw.nodes, ¬n.Offends := by
      intro n hn hbad
      obtain ⟨e, he⟩ := hoffends.mpr ⟨n, hn, hbad⟩
      cases hread.symm.trans he
    obtain ⟨d', hd', hmirrors⟩ := hok hnone
    obtain rfl : d = d' := Except.ok.inj (hread.symm.trans hd')
    exact ⟨raw, d, hraw, htypes, hread, hmirrors, hd⟩

end Description.Json

end ControlSurface
