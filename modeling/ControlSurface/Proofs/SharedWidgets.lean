import ControlSurface.Proofs.Formats
import ControlSurface.Proofs.Resolution
import ControlSurface.Proofs.RoutingIndex
import Mathlib.Combinatorics.Enumerative.DoubleCounting
import Mathlib.Data.List.Forall2

/- Widgets that a layout refers to more than once. A widget has no address of its own: its leaf has
   that of the place at which it is referred to, and controls are told apart by address alone.

   What is proved:
     1. `Resolves.stands`: the references of a layout and the leaves of its description stand for
        each other, one for one and in order.
     2. `Refers.eq_of_key`: references of one widget below groups of one address come to one
        address, whatever the groups are called before their labels are spelled as channels.
     3. `build_shares`: so such references give one parameter at most, and the control page has no
        more parameters than there are widgets and group addresses in the layout.
     4. `two_parameters_of_one_widget`: below groups of two addresses a widget gives two. -/
namespace ControlSurface

namespace Description.Xml

open ControlSurface.Xml (Element readDocument)

/-! ## References -/

/-- A reference to a widget: the labels of the groups around it, the outermost first, and the id
    under which the widget is declared. -/
structure Reference where
  path : List String
  id : String
deriving Repr, DecidableEq

namespace Reference

/-- The address of the groups around a reference. -/
def place (r : Reference) : String := Label.channelName (String.join (r.path.map ("/" ++ ·)))

/-- The id of a reference with the address of its groups. -/
def key (r : Reference) : String × String := (r.id, r.place)

end Reference

mutual

/-- The references in an element below a path of groups. -/
def referencesUnder (path : List String) : Element → List Reference
  | ⟨name, attributes, text, children, position⟩ =>
    let e : Element := ⟨name, attributes, text, children, position⟩
    if name = "group" then referencesUnderAll (path ++ [labelOf e]) children
    else if name = "widgetref" then (e.attribute? "id").toList.map fun id => ⟨path, id⟩
    else []

/-- The references in elements below a path of groups. -/
def referencesUnderAll (path : List String) : List Element → List Reference
  | [] => []
  | e :: es => referencesUnder path e ++ referencesUnderAll path es

end

/-- The references in a layout, in order. -/
def references (ui : Element) : List Reference :=
  referencesUnderAll [] (ui.grandchildren "layout" "group")

theorem referencesUnder_group (path : List String) {e : Element} (h : e.name = "group") :
    referencesUnder path e = referencesUnderAll (path ++ [labelOf e]) e.children := by
  obtain ⟨name, attributes, text, children, position⟩ := e
  rw [referencesUnder, if_pos h]

theorem referencesUnder_widgetref (path : List String) {e : Element} {id : String}
    (h : e.name = "widgetref") (hid : e.attribute? "id" = some id) :
    referencesUnder path e = [⟨path, id⟩] := by
  obtain ⟨name, attributes, text, children, position⟩ := e
  have hgroup : name ≠ "group" := by
    intro hname
    exact absurd (h.symm.trans hname) (by decide)
  rw [referencesUnder, if_neg hgroup, if_pos h, hid]
  rfl

/-- Only groups and references hold references. -/
theorem referencesUnderAll_filter (path : List String) (es : List Element) :
    referencesUnderAll path (es.filter isItem) = referencesUnderAll path es := by
  induction es with
  | nil => rfl
  | cons e es ih =>
    cases he : isItem e with
    | true => rw [List.filter_cons_of_pos he, referencesUnderAll, referencesUnderAll, ih]
    | false =>
      have hnone : referencesUnder path e = [] := by
        obtain ⟨name, attributes, text, children, position⟩ := e
        simp only [isItem, Bool.or_eq_false_iff, beq_eq_false_iff_ne] at he
        rw [referencesUnder, if_neg he.1, if_neg he.2]
      rw [List.filter_cons_of_neg (by simp [he]), referencesUnderAll, hnone, ih, List.nil_append]

/-! ## What references stand for -/

/-- No two widgets are declared last under an id. -/
theorem LastDeclared.unique {ui v w : Element} {id : String} (hv : LastDeclared ui id v)
    (hw : LastDeclared ui id w) : v = w := by
  have hfind : ∀ {u : Element}, LastDeclared ui id u →
      (declaredWidgets ui).reverse.find? (fun x => x.attribute? "id" == some id) = some u := by
    intro u hu
    obtain ⟨earlier, later, hsplit, hid, hlater⟩ := hu
    have hnone : later.reverse.find? (fun x => x.attribute? "id" == some id) = none := by
      rw [List.find?_eq_none]
      intro x hx
      simpa using hlater x (List.mem_reverse.mp hx)
    rw [hsplit, List.reverse_append, List.reverse_cons, List.append_assoc, List.find?_append,
      hnone, Option.none_or, List.singleton_append, List.find?_cons_of_pos (by simp [hid])]
  exact Option.some.inj ((hfind hv).symm.trans (hfind hw))

/-- A reference stands for a leaf, which is below the same groups: the leaf that the widget
    converts to that is declared last under the id. -/
def StandsFor (ui : Element) (r : Reference) (leaf : List String × Node) : Prop :=
  leaf.1 = r.path ∧ ∃ w, LastDeclared ui r.id w ∧ Converts w leaf.2

mutual

/-- The references in an item and the leaves of its node stand for each other. The induction is on
    the node, since an item of another name than that of a group resolves to a leaf. -/
theorem Resolves.stands {ui : Element} (path : List String) : ∀ {e : Element} (node : Node),
    Resolves ui e node →
    List.Forall₂ (StandsFor ui) (referencesUnder path e) (leavesUnder path node)
  | e, .group kind label info items, h => by
    cases h with
    | group hname _ _ hitems =>
      rw [referencesUnder_group path hname, leavesUnder, ← referencesUnderAll_filter]
      exact Resolves.stands_all _ items hitems
    | reference _ _ _ hconverts => cases hconverts
  | e, .input c, h => by
    cases h with
    | reference hname hid hlast hconverts =>
      rw [referencesUnder_widgetref path hname hid, leavesUnder]
      exact .cons ⟨rfl, _, hlast, hconverts⟩ .nil
  | e, .output c, h => by
    cases h with
    | reference hname hid hlast hconverts =>
      rw [referencesUnder_widgetref path hname hid, leavesUnder]
      exact .cons ⟨rfl, _, hlast, hconverts⟩ .nil
  | e, .soundfile s, h => by
    cases h with
    | reference hname hid hlast hconverts =>
      rw [referencesUnder_widgetref path hname hid, leavesUnder]
      exact .cons ⟨rfl, _, hlast, hconverts⟩ .nil

theorem Resolves.stands_all {ui : Element} (path : List String) : ∀ {es : List Element}
    (nodes : List Node), List.Forall₂ (Resolves ui) es nodes →
    List.Forall₂ (StandsFor ui) (referencesUnderAll path es) (leavesUnderAll path nodes)
  | _, [], h => by
    cases h
    rw [referencesUnderAll, leavesUnderAll]
    exact .nil
  | _, node :: nodes, h => by
    cases h with
    | cons hnode hnodes =>
      rw [referencesUnderAll, leavesUnderAll]
      exact List.rel_append (Resolves.stands path node hnode) (Resolves.stands_all path nodes hnodes)

end

mutual

/-- The leaves below a path that can be shown are those of the node. -/
theorem filterMap_leavesUnder (path : List String) : ∀ node : Node,
    (leavesUnder path node).filterMap (·.2.leaf?) = node.leaves
  | .group kind label info items => by
    rw [leavesUnder, filterMap_leavesUnderAll, Node.leaves_group]
  | .input c => by
    rw [leavesUnder, Node.leaves_input]
    rfl
  | .output c => by
    rw [leavesUnder, Node.leaves_output]
    rfl
  | .soundfile f => by
    rw [leavesUnder, Node.leaves_soundfile]
    rfl

theorem filterMap_leavesUnderAll (path : List String) : ∀ nodes : List Node,
    (leavesUnderAll path nodes).filterMap (·.2.leaf?) = Node.leavesAll nodes
  | [] => by
    rw [leavesUnderAll, Node.leavesAll_nil]
    rfl
  | node :: nodes => by
    rw [leavesUnderAll, List.filterMap_append, filterMap_leavesUnder, filterMap_leavesUnderAll,
      Node.leavesAll_cons]

end

/-! ## Addresses of references -/

/-- A reference comes to an address: that of the widget which is declared last under the id, at
    the place of the reference. -/
def Refers (ui : Element) (strip : Bool) (r : Reference) (address : String) : Prop :=
  ∃ w, LastDeclared ui r.id w ∧ address = Label.canonical strip (addressOf r.path (labelOf w))

/-- Groups and a leaf below them are spelled apart. -/
theorem channelChars_addressOf (path : List String) (label : String) :
    Label.channelChars (addressOf path label).toList =
      Label.channelChars (String.join (path.map ("/" ++ ·))).toList ++
        '/' :: Label.channelChars label.toList := by
  have hsplit : (addressOf path label).toList =
      (String.join (path.map ("/" ++ ·))).toList ++ '/' :: label.toList := by
    simp [addressOf, String.toList_join]
  rw [hsplit, Label.channelChars_append_slash]

/-- References of one id below groups of one address come to one address. -/
theorem Refers.eq_of_key {ui : Element} {strip : Bool} {r s : Reference} {a b : String}
    (hkey : r.key = s.key) (hr : Refers ui strip r a) (hs : Refers ui strip s b) : a = b := by
  obtain ⟨v, hv, rfl⟩ := hr
  obtain ⟨w, hw, rfl⟩ := hs
  obtain ⟨hid, hplace⟩ := Prod.mk.inj hkey
  obtain rfl : v = w := hv.unique (hid ▸ hw)
  have hgroups := String.ofList_injective hplace
  have hspelled : Label.channelChars (addressOf r.path (labelOf v)).toList =
      Label.channelChars (addressOf s.path (labelOf v)).toList := by
    rw [channelChars_addressOf, channelChars_addressOf, hgroups]
  rw [Label.canonical, Label.canonical, Label.canonicalChars, Label.canonicalChars, hspelled]

/-- Every leaf of a description has the address of a reference. -/
theorem exists_refers {ui : Element} {d : Description} {l : Leaf}
    (hnodes : List.Forall₂ (Resolves ui) (ui.grandchildren "layout" "group") d.nodes)
    (haddressed : Addressed (leavesUnderAll [] d.nodes)) (hl : l ∈ d.leaves) (strip : Bool) :
    ∃ r ∈ references ui, Refers ui strip r (l.canonical strip) := by
  have hmem : l ∈ (leavesUnderAll [] d.nodes).filterMap (·.2.leaf?) := by
    rw [filterMap_leavesUnderAll]
    exact hl
  obtain ⟨⟨path, node⟩, hleaf, hl⟩ := List.mem_filterMap.mp hmem
  obtain ⟨r, hr, hpath, w, hw, hconverts⟩ :=
    exists_of_mem_left (Resolves.stands_all [] d.nodes hnodes).flip hleaf
  have haddress : some l.address = some (addressOf r.path (labelOf w)) := by
    have hlabel : node.label = labelOf w := by cases hconverts <;> assumption
    have hstated : node.address? = some l.address := by cases hconverts <;> cases hl <;> rfl
    have hpath : path = r.path := hpath
    rw [← hstated, haddressed _ hleaf, addressOf_eq_intercalate, hpath, hlabel]
  refine ⟨r, hr, w, hw, ?_⟩
  rw [Leaf.canonical, Option.some.inj haddress]

end Description.Xml

namespace Build

open Description.Xml
open ControlSurface.Xml (Element readDocument)

/-! ## Parameters of references -/

/-- A reference gives a parameter: a control has the address that the reference comes to, and the
    parameter. -/
def Gives (ui : Element) (B : Session) (r : Reference) (p : Parameter) : Prop :=
  ∃ w ∈ B.builder.widgets, Refers ui B.builder.config.stripRoot r w.address ∧
    w.parameter = some p

/-- A session shares the widgets of a user interface: every parameter on the control page is given
    by a reference, and references of one widget below groups of one address give one. -/
structure Shares (ui : Element) (B : Session) : Prop where
  page : ∃ page, B.hosts.pages.page? B.builder.config.controlPage = some page ∧
    (∀ p ∈ page.parameters, ∃ r ∈ references ui, Gives ui B r p) ∧
    page.parameters.length ≤ ((references ui).map Reference.key).toFinset.card
  once : ∀ r s p q, r.key = s.key → Gives ui B r p → Gives ui B s q → p = q

section
variable {A B : Session} {d : Description} {usePanel : Bool} {report : Report} {ui : Element}

/-- Every control of a build has the address of a leaf. -/
theorem Built.exists_leaf (h : Built A d usePanel report B) {w : Widget}
    (hw : w ∈ B.builder.widgets) :
    ∃ l ∈ d.leaves, w.address = l.canonical B.builder.config.stripRoot := by
  obtain ⟨l, hl, htells⟩ := exists_of_mem_left h.widgets.1.flip hw
  have haddress := List.mem_map_of_mem (f := (·.canonical A.builder.config.stripRoot)) hl
  rw [controlLeaves, map_canonical_eraseDupsBy, List.mem_eraseDups] at haddress
  obtain ⟨m, hm, hcanonical⟩ := List.mem_map.mp haddress
  refine ⟨m, (List.mem_filter.mp hm).1, ?_⟩
  rw [h.config, htells.address]
  exact hcanonical.symm

/-- Every control of a build has the address that a reference comes to. -/
theorem Built.exists_refers (h : Built A d usePanel report B)
    (hnodes : List.Forall₂ (Resolves ui) (ui.grandchildren "layout" "group") d.nodes)
    (haddressed : Addressed (leavesUnderAll [] d.nodes)) {w : Widget}
    (hw : w ∈ B.builder.widgets) :
    ∃ r ∈ references ui, Refers ui B.builder.config.stripRoot r w.address := by
  obtain ⟨l, hl, haddress⟩ := h.exists_leaf hw
  rw [haddress]
  exact Description.Xml.exists_refers hnodes haddressed hl _

/-- There are no more routes than keys of references: each route has the address of a reference,
    no two have one address, and references of one key come to one address. -/
theorem Built.length_routesOf_le (h : Built A d usePanel report B)
    (hrefers : ∀ w ∈ B.builder.widgets, ∃ r ∈ references ui,
      Refers ui B.builder.config.stripRoot r w.address) :
    (routesOf B.builder.widgets).length ≤ ((references ui).map Reference.key).toFinset.card := by
  have hnodup : ((routesOf B.builder.widgets).map (·.address)).Nodup :=
    h.addresses_nodup.sublist (routesOf_addresses_sublist _)
  rw [← List.length_map (·.address), ← List.toFinset_card_of_nodup hnodup]
  apply Finset.card_le_card_of_forall_subsingleton fun address key =>
    ∃ r, r.key = key ∧ Refers ui B.builder.config.stripRoot r address
  · intro address haddress
    have hwidget := (routesOf_addresses_sublist _).subset (List.mem_toFinset.mp haddress)
    obtain ⟨w, hw, rfl⟩ := List.mem_map.mp hwidget
    obtain ⟨r, hr, hrw⟩ := hrefers w hw
    exact ⟨r.key, List.mem_toFinset.mpr (List.mem_map_of_mem hr), r, rfl, hrw⟩
  · intro key _ a ha b hb
    obtain ⟨-, r, hr, hra⟩ := ha
    obtain ⟨-, s, hs, hsb⟩ := hb
    exact hra.eq_of_key (hr.trans hs.symm) hsb

/-- References of one key give one parameter, since no two controls have one address. -/
theorem Built.gives_unique (h : Built A d usePanel report B) {r s : Reference} {p q : Parameter}
    (hkey : r.key = s.key) (hr : Gives ui B r p) (hs : Gives ui B s q) : p = q := by
  obtain ⟨v, hv, hrv, hvp⟩ := hr
  obtain ⟨w, hw, hsw, hwq⟩ := hs
  have hsame : v = w :=
    List.inj_on_of_nodup_map h.addresses_nodup hv hw (hrv.eq_of_key hkey hsw)
  rw [hsame, hwq] at hvp
  exact (Option.some.inj hvp).symm

theorem Built.shares (h : Built A d usePanel report B)
    (hnodes : List.Forall₂ (Resolves ui) (ui.grandchildren "layout" "group") d.nodes)
    (haddressed : Addressed (leavesUnderAll [] d.nodes)) : Shares ui B := by
  have hrefers : ∀ w ∈ B.builder.widgets, ∃ r ∈ references ui,
      Refers ui B.builder.config.stripRoot r w.address :=
    fun w hw => h.exists_refers hnodes haddressed hw
  refine ⟨⟨_, h.settled.page?, ?_, ?_⟩, fun r s p q => h.gives_unique⟩
  · intro p hp
    obtain ⟨w, hw, hwp⟩ := List.mem_filterMap.mp hp
    obtain ⟨r, hr, hrw⟩ := hrefers w hw
    exact ⟨r, hr, w, hw, hrw, hwp⟩
  · rw [← length_routesOf]
    exact h.length_routesOf_le hrefers

end

/-- The build of an XML text is that of what is read from it. -/
theorem Source.build_of_xml {text : String} {d : Description} {source : Source}
    (hread : Description.Xml.read text = .ok d)
    (hsource : source = .text text ∨ source = .description d) (usePanel : Bool) :
    source.build usePanel = buildDescription d usePanel := by
  obtain rfl | rfl := hsource
  · obtain ⟨htext, hblank⟩ := Description.read_of_xml hread
    exact Description.buildText_of_read hblank htext usePanel
  · rfl

/-- A build of an XML text, or of what is read from it, shares the widgets of its user interface
    by where they are referred to: the control page has no more parameters than there are pairs of
    an id and the address of the groups around a reference to it. -/
theorem build_shares (A : Session) {text : String} {d : Description} {source : Source}
    (hread : Description.Xml.read text = .ok d)
    (hsource : source = .text text ∨ source = .description d) (usePanel : Bool)
    (refusal : Option Nat) (report : Report)
    (h : (A.take refusal (source.build usePanel)).1 = .ok report) :
    ∃ root ui, readDocument text = .ok root ∧ root.find? "ui" = some ui ∧
      Shares ui (A.take refusal (source.build usePanel)).2 := by
  rw [Source.build_of_xml hread hsource] at h ⊢
  rw [Description.Xml.read] at hread
  split at hread
  · next root hroot =>
    have hsettles := ofRoot_settles root
    rw [hread] at hsettles
    obtain ⟨ui, hui, hnodes, haddressed⟩ := hsettles
    exact ⟨root, ui, hroot, hui, (built_of_ok h).shares hnodes haddressed⟩
  · cases hread

/-- A text with one button, to which two groups of one address and another group refer. -/
def sharedButton : List String :=
  ["<ui><activewidgets>", "<widget id=\x271\x27 type=\x27button\x27>", "<label>c</label></widget>",
    "</activewidgets><layout>", "<group><label>a b</label>", "<widgetref id=\x271\x27/>",
    "<widgetref id=\x271\x27/></group>", "<group><label>a_b</label>",
    "<widgetref id=\x271\x27/></group>", "<group><label>z</label>",
    "<widgetref id=\x271\x27/></group>", "</layout></ui>"]

/-- What building the text comes to. -/
def builtButton : Except BuildError Report × Session :=
  (Session.new Config.default).take none ((Source.text (String.join sharedButton)).build true)

/-- What the build of the text comes to, computed in one go, since the text is long to read. -/
theorem run_sharedButton :
    (readDocument (String.join sharedButton)).toOption.bind (fun root =>
        (root.find? "ui").bind fun ui => (ofRoot root).toOption.bind fun d =>
          let r := (Session.new Config.default).take none (buildDescription d true)
          (r.2.hosts.pages.page? r.2.builder.config.controlPage).map fun page =>
            (references ui, r.1, page.parameters.map (·.name))) =
      some ([⟨["a b"], "1"⟩, ⟨["a b"], "1"⟩, ⟨["a_b"], "1"⟩, ⟨["z"], "1"⟩], .ok ⟨2, 2, 0⟩,
        ["C", "C1"]) := by
  rw [readDocument, String.toList_join]
  simp only [sharedButton, List.flatMap_cons, List.flatMap_nil, String.reduceToList,
    List.cons_append, List.nil_append]
  decide +kernel

theorem ok_of_toOption {ε α : Type} {r : Except ε α} {a : α} (h : r.toOption = some a) :
    r = .ok a := by
  cases r with
  | error e => cases h
  | ok b => exact congrArg _ (Option.some.inj h)

/-- What the text is read as, and what its build leaves. -/
theorem builtButton_eq :
    ∃ root ui d page, readDocument (String.join sharedButton) = .ok root ∧
      root.find? "ui" = some ui ∧
      references ui = [⟨["a b"], "1"⟩, ⟨["a b"], "1"⟩, ⟨["a_b"], "1"⟩, ⟨["z"], "1"⟩] ∧
      Description.Xml.read (String.join sharedButton) = .ok d ∧ builtButton.1 = .ok ⟨2, 2, 0⟩ ∧
      builtButton.2.hosts.pages.page? builtButton.2.builder.config.controlPage = some page ∧
      page.parameters.map (·.name) = ["C", "C1"] := by
  obtain ⟨root, hroot, hrest⟩ := Option.bind_eq_some_iff.mp run_sharedButton
  obtain ⟨ui, hui, hrest⟩ := Option.bind_eq_some_iff.mp hrest
  obtain ⟨d, hd, hrest⟩ := Option.bind_eq_some_iff.mp hrest
  obtain ⟨page, hpage, htold⟩ := Option.map_eq_some_iff.mp hrest
  obtain ⟨hreferences, htold⟩ := Prod.mk.inj htold
  obtain ⟨hresult, hnames⟩ := Prod.mk.inj htold
  have hdocument := ok_of_toOption hroot
  have hread : Description.Xml.read (String.join sharedButton) = .ok d := by
    rw [Description.Xml.read, hdocument]
    exact ok_of_toOption hd
  rw [builtButton, Source.build_of_xml hread (.inl rfl)]
  exact ⟨root, ui, d, page, hdocument, hui, hreferences, hread, hresult, hpage, hnames⟩

theorem build_shares_button :
    ∃ d, Description.Xml.read (String.join sharedButton) = .ok d ∧
      builtButton.1 = .ok ⟨2, 2, 0⟩ ∧
      ∃ root ui, readDocument (String.join sharedButton) = .ok root ∧
        root.find? "ui" = some ui ∧ Shares ui builtButton.2 := by
  obtain ⟨_, _, d, _, _, _, _, hread, hresult, -⟩ := builtButton_eq
  exact ⟨d, hread, hresult, build_shares _ hread (.inl rfl) _ _ _ hresult⟩

/-- The button gives two parameters, one below each address, though it is one widget. -/
theorem two_parameters_of_one_widget :
    ∃ root ui d page, readDocument (String.join sharedButton) = .ok root ∧
      root.find? "ui" = some ui ∧ Description.Xml.read (String.join sharedButton) = .ok d ∧
      builtButton.1 = .ok ⟨2, 2, 0⟩ ∧
      builtButton.2.hosts.pages.page? builtButton.2.builder.config.controlPage = some page ∧
      ((references ui).map (·.id)).toFinset = {"1"} ∧ page.parameters.length = 2 ∧
      ¬ page.parameters.length ≤ ((references ui).map (·.id)).toFinset.card := by
  obtain ⟨root, ui, d, page, hroot, hui, hreferences, hread, hresult, hpage, hnames⟩ :=
    builtButton_eq
  have hids : ((references ui).map (·.id)).toFinset = {"1"} := by
    rw [hreferences]
    rfl
  have hlength : page.parameters.length = 2 := by
    rw [← List.length_map (·.name), hnames]
    rfl
  refine ⟨root, ui, d, page, hroot, hui, hread, hresult, hpage, hids, hlength, ?_⟩
  rw [hlength, hids, Finset.card_singleton]
  omega

end Build

end ControlSurface
