import ControlSurface.Proofs.Sequencer
import Mathlib.Data.List.Infix

/- What a menu offers. Labels of options are free text, and a menu has them in one text, in quotes
   and with spaces between them. They are read back by cutting the text wherever a quote, a space
   and a quote follow one another (`readOptions`). Labels may hold these themselves: the one option
   `a' 'b` has the text of the two options `a` and `b`.

   What is proved:
     1. `cut_eq_iff`: the parts between the cuts are the ones that were joined if and only if none
        of them holds a separator, and none but the last ends with a quote and a space (`Apart`).
     2. `readOptions_eq_iff`, `optionsText_eq_iff`: the labels of a menu are read back if and only if
        they are such parts (`Legible`), and what is read is the only legible list with that text.
     3. `drawDescription_painted`: each widget of a drawing shows a control, the label of a group
        or the labels of pages.
     4. `build_offers_options`: each selector of a panel that a build leaves offers the labels of
        its pages, and each drop menu those of the choices of its parameter.
     5. `one_page_offered_as_two`: a selector of one page and one of two pages offer the same. -/
namespace ControlSurface

namespace Panel.Nested

/-- The text that lists the options of a widget. -/
def menuText? (n : Nested) : Option String :=
  match n.kind with
  | .widget _ properties => lookupProperty "Menulabels" properties
  | .container _ _ => none

end Panel.Nested

namespace Build

open Panel
open Nested (flattenAll isTabRadio standing Widgets)

namespace Appearance

/-! ## Cuts -/

/-- What stands between two labels: the end of one, a space and the beginning of the next. -/
def separator : List Char := ['\'', ' ', '\'']

/-- The parts of a text between separators. -/
def cut : List Char → List (List Char)
  | '\'' :: ' ' :: '\'' :: cs => [] :: cut cs
  | c :: cs => (cut cs).modifyHead (c :: ·)
  | [] => [[]]

/-- Parts that are told apart when they stand one behind the other: none holds a separator, and
    none but the last ends so that the separator behind it begins early. -/
structure Apart (parts : List (List Char)) : Prop where
  whole : ∀ l ∈ parts, ¬separator <:+: l
  ends : ∀ l ∈ parts.dropLast, ¬['\'', ' '] <:+ l

instance (parts : List (List Char)) : Decidable (Apart parts) :=
  decidable_of_iff ((∀ l ∈ parts, ¬separator <:+: l) ∧ ∀ l ∈ parts.dropLast, ¬['\'', ' '] <:+ l)
    ⟨fun h => ⟨h.1, h.2⟩, fun h => ⟨h.1, h.2⟩⟩

section
variable {l m cs : List Char} {ls : List (List Char)}

theorem cut_separator (cs : List Char) : cut (separator ++ cs) = [] :: cut cs := by
  rw [separator, List.cons_append, List.cons_append, List.cons_append, List.nil_append, cut]

theorem cut_cons {c : Char} (h : ¬separator <+: c :: cs) :
    cut (c :: cs) = (cut cs).modifyHead (c :: ·) := by
  rw [cut]
  rintro rest rfl rfl
  exact h (List.prefix_append separator rest)

theorem cut_ne_nil (cs : List Char) : cut cs ≠ [] := by
  fun_induction cut cs with
  | case1 cs ih => exact List.cons_ne_nil _ _
  | case2 c cs hcut ih => simpa using ih
  | case3 => exact List.cons_ne_nil _ _

/-- A text without a separator is one part. -/
theorem cut_eq_singleton (h : ¬separator <:+: l) : cut l = [l] := by
  induction l with
  | nil => rw [cut]
  | cons c l ih =>
    rw [List.infix_cons_iff, not_or] at h
    rw [cut_cons h.1, ih h.2, List.modifyHead_cons]

/-- Before the end of a label the text does not go on with a separator. -/
theorem no_separator_before_end {c : Char} (h : ¬separator <+: c :: l) (hends : ['\'', ' '] ≠ c :: l)
    (cs : List Char) : ¬separator <+: c :: (l ++ (separator ++ cs)) := by
  match l with
  | [] => simp [separator]
  | [d] => simpa [separator] using hends
  | d :: e :: l => simpa [separator] using h

/-- The first cut is behind a label that holds none and does not end with the beginning of one. -/
theorem cut_append (h : ¬separator <:+: l) (hends : ¬['\'', ' '] <:+ l) (cs : List Char) :
    cut (l ++ (separator ++ cs)) = l :: cut cs := by
  induction l with
  | nil => rw [List.nil_append, cut_separator]
  | cons c l ih =>
    rw [List.infix_cons_iff, not_or] at h
    rw [List.suffix_cons_iff, not_or] at hends
    rw [List.cons_append, cut_cons (no_separator_before_end h.1 hends.1 cs), ih h.2 hends.2,
      List.modifyHead_cons]

theorem Apart.tail (h : Apart (l :: m :: ls)) : Apart (m :: ls) where
  whole := fun k hk => h.whole k (List.mem_cons_of_mem l hk)
  ends := fun k hk => h.ends k (List.mem_cons_of_mem l hk)

theorem cut_joined (h : Apart (l :: ls)) : cut (separator.intercalate (l :: ls)) = l :: ls := by
  induction ls generalizing l with
  | nil =>
    rw [List.intercalate_singleton]
    exact cut_eq_singleton (h.whole l List.mem_cons_self)
  | cons m ls ih =>
    rw [List.intercalate_cons_cons, List.append_assoc,
      cut_append (h.whole l List.mem_cons_self) (h.ends l List.mem_cons_self), ih h.tail]

theorem joined_cons (c : Char) (l : List Char) (ls : List (List Char)) :
    separator.intercalate ((c :: l) :: ls) = c :: separator.intercalate (l :: ls) := by
  cases ls <;> simp

theorem joined_cut (cs : List Char) : separator.intercalate (cut cs) = cs := by
  fun_induction cut cs with
  | case1 cs ih =>
    rw [List.intercalate_cons_of_ne_nil (cut_ne_nil cs), ih]
    rfl
  | case2 c cs _ ih =>
    obtain ⟨l, ls, hparts⟩ := List.exists_cons_of_ne_nil (cut_ne_nil cs)
    rw [hparts] at ih ⊢
    rw [List.modifyHead_cons, joined_cons, ih]
  | case3 => rfl

theorem prefix_joined (l : List Char) (ls : List (List Char)) :
    l <+: separator.intercalate (l :: ls) := by
  cases ls with
  | nil => simp
  | cons m ls =>
    rw [List.intercalate_cons_cons, List.append_assoc]
    exact List.prefix_append _ _

/-- A character in front of parts, where the text does not begin with a separator. -/
theorem Apart.cons {c : Char} (h : Apart (l :: ls))
    (hc : ¬separator <+: c :: separator.intercalate (l :: ls)) : Apart ((c :: l) :: ls) where
  whole := by
    rw [List.forall_mem_cons]
    refine ⟨fun hl => ?_, fun k hk => h.whole k (List.mem_cons_of_mem l hk)⟩
    rcases List.infix_cons_iff.mp hl with hl | hl
    · exact hc (hl.trans (List.cons_prefix_cons.mpr ⟨rfl, prefix_joined l ls⟩))
    · exact h.whole l List.mem_cons_self hl
  ends := by
    cases ls with
    | nil => exact List.forall_mem_nil _
    | cons m ls =>
      rw [List.dropLast_cons_cons, List.forall_mem_cons]
      refine ⟨fun hl => ?_, fun k hk => h.ends k (List.mem_cons_of_mem l hk)⟩
      rcases List.suffix_cons_iff.mp hl with hl | hl
      · -- A quote and a space before the separator are a separator themselves, as it begins with
        -- a quote.
        cases hl
        exact hc (List.prefix_append separator _)
      · exact h.ends l List.mem_cons_self hl

theorem cut_apart (cs : List Char) : Apart (cut cs) := by
  fun_induction cut cs with
  | case1 cs ih =>
    obtain ⟨l, ls, hparts⟩ := List.exists_cons_of_ne_nil (cut_ne_nil cs)
    rw [hparts] at ih ⊢
    exact ⟨List.forall_mem_cons.mpr ⟨by decide, ih.whole⟩,
      List.forall_mem_cons.mpr ⟨by decide, ih.ends⟩⟩
  | case2 c cs hcut ih =>
    have hjoined := joined_cut cs
    obtain ⟨l, ls, hparts⟩ := List.exists_cons_of_ne_nil (cut_ne_nil cs)
    rw [hparts] at ih hjoined ⊢
    rw [List.modifyHead_cons]
    refine ih.cons fun hprefix => ?_
    rw [hjoined] at hprefix
    obtain ⟨rest, hrest⟩ := hprefix
    cases hrest
    exact hcut rest rfl rfl
  | case3 => exact ⟨by decide, by decide⟩

theorem cut_eq_iff (hne : ls ≠ []) : cut (separator.intercalate ls) = ls ↔ Apart ls := by
  obtain ⟨l, ls, rfl⟩ := List.exists_cons_of_ne_nil hne
  exact ⟨fun h => h ▸ cut_apart _, cut_joined⟩

end

/-! ## Texts of menus -/

section
variable {labels others : List String}

/-- The labels that are read from the text of a menu: what its first and its last quote enclose,
    cut at the separators. -/
def readOptions (text : String) : List String :=
  match text.toList with
  | [] => []
  | _ :: cs => (cut cs.dropLast).map String.ofList

/-- Labels that are told apart in the text of a menu. -/
def Legible (labels : List String) : Prop := Apart (labels.map String.toList)

instance (labels : List String) : Decidable (Legible labels) :=
  inferInstanceAs (Decidable (Apart (labels.map String.toList)))

/-- The characters between the first and the last quote of the text of a menu. -/
def joined (labels : List String) : List Char := separator.intercalate (labels.map String.toList)

theorem toList_optionsText (hne : labels ≠ []) :
    (optionsText labels).toList = '\'' :: (joined labels ++ ['\'']) := by
  rw [optionsText, String.toList_intercalate, List.map_map, joined]
  obtain ⟨l, ls, rfl⟩ := List.exists_cons_of_ne_nil hne
  clear hne
  induction ls generalizing l with
  | nil => simp
  | cons m ls ih =>
    rw [List.map_cons, List.map_cons, List.intercalate_cons_cons, ← List.map_cons, ih m]
    simp [separator]

theorem readOptions_optionsText (hne : labels ≠ []) :
    readOptions (optionsText labels) = (cut (joined labels)).map String.ofList := by
  rw [readOptions, toList_optionsText hne]
  exact congrArg (fun cs => (cut cs).map String.ofList) List.dropLast_concat

theorem map_toList_readOptions (hne : labels ≠ []) :
    (readOptions (optionsText labels)).map String.toList = cut (joined labels) := by
  rw [readOptions_optionsText hne, List.map_map]
  exact (List.map_congr_left fun _ _ => String.toList_ofList).trans (List.map_id _)

/-- The labels that are read from the text of a menu are its own if and only if they are
    legible. -/
theorem readOptions_eq_iff (labels : List String) :
    readOptions (optionsText labels) = labels ↔ Legible labels := by
  cases labels with
  | nil => exact iff_of_true (by decide +kernel) (by decide)
  | cons l ls =>
    have hne : l :: ls ≠ [] := List.cons_ne_nil l ls
    rw [Legible, ← cut_eq_iff (by simp), ← joined, ← map_toList_readOptions hne]
    exact ((List.map_injective_iff.mpr fun _ _ => String.toList_inj.mp).eq_iff).symm

theorem legible_readOptions (labels : List String) : Legible (readOptions (optionsText labels)) := by
  cases labels with
  | nil => decide +kernel
  | cons l ls =>
    rw [Legible, map_toList_readOptions (List.cons_ne_nil l ls)]
    exact cut_apart _

/-- What is read has the same text. -/
theorem optionsText_readOptions (labels : List String) :
    optionsText (readOptions (optionsText labels)) = optionsText labels := by
  cases labels with
  | nil => decide +kernel
  | cons l ls =>
    have hne : l :: ls ≠ [] := List.cons_ne_nil l ls
    have hparts := map_toList_readOptions hne
    -- No labels have a text without quotes, but at least one label is read.
    have hread : readOptions (optionsText (l :: ls)) ≠ [] := by
      intro hnil
      rw [hnil] at hparts
      exact cut_ne_nil _ hparts.symm
    rw [← String.toList_inj, toList_optionsText hread, toList_optionsText hne, joined, hparts,
      joined_cut]

/-- What is read from the text of a menu is the only legible list with that text. -/
theorem optionsText_eq_iff (h : Legible others) :
    optionsText others = optionsText labels ↔ others = readOptions (optionsText labels) := by
  constructor
  · intro htext
    rw [← htext]
    exact ((readOptions_eq_iff others).mpr h).symm
  · rintro rfl
    exact optionsText_readOptions labels

end

/-! ## The widgets of a drawing -/

/-- What a node of a drawing shows: a container, which has the name of a label, shows what is in
    it, and a widget a control, the label of a group or the labels of pages. -/
inductive Painted (b : Builder) (n : Nested) : Prop
  | container (label : String) (taken : List String) (h : n.kind.isContainer = true)
      (name : n.name = Naming.fresh taken (Label.nodeName label))
  | input (c : Input) (index : Nat) (taken : List String) (h : n ∈ drawInput b c index taken)
  | output (c : Output) (index : Nat) (taken : List String) (h : n ∈ drawOutput b c index taken)
  | header (label : String) (index : Nat) (taken : List String)
      (h : n ∈ drawHeader b.config label index taken)
  | selector (labels : List String) (h : n ∈ drawSelector labels)

section
variable {b : Builder}

mutual

theorem drawNode_painted : ∀ (node : ControlSurface.Node) (index depth : Nat)
    (taken : List String), ∀ n ∈ flattenAll (drawNode b node index depth taken), Painted b n
  | .input c, index, depth, taken => by
    rw [drawNode, (drawInput_widgets c index taken).flattenAll_eq]
    exact fun n => .input c index taken
  | .output c, index, depth, taken => by
    rw [drawNode, (drawOutput_widgets c index taken).flattenAll_eq]
    exact fun n => .output c index taken
  | .soundfile f, index, depth, taken => by
    rw [drawNode, flattenAll]
    exact List.forall_mem_nil _
  | .group kind label info items, index, depth, taken => by
    have hitems := drawItems_painted (planOf b.config kind label depth) items 0 (takenFor kind) []
    have hselector : ∀ labels, ∀ n ∈ flattenAll (drawSelector labels), Painted b n := by
      intro labels
      rw [(drawSelector_widgets labels).flattenAll_eq]
      exact fun n => .selector labels
    rw [drawNode]
    apply Pictured.append
    · rw [(drawHeader_widgets b.config label index taken).flattenAll_eq]
      exact fun n => .header label index taken
    · rw [drawGroup_eq]
      split
      · rw [flattenAll]
        exact List.forall_mem_nil _
      · refine Pictured.single (P := Painted b) (.container label _ rfl rfl) ?_
        show ∀ m ∈ flattenAll (groupKids kind _), Painted b m
        rw [groupKids]
        split
        · exact Pictured.append (hselector _) hitems
        · exact hitems

theorem drawItems_painted (p : Plan) : ∀ (items : List ControlSurface.Node) (index : Nat)
    (taken labels : List String),
    ∀ n ∈ flattenAll (drawItems b p items index taken labels).1, Painted b n
  | [], index, taken, labels => by
    rw [drawItems, flattenAll]
    exact List.forall_mem_nil _
  | item :: items, index, taken, labels => by
    rw [drawItems]
    refine Pictured.append ?_ (drawItems_painted p items _ _ _)
    split
    · have hkids := drawNode_painted item index p.childDepth []
      rw [drawSlot]
      split
      · rw [flattenAll]
        exact List.forall_mem_nil _
      · split
        · exact Pictured.single (.container item.label taken rfl rfl) hkids
        · exact Pictured.single (.container item.label taken rfl rfl) hkids
    · exact drawNode_painted item _ _ _

end

theorem drawNodes_painted (nodes : List ControlSurface.Node) (index : Nat) (taken : List String) :
    ∀ n ∈ flattenAll (drawNodes b nodes index taken), Painted b n := by
  induction nodes generalizing index taken with
  | nil =>
    rw [drawNodes, flattenAll]
    exact List.forall_mem_nil _
  | cons node nodes ih =>
    rw [drawNodes]
    exact Pictured.append (drawNode_painted node _ _ _) (ih _ _)

theorem drawDescription_painted (d : Description) :
    ∀ n ∈ flattenAll (drawDescription b d), Painted b n := by
  rw [drawDescription]
  split
  · rw [flattenAll]
    exact List.forall_mem_nil _
  · exact drawNodes_painted d.nodes 0 []

end

end Appearance

open Appearance
open TabGroup (survivors labelsOf Wired)

/-! ## The menus of a panel -/

/-- A widget that offers labels. Its text lists them. What is read from the text is the only legible
    list with that text, and so the labels themselves if and only if they are legible. -/
structure Offers (n : Nested) (labels : List String) : Prop where
  text : n.menuText? = some (optionsText labels)
  read : readOptions (optionsText labels) = labels ↔ Legible labels
  legible : Legible (readOptions (optionsText labels))
  only : ∀ others, Legible others →
    (optionsText others = optionsText labels ↔ others = readOptions (optionsText labels))

theorem Offers.of_text {n : Nested} {labels : List String}
    (h : n.menuText? = some (optionsText labels)) : Offers n labels :=
  ⟨h, readOptions_eq_iff labels, legible_readOptions labels, fun _ => optionsText_eq_iff⟩

/-- The labels of the choices of a parameter. -/
def choicesOf (p : Parameter) : List String := (p.menuItems?.getD []).map (·.label)

/-- A tab radio that is wired, with a selector that offers the labels of the pages. -/
structure OffersPages (placed : Leaf → Bool) (shows : Leaf → Nested → Prop) (g : TabGroup)
    (n : Nested) : Prop where
  wired : Wired placed shows g n
  offered : ∃ selector pages, n.children = selector :: pages ∧
    (labelsOf g.isSequencer (survivors placed g.items 0) 0).length = pages.length ∧
    Offers selector (labelsOf g.isSequencer (survivors placed g.items 0) 0)

theorem OffersPages.of_wired {placed : Leaf → Bool} {shows : Leaf → Nested → Prop} {g : TabGroup}
    {n : Nested} (h : Wired placed shows g n) : OffersPages placed shows g n := by
  refine ⟨h, ?_⟩
  obtain ⟨selector, pages, hchildren, -, hkind, -, -, heach⟩ := h
  refine ⟨selector, pages, hchildren, ?_, .of_text ?_⟩
  · rw [TabGroup.length_labelsOf, ← heach.length_eq, List.length_zipIdx]
  · rw [Nested.menuText?, hkind]
    rfl

section
variable {b : Builder} {index : Nat} {taken : List String} {n : Nested}

theorem mem_drawInput {c : Input} (h : n ∈ drawInput b c index taken) :
    ∃ p, (b.widget? (b.key c.address)).bind (·.parameter) = some p ∧
      n = standing taken (inputSpec b.config c p index)
        [⟨.twoWay, .value, parameterExpression b.config p⟩] [] := by
  rw [drawInput] at h
  split at h
  · cases h
  · split at h
    · next p hp => exact ⟨p, hp, List.mem_singleton.mp h⟩
    · cases h

theorem mem_drawOutput {c : Output} (h : n ∈ drawOutput b c index taken) :
    n = standing taken (outputSpec b.config c index)
      [⟨.readOnly, .value, outputExpression b.config c (b.key c.address)⟩] [] := by
  rw [drawOutput] at h
  split at h
  · cases h
  · exact List.mem_singleton.mp h

theorem mem_drawHeader {config : Config} {label : String}
    (h : n ∈ drawHeader config label index taken) :
    n = standing taken ⟨Label.nodeName label, offset config index,
      .widget .header [("Headerlabel", label)]⟩ [] [] := by
  rw [drawHeader] at h
  split at h
  · cases h
  · exact List.mem_singleton.mp h

theorem mem_drawSelector {labels : List String} (h : n ∈ drawSelector labels) :
    n = standing [] ⟨selectorName, 0, .widget .tabSelector
      [("Menunames", quotedList (labels.map Label.nodeName)), ("Menulabels", quotedList labels)]⟩
      [] [] := by
  cases labels with
  | nil => cases h
  | cons label labels =>
    rw [drawSelector] at h
    · exact List.mem_singleton.mp h
    · exact List.cons_ne_nil _ _

end

/-- A drop menu of a drawing shows an input control. It is bound to the parameter of the control's
    address and offers the choices of that. -/
theorem Appearance.Painted.offers {b : Builder} {n : Nested} (h : Painted b n)
    (hn : n.kind.template? = some .dropMenu) :
    ∃ address p, (b.widget? address).bind (·.parameter) = some p ∧
      n.bindings = [⟨.twoWay, .value, parameterExpression b.config p⟩] ∧
      Offers n (choicesOf p) := by
  cases h with
  | container label taken hkind hname =>
    rw [Nested.template?_of_isContainer hkind] at hn
    cases hn
  | input c index taken hmem =>
    obtain ⟨p, hp, rfl⟩ := mem_drawInput hmem
    have htemplate : inputTemplate c = .dropMenu := Option.some.inj hn
    refine ⟨_, p, hp, rfl, .of_text ?_⟩
    show lookupProperty "Menulabels" (inputProperties (inputTemplate c) p ++ _) = _
    rw [htemplate, choicesOf, ← quotedList_eq]
    rfl
  | output c index taken hmem =>
    rw [mem_drawOutput hmem] at hn
    cases hn
  | header label index taken hmem =>
    rw [mem_drawHeader hmem] at hn
    cases hn
  | selector labels hmem =>
    rw [mem_drawSelector hmem] at hn
    cases hn

/-- What the menus of a panel offer. A tab radio offers the labels of its pages. A drop menu is
    bound to a parameter of the control page and offers the choices of that. -/
def OptionsOffered (A : Session) (d : Description) (B : Session) : Prop :=
  ∃ root page, B.hosts.panel.nested = some root ∧
    B.hosts.pages.page? A.builder.config.controlPage = some page ∧
    List.Forall₂ (OffersPages (isPlaced A.builder.config d)
        (Shows A.builder.config page.parameters B.hosts.routes.rows))
      ((tabGroupsOf A.builder.config d.nodes 0).filter
        (TabGroup.stays (isPlaced A.builder.config d)))
      ((flattenAll root.children).filter isTabRadio) ∧
    ∀ n ∈ flattenAll root.children, n.kind.template? = some .dropMenu →
      ∃ p ∈ page.parameters, n.bindings = [⟨.twoWay, .value,
          "op(\x22" ++ A.builder.config.operatorPath ++ "\x22).par." ++ p.name⟩] ∧
        Offers n (choicesOf p)

/-- After a build that ends well, in any session, the menus of the panel offer what they should,
    as far as the labels are legible. -/
theorem build_offers_options (config : Config) (events : List Event) (d : Description)
    (refusal : Option Nat) (report : Report)
    (h : ((Session.history config events).take refusal (buildDescription d true)).1 = .ok report) :
    OptionsOffered (Session.history config events) d
      ((Session.history config events).take refusal (buildDescription d true)).2 := by
  obtain ⟨own, hrooted⟩ := Session.history_rooted config events
  generalize Session.history config events = A at h hrooted ⊢
  have hbuilt := built_of_ok h
  have hnested := build_nested hrooted h
  generalize (A.take refusal (buildDescription d true)).2 = B at hbuilt hnested ⊢
  have hradios := drawDescription_radios (b := B.builder) d
  rw [hbuilt.places_eq_isPlaced, hbuilt.config] at hradios
  refine ⟨_, _, hnested, hbuilt.config ▸ hbuilt.settled.page?, ?_, ?_⟩
  · exact hradios.imp fun g n hn => .of_wired (hn.imp fun l m => hbuilt.shows)
  · intro n hn htemplate
    obtain ⟨address, p, hp, hbindings, hoffers⟩ :=
      (drawDescription_painted d n hn).offers htemplate
    refine ⟨p, (hbuilt.route_eq hp).1, ?_, hoffers⟩
    rw [hbindings, hbuilt.config, parameterExpression_eq]

/-- A tab group with a page for each label, and on the first level a menu of waves. -/
def pagesLabelled (labels : List String) : Description where
  name := none
  inputs := none
  outputs := none
  info := Meta.empty
  nodes := [.group .tabbed "pages" Meta.empty (labels.map fun label =>
      .group .vertical label Meta.empty
        [.input ⟨.button, "go", "/pages/" ++ label ++ "/go", ⟨0, 0, 0, 0⟩, Meta.empty⟩]),
    .input ⟨.numberEntry, "wave", "/wave", ⟨0, 1, 0, 1⟩,
      ⟨[("style", "menu\x7b\x27Saw\x27:0;\x27Don\x27t\x27:1\x7d")]⟩⟩]

/-- The texts of the menus of a panel and what the menus are bound to, depth first. -/
def menusOf (B : Session) : Option (List (String × List Binding)) :=
  B.hosts.panel.nested.map fun root => (flattenAll root.children).filterMap fun n =>
    n.menuText?.map fun text => (text, n.bindings)

theorem build_offers_options_of_quoted_labels :
    let A := Session.history Config.default [.addPage "Settings"]
    let d := pagesLabelled ["it's", "b c"]
    (A.take (some 99) (buildDescription d true)).1 = .ok ⟨3, 3, 0⟩ ∧
      OptionsOffered A d (A.take (some 99) (buildDescription d true)).2 ∧
      menusOf (A.take (some 99) (buildDescription d true)).2 =
        some [("'it's' 'b c'", []),
          ("'Saw' 'Don't'", [⟨.twoWay, .value, "op(\x22.\x22).par.Wave"⟩])] ∧
      readOptions "'it's' 'b c'" = ["it's", "b c"] ∧
      readOptions "'Saw' 'Don't'" = ["Saw", "Don't"] := by
  intro A d
  have h : (A.take (some 99) (buildDescription d true)).1 = .ok ⟨3, 3, 0⟩ := by decide +kernel
  exact ⟨h, build_offers_options _ _ _ _ _ h, by decide +kernel, by decide +kernel,
    by decide +kernel⟩

/-- One page with a label that looks like two offers what two pages offer. -/
theorem one_page_offered_as_two :
    let A := Session.new Config.default
    let one := A.take none (buildDescription (pagesLabelled ["a' 'b"]) true)
    let two := A.take none (buildDescription (pagesLabelled ["a", "b"]) true)
    one.1 = .ok ⟨2, 2, 0⟩ ∧ two.1 = .ok ⟨3, 3, 0⟩ ∧
      tabsOf one.2 = some [([some "'a' 'b'"], [some 0])] ∧
      tabsOf two.2 = some [([some "'a' 'b'"], [some 0, some 1])] ∧
      readOptions "'a' 'b'" = ["a", "b"] := by
  intro A one two
  exact ⟨by decide +kernel, by decide +kernel, by decide +kernel, by decide +kernel,
    by decide +kernel⟩

end Build

end ControlSurface
