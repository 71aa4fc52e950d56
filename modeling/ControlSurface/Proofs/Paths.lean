import ControlSurface.Proofs.Alphabet
import ControlSurface.Proofs.Options
import ControlSurface.Proofs.Preorder
import ControlSurface.Proofs.RoutingIndex

/- Paths on the panel. The names of the nodes on the way to a node make its path. A path is found
   again (`Tree.find?`) if siblings have different names, and if every name can stand between
   slashes (`IsPathName`): an empty name is passed over, and a name with a slash is two.

   What is proved:
     1. `WellFormed.exists_leads`, `Leads.names_unique`: in a tree one list of names leads to each
        node.
     2. `Leads.walk_eq`, `find?_intercalate`: a walk along these names comes to the node, and so does
        a search for their path.
     3. `Session.history_wellFormed`: the panel of a session is a tree, whatever has happened.
     4. `Painted.isPathName`: what a build gives names to has one of four kinds of names, and each is
        one for paths; the number behind a name changes nothing in that.
     5. `build_addressable`: so every node of a panel that was built is found under its path. -/
namespace ControlSurface

namespace Panel

/-- A name that a path can hold between two slashes. -/
def IsPathName (name : String) : Prop := name ≠ "" ∧ '/' ∉ name.toList

namespace Tree
variable {t : Tree} {id k : Nat} {names : List String}

/-! ## The names on the way to a node -/

/-- Names lead from a node down to a node: the first is that of a child, from which the others
    lead on. -/
inductive Leads (t : Tree) : Nat → List String → Nat → Prop where
  | here (id : Nat) : Leads t id [] id
  | down {id c k : Nat} {n : Node} {names : List String} : c ∈ t.children id →
    t.node? c = some n → Leads t c names k → Leads t id (n.name :: names) k

theorem Leads.reaches (h : t.Leads id names k) : t.Reaches id k := by
  induction h with
  | here => exact .refl
  | down hc _ _ ih => exact .head hc ih

theorem childNamed?_eq_some {name : String} {c : Nat} (h : t.childNamed? id name = some c) :
    c ∈ t.children id ∧ ∃ n, t.node? c = some n ∧ n.name = name := by
  rw [childNamed?] at h
  refine ⟨List.mem_of_find?_eq_some h, ?_⟩
  have hany := List.find?_some h
  cases hn : t.node? c with
  | none => rw [hn] at hany; cases hany
  | some n =>
    rw [hn] at hany
    exact ⟨n, rfl, beq_iff_eq.mp hany⟩

namespace WellFormed

theorem exists_leads (h : t.WellFormed) (hk : t.Reaches id k) : ∃ names, t.Leads id names k := by
  induction hk using Relation.ReflTransGen.head_induction_on with
  | refl => exact ⟨[], .here k⟩
  | head hc _ ih =>
    obtain ⟨names, hnames⟩ := ih
    obtain ⟨-, n, hn, -⟩ := h.child _ _ hc
    exact ⟨n.name :: names, .down hc hn hnames⟩

theorem childNames_eq_map (h : t.WellFormed) (id : Nat) :
    t.childNames id = (t.children id).map fun c => ((t.node? c).map (·.name)).getD "" := by
  rw [childNames, ← List.filterMap_eq_map]
  refine List.filterMap_congr fun c hc => ?_
  obtain ⟨-, n, hn, -⟩ := h.child id c hc
  rw [Function.comp_apply, hn]
  rfl

/-- Siblings of one name are one. -/
theorem eq_of_name (h : t.WellFormed) {a b : Nat} {n m : Node} (ha : a ∈ t.children id)
    (hb : b ∈ t.children id) (hn : t.node? a = some n) (hm : t.node? b = some m)
    (hname : n.name = m.name) : a = b := by
  have hnames := h.names id
  rw [h.childNames_eq_map] at hnames
  refine List.inj_on_of_nodup_map hnames ha hb ?_
  rw [hn, hm]
  exact hname

theorem childNamed?_eq (h : t.WellFormed) {c : Nat} {n : Node} (hc : c ∈ t.children id)
    (hn : t.node? c = some n) : t.childNamed? id n.name = some c := by
  have hfound : (t.childNamed? id n.name).isSome = true := by
    rw [childNamed?, List.find?_isSome]
    exact ⟨c, hc, by rw [hn]; exact beq_self_eq_true n.name⟩
  obtain ⟨b, hb⟩ := Option.isSome_iff_exists.mp hfound
  obtain ⟨hmem, m, hm, hname⟩ := childNamed?_eq_some hb
  rw [hb, h.eq_of_name hmem hc hm hn hname]

end WellFormed

/-- In a tree a walk along the names on the way to a node comes to the node. -/
theorem Leads.walk_eq (hl : t.Leads id names k) (h : t.WellFormed) : t.walk id names = some k := by
  induction hl with
  | here => rfl
  | down hc hn _ ih => rw [walk, h.childNamed?_eq hc hn, Option.bind_some, ih]

/-- No other names lead to the node. -/
theorem Leads.names_unique {others : List String} (hl : t.Leads id names k) (h : t.WellFormed)
    (ho : t.Leads id others k) : names = others := by
  -- A child of a node is not above the node.
  have hback : ∀ {id c}, c ∈ t.children id → ¬t.Reaches c id := by
    intro id c hc hreach
    have hlt := (h.child id c hc).1
    have hle := h.ascends.le_of_reaches hreach
    omega
  induction hl generalizing others with
  | here =>
    cases ho with
    | here => rfl
    | down hc _ hrest => exact absurd hrest.reaches (hback hc)
  | down hc hn hrest ih =>
    cases ho with
    | here => exact absurd hrest.reaches (hback hc)
    | down hc' hn' hrest' =>
      obtain rfl := h.eq_of_reaches hc hc' hrest.reaches hrest'.reaches
      obtain rfl := Option.some.inj (hn.symm.trans hn')
      rw [ih hrest']

/-- What holds of the names of all nodes below the root holds of the names on the way to a node. -/
theorem Leads.forall_names {P : String → Prop} (hl : t.Leads id names k) (h : t.WellFormed)
    (hP : ∀ id n, t.node? id = some n → id ≠ root → P n.name) : ∀ name ∈ names, P name := by
  induction hl with
  | here => exact List.forall_mem_nil _
  | @down id c k n names hc hn _ ih =>
    have hlt := (h.child id c hc).1
    exact List.forall_mem_cons.mpr ⟨hP c n hn (Nat.ne_of_gt (Nat.zero_lt_of_lt hlt)), ih⟩

/-! ## Paths -/

theorem find?_intercalate (t : Tree) (hnames : ∀ name ∈ names, IsPathName name) :
    t.find? ("/".intercalate names) = t.walk root names := by
  have hparts : (Text.segments '/' ("/".intercalate names).toList).filter (· ≠ []) =
      names.map String.toList := by
    rw [Text.toList_intercalate_slash]
    cases names with
    | nil => decide
    | cons name names =>
      rw [Text.segments_joinSegments (by simp), List.filter_eq_self]
      · intro part hpart
        obtain ⟨s, hs, rfl⟩ := List.mem_map.mp hpart
        simpa using (hnames s hs).1
      · intro part hpart
        obtain ⟨s, hs, rfl⟩ := List.mem_map.mp hpart
        exact (hnames s hs).2
  rw [find?, hparts, List.map_map]
  congr 1
  exact (List.map_congr_left fun s _ => String.ofList_toList).trans (List.map_id names)

/-- Every node of a tree is found under its path, and under no other. The names below the root are
    such as a path can hold. -/
structure Addressable (t : Tree) : Prop where
  named : ∀ id n, t.node? id = some n → id ≠ root → IsPathName n.name
  leads : ∀ id n, t.node? id = some n → ∃! names, t.Leads root names id
  found : ∀ names id, t.Leads root names id → t.find? ("/".intercalate names) = some id
  apart : ∀ names others id k, t.Leads root names id → t.Leads root others k → id ≠ k →
    "/".intercalate names ≠ "/".intercalate others

theorem WellFormed.addressable (h : t.WellFormed)
    (hnamed : ∀ id n, t.node? id = some n → id ≠ root → IsPathName n.name) : t.Addressable := by
  have hfound : ∀ names id, t.Leads root names id → t.find? ("/".intercalate names) = some id := by
    intro names id hl
    rw [find?_intercalate t (hl.forall_names h hnamed), hl.walk_eq h]
  refine ⟨hnamed, fun id n hn => ?_, hfound, fun names others id k hl ho hne hpath => ?_⟩
  · obtain ⟨names, hl⟩ := h.exists_leads (h.reaches_of_node? hn)
    exact ⟨names, hl, fun others ho => ho.names_unique h hl⟩
  · have hid := hfound names id hl
    rw [hpath, hfound others k ho] at hid
    exact hne (Option.some.inj hid).symm

/-! ## Nested nodes and their names -/

/-- Nested nodes have the names that a walk meets. -/
theorem names_nestedFrom (t : Tree) (depth : Nat) (ids : List Nat) :
    (Nested.flattenAll (t.nestedFrom depth ids)).map (·.name) =
      (t.preorder depth ids).filterMap fun id => (t.node? id).map (·.name) := by
  induction depth generalizing ids with
  | zero =>
    rw [nestedFrom, preorder, Nested.flattenAll]
    rfl
  | succ depth ih =>
    rw [nestedFrom, preorder]
    induction ids with
    | nil =>
      rw [List.filterMap_nil, Nested.flattenAll]
      rfl
    | cons id ids ihs =>
      rw [List.flatMap_cons, List.filterMap_append, ← ihs]
      cases hn : t.node? id with
      | none =>
        rw [List.filterMap_cons_none (by rw [hn]; rfl), if_neg (by simp), List.filterMap_nil,
          List.nil_append]
      | some n =>
        rw [List.filterMap_cons_some (by rw [hn]; rfl), Nested.flattenAll_cons,
          Nested.flattenAll_single, List.map_append, List.map_cons, if_pos Option.isSome_some,
          List.filterMap_cons_some (by rw [hn]; rfl), children_eq hn, ← ih]
        rfl

/-- A node below the root has a name that is among those of the nested nodes. -/
theorem WellFormed.name_mem_nested (h : t.WellFormed) {top : Nested} {n : Node}
    (htop : t.nested = some top) (hn : t.node? id = some n) (hid : id ≠ root) :
    n.name ∈ (Nested.flattenAll top.children).map (·.name) := by
  obtain ⟨r, hr, -⟩ := h.top
  have hkids : top.children = t.nestedFrom t.slots.size (t.children root) := by
    rw [nested, nestedFrom, List.filterMap_cons_some (by rw [hr]; rfl), List.head?_cons] at htop
    rw [← Option.some.inj htop, children_eq hr]
    rfl
  obtain rfl | ⟨c, hc, hreach⟩ := reaches_iff.mp (h.reaches_of_node? hn)
  · exact absurd rfl hid
  · have hdeep : t.Deep t.slots.size (t.children root) := fun c _ => Nat.le_add_left _ c
    rw [hkids, names_nestedFrom, List.mem_filterMap]
    refine ⟨id, (mem_preorder h.ascends hdeep).mpr ⟨⟨c, hc, hreach⟩, by rw [hn]; rfl⟩, ?_⟩
    rw [hn, Option.map_some]

end Tree

end Panel

/-! ## Names that a build gives -/

namespace Naming
open Panel (IsPathName)

/-- A number behind a name is no matter to paths. -/
theorem fresh_isPathName {stem : String} (h : IsPathName stem) (taken : List String) :
    IsPathName (fresh taken stem) := by
  obtain ⟨digits, hname, hdigits⟩ := fresh_toList taken stem
  constructor
  · intro hempty
    rw [hempty] at hname
    exact h.1 (String.toList_inj.mp (List.append_eq_nil_iff.mp hname.symm).1)
  · rw [hname, List.mem_append]
    rintro (hslash | hslash)
    · exact h.2 hslash
    · exact absurd (hdigits '/' hslash) (by decide +kernel)

end Naming

namespace Label
open Panel (IsPathName)

theorem nodeName_isPathName (label : String) : IsPathName (nodeName label) := by
  have hchars : nodeChars label.toList ≠ [] ∧ '/' ∉ nodeChars label.toList := by
    unfold nodeChars
    split
    · decide
    · next hne =>
      refine ⟨fun h => hne (List.map_eq_nil_iff.mp h), fun h => ?_⟩
      obtain ⟨c, -, hc⟩ := List.mem_map.mp h
      split at hc
      · next hnode =>
        subst hc
        revert hnode
        decide
      · exact absurd hc (by decide)
  refine ⟨fun h => hchars.1 ?_, ?_⟩
  · exact String.toList_ofList.symm.trans (congrArg String.toList h)
  · rw [nodeName, String.toList_ofList]
    exact hchars.2

theorem parameterStem_isPathName (label : String) : IsPathName (parameterStem label) := by
  obtain ⟨first, rest, hstem, -⟩ := stemChars_start label.toList
  rw [IsPathName, parameterStem, String.toList_ofList]
  constructor
  · intro h
    have hnil : stemChars label.toList = [] :=
      String.toList_ofList.symm.trans (congrArg String.toList h)
    rw [hstem] at hnil
    cases hnil
  · intro hslash
    rcases stemChars_alphabet hslash with halpha | ⟨hmark, -⟩
    · exact absurd halpha (by decide +kernel)
    · exact absurd hmark (by decide)

end Label

namespace Build
open Panel (IsPathName Nested)
open Appearance

/-! ## The panel of a session -/

theorem Call.perform_wellFormed {c : Call} {h k : Hosts} {id : Nat} (hk : c.perform h = .ok (id, k))
    (ht : h.panel.WellFormed) : k.panel.WellFormed := by
  have hok := Call.perform_ok hk
  cases c with
  | resetPage page =>
    cases hok
    exact ht
  | appendParameter page p =>
    obtain ⟨ps, -, rfl⟩ := hok
    exact ht
  | clearPanel =>
    cases hok
    exact ht.clear
  | create parent spec =>
    obtain ⟨t, hu, rfl⟩ := hok
    exact ht.create hu
  | bind node b =>
    obtain ⟨t, hu, rfl⟩ := hok
    exact ht.bind hu
  | assign node key value =>
    obtain ⟨t, hu, rfl⟩ := hok
    exact ht.assign hu
  | destroy node =>
    obtain ⟨t, hu, rfl⟩ := hok
    exact ht.destroy hu

theorem Call.performAll_wellFormed {h k : Hosts} {cs : List Call} (hk : performAll h cs = .ok k)
    (ht : h.panel.WellFormed) : k.panel.WellFormed := by
  induction cs generalizing h with
  | nil =>
    cases hk
    exact ht
  | cons c cs ih =>
    rw [performAll] at hk
    cases hc : c.perform h with
    | error e =>
      rw [hc] at hk
      cases hk
    | ok r =>
      rw [hc] at hk
      exact ih hk (Call.perform_wellFormed hc ht)

/-- A step whose log tells all that it does to the panel keeps it a tree. -/
theorem Step.Obedient.wellFormed {α : Type} {x : Step α} (hx : x.Obedient) {s : State}
    (hs : s.hosts.panel.WellFormed) : (x.outcome s).2.hosts.panel.WellFormed := by
  obtain ⟨-, carried, -, hcarried, -⟩ := hx.logged s
  exact (Call.performAll_wellFormed hcarried hs :)

namespace Session
variable {A : Session}

theorem after_wellFormed (h : A.hosts.panel.WellFormed) (e : Event) :
    (A.after e).hosts.panel.WellFormed := by
  cases e with
  | build source usePanel refusal =>
    exact (source.build_obedient usePanel).wellFormed (s := A.start refusal) h
  | configure config => exact h
  | renew => exact h
  | addPage page => exact h
  | call c =>
    rw [after]
    split
    · next hk => exact Call.perform_wellFormed hk h
    · exact h

theorem history_wellFormed (config : Config) (events : List Event) :
    (history config events).hosts.panel.WellFormed :=
  history_induct (P := fun A => A.hosts.panel.WellFormed) .of_empty
    (fun _ e h => after_wellFormed h e) events

end Session

/-! ## The names on a panel that was built -/

theorem parametersOf_isPathName {names : Naming.Allocator} {ls : List Leaf} {p : Parameter}
    (hp : some p ∈ parametersOf names ls) : IsPathName p.name := by
  induction ls generalizing names with
  | nil => cases hp
  | cons l ls ih =>
    cases l with
    | input c =>
      rw [parametersOf] at hp
      rcases List.mem_cons.mp hp with hp | hp
      · rw [Option.some.inj hp]
        exact Naming.fresh_isPathName (Label.parameterStem_isPathName c.label) names.used
      · exact ih hp
    | output c =>
      rw [parametersOf] at hp
      exact ih (List.mem_of_ne_of_mem (Option.some_ne_none p) hp)

theorem Built.isPathName {A B : Session} {d : Description} {usePanel : Bool} {report : Report}
    (h : Built A d usePanel report B) {address : String} {p : Parameter}
    (hp : (B.builder.widget? address).bind (·.parameter) = some p) : IsPathName p.name := by
  obtain ⟨w, hw, hparameter⟩ := List.mem_filterMap.mp (h.route_eq hp).1
  have hmem : some p ∈ B.builder.widgets.map (·.parameter) := hparameter ▸ List.mem_map_of_mem hw
  rw [h.widgets.2] at hmem
  exact parametersOf_isPathName hmem

/-- A node of a drawing has a name for paths, if the parameters have. -/
theorem Appearance.Painted.isPathName {b : Builder} {n : Nested} (h : Painted b n)
    (hp : ∀ address p, (b.widget? address).bind (·.parameter) = some p → IsPathName p.name) :
    IsPathName n.name := by
  cases h with
  | container label taken _ hname =>
    rw [hname]
    exact Naming.fresh_isPathName (Label.nodeName_isPathName label) taken
  | input c index taken hmem =>
    obtain ⟨p, hparameter, rfl⟩ := mem_drawInput hmem
    exact Naming.fresh_isPathName (hp _ p hparameter) taken
  | output c index taken hmem =>
    rw [mem_drawOutput hmem]
    exact Naming.fresh_isPathName (Label.nodeName_isPathName _) taken
  | header label index taken hmem =>
    rw [mem_drawHeader hmem]
    exact Naming.fresh_isPathName (Label.nodeName_isPathName label) taken
  | selector labels hmem =>
    have hselector : IsPathName selectorName := ⟨by decide, by decide⟩
    rw [mem_drawSelector hmem]
    exact Naming.fresh_isPathName hselector []

/-- Whatever the labels are, every node of a panel that a build leaves, where it ends well, is found
    under its path. No two nodes have one path, and no name is empty or has a slash. -/
theorem build_addressable (config : Config) (events : List Event) (source : Source)
    (refusal : Option Nat) (report : Report)
    (h : ((Session.history config events).take refusal (source.build true)).1 = .ok report) :
    ((Session.history config events).take refusal (source.build true)).2.hosts.panel.Addressable := by
  obtain ⟨own, hrooted⟩ := Session.history_rooted config events
  have hwell := Session.history_wellFormed config events
  generalize Session.history config events = A at h hrooted hwell ⊢
  have hpanel : (A.take refusal (source.build true)).2.hosts.panel.WellFormed :=
    (source.build_obedient true).wellFormed (s := A.start refusal) hwell
  refine hpanel.addressable fun id n hn hid => ?_
  obtain hcleared | ⟨d, hd⟩ := Source.take_of_ok h
  · -- Of a panel that was cleared the root alone is left.
    have hroot : (A.cleared true).session.hosts.panel =
        ⟨#[some { Panel.Tree.freshRoot with bindings := own }]⟩ := hrooted.clear_eq
    rw [hcleared, hroot] at hn
    have hlt : id < 1 := Panel.Tree.lt_size_of_node? hn
    exact absurd (Nat.lt_one_iff.mp hlt) hid
  · rw [hd] at h hpanel hn
    have hbuilt := built_of_ok h
    obtain ⟨m, hm, hname⟩ :=
      List.mem_map.mp (hpanel.name_mem_nested (build_nested hrooted h) hn hid)
    rw [← hname]
    exact (drawDescription_painted d m hm).isPathName fun address p => hbuilt.isPathName

/-- Labels with slashes, without a character, and such that their names clash with each other and
    with a selector. -/
def slashedLabels : Description where
  name := none
  inputs := none
  outputs := none
  info := Meta.empty
  nodes := [.group .tabbed "a/b" Meta.empty
      [.group .vertical "tabs" Meta.empty
        [.input ⟨.button, "", "/1", ⟨0, 0, 0, 0⟩, Meta.empty⟩,
          .output ⟨.verticalBargraph, "p/", "/2", 0, 1, Meta.empty⟩]],
    .input ⟨.button, "ß/ß", "/3", ⟨0, 0, 0, 0⟩, Meta.empty⟩,
    .group .vertical "a_b" Meta.empty [.input ⟨.button, "P", "/4", ⟨0, 0, 0, 0⟩, Meta.empty⟩]]

/-- The build of these labels. -/
def slashedBuild : Except BuildError Report × Session :=
  (Session.history Config.default [.addPage "Settings"]).take (some 99)
    ((Source.description slashedLabels).build true)

theorem build_addressable_of_slashes :
    slashedBuild.1 = .ok ⟨3, 4, 0⟩ ∧ slashedBuild.2.hosts.panel.Addressable ∧
      slashedBuild.2.hosts.panel.outline =
        ["a_b [Header]", "a_b1 [TabRadio]", "  tabs [TabSelector]", "  tabs1 [Vertical]",
          "    tabs [Header]", "    tabs1 [Vertical]", "      P [Button]", "      p_ [Vertical]",
          "        _ [BarGraph]", "SSß [Button]", "a_b2 [Header]", "a_b3 [Vertical]",
          "  P1 [Button]"] ∧
      slashedBuild.2.hosts.panel.find? "a_b1/tabs1/tabs1/P" = some 7 ∧
      (slashedBuild.2.hosts.panel.node? 7).map (·.name) = some "P" := by
  have h : slashedBuild.1 = .ok ⟨3, 4, 0⟩ := by decide +kernel
  refine ⟨h, ?_, by decide +kernel, by decide +kernel, by decide +kernel⟩
  rw [slashedBuild] at h ⊢
  exact build_addressable _ _ _ _ _ h

end Build

end ControlSurface
