import ControlSurface.Proofs.Survival

/- Which nodes a build creates. The log of a build tells its creations, with the ids that they
   were answered with (`Call.creations`), since the log tells all that is done to the panel.
   Between two states of a build (`Made`) nodes are created in a known order, and a node that
   is gone stays gone: ids are not given out again. What closes a slot or a group creates
   nothing; either its container goes, or all nodes stay and no widget of a leaf is changed
   (`Closed`). -/
namespace ControlSurface

namespace Panel

/-- A node without what stands below it. -/
def Node.alone (n : Node) : Nested := .node n.name n.x n.kind n.bindings []

namespace Tree
variable {t u : Tree} {id : Nat}

/-- The first node of a forest, without what stands below it. -/
theorem Forest.head_alone {parent : Nat} {ids : List Nat} {name : String} {x : Int64}
    {kind : Kind} {bindings : List Binding} {kids ns : List Nested}
    (h : Forest t parent (id :: ids) (.node name x kind bindings kids :: ns)) :
    ∃ n, t.node? id = some n ∧ n.alone = .node name x kind bindings [] := by
  cases h with
  | cons node up above first below rest => exact ⟨_, node, rfl⟩

/-- A panel on which the same nodes are there, and the widgets of leaves as they were. -/
structure Keeps (t u : Tree) : Prop where
  alive : ∀ k, (u.node? k).isSome = (t.node? k).isSome
  controls : ∀ k n, t.node? k = some n → n.alone.isControl = true → u.node? k = some n

namespace Keeps
variable {v : Tree}

theorem refl (t : Tree) : Keeps t t := ⟨fun _ => rfl, fun _ _ h _ => h⟩

theorem trans (h : Keeps t u) (h' : Keeps u v) : Keeps t v where
  alive k := (h'.alive k).trans (h.alive k)
  controls k n hn hc := h'.controls k n (h.controls k n hn hc) hc

/-- A change of one node that is no widget of a leaf. -/
theorem of_set {n m : Node} (hn : t.node? id = some n) (hplain : n.alone.isControl = false)
    (hu : ∀ k, u.node? k = if k = id then some m else t.node? k) : Keeps t u := by
  constructor
  · intro k
    rw [hu]
    split
    · next hk => rw [hk, hn]; rfl
    · rfl
  · intro k l hl hc
    rw [hu, if_neg]
    · exact hl
    · rintro rfl
      rw [hn] at hl
      cases hl
      rw [hplain] at hc
      cases hc

end Keeps

end Tree

end Panel

namespace Build

open Panel
open Panel.Tree (Container Grown Keeps)
open Appearance
open Nested (standing bare)

/-! ## The creations of a log -/

namespace Call

/-- What a call creates, if it answers with an id. -/
def created (id : Nat) : Call → List (Nat × Spec)
  | .create _ spec => [(id, spec)]
  | .resetPage _ | .appendParameter _ _ | .clearPanel | .bind _ _ | .assign _ _ _ | .destroy _ => []

/-- The nodes that calls create, each by the id that the call answers with, and as what. -/
def creations (h : Hosts) : List Call → List (Nat × Spec)
  | [] => []
  | c :: cs =>
    match c.perform h with
    | .ok (id, k) => c.created id ++ creations k cs
    | .error _ => []

theorem creations_append {h k : Hosts} {cs : List Call} (hk : performAll h cs = .ok k)
    (ds : List Call) : creations h (cs ++ ds) = creations h cs ++ creations k ds := by
  induction cs generalizing h with
  | nil =>
    cases hk
    rfl
  | cons c cs ih =>
    rw [performAll] at hk
    rw [List.cons_append, creations, creations]
    cases hc : c.perform h with
    | error e =>
      rw [hc] at hk
      cases hk
    | ok r =>
      rw [hc] at hk
      dsimp only
      rw [ih hk, List.append_assoc]

/-- Creations have nothing to do with the routes. -/
theorem creations_routes (h : Hosts) (t : RoutingTable) (cs : List Call) :
    creations { h with routes := t } cs = creations h cs := by
  induction cs generalizing h with
  | nil => rfl
  | cons c cs ih =>
    rw [creations, creations, perform_routes]
    cases c.perform h with
    | error e => rfl
    | ok r => exact congrArg (c.created r.1 ++ ·) (ih r.2)

end Call

/-! ## Between two states -/

/-- From a state to another nodes were created in an order, and none that was gone came back. -/
structure Made (s u : State) (rs : List (Nat × Spec)) : Prop where
  log : ∃ made, u.calls = s.calls ++ made ∧
    Call.performAll s.hosts made = .ok { u.hosts with routes := s.hosts.routes } ∧
    Call.creations s.hosts made = rs
  size_le : s.hosts.panel.slots.size ≤ u.hosts.panel.slots.size
  gone : ∀ k, k < s.hosts.panel.slots.size → s.hosts.panel.node? k = none →
    u.hosts.panel.node? k = none

namespace Made
variable {s v u : State} {rs rs' : List (Nat × Spec)}

theorem refl (s : State) : Made s s [] :=
  ⟨⟨[], (List.append_nil _).symm, rfl, rfl⟩, Nat.le_refl _, fun _ _ h => h⟩

/-- A state in which nothing but the builder and the routes is another. -/
theorem of_same (hcalls : u.calls = s.calls)
    (hhosts : s.hosts = { u.hosts with routes := s.hosts.routes }) : Made s u [] := by
  have hpanel : s.hosts.panel = u.hosts.panel := by rw [hhosts]
  refine ⟨⟨[], ?_, congrArg Except.ok hhosts, rfl⟩, ?_, ?_⟩
  · rw [hcalls, List.append_nil]
  · exact Nat.le_of_eq (congrArg (·.slots.size) hpanel)
  · intro k _ hk
    rw [← hpanel, hk]

theorem trans (h : Made s v rs) (h' : Made v u rs') : Made s u (rs ++ rs') := by
  obtain ⟨⟨made, hcalls, hall, rfl⟩, hsize, hgone⟩ := h
  obtain ⟨⟨made', hcalls', hall', rfl⟩, hsize', hgone'⟩ := h'
  have hrest : Call.performAll { v.hosts with routes := s.hosts.routes } made' =
      .ok { u.hosts with routes := s.hosts.routes } :=
    (Call.performAll_routes s.hosts.routes hall' :)
  refine ⟨⟨made ++ made', ?_, ?_, ?_⟩, Nat.le_trans hsize hsize', ?_⟩
  · rw [hcalls', hcalls, List.append_assoc]
  · rw [Call.performAll_append, hall]
    exact hrest
  · rw [Call.creations_append hall]
    exact congrArg (Call.creations s.hosts made ++ ·) (Call.creations_routes v.hosts _ made')
  · intro k hk hnone
    exact hgone' k (Nat.lt_of_lt_of_le hk hsize) (hgone k hk hnone)

/-- A call that was carried out, unless it cleared the panel. -/
theorem of_call {c : Call} {id : Nat} (hc : c ≠ .clearPanel)
    (hs : ∀ node, c = .destroy node → s.hosts.panel.Ascends)
    (ho : (Step.call c).outcome s = (.ok id, u)) : Made s u (c.created id) := by
  obtain ⟨e, he⟩ | ⟨answer, k, hperform, hk⟩ := Step.outcome_call_cases c s
  · rw [he] at ho
    cases ho
  rw [hk] at ho
  cases ho
  have hok := Call.perform_ok hperform
  have hlog : k.routes = s.hosts.routes →
      Call.performAll s.hosts [c] = .ok { k with routes := s.hosts.routes } := by
    intro hroutes
    rw [Call.performAll, hperform, ← hroutes]
    rfl
  have hcreations : Call.creations s.hosts [c] = c.created id := by
    rw [Call.creations, hperform]
    exact List.append_nil _
  cases c with
  | resetPage page =>
    cases hok
    exact ⟨⟨_, rfl, hlog rfl, hcreations⟩, Nat.le_refl _, fun _ _ hk => hk⟩
  | clearPanel => exact absurd rfl hc
  | appendParameter page p =>
    obtain ⟨ps, -, rfl⟩ := hok
    exact ⟨⟨_, rfl, hlog rfl, hcreations⟩, Nat.le_refl _, fun _ _ hk => hk⟩
  | create parent spec =>
    obtain ⟨t, ht, rfl⟩ := hok
    obtain ⟨p, hp, -, rfl, hsize, hnodes⟩ := Tree.create_ok ht
    refine ⟨⟨_, rfl, hlog rfl, hcreations⟩, ?_, ?_⟩
    · show s.hosts.panel.slots.size ≤ t.slots.size
      omega
    · intro k hk hnone
      have hne : k ≠ parent := by
        rintro rfl
        rw [hp] at hnone
        cases hnone
      show t.node? k = none
      rw [hnodes, if_neg (Nat.ne_of_lt hk), if_neg hne, hnone]
  | bind node b =>
    obtain ⟨t, ht, rfl⟩ := hok
    obtain ⟨n, hn, hsize, hnodes⟩ := Tree.bind_ok ht
    refine ⟨⟨_, rfl, hlog rfl, hcreations⟩, Nat.le_of_eq hsize.symm, ?_⟩
    exact fun k _ => Tree.gone_of_set hn hnodes k
  | assign node key value =>
    obtain ⟨t, ht, rfl⟩ := hok
    obtain ⟨n, template, properties, hn, -, hsize, hnodes⟩ := Tree.assign_ok ht
    refine ⟨⟨_, rfl, hlog rfl, hcreations⟩, Nat.le_of_eq hsize.symm, ?_⟩
    exact fun k _ => Tree.gone_of_set hn hnodes k
  | destroy node =>
    obtain ⟨t, ht, rfl⟩ := hok
    obtain ⟨hsize, -, hgone⟩ := Tree.destroy_gone (hs node rfl) ht
    exact ⟨⟨_, rfl, hlog rfl, hcreations⟩, Nat.le_of_eq hsize.symm, fun k _ => hgone k⟩

end Made

/-- A step that creates nothing. -/
def Step.Silent {α : Type} (x : Step α) : Prop :=
  ∀ s a u, x.outcome s = (.ok a, u) → Made s u []

theorem silent_basics : Step.Basics fun x => Step.Silent x where
  pure a s b u ho := by
    cases ho
    exact .refl _
  throw e s b u ho := by cases ho
  bind hx hf s b u ho := by
    obtain ⟨a, v, hfirst, hsecond⟩ := Step.ok_of_bind_ok ho
    exact (hx s a v hfirst).trans (hf a v b u hsecond)
  builder s b u ho := by
    cases ho
    exact .refl _
  update f _ s b u ho := by
    cases ho
    exact .of_same rfl rfl
  reroute f s b u ho := by
    cases ho
    exact .of_same rfl rfl
  append page p s id u ho :=
    Made.of_call Call.noConfusion (fun _ h => Call.noConfusion h) ho

/-! ## Closing -/

section
variable {others : List Page} {own : List Binding} {b : Builder} {ls : List Leaf} {s u : State}
  {t : Tree} {c id : Nat} {taken : List String} {kids : List Nested}

/-- A call without an answer that ends well was carried out. -/
theorem Step.perform_ok {k : Call} {a : Unit} (ho : (Step.perform k).outcome s = (.ok a, u)) :
    ∃ id, (Step.call k).outcome s = (.ok id, u) ∧ k.perform s.hosts = .ok (id, u.hosts) := by
  obtain ⟨id, v, hcall, hpure⟩ := Step.ok_of_bind_ok ho
  cases hpure
  obtain ⟨e, he⟩ | ⟨answer, h, hperform, hk⟩ := Step.outcome_call_cases k s
  · rw [he] at hcall
    cases hcall
  · rw [hk] at hcall
    cases hcall
    exact ⟨id, hk, hperform⟩

/-- A binding of a node that is no widget of a leaf. -/
theorem bind_keeps {n : Panel.Node} {binding : Binding} {a : Unit}
    (hn : s.hosts.panel.node? id = some n) (hplain : n.alone.isControl = false)
    (ho : (Step.perform (.bind id binding)).outcome s = (.ok a, u)) :
    Made s u [] ∧ Keeps s.hosts.panel u.hosts.panel := by
  obtain ⟨answer, hcall, hperform⟩ := Step.perform_ok ho
  refine ⟨.of_call Call.noConfusion (fun _ h => Call.noConfusion h) hcall, ?_⟩
  obtain ⟨t, ht, hu⟩ := Call.perform_ok hperform
  obtain ⟨m, hm, -, hnodes⟩ := Tree.bind_ok ht
  rw [hn] at hm
  cases hm
  rw [hu]
  exact .of_set hn hplain hnodes

/-- A property of a node that is no widget of a leaf. -/
theorem assign_keeps {n : Panel.Node} {key value : String} {a : Unit}
    (hn : s.hosts.panel.node? id = some n) (hplain : n.alone.isControl = false)
    (ho : (Step.perform (.assign id key value)).outcome s = (.ok a, u)) :
    Made s u [] ∧ Keeps s.hosts.panel u.hosts.panel := by
  obtain ⟨answer, hcall, hperform⟩ := Step.perform_ok ho
  refine ⟨.of_call Call.noConfusion (fun _ h => Call.noConfusion h) hcall, ?_⟩
  obtain ⟨t, ht, hu⟩ := Call.perform_ok hperform
  obtain ⟨m, template, properties, hm, -, -, hnodes⟩ := Tree.assign_ok ht
  rw [hn] at hm
  cases hm
  rw [hu]
  exact .of_set hn hplain hnodes

theorem destroy_made {a : Unit} (hs : s.hosts.panel.Ascends)
    (ho : (Step.perform (.destroy id)).outcome s = (.ok a, u)) :
    Made s u [] ∧ u.hosts.panel.node? id = none := by
  obtain ⟨answer, hcall, hperform⟩ := Step.perform_ok ho
  refine ⟨.of_call Call.noConfusion (fun _ _ => hs) hcall, ?_⟩
  obtain ⟨t, ht, hu⟩ := Call.perform_ok hperform
  rw [hu]
  exact (Tree.destroy_gone hs ht).2.1

/-- The end of a slot or of a group: its container goes, or all nodes that are there stay. -/
structure Closed (s u : State) (id : Nat) (stays : Bool) : Prop where
  made : Made s u []
  gone : stays = false → u.hosts.panel.node? id = none
  kept : stays = true → Keeps s.hosts.panel u.hosts.panel

/-- A container is pruned, or nothing is done. -/
theorem prune_closed {stays : Bool} (hs : s.hosts.panel.Ascends)
    (ho : (prune id).outcome s = (.ok stays, u)) :
    Closed s u id stays ∧ (stays = true → u = s) := by
  obtain ⟨_, _, hpanel, ho⟩ := Step.ok_of_bind_ok ho
  cases hpanel
  split at ho
  · obtain ⟨_, v, hdestroy, hpure⟩ := Step.ok_of_bind_ok ho
    cases hpure
    obtain ⟨hmade, hgone⟩ := destroy_made hs hdestroy
    exact ⟨⟨hmade, fun _ => hgone, Bool.noConfusion⟩, Bool.noConfusion⟩
  · cases ho
    exact ⟨⟨.refl s, Bool.noConfusion, fun _ => .refl _⟩, fun _ => rfl⟩

/-- A slot is closed: it goes if it is bare, and otherwise it is bound at most. -/
theorem closeSlot_closed {g : OpenGroup} {item : ControlSurface.Node} {index : Nat}
    {labels labels' : List String} (h : Ahead others own b ls s) (hc : Container t c taken)
    (hslot : Grown t s.hosts.panel c [id]
      [standing taken (slotSpec b.config item.label index) [] kids])
    (ho : (closeSlot g item (some id) labels).outcome s = (.ok labels', u)) :
    Closed s u id (!bare kids) := by
  rw [closeSlot] at ho
  obtain ⟨stays, v, hprune, hrest⟩ := Step.ok_of_bind_ok ho
  obtain ⟨-, rfl, -⟩ := (prune_ends h hc hslot).of_ok hprune
  obtain ⟨hclosed, hsame⟩ := prune_closed h.rooted.ascends hprune
  by_cases hbind : ((!bare kids) && g.selector.isSome) = true
  · rw [if_pos hbind] at hrest
    have hstays : (!bare kids) = true := (Bool.and_eq_true_iff.mp hbind).1
    obtain rfl := hsame hstays
    obtain ⟨_, w, hbound, hpure⟩ := Step.ok_of_bind_ok hrest
    cases hpure
    -- A slot is a container, and no widget of a leaf.
    obtain ⟨m, hm, -, hkind, -⟩ := hslot.forest.head
    have htemplate : m.alone.kind.template? = none := congrArg Kind.template? hkind
    have hplain : m.alone.isControl = false := Nested.isControl_eq_false (.inl htemplate)
    obtain ⟨hmade, hkeeps⟩ := bind_keeps hm hplain hbound
    refine ⟨hmade, ?_, fun _ => hkeeps⟩
    intro hgone
    rw [hstays] at hgone
    cases hgone
  · rw [if_neg hbind] at hrest
    cases hrest
    exact hclosed

/-- A selector that gets its labels is no widget of a leaf, and one without labels goes. -/
theorem finishSelector_made {selector inner : Nat} {ids : List Nat} {labels : List String}
    {a : Unit} (h : Ahead others own b ls s)
    (hg : Grown t s.hosts.panel inner (selector :: ids) (blankSelector .tabbed ++ kids))
    (ho : (finishSelector selector labels).outcome s = (.ok a, u)) :
    Made s u [] ∧ (labels ≠ [] → Keeps s.hosts.panel u.hosts.panel) := by
  have hplain : ∀ {w : State} {properties : List (String × String)},
      Grown t w.hosts.panel inner (selector :: ids)
        (.node selectorName 0 (.widget .tabSelector properties) [] [] :: kids) →
      ∃ n, w.hosts.panel.node? selector = some n ∧ n.alone.isControl = false := by
    intro w properties hg
    obtain ⟨n, hn, -, hkind, -⟩ := hg.forest.head
    have htemplate : n.alone.kind.template? = some .tabSelector := congrArg Kind.template? hkind
    exact ⟨n, hn, Nested.isControl_eq_false (.inr (.inr htemplate))⟩
  have hname : blankSelector .tabbed =
      [.node selectorName 0 (.widget .tabSelector []) [] []] := rfl
  rw [hname, List.singleton_append] at hg
  obtain ⟨n, hn, hcontrol⟩ := hplain hg
  cases labels with
  | nil =>
    obtain ⟨hmade, -⟩ := destroy_made h.rooted.ascends ho
    exact ⟨hmade, fun hne => absurd rfl hne⟩
  | cons label labels =>
    obtain ⟨_, v, hfirst, hsecond⟩ := Step.ok_of_bind_ok ho
    obtain ⟨-, hv⟩ := (Step.Ends.assign h hg "Menunames" _).of_ok hfirst
    obtain ⟨m, hm, hcontrol'⟩ := hplain hv
    obtain ⟨hmade, hkeeps⟩ := assign_keeps hn hcontrol hfirst
    obtain ⟨hmade', hkeeps'⟩ := assign_keeps hm hcontrol' hsecond
    exact ⟨hmade.trans hmade', fun _ => hkeeps.trans hkeeps'⟩

/-- A group is closed: it goes if its contents are bare, and otherwise its selector gets its
    labels at most. -/
theorem closeGroup_closed {g : OpenGroup} {p : Plan} {inner : Nat} {v : Tree} {config : Config}
    {label : String} {index : Nat} {before : List Leaf} {w : State} {ids : List Nat}
    {items : List Nested × List String} {a : Unit} (hc : Container t c taken)
    (hopen : Opened others own b before t c taken (groupSpec config p.kind label index) p v inner
      g w)
    (h : Ahead others own b ls s) (hitems : Grown w.hosts.panel s.hosts.panel inner ids items.1)
    (hnone : p.kind = .tabbed → items.2 = [] → items.1 = [])
    (ho : (closeGroup g items.2).outcome s = (.ok a, u)) :
    Closed s u inner (!bare (groupKids p.kind items)) := by
  -- The container is pruned after its selector was finished.
  have hprune : ∀ {x : State} {kids : List Nested}, Drawn others own b ls v inner kids x →
      (do let _ ← prune inner : Step Unit).outcome x = (.ok a, u) →
      Closed x u inner (!bare kids) := by
    rintro x kids ⟨hx, js, hjs⟩ hrun
    obtain ⟨stays, y, hpruned, hpure⟩ := Step.ok_of_bind_ok hrun
    cases hpure
    obtain ⟨-, rfl, -⟩ := (prune_ends hx hc (hopen.container.within hjs)).of_ok hpruned
    exact (prune_closed hx.rooted.ascends hpruned).1
  have hselector := hopen.follows.selector
  have hall := hopen.selector.trans hitems
  rw [closeGroup, hopen.follows.inner] at ho
  cases hs : g.selector with
  | none =>
    rw [hs] at hselector hall ho
    have htab : p.kind ≠ .tabbed := by simpa using hselector
    rw [blankSelector, if_neg htab] at hall
    rw [groupKids, if_neg htab]
    exact hprune ⟨h, ids, hall⟩ ho
  | some selector =>
    rw [hs] at hselector hall ho
    have htab : p.kind = .tabbed := by simpa using hselector
    rw [htab] at hall
    rw [groupKids, if_pos htab]
    obtain ⟨_, x, hfinish, hrest⟩ := Step.ok_of_bind_ok ho
    have hx := (finishSelector_ends h hopen.empty hall (hnone htab)).of_ok hfinish
    have hclosed := hprune hx hrest
    obtain ⟨hmade, hkeeps⟩ := finishSelector_made h hall hfinish
    refine ⟨hmade.trans hclosed.made, hclosed.gone, ?_⟩
    intro hstays
    refine (hkeeps ?_).trans (hclosed.kept hstays)
    -- Without labels there are no pages, and the contents are bare.
    intro hlabels
    rw [hlabels, hnone htab hlabels] at hstays
    cases hstays

end

end Build

end ControlSurface
