import ControlSurface.Proofs.Arena

/- What it means to destroy a node, whatever was done to the panel before. What hangs from a node
   is told by the parents that nodes name (`HangsFrom`), while a destruction walks down the lists
   of children; in a tree the two agree (`WellFormed.hangsFrom_iff`), so that a destruction takes
   away no more and no less than it should.

   What is proved:
     1. `WellFormed.destroy_uprooted`: a node that is there, other than the root, can be destroyed.
        All that hangs from it goes, its parent no longer lists it, and nothing else changes.
     2. `destroy_of_none`: to destroy what is not there changes nothing.
     3. `issued_ascends`, `foldl_carry_ages`: until the panel is cleared the ids that are handed out
        grow, so none is handed out a second time, and a place that is empty stays empty.
     4. `after_uproots`: all of this holds of every panel that changes make of an empty one. -/
namespace ControlSurface.Panel

namespace Tree
variable {t u : Tree} {id k : Nat}

/-! ## What hangs from a node -/

/-- A node hangs from another: it is that node, or it names a parent that hangs from it. -/
inductive HangsFrom (t : Tree) (top : Nat) : Nat → Prop
  | self : HangsFrom t top top
  | under {p k : Nat} {n : Node} (above : HangsFrom t top p) (node : t.node? k = some n)
      (parent : n.parent = some p) : HangsFrom t top k

theorem WellFormed.hangsFrom_iff (h : t.WellFormed) : t.HangsFrom id k ↔ t.Reaches id k := by
  constructor
  · intro hk
    induction hk with
    | self => exact .refl
    | @under p k n _ hn hparent ih =>
      -- The root has no parent, so the node is another, and its parent lists it.
      have hroot : k ≠ root := by
        rintro rfl
        obtain ⟨r, hr, -, htop⟩ := h.top
        rw [hr] at hn
        cases hn
        rw [htop] at hparent
        cases hparent
      obtain ⟨p', q, hparent', hq, -, hmem⟩ := h.parent k n hn hroot
      rw [hparent] at hparent'
      cases hparent'
      exact ih.tail (children_eq hq ▸ hmem)
  · intro hk
    induction hk with
    | refl => exact .self
    | tail _ hchild ih =>
      obtain ⟨-, n, hn, hparent⟩ := h.child _ _ hchild
      exact ih.under hn hparent

/-! ## A node that is destroyed -/

/-- What a panel is left as where a node is taken away. The nodes that are there are those that
    were, without what hangs from the node. The parent has lost the node from its children, and the
    others are as they were. -/
structure Uprooted (t : Tree) (id : Nat) (u : Tree) : Prop where
  live : ∀ k, (u.node? k).isSome = true ↔ (t.node? k).isSome = true ∧ ¬t.HangsFrom id k
  parent : ∃ p q, (t.node? id).bind (·.parent) = some p ∧ t.node? p = some q ∧ id ∈ q.children ∧
    u.node? p = some (q.forget id)
  others : ∀ k n, (t.node? id).bind (·.parent) ≠ some k → u.node? k = some n → t.node? k = some n

namespace WellFormed

theorem destroy_uprooted (h : t.WellFormed) {n : Node} (hn : t.node? id = some n)
    (hid : id ≠ root) : ∃ u, t.destroy id = .ok u ∧ t.Uprooted id u := by
  obtain ⟨p, q, hparent, hq, -, hmem⟩ := h.parent id n hn hid
  obtain ⟨u, hu⟩ : ∃ u, t.destroy id = .ok u := by
    rw [Tree.destroy, if_neg hid, hn, Option.bind_some, hparent]
    simp only [hq]
    exact ⟨_, rfl⟩
  have hnodes := h.destroy_node? hu
  have hup : (t.node? id).bind (·.parent) = some p := by rw [hn, Option.bind_some, hparent]
  refine ⟨u, hu, fun k => ?_, ⟨p, q, hup, hq, hmem, ?_⟩, fun k l hk hl => ?_⟩
  · rw [h.hangsFrom_iff]
    by_cases hreach : t.Reaches id k
    · simp [(hnodes k).1 hreach, hreach]
    · simp [(hnodes k).2 hreach, hreach]
  · have hnot : ¬t.Reaches id p := by
      intro hreach
      have hle := h.ascends.le_of_reaches hreach
      have hlt := (h.child p id (children_eq hq ▸ hmem)).1
      omega
    rw [(hnodes p).2 hnot, hq, Option.map_some]
  · have hnot : ¬t.Reaches id k := by
      intro hreach
      rw [(hnodes k).1 hreach] at hl
      cases hl
    rw [(hnodes k).2 hnot, Option.map_eq_some_iff] at hl
    obtain ⟨m, hm, rfl⟩ := hl
    -- Only the parent lists the node.
    rw [Node.forget_of_not_mem, hm]
    intro hlisted
    obtain ⟨-, n', hn', hback⟩ := h.child k id (children_eq hm ▸ hlisted)
    rw [hn', Option.bind_some] at hk
    exact hk hback

end WellFormed

/-- A node that is not there is destroyed without effect. -/
theorem destroy_of_none (hid : id ≠ root) (hn : t.node? id = none) : t.destroy id = .ok t := by
  rw [destroy, if_neg hid, hn, Option.bind_none]
  cases t.slots.size with
  | zero => rfl
  | succ depth => rw [remove, hn]

end Tree

/-! ## Ids -/

/-- The id that a change hands out. -/
def Change.issued? (t : Tree) : Change → Option Nat
  | create parent spec => (t.create parent spec).toOption.map (·.1)
  | _ => none

/-- The ids that changes hand out, one after the other. -/
def Tree.issued (t : Tree) : List Change → List Nat
  | [] => []
  | c :: cs => (c.issued? t).toList ++ (c.carry t).issued cs

/-- What a panel keeps as it changes without being cleared: its places are no fewer, and those that
    are empty stay so. -/
structure Tree.Ages (t u : Tree) : Prop where
  size : t.slots.size ≤ u.slots.size
  gone : ∀ k, k < t.slots.size → t.node? k = none → u.node? k = none

namespace Tree
variable {t u v : Tree}

theorem Ages.refl (t : Tree) : t.Ages t := ⟨Nat.le_refl _, fun _ _ h => h⟩

theorem Ages.trans (h : t.Ages u) (h' : u.Ages v) : t.Ages v where
  size := Nat.le_trans h.size h'.size
  gone k hk hn := h'.gone k (Nat.lt_of_lt_of_le hk h.size) (h.gone k hk hn)

end Tree

namespace Change
variable {t : Tree} {c : Change}

theorem carry_wellFormed (h : t.WellFormed) (c : Change) : (c.carry t).WellFormed :=
  carry_induct .create .bind .assign .destroy .clear h c

theorem carry_ages (h : t.WellFormed) (hc : c ≠ .clear) : t.Ages (c.carry t) := by
  have hsettle : ∀ {x : Except HostFault Tree}, (∀ {u}, x = .ok u → t.Ages u) →
      t.Ages (((x.map fun u => (Tree.root, u)).toOption.map (·.2)).getD t) := by
    intro x hx
    cases x with
    | error fault => exact .refl t
    | ok u => exact hx rfl
  cases c with
  | create parent spec =>
    rw [carry, perform]
    cases hmade : t.create parent spec with
    | error fault => exact .refl t
    | ok made =>
      obtain ⟨p, hp, -, -, hsize, hnodes⟩ := Tree.create_ok hmade
      refine ⟨hsize ▸ Nat.le_succ _, fun k hk hn => (hnodes k).trans ?_⟩
      have hparent : k ≠ parent := by
        rintro rfl
        rw [hn] at hp
        cases hp
      rw [if_neg (Nat.ne_of_lt hk), if_neg hparent, hn]
  | bind node b =>
    refine hsettle fun hu => ?_
    obtain ⟨n, hn, hsize, hnodes⟩ := Tree.bind_ok hu
    exact ⟨hsize ▸ Nat.le_refl _, fun k _ hk => Tree.gone_of_set hn hnodes k hk⟩
  | assign node key value =>
    refine hsettle fun hu => ?_
    obtain ⟨n, _, _, hn, -, hsize, hnodes⟩ := Tree.assign_ok hu
    exact ⟨hsize ▸ Nat.le_refl _, fun k _ hk => Tree.gone_of_set hn hnodes k hk⟩
  | destroy node =>
    refine hsettle fun hu => ?_
    obtain ⟨hsize, -, hgone⟩ := Tree.destroy_gone h.ascends hu
    exact ⟨hsize ▸ Nat.le_refl _, fun k _ hk => hgone k hk⟩
  | clear => exact absurd rfl hc

/-- The id that is handed out is that of a new place behind all others. -/
theorem carry_issued {id : Nat} (hid : c.issued? t = some id) :
    id = t.slots.size ∧ (c.carry t).slots.size = id + 1 := by
  cases c with
  | create parent spec =>
    rw [issued?] at hid
    rw [carry, perform]
    cases hmade : t.create parent spec with
    | error fault =>
      rw [hmade] at hid
      cases hid
    | ok made =>
      rw [hmade] at hid
      cases hid
      obtain ⟨-, -, -, hlast, hsize, -⟩ := Tree.create_ok hmade
      exact ⟨hlast, hsize.trans (congrArg (· + 1) hlast.symm)⟩
  | bind node b => cases hid
  | assign node key value => cases hid
  | destroy node => cases hid
  | clear => cases hid

end Change

namespace Tree
variable {t : Tree}

/-- The ids that are handed out grow, from the first place on that the panel did not have. -/
theorem issued_ascends {run : List Change} (h : t.WellFormed) (hrun : .clear ∉ run) :
    (t.issued run).Pairwise (· < ·) ∧ ∀ id ∈ t.issued run, t.slots.size ≤ id := by
  induction run generalizing t with
  | nil => exact ⟨.nil, fun id hid => by cases hid⟩
  | cons c run ih =>
    rw [List.mem_cons, not_or] at hrun
    have hsize := (Change.carry_ages h (Ne.symm hrun.1)).size
    obtain ⟨hgrow, hlow⟩ := ih (Change.carry_wellFormed h c) hrun.2
    rw [issued]
    cases hid : c.issued? t with
    | none => exact ⟨hgrow, fun id hmem => Nat.le_trans hsize (hlow id hmem)⟩
    | some id =>
      obtain ⟨hnew, hnext⟩ := Change.carry_issued hid
      rw [Option.toList_some, List.singleton_append]
      refine ⟨List.pairwise_cons.mpr ⟨fun k hk => ?_, hgrow⟩, fun k hk => ?_⟩
      · have := hlow k hk
        omega
      · rcases List.mem_cons.mp hk with rfl | hk
        · exact Nat.le_of_eq hnew.symm
        · exact Nat.le_trans hsize (hlow k hk)

/-- A place that is empty stays empty until the panel is cleared. -/
theorem foldl_carry_ages {run : List Change} (h : t.WellFormed) (hrun : .clear ∉ run) :
    t.Ages (run.foldl Change.carry t) := by
  induction run generalizing t with
  | nil => exact .refl t
  | cons c run ih =>
    rw [List.mem_cons, not_or] at hrun
    exact (Change.carry_ages h (Ne.symm hrun.1)).trans (ih (Change.carry_wellFormed h c) hrun.2)

/-- Whatever was done to a panel, a node that is there can be destroyed, unless it is the root, and
    the panel is left without it and what hangs from it. Nothing happens to a panel where the node
    is not there. Until the panel is cleared, ids that are handed out are new: they grow, the panel
    has no place for them yet, and the places that are empty stay so. -/
theorem after_uproots (changes : List Change) :
    let t := after changes
    (∀ id n, t.node? id = some n → id ≠ root → ∃ u, t.destroy id = .ok u ∧ t.Uprooted id u) ∧
      (∀ id, t.node? id = none → t.destroy id = .ok t) ∧
      ∀ run, .clear ∉ run →
        (t.issued run).Pairwise (· < ·) ∧ (∀ id ∈ t.issued run, t.slots.size ≤ id) ∧
          t.Ages (after (changes ++ run)) := by
  intro t
  have h : t.WellFormed := after_wellFormed changes
  refine ⟨fun id n hn hid => h.destroy_uprooted hn hid, fun id hn => ?_, fun run hrun => ?_⟩
  · apply destroy_of_none _ hn
    rintro rfl
    obtain ⟨r, hr, -⟩ := h.top
    rw [hr] at hn
    cases hn
  · obtain ⟨hgrow, hlow⟩ := issued_ascends h hrun
    have hages := foldl_carry_ages h hrun
    rw [after, List.foldl_append]
    exact ⟨hgrow, hlow, hages⟩

/-- A group that holds a knob and, in a group of its own, a button. -/
def groupInGroup : List Change :=
  [.create 0 ⟨"group", 0, .container .horizontal none⟩,
   .create 1 ⟨"inner", 0, .container .vertical none⟩,
   .create 2 ⟨"Go", 0, .widget .button []⟩, .create 1 ⟨"Gain", 250, .widget .knob []⟩]

/-- The inner group goes with its button, and the next button gets an id of its own. -/
theorem after_uproots_inner_group :
    let t := after groupInGroup
    let run : List Change := [.destroy 2, .create 1 ⟨"Go", 0, .widget .button []⟩]
    (∃ u, t.destroy 2 = .ok u ∧ t.Uprooted 2 u) ∧ t.HangsFrom 2 3 ∧ t.destroy 9 = .ok t ∧
      .clear ∉ run ∧ t.issued run = [5] ∧ t.Ages (after (groupInGroup ++ run)) := by
  intro t run
  obtain ⟨hdestroy, hnone, hrun⟩ := after_uproots groupInGroup
  have hclear : .clear ∉ run := by simp [run]
  exact ⟨hdestroy 2 _ rfl (by decide), .under .self rfl rfl, hnone 9 rfl, hclear,
    by decide +kernel, (hrun run hclear).2.2⟩

end Tree

end ControlSurface.Panel
