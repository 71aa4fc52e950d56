import ControlSurface.Naming
import Mathlib.Data.List.DropRight
import Mathlib.Order.Bounds.Defs

/- What an allocator answers over a whole life, said without the allocator's own state. A life is a
   list of uses; what happens in it is a log of events, each with its answer. The names that are
   taken at a place of a log are those that were returned or set aside since the last clearing
   (`takenAfter`), and each event is right by these names alone (`Event.Due`).

   What is proved:
     1. `fresh_isFresh`: a stem is named by itself or by the least number that makes it free. There
        is such a number, so the search for it ends.
     2. `serve_tracks`, `serve_due`: one use keeps the allocator in step with the log, and its event
        is due.
     3. `log_accords`: so is every event of every log, and names that are returned without a
        clearing in between differ from each other and from those that were set aside before. -/
namespace ControlSurface.Naming

/-! ## Fresh names -/

/-- A name that a stem gets where some names are taken: the stem, or the stem with the least number
    from one on that makes it free. -/
def IsFresh (taken : List String) (stem name : String) : Prop :=
  (stem ∉ taken ∧ name = stem) ∨
    (stem ∈ taken ∧ ∃ i, IsLeast {i | 1 ≤ i ∧ numbered stem i ∉ taken} i ∧ name = numbered stem i)

theorem IsFresh.not_mem {taken : List String} {stem name : String} (h : IsFresh taken stem name) :
    name ∉ taken := by
  obtain ⟨hfree, hname⟩ | ⟨-, i, hi, hname⟩ := h
  · rw [hname]
    exact hfree
  · rw [hname]
    exact hi.1.2

/-- Which name is fresh depends on which names are taken, not on how they are listed. -/
theorem IsFresh.congr {xs ys : List String} (hsame : ∀ name, name ∈ xs ↔ name ∈ ys)
    {stem name : String} (h : IsFresh xs stem name) : IsFresh ys stem name := by
  simpa only [IsFresh, hsame] using h

/-- The name that the search comes to is fresh: it never runs out of numbers. -/
theorem fresh_isFresh (taken : List String) (stem : String) :
    IsFresh taken stem (fresh taken stem) := by
  by_cases hstem : stem ∈ taken
  · obtain ⟨i, hi, -, heq, hbelow, -⟩ := firstFree_eq_numbered taken stem taken.length 1
    have hname : fresh taken stem = numbered stem i := by simp [fresh, hstem, heq]
    have hfree : numbered stem i ∉ taken := hname ▸ fresh_not_mem taken stem
    refine .inr ⟨hstem, i, ⟨⟨hi, hfree⟩, ?_⟩, hname⟩
    intro k hk
    apply Nat.le_of_not_lt
    intro hlt
    exact hk.2 (hbelow k hk.1 hlt)
  · exact .inl ⟨hstem, by simp [fresh, hstem]⟩

/-! ## Uses and events -/

/-- What an allocator can be used for. -/
inductive Use where
  | allocate (label : String)
  | reserve (names : List String)
  | contains (name : String)
  | clear
deriving Repr, DecidableEq

/-- A use with its answer. -/
inductive Event where
  | returned (label name : String)
  | reserved (names : List String)
  | asked (name : String) (known : Bool)
  | cleared
deriving Repr, DecidableEq

namespace Event

/-- The use that an event answers. -/
def use : Event → Use
  | returned label _ => .allocate label
  | reserved names => .reserve names
  | asked name _ => .contains name
  | cleared => .clear

/-- The name that an event returns. -/
def name? : Event → Option String
  | returned _ name => some name
  | _ => none

/-- The names that are taken by an event. -/
def names : Event → List String
  | returned _ name => [name]
  | reserved names => names
  | _ => []

end Event

/-- The events since the last clearing. -/
def sinceCleared (log : List Event) : List Event := log.rtakeWhile (· ≠ .cleared)

/-- The names that are returned or set aside since the last clearing. -/
def takenAfter (log : List Event) : List String := (sinceCleared log).flatMap Event.names

/-- An event is right after the events before it: a returned name is fresh for the stem of the
    label, and a name is known if and only if it is taken. -/
def Event.Due (log : List Event) : Event → Prop
  | returned label name => IsFresh (takenAfter log) (Label.parameterStem label) name
  | reserved _ => True
  | asked name known => known = true ↔ name ∈ takenAfter log
  | cleared => True

theorem takenAfter_cleared (log : List Event) : takenAfter (log ++ [.cleared]) = [] := by
  rw [takenAfter, sinceCleared, List.rtakeWhile_concat_neg _ _ _ (by simp), List.flatMap_nil]

theorem takenAfter_concat (log : List Event) {e : Event} (he : e ≠ .cleared) :
    takenAfter (log ++ [e]) = takenAfter log ++ e.names := by
  rw [takenAfter, sinceCleared, List.rtakeWhile_concat_pos _ _ _ (by simp [he]),
    List.flatMap_append, List.flatMap_singleton, takenAfter, sinceCleared]

/-- What is taken without a clearing after it stays taken. -/
theorem mem_takenAfter_append {log run : List Event} (hrun : .cleared ∉ run) {e : Event}
    (he : e ∈ run) {name : String} (hname : name ∈ e.names) :
    name ∈ takenAfter (log ++ run) := by
  induction run using List.reverseRecOn with
  | nil => cases he
  | append_singleton run d ih =>
    have hd : d ≠ .cleared := by
      intro heq
      exact hrun (by simp [heq])
    rw [← List.append_assoc, takenAfter_concat _ hd]
    apply List.mem_append.mpr
    obtain he | he := List.mem_append.mp he
    · exact .inl (ih (fun h => hrun (List.mem_append_left _ h)) he)
    · exact .inr (List.mem_singleton.mp he ▸ hname)

/-! ## A life of an allocator -/

namespace Allocator

/-- Serves a use: the event, and the allocator after it. -/
def serve (a : Allocator) : Use → Event × Allocator
  | .allocate label => (.returned label (a.allocate label).1, (a.allocate label).2)
  | .reserve names => (.reserved names, a.reserve names)
  | .contains name => (.asked name (a.contains name), a)
  | .clear => (.cleared, empty)

/-- What happens when an allocator serves uses one after the other. -/
def log (a : Allocator) : List Use → List Event
  | [] => []
  | u :: uses => (a.serve u).1 :: (a.serve u).2.log uses

/-- An allocator that knows the names that are taken after a log, and no others. -/
def Tracks (a : Allocator) (past : List Event) : Prop :=
  ∀ name, name ∈ a.used ↔ name ∈ takenAfter past

theorem empty_tracks : empty.Tracks [] := fun _ => Iff.rfl

section
variable {a : Allocator} {past : List Event}

theorem serve_due (h : a.Tracks past) (u : Use) : (a.serve u).1.Due past := by
  cases u with
  | allocate label => exact (fresh_isFresh a.used (Label.parameterStem label)).congr h
  | reserve names => trivial
  | contains name =>
    show a.contains name = true ↔ name ∈ takenAfter past
    rw [← h name, Allocator.contains, List.contains_iff_mem]
  | clear => trivial

theorem serve_tracks (h : a.Tracks past) (u : Use) :
    (a.serve u).2.Tracks (past ++ [(a.serve u).1]) := by
  intro name
  cases u with
  | allocate label =>
    simp only [serve, allocate]
    rw [takenAfter_concat _ (by simp), Event.names, List.mem_append, List.mem_cons, h name,
      List.mem_singleton, or_comm]
  | reserve names =>
    simp only [serve, reserve]
    rw [takenAfter_concat _ (by simp), Event.names, List.mem_append, List.mem_append, h name,
      or_comm]
  | contains other =>
    simp only [serve]
    rw [takenAfter_concat _ (by simp), h name]
    simp [Event.names]
  | clear =>
    simp only [serve]
    rw [takenAfter_cleared, empty]

theorem log_use (a : Allocator) (uses : List Use) : (a.log uses).map Event.use = uses := by
  induction uses generalizing a with
  | nil => rfl
  | cons u uses ih =>
    rw [Allocator.log, List.map_cons, ih]
    cases u <;> rfl

/-- Every event of a log is right after what happened before. -/
theorem log_due (h : a.Tracks past) (uses : List Use) {before after : List Event} {e : Event}
    (hsplit : a.log uses = before ++ e :: after) : e.Due (past ++ before) := by
  induction uses generalizing a past before with
  | nil => simp [Allocator.log] at hsplit
  | cons u uses ih =>
    rw [Allocator.log] at hsplit
    cases before with
    | nil =>
      rw [List.nil_append, List.cons.injEq] at hsplit
      rw [← hsplit.1, List.append_nil]
      exact serve_due h u
    | cons d before =>
      rw [List.cons_append, List.cons.injEq] at hsplit
      have hdue := ih (serve_tracks h u) hsplit.2
      rwa [hsplit.1, List.append_assoc, List.singleton_append] at hdue

end

end Allocator

/-- A log accords with the uses it answers. Each event is right after those before it; and in a run
    without a clearing each name that is returned differs from all names that were returned or set
    aside before it in the run. -/
structure Accords (uses : List Use) (log : List Event) : Prop where
  uses : log.map Event.use = uses
  due : ∀ before e after, log = before ++ e :: after → e.Due before
  apart : ∀ before run after, log = before ++ run ++ after → .cleared ∉ run →
    run.Pairwise fun d e => ∀ name, e.name? = some name → name ∉ d.names
  distinct : ∀ before run after, log = before ++ run ++ after → .cleared ∉ run →
    (run.filterMap Event.name?).Nodup

theorem Event.Due.name?_not_mem {log : List Event} {e : Event} (h : e.Due log) {name : String}
    (hname : e.name? = some name) : name ∉ takenAfter log := by
  cases e with
  | returned label other =>
    cases hname
    exact IsFresh.not_mem h
  | reserved names => cases hname
  | asked other known => cases hname
  | cleared => cases hname

theorem Event.mem_names {e : Event} {name : String} (h : e.name? = some name) : name ∈ e.names := by
  cases e with
  | returned label other =>
    cases h
    exact List.mem_singleton_self name
  | reserved names => cases h
  | asked other known => cases h
  | cleared => cases h

/-- The log of a new allocator accords with its uses, whatever they are. -/
theorem log_accords (uses : List Use) : Accords uses (Allocator.empty.log uses) := by
  have hdue : ∀ before e after, Allocator.empty.log uses = before ++ e :: after → e.Due before :=
    fun before e after hsplit => Allocator.log_due Allocator.empty_tracks uses hsplit
  have hapart : ∀ before run after, Allocator.empty.log uses = before ++ run ++ after →
      .cleared ∉ run → run.Pairwise fun d e => ∀ name, e.name? = some name → name ∉ d.names := by
    intro before run after hsplit hrun
    rw [List.pairwise_iff_forall_sublist]
    intro d e hde name hname hmem
    obtain ⟨first, rest, rfl, hd, he⟩ := List.cons_sublist_iff.mp hde
    obtain ⟨between, last, rfl⟩ := List.append_of_mem (List.singleton_sublist.mp he)
    -- The event is due after all that comes before it, the other event of the run included.
    have hlater : e.Due (before ++ (first ++ between)) := by
      apply hdue _ e (last ++ after)
      rw [hsplit]
      simp only [List.append_assoc, List.cons_append]
    apply hlater.name?_not_mem hname
    apply mem_takenAfter_append _ (List.mem_append_left between hd) hmem
    intro hcleared
    apply hrun
    rw [← List.append_assoc]
    exact List.mem_append_left _ hcleared
  refine ⟨Allocator.log_use _ uses, hdue, hapart, ?_⟩
  intro before run after hsplit hrun
  apply (hapart before run after hsplit hrun).filterMap
  intro d e hde m hm n hn heq
  apply hde n hn
  rw [← heq]
  exact Event.mem_names hm

/-- Stems that end in digits, or that are set aside, are passed by; a clearing frees all names. -/
example : Allocator.empty.log [.allocate "Gain", .reserve ["Gain1"], .allocate "gain",
    .allocate "Gain1", .contains "Gain2", .clear, .contains "Gain2", .allocate "Gain1"] =
    [.returned "Gain" "Gain", .reserved ["Gain1"], .returned "gain" "Gain2",
      .returned "Gain1" "Gain11", .asked "Gain2" true, .cleared, .asked "Gain2" false,
      .returned "Gain1" "Gain1"] := by
  decide +kernel

end ControlSurface.Naming
