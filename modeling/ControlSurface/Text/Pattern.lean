/- Patterns that are searched for in a text. A pattern can match the front of a text in
   several ways, and the ways have an order of preference: of two alternatives the first
   comes first, a greedy piece is kept rather than left and a lazy one left rather than kept,
   and of two pieces in a row the first decides before the second. The match is the first
   way, so a piece gives back what it took only where nothing else makes the rest match.
   `ways` says this as a list. The laws of `pick`, which takes the first way that something
   behind the pattern can go on from, say it step by step. -/
namespace ControlSurface.Text

/-- Whether a piece that may be left out is kept first or left first. -/
inductive Greed where
  | greedy
  | lazy
deriving Repr, DecidableEq

/-- The ways that keep a piece and the one that leaves it, in order of preference. -/
def Greed.arrange {α : Type} (greed : Greed) (kept : List α) (left : α) : List α :=
  match greed with
  | greedy => kept ++ [left]
  | lazy => left :: kept

/-- A pattern for the front of a text. Its groups are numbered. -/
inductive Pattern where
  | one (allowed : Char → Bool)
  | many (greed : Greed) (allowed : Char → Bool)
  | optional (greed : Greed) (p : Pattern)
  | either (p q : Pattern)
  | both (p q : Pattern)
  | group (number : Nat) (p : Pattern)

/-- A way in which a pattern matches: the texts of the groups that took part, and the text
    behind the match. -/
structure Way where
  captures : List (Nat × List Char)
  rest : List Char
deriving Repr, DecidableEq

namespace Way

/-- The text of a group, if it took part. -/
def capture? (w : Way) (number : Nat) : Option (List Char) := w.captures.lookup number

/-- A way and, from where it ends, another. -/
def andThen (w v : Way) : Way := ⟨w.captures ++ v.captures, v.rest⟩

/-- What a way took of a text is the text of a group. -/
def captured (number : Nat) (cs : List Char) (w : Way) : Way :=
  ⟨(number, cs.take (cs.length - w.rest.length)) :: w.captures, w.rest⟩

@[simp] theorem nil_andThen (cs : List Char) (v : Way) : (⟨[], cs⟩ : Way).andThen v = v := rfl

theorem captured_append (number : Nat) (taken cs : List Char) (captures : List (Nat × List Char)) :
    captured number (taken ++ cs) ⟨captures, cs⟩ = ⟨(number, taken) :: captures, cs⟩ := by
  rw [captured, List.length_append, Nat.add_sub_cancel, List.take_left]

end Way

namespace Pattern

/-- Any one of the given characters or more, at least one of them. -/
def several (greed : Greed) (allowed : Char → Bool) : Pattern :=
  both (one allowed) (many greed allowed)

/-- What is left of a text when characters are taken from its front, in order of preference. -/
def rests (greed : Greed) (allowed : Char → Bool) : List Char → List (List Char)
  | [] => greed.arrange [] []
  | c :: cs => greed.arrange (if allowed c then rests greed allowed cs else []) (c :: cs)

/-- The ways in which a pattern matches the front of a text, in order of preference. -/
def ways : Pattern → List Char → List Way
  | one _, [] => []
  | one allowed, c :: cs => if allowed c then [⟨[], cs⟩] else []
  | many greed allowed, cs => (rests greed allowed cs).map fun rest => ⟨[], rest⟩
  | optional greed p, cs => greed.arrange (p.ways cs) ⟨[], cs⟩
  | either p q, cs => p.ways cs ++ q.ways cs
  | both p q, cs => (p.ways cs).flatMap fun w => (q.ways w.rest).map w.andThen
  | group number p, cs => (p.ways cs).map (Way.captured number cs)

/-- The match at the front of a text. -/
def first? (p : Pattern) (cs : List Char) : Option Way := (p.ways cs).head?

/-- The matches in a text behind the first `taken` characters, from the left and without
    overlap. What a match takes is passed over; a match that takes nothing is passed over with
    the next character. -/
def occurrencesFrom (p : Pattern) (taken : Nat) : List Char → List Way
  | [] => []
  | c :: cs =>
    match taken with
    | taken + 1 => occurrencesFrom p taken cs
    | 0 =>
      match p.first? (c :: cs) with
      | some w => w :: occurrencesFrom p (cs.length - w.rest.length) cs
      | none => occurrencesFrom p 0 cs

/-- The matches in a text, from the left and without overlap. -/
def occurrences (p : Pattern) (cs : List Char) : List Way := occurrencesFrom p 0 cs

/-! ## The first way -/

section
variable {β : Type} {p q : Pattern} {allowed : Char → Bool} {c : Char} {cs : List Char}
variable {k : Way → Option β}

/-- What the first way gives that gives anything. -/
def pick (p : Pattern) (cs : List Char) (k : Way → Option β) : Option β :=
  (p.ways cs).findSome? k

theorem pick_some_comp (f : Way → β) :
    (p.pick cs fun w => some (f w)) = (p.first? cs).map f := by
  show ((p.ways cs).findSome? fun w => some (f w)) = (p.ways cs).head?.map f
  cases p.ways cs <;> rfl

theorem first?_eq_pick : p.first? cs = p.pick cs some := by
  rw [pick_some_comp fun w => w, Option.map_id']

theorem pick_one_cons :
    (one allowed).pick (c :: cs) k = if allowed c then k ⟨[], cs⟩ else none := by
  show (if allowed c then [(⟨[], cs⟩ : Way)] else []).findSome? k = _
  split
  · exact List.findSome?_singleton
  · rfl

theorem pick_either : (either p q).pick cs k = (p.pick cs k).or (q.pick cs k) :=
  List.findSome?_append

theorem pick_both :
    (both p q).pick cs k = p.pick cs fun w => q.pick w.rest fun v => k (w.andThen v) := by
  show ((p.ways cs).flatMap fun w => (q.ways w.rest).map w.andThen).findSome? k =
    (p.ways cs).findSome? _
  induction p.ways cs with
  | nil => rfl
  | cons w ws ih =>
    rw [List.flatMap_cons, List.findSome?_append, ih, List.findSome?_map, List.findSome?_cons]
    show ((q.pick w.rest fun v => k (w.andThen v)).or _) = _
    cases q.pick w.rest fun v => k (w.andThen v) <;> rfl

theorem pick_group (number : Nat) :
    (group number p).pick cs k = p.pick cs fun w => k (w.captured number cs) := by
  show ((p.ways cs).map (Way.captured number cs)).findSome? k = _
  rw [List.findSome?_map]
  rfl

theorem pick_optional_greedy :
    (optional .greedy p).pick cs k = (p.pick cs k).or (k ⟨[], cs⟩) := by
  show (p.ways cs ++ [(⟨[], cs⟩ : Way)]).findSome? k = _
  rw [List.findSome?_append, List.findSome?_singleton]
  rfl

theorem pick_many (greed : Greed) : (many greed allowed).pick cs k =
    (rests greed allowed cs).findSome? fun rest => k ⟨[], rest⟩ := by
  show ((rests greed allowed cs).map fun rest => (⟨[], rest⟩ : Way)).findSome? k = _
  rw [List.findSome?_map]
  rfl

theorem pick_many_greedy_cons : (many .greedy allowed).pick (c :: cs) k =
    (if allowed c then (many .greedy allowed).pick cs k else none).or (k ⟨[], c :: cs⟩) := by
  have hrests : rests .greedy allowed (c :: cs) =
      (if allowed c then rests .greedy allowed cs else []) ++ [c :: cs] := rfl
  rw [pick_many, pick_many, hrests, List.findSome?_append, List.findSome?_singleton]
  split <;> rfl

theorem pick_many_lazy_cons : (many .lazy allowed).pick (c :: cs) k =
    (k ⟨[], c :: cs⟩).or (if allowed c then (many .lazy allowed).pick cs k else none) := by
  have hrests : rests .lazy allowed (c :: cs) =
      (c :: cs) :: if allowed c then rests .lazy allowed cs else [] := rfl
  rw [pick_many, pick_many, hrests, List.findSome?_cons]
  cases k ⟨[], c :: cs⟩ with
  | some v => rfl
  | none =>
    rw [Option.none_or]
    show (if allowed c then rests .lazy allowed cs else []).findSome? _ = _
    split <;> rfl

theorem pick_several_cons (greed : Greed) : (several greed allowed).pick (c :: cs) k =
    if allowed c then (many greed allowed).pick cs k else none :=
  pick_both.trans pick_one_cons

/-- A greedy piece that can take nothing leaves the text as it is. -/
theorem pick_greedy_of_stop (h : ∀ c ∈ cs.head?, allowed c = false) :
    (many .greedy allowed).pick cs k = k ⟨[], cs⟩ := by
  cases cs with
  | nil => exact List.findSome?_singleton
  | cons c cs => rw [pick_many_greedy_cons, h c rfl, if_neg Bool.false_ne_true, Option.none_or]

/-- A greedy piece takes all that it can if there is a way to go on from there. -/
theorem pick_greedy_append {v : β} (h : (many .greedy allowed).pick cs k = some v)
    {taken : List Char} (htaken : ∀ c ∈ taken, allowed c = true) :
    (many .greedy allowed).pick (taken ++ cs) k = some v := by
  induction taken with
  | nil => exact h
  | cons c taken ih =>
    obtain ⟨hc, htaken⟩ := List.forall_mem_cons.mp htaken
    rw [List.cons_append, pick_many_greedy_cons, if_pos hc, ih htaken, Option.some_or]

/-- A lazy piece takes nothing if there is a way to go on at once. -/
theorem pick_lazy_of_some {v : β} (h : k ⟨[], cs⟩ = some v) :
    (many .lazy allowed).pick cs k = some v := by
  cases cs with
  | nil => exact List.findSome?_singleton.trans h
  | cons c cs => rw [pick_many_lazy_cons, h, Option.some_or]

/-- A lazy piece ends where there is a way to go on, if there was none before. -/
theorem pick_lazy_append {v : β} (h : k ⟨[], cs⟩ = some v) {taken : List Char}
    (htaken : ∀ c ∈ taken, allowed c = true)
    (hnone : ∀ c rest, c :: rest <:+ taken → k ⟨[], c :: rest ++ cs⟩ = none) :
    (many .lazy allowed).pick (taken ++ cs) k = some v := by
  induction taken with
  | nil => exact pick_lazy_of_some h
  | cons c taken ih =>
    obtain ⟨hc, htaken⟩ := List.forall_mem_cons.mp htaken
    rw [List.cons_append, pick_many_lazy_cons, ← List.cons_append,
      hnone c taken (List.suffix_refl _), Option.none_or, if_pos hc]
    exact ih htaken fun d rest hd => hnone d rest (hd.trans (List.suffix_cons c taken))

end

/-! ## The matches in a text -/

section
variable {p : Pattern} {c : Char} {cs : List Char} {w : Way}

theorem occurrencesFrom_append (taken cs : List Char) :
    occurrencesFrom p taken.length (taken ++ cs) = occurrencesFrom p 0 cs := by
  induction taken with
  | nil => rfl
  | cons c taken ih => exact ih

/-- Where there is no match the search goes on with the next character. -/
theorem occurrences_of_none (h : p.first? (c :: cs) = none) :
    p.occurrences (c :: cs) = p.occurrences cs := by
  rw [occurrences, occurrencesFrom, h]
  rfl

/-- Where there is a match the search goes on behind it. -/
theorem occurrences_of_some {taken : List Char} (h : p.first? (c :: (taken ++ cs)) = some w)
    (hrest : w.rest = cs) :
    p.occurrences (c :: (taken ++ cs)) = w :: p.occurrences cs := by
  rw [occurrences, occurrencesFrom, h]
  simp only [hrest, List.length_append, Nat.add_sub_cancel, occurrencesFrom_append]
  rfl

end

end Pattern

end ControlSurface.Text
