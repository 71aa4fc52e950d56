import ControlSurface.Proofs.Traversal

/- A refused call cuts a build short, and nothing else. A step is `Obedient` if the log tells
   all that it does to pages and panel (`logged`), and if a run in which call `n` is refused
   is the free run where that makes no call `n`, and otherwise ends right there, with the
   refusal as its error and with the hosts as the `n` calls before it leave them (`stops`).
   The primitive steps are obedient and sequences of obedient steps are (`bind`); so are,
   one after the other, all parts of a build, and a build. -/
namespace ControlSurface.Build

/-! ## Calls one after the other -/

namespace Call

theorem performAll_append (h : Hosts) (cs ds : List Call) :
    performAll h (cs ++ ds) = (performAll h cs).bind fun k => performAll k ds := by
  induction cs generalizing h with
  | nil => rfl
  | cons c cs ih =>
    simp only [List.cons_append, performAll]
    cases c.perform h with
    | ok r => exact ih r.2
    | error e => rfl

/-- Calls neither read nor change the routes. -/
theorem perform_routes (c : Call) (h : Hosts) (t : RoutingTable) :
    c.perform { h with routes := t } =
      (c.perform h).map fun r => (r.1, { r.2 with routes := t }) := by
  cases c with
  | resetPage page => rfl
  | clearPanel => rfl
  | appendParameter page p => simp only [perform]; cases h.pages.append page p <;> rfl
  | create parent spec => simp only [perform]; cases h.panel.create parent spec <;> rfl
  | bind node b => simp only [perform]; cases h.panel.bind node b <;> rfl
  | assign node key value => simp only [perform]; cases h.panel.assign node key value <;> rfl
  | destroy node => simp only [perform]; cases h.panel.destroy node <;> rfl

theorem performAll_routes {h k : Hosts} {cs : List Call} (t : RoutingTable)
    (hk : performAll h cs = .ok k) :
    performAll { h with routes := t } cs = .ok { k with routes := t } := by
  induction cs generalizing h with
  | nil => cases hk; rfl
  | cons c cs ih =>
    simp only [performAll] at hk ⊢
    rw [perform_routes]
    cases hc : c.perform h with
    | ok r => rw [hc] at hk; exact ih hk
    | error e => rw [hc] at hk; cases hk

end Call

/-! ## Obedient steps -/

/-- How a run in which call `n` is refused compares with the free run from `s`. -/
def CutAt {α : Type} (n : Nat) (s : State) (free cut : Except BuildError α × State) : Prop :=
  if free.2.calls.length ≤ n then cut = (free.1, { free.2 with refusal := some n })
  else
    cut.1 = .error (.host (.refused n)) ∧ cut.2.calls = free.2.calls.take (n + 1) ∧
      Call.performAll s.hosts ((free.2.calls.take n).drop s.calls.length) =
        .ok { cut.2.hosts with routes := s.hosts.routes }

/-- The log of a step tells what it does to pages and panel, and a refusal ends it. -/
structure Step.Obedient {α : Type} (x : Step α) : Prop where
  /-- The calls made were carried out, all but a last one where the step failed. -/
  logged : ∀ s, ∃ made carried, (x.outcome s).2.calls = s.calls ++ made ∧
    Call.performAll s.hosts carried = .ok { (x.outcome s).2.hosts with routes := s.hosts.routes } ∧
    (made = carried ∨ (x.outcome s).1.isOk = false ∧ ∃ c, made = carried ++ [c])
  keeps : ∀ s, (x.outcome s).2.refusal = s.refusal ∧
    (x.outcome s).2.builder.config = s.builder.config
  stops : ∀ s n, s.refusal = none → s.calls.length ≤ n →
    CutAt n s (x.outcome s) (x.outcome { s with refusal := some n })

namespace Step.Obedient
variable {α β : Type}

/-- A step that makes no call and does the same whatever was called and is refused. -/
theorem of_silent {x : Step α} (r : Builder → Hosts → Except BuildError α)
    (f : Builder → Hosts → Builder) (t : Builder → Hosts → RoutingTable)
    (hx : ∀ s, x.outcome s = (r s.builder s.hosts,
      { s with builder := f s.builder s.hosts, hosts.routes := t s.builder s.hosts }))
    (hf : ∀ b h, (f b h).config = b.config) : Obedient x where
  logged s := by
    rw [hx]
    exact ⟨[], [], by simp, rfl, .inl rfl⟩
  keeps s := by
    rw [hx]
    exact ⟨rfl, hf _ _⟩
  stops s n hs hn := by
    simp only [CutAt, hx, if_pos hn]

theorem pure (a : α) : Obedient (Pure.pure a : Step α) :=
  of_silent (fun _ _ => .ok a) (fun b _ => b) (fun _ h => h.routes) (fun _ => rfl) fun _ _ => rfl

theorem throw (e : BuildError) : Obedient (MonadExcept.throw e : Step α) :=
  of_silent (fun _ _ => .error e) (fun b _ => b) (fun _ h => h.routes) (fun _ => rfl) fun _ _ => rfl

theorem builder : Obedient Step.builder :=
  of_silent (fun b _ => .ok b) (fun b _ => b) (fun _ h => h.routes) (fun _ => rfl) fun _ _ => rfl

theorem config : Obedient Step.config :=
  of_silent (fun b _ => .ok b.config) (fun b _ => b) (fun _ h => h.routes) (fun _ => rfl)
    fun _ _ => rfl

theorem panel : Obedient Step.panel :=
  of_silent (fun _ h => .ok h.panel) (fun b _ => b) (fun _ h => h.routes) (fun _ => rfl)
    fun _ _ => rfl

theorem update (f : Builder → Builder) (hf : ∀ b, (f b).config = b.config) :
    Obedient (Step.update f) :=
  of_silent (fun _ _ => .ok ()) (fun b _ => f b) (fun _ h => h.routes) (fun _ => rfl)
    fun b _ => hf b

theorem reroute (f : RoutingTable → RoutingTable) : Obedient (Step.reroute f) :=
  of_silent (fun _ _ => .ok ()) (fun b _ => b) (fun _ h => f h.routes) (fun _ => rfl)
    fun _ _ => rfl

theorem call (c : Call) : Obedient (Step.call c) where
  logged s := by
    obtain ⟨e, he⟩ | ⟨id, k, hc, hk⟩ := outcome_call_cases c s
    · rw [he]
      exact ⟨[c], [], rfl, rfl, .inr ⟨rfl, c, rfl⟩⟩
    · rw [hk]
      have hroutes := Call.perform_routes c s.hosts s.hosts.routes
      have hkept : k = { k with routes := s.hosts.routes } := by
        rw [show c.perform { s.hosts with routes := s.hosts.routes } = .ok (id, k) from hc]
          at hroutes
        exact congrArg Prod.snd (Except.ok.inj hroutes)
      refine ⟨[c], [c], rfl, ?_, .inl rfl⟩
      rw [Call.performAll, hc]
      exact congrArg Except.ok hkept
  keeps s := by
    obtain ⟨e, he⟩ | ⟨id, k, -, hk⟩ := outcome_call_cases c s
    · rw [he]; exact ⟨rfl, rfl⟩
    · rw [hk]; exact ⟨rfl, rfl⟩
  stops s n hs hn := by
    have hlen : ((Step.call c).outcome s).2.calls = s.calls ++ [c] := by
      obtain ⟨e, he⟩ | ⟨id, k, -, hk⟩ := outcome_call_cases c s
      · rw [he]
      · rw [hk]
    rw [CutAt, hlen, List.length_append, List.length_singleton]
    split
    · next h =>
      -- The refused call is a later one.
      have hne : some n ≠ some s.calls.length := by simp; omega
      simp only [outcome_call, hs, reduceCtorEq, hne, if_false]
      split <;> rfl
    · next h =>
      -- The call is the one that is refused: it is logged, and nothing is carried out.
      have hlast : n = s.calls.length := by omega
      subst hlast
      rw [outcome_call, if_pos rfl]
      refine ⟨rfl, ?_, ?_⟩
      · rw [List.take_of_length_le (by simp)]
      · rw [List.drop_eq_nil_of_le (by simp)]; rfl

/-- A look at the state that takes nothing from it but what the hosts hold. -/
theorem bind_get {k : State → Step β} (hk : ∀ s, Obedient (k s))
    (hsame : ∀ s t, s.hosts = t.hosts → k s = k t) : Obedient (get >>= k) := by
  have hrun : ∀ s, (get >>= k).outcome s = (k s).outcome s := by
    intro s
    exact outcome_bind_ok (outcome_get s)
  constructor
  · intro s
    rw [hrun]
    exact (hk s).logged s
  · intro s
    rw [hrun]
    exact (hk s).keeps s
  · intro s n hs hn
    rw [hrun, hrun, hsame { s with refusal := some n } s rfl]
    exact (hk s).stops s n hs hn

/-- Of the second step only those runs matter that the first leads to. -/
theorem bind_of_ok {x : Step α} {f : α → Step β} (hx : Obedient x)
    (hf : ∀ a s, (x.outcome s).1 = .ok a → Obedient (f a)) : Obedient (x >>= f) where
  logged s := by
    obtain ⟨made, carried, hmade, hcarried, hlast⟩ := hx.logged s
    rcases ho : x.outcome s with ⟨_ | a, t⟩ <;> rw [ho] at hmade hcarried hlast
    · rw [outcome_bind_error ho]
      exact ⟨made, carried, hmade, hcarried, hlast⟩
    · rw [outcome_bind_ok ho]
      have hsecond : Obedient (f a) := hf a s (congrArg Prod.fst ho)
      obtain ⟨made', carried', hmade', hcarried', hlast'⟩ := hsecond.logged t
      -- The first step ended well, so all calls that it made were carried out.
      have hall : made = carried := by simpa [Except.isOk, Except.toBool] using hlast
      refine ⟨made ++ made', carried ++ carried', ?_, ?_, ?_⟩
      · rw [hmade', hmade, List.append_assoc]
      · rw [Call.performAll_append, hcarried]
        exact (Call.performAll_routes s.hosts.routes hcarried' :)
      · rcases hlast' with h | ⟨h, c, hc⟩
        · exact .inl (by rw [hall, h])
        · exact .inr ⟨h, c, by rw [hall, hc, List.append_assoc]⟩
  keeps s := by
    have h := hx.keeps s
    rcases ho : x.outcome s with ⟨_ | a, t⟩ <;> rw [ho] at h
    · rw [outcome_bind_error ho]
      exact h
    · rw [outcome_bind_ok ho]
      obtain ⟨h₁, h₂⟩ := (hf a s (congrArg Prod.fst ho)).keeps t
      exact ⟨h₁.trans h.1, h₂.trans h.2⟩
  stops s n hs hn := by
    have hcut := hx.stops s n hs hn
    have hkeeps := hx.keeps s
    obtain ⟨made, carried, hmade, hcarried, hlast⟩ := hx.logged s
    rcases ho : x.outcome s with ⟨e | a, t⟩ <;>
      rw [ho] at hcut hkeeps hmade hcarried hlast
    · -- The free run ends in the first step, and so does the other.
      rw [outcome_bind_error ho]
      rw [CutAt] at hcut ⊢
      split at hcut
      · next h => rw [if_pos h, outcome_bind_error hcut]
      · next h =>
        rw [if_neg h, outcome_bind_error (Prod.ext hcut.1 rfl)]
        exact ⟨rfl, hcut.2⟩
    · rw [outcome_bind_ok ho]
      have hf : Obedient (f a) := hf a s (congrArg Prod.fst ho)
      obtain ⟨made', -, hmade', -, -⟩ := hf.logged t
      have hall : made = carried := by simpa [Except.isOk, Except.toBool] using hlast
      rw [CutAt] at hcut
      split at hcut
      · next h =>
        -- The refused call is one of the second step.
        rw [outcome_bind_ok hcut]
        have hsecond := hf.stops t n (hkeeps.1.trans hs) h
        rw [CutAt] at hsecond ⊢
        split at hsecond
        · next h' => rw [if_pos h']; exact hsecond
        · next h' =>
          rw [if_neg h']
          refine ⟨hsecond.1, hsecond.2.1, ?_⟩
          have htake : (t.calls ++ made').take n = t.calls ++ made'.take (n - t.calls.length) := by
            rw [List.take_append, List.take_of_length_le h]
          have hdrop : (((f a).outcome t).2.calls.take n).drop s.calls.length =
              made ++ (((f a).outcome t).2.calls.take n).drop t.calls.length := by
            calc (((f a).outcome t).2.calls.take n).drop s.calls.length
                = (t.calls ++ made'.take (n - t.calls.length)).drop s.calls.length := by
                  rw [hmade', htake]
              _ = made ++ made'.take (n - t.calls.length) := by
                  rw [hmade, List.append_assoc, List.drop_left]
              _ = made ++ (((f a).outcome t).2.calls.take n).drop t.calls.length := by
                  rw [hmade', htake, List.drop_left]
          rw [hdrop, hall, Call.performAll_append, hcarried]
          exact (Call.performAll_routes s.hosts.routes hsecond.2.2 :)
      · next h =>
        -- The first step was cut, and the second is not taken.
        rw [outcome_bind_error (Prod.ext hcut.1 rfl), CutAt, hmade']
        have hle : n + 1 ≤ t.calls.length := Nat.lt_of_not_le h
        rw [if_neg (by rw [List.length_append]; omega), List.take_append_of_le_length hle,
          List.take_append_of_le_length (by omega)]
        exact ⟨rfl, hcut.2⟩

theorem bind {x : Step α} {f : α → Step β} (hx : Obedient x) (hf : ∀ a, Obedient (f a)) :
    Obedient (x >>= f) := bind_of_ok hx fun a _ _ => hf a

theorem perform (c : Call) : Obedient (Step.perform c) := bind (call c) fun _ => pure ()

end Step.Obedient

section
variable {α : Type} {x : Step α} {A : Session} {refusal : Option Nat} {a : α}

/-- A run that ends well, whichever call was to be refused, is the free run. -/
theorem Session.outcome_of_ok (hx : x.Obedient) (h : (x.outcome (A.start refusal)).1 = .ok a) :
    x.outcome (A.start refusal) =
      ((x.outcome (A.start none)).1, { (x.outcome (A.start none)).2 with refusal := refusal }) := by
  cases refusal with
  | none =>
    have hkept : (x.outcome (A.start none)).2.refusal = none := (hx.keeps (A.start none)).1
    generalize x.outcome (A.start none) = free at hkept ⊢
    rw [← hkept]
  | some n =>
    have hcut : CutAt n (A.start none) (x.outcome (A.start none)) (x.outcome (A.start (some n))) :=
      hx.stops (A.start none) n rfl (Nat.zero_le n)
    rw [CutAt] at hcut
    split at hcut
    · exact hcut
    · rw [hcut.1] at h
      cases h

/-- A step that ends well, whichever call was to be refused, is the free step. -/
theorem Session.take_of_ok (hx : x.Obedient) (h : (A.take refusal x).1 = .ok a) :
    A.take refusal x = A.take none x := by
  rw [take_eq, outcome_of_ok hx h]
  rfl

end

/-! ## The parts of a build -/

open Step (Obedient)

theorem obedient_basics : Step.Basics fun x => Obedient x where
  pure := .pure
  throw := .throw
  bind := .bind
  builder := .builder
  update := .update
  reroute := .reroute
  append _ _ := .call _

theorem arrange_obedient (d : Description) (usePanel : Bool) : Obedient (arrange d usePanel) :=
  (arrange_rule (.of_plain (P := fun x _ => Obedient x) .pure .bind_of_ok .config .panel
    (fun c _ => .call c) obedient_basics.admitInput obedient_basics.admitOutput) d usePanel).1

theorem teardown_obedient (usePanel : Bool) : Obedient (teardown usePanel) := by
  refine .bind (.update _ fun _ => rfl) fun _ => .bind .config fun config => ?_
  refine .bind (.perform _) fun _ => .bind_get (fun s => ?_) fun s t hst => ?_
  · refine .bind (.update _ fun _ => rfl) fun _ => ?_
    exact obedient_basics.when (.perform _) (.reroute _)
  · rw [hst]

theorem buildDescription_obedient (d : Description) (usePanel : Bool) :
    Obedient (buildDescription d usePanel) :=
  .bind (teardown_obedient usePanel) fun _ =>
    obedient_basics.populate (arrange_obedient d usePanel)

theorem construct_obedient (text : String) (usePanel : Bool) :
    Obedient (construct text usePanel) :=
  obedient_basics.construct (fun d => arrange_obedient d usePanel) text

theorem buildText_obedient (text : String) (usePanel : Bool) :
    Obedient (buildText text usePanel) :=
  .bind (teardown_obedient usePanel) fun _ => construct_obedient text usePanel

end ControlSurface.Build
