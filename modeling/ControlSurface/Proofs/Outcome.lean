import ControlSurface.Build.Run

/- What a step of a build comes to: its answer, or the error that ended it, and the state
   it leaves either way. Each primitive step has one equation, and a sequence of two steps
   has another (`outcome_bind`); the proofs about builds go by these equations and never
   open the monad. `outcome_call` says what a call does: it is logged first, a call of the
   refused number fails with that number, and any other is carried out by the hosts, to which
   it does what `Call.perform_ok` says. -/
namespace ControlSurface.Build

/-- The answer or the error of a step, and the state it leaves. -/
def Step.outcome {α : Type} (x : Step α) (s : State) : Except BuildError α × State :=
  StateT.run (ExceptT.run x) s

/-- The state in which a build of a session starts. -/
def Session.start (A : Session) (refusal : Option Nat) : State :=
  ⟨A.builder, A.hosts, [], refusal⟩

/-- What a state leaves behind for the next build. -/
def State.session (s : State) : Session := ⟨s.builder, s.hosts⟩

/-- A session takes a step from its start, and keeps builder and hosts. -/
theorem Session.take_eq {α : Type} (A : Session) (refusal : Option Nat) (x : Step α) :
    A.take refusal x = ((x.outcome (A.start refusal)).1, (x.outcome (A.start refusal)).2.session) :=
  rfl

/-- What a call that is carried out does to the hosts. A creation answers with the new node. -/
theorem Call.perform_ok {c : Call} {h k : Hosts} {id : Nat} (hk : c.perform h = .ok (id, k)) :
    match c with
    | .resetPage page => k = { h with pages := h.pages.reset page }
    | .appendParameter page p =>
      ∃ ps, h.pages.append page p = .ok ps ∧ k = { h with pages := ps }
    | .clearPanel => k = { h with panel := h.panel.clear }
    | .create parent spec =>
      ∃ t, h.panel.create parent spec = .ok (id, t) ∧ k = { h with panel := t }
    | .bind node b => ∃ t, h.panel.bind node b = .ok t ∧ k = { h with panel := t }
    | .assign node key value =>
      ∃ t, h.panel.assign node key value = .ok t ∧ k = { h with panel := t }
    | .destroy node => ∃ t, h.panel.destroy node = .ok t ∧ k = { h with panel := t } := by
  have hmap : ∀ {α : Type} {r : Except HostFault α} {f : α → Nat × Hosts},
      r.map f = .ok (id, k) → ∃ a, r = .ok a ∧ f a = (id, k) := by
    intro α r f hr
    cases r with
    | error e => cases hr
    | ok a => exact ⟨a, rfl, Except.ok.inj hr⟩
  cases c with
  | resetPage page => cases hk; rfl
  | clearPanel => cases hk; rfl
  | appendParameter page p | create parent spec | bind node b | assign node key value
  | destroy node =>
    obtain ⟨a, ha, hf⟩ := hmap hk
    cases hf
    exact ⟨_, ha, rfl⟩

namespace Step
variable {α β : Type}

@[simp] theorem outcome_pure (a : α) (s : State) : (pure a : Step α).outcome s = (.ok a, s) := rfl

@[simp] theorem outcome_throw (e : BuildError) (s : State) :
    (throw e : Step α).outcome s = (.error e, s) := rfl

/-- The second step is taken from where the first ends, unless that fails. -/
theorem outcome_bind (x : Step α) (f : α → Step β) (s : State) :
    (x >>= f).outcome s =
      match x.outcome s with
      | (.ok a, s) => (f a).outcome s
      | (.error e, s) => (.error e, s) := by
  simp only [outcome, ExceptT.run_bind, StateT.run_bind]
  cases StateT.run (ExceptT.run x) s with
  | mk r t => cases r <;> rfl

theorem outcome_bind_ok {x : Step α} {f : α → Step β} {s s' : State} {a : α}
    (h : x.outcome s = (.ok a, s')) : (x >>= f).outcome s = (f a).outcome s' := by
  rw [outcome_bind, h]

theorem outcome_bind_error {x : Step α} {f : α → Step β} {s s' : State} {e : BuildError}
    (h : x.outcome s = (.error e, s')) : (x >>= f).outcome s = (.error e, s') := by
  rw [outcome_bind, h]

/-- A sequence that ends well is two steps that end well. -/
theorem ok_of_bind_ok {x : Step α} {f : α → Step β} {s t : State} {b : β}
    (h : (x >>= f).outcome s = (.ok b, t)) :
    ∃ a s', x.outcome s = (.ok a, s') ∧ (f a).outcome s' = (.ok b, t) := by
  rw [outcome_bind] at h
  split at h
  · next a s' hx => exact ⟨a, s', hx, h⟩
  · cases h

/-! ## The primitive steps -/

@[simp] theorem outcome_get (s : State) : (get : Step State).outcome s = (.ok s, s) := rfl

@[simp] theorem outcome_builder (s : State) : builder.outcome s = (.ok s.builder, s) := rfl

@[simp] theorem outcome_config (s : State) : config.outcome s = (.ok s.builder.config, s) := rfl

@[simp] theorem outcome_panel (s : State) : panel.outcome s = (.ok s.hosts.panel, s) := rfl

@[simp] theorem outcome_update (f : Builder → Builder) (s : State) :
    (update f).outcome s = (.ok (), { s with builder := f s.builder }) := rfl

@[simp] theorem outcome_reroute (f : RoutingTable → RoutingTable) (s : State) :
    (reroute f).outcome s =
      (.ok (), { s with hosts := { s.hosts with routes := f s.hosts.routes } }) := rfl

theorem outcome_call (c : Call) (s : State) :
    (call c).outcome s =
      if s.refusal = some s.calls.length then
        (.error (.host (.refused s.calls.length)), { s with calls := s.calls ++ [c] })
      else
        match c.perform s.hosts with
        | .ok (id, hosts) => (.ok id, { s with hosts := hosts, calls := s.calls ++ [c] })
        | .error fault => (.error (.host fault), { s with calls := s.calls ++ [c] }) := by
  have hset : (set { s with calls := s.calls ++ [c] } : Step Unit).outcome s =
      (.ok (), { s with calls := s.calls ++ [c] }) := rfl
  rw [call, outcome_bind_ok (outcome_get s), outcome_bind_ok hset]
  split
  · rfl
  · cases c.perform s.hosts <;> rfl

/-- A call is logged; either it fails and changes nothing else, or the hosts carry it out. -/
theorem outcome_call_cases (c : Call) (s : State) :
    (∃ e, (call c).outcome s = (.error e, { s with calls := s.calls ++ [c] })) ∨
      ∃ id k, c.perform s.hosts = .ok (id, k) ∧
        (call c).outcome s = (.ok id, { s with hosts := k, calls := s.calls ++ [c] }) := by
  rw [outcome_call]
  split
  · exact .inl ⟨_, rfl⟩
  · split
    · next id k hk => exact .inr ⟨id, k, hk, rfl⟩
    · exact .inl ⟨_, rfl⟩

/-- A call whose answer does not matter ends as the call does. -/
theorem outcome_perform (c : Call) (s : State) :
    (perform c).outcome s = (((call c).outcome s).1.map fun _ => (), ((call c).outcome s).2) := by
  rw [perform, outcome_bind]
  split
  · next a s' h => rw [h]; rfl
  · next e s' h => rw [h]; rfl

end Step

end ControlSurface.Build
