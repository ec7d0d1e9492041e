import Mathlib.Order.WellFounded

/-! Runs of a machine whose events are partial functions on its states.

An event that is not enabled has no successor. Safety results come from the invariant rules, and
exact conditions from `always_iff_meets`.
-/

namespace BacPy.Library

variable {State Event : Type*}

-- Finite runs and the states they pass through

def run (step : State → Event → Option State) : State → List Event → Option State
  | state, [] => some state
  | state, event :: rest => (step state event).bind fun next => run step next rest

/-- Every event the run takes satisfies `ok` in the state before it. -/
def Meets (step : State → Event → Option State) (ok : State → Event → Prop)
    : State → List Event → Prop
  | _, [] => True
  | state, event :: rest =>
    ∀ next, step state event = some next → ok state event ∧ Meets step ok next rest

/-- Every state the run passes through, its first and its last included, satisfies `good`. -/
def Always (step : State → Event → Option State) (good : State → Prop)
    : State → List Event → Prop
  | state, [] => good state
  | state, event :: rest =>
    good state ∧ ∀ next, step state event = some next → Always step good next rest

variable {step : State → Event → Option State} {ok : State → Event → Prop}
  {inv good : State → Prop}

@[simp] theorem run_nil (state : State) : run step state [] = some state := rfl

@[simp] theorem run_cons (state : State) (event : Event) (rest : List Event)
    : run step state (event :: rest)
      = (step state event).bind fun next => run step next rest :=
  rfl

theorem run_append (state : State) (first second : List Event)
    : run step state (first ++ second)
      = (run step state first).bind fun middle => run step middle second := by
  induction first generalizing state with
  | nil => rfl
  | cons event rest ih =>
    cases moved : step state event with
    | none => simp [moved]
    | some next => simp [moved, ih]

/-- A condition on the steps of a run weakens pointwise. -/
theorem Meets.mono {ok' state events} (weaker : ∀ state event, ok state event → ok' state event)
    (meets : Meets step ok state events)
    : Meets step ok' state events := by
  induction events generalizing state with
  | nil => trivial
  | cons event rest ih =>
    intro next moved
    exact ⟨weaker _ _ (meets next moved).1, ih (meets next moved).2⟩

/-- A condition on the steps of a run is replaced by one that it implies in invariant states. -/
theorem Meets.of_invariant {ok' state events} (meets : Meets step ok state events)
    (keeps : ∀ {state event next},
      inv state → ok state event → step state event = some next → inv next)
    (implies : ∀ {state event}, inv state → ok state event → ok' state event) (start : inv state)
    : Meets step ok' state events := by
  induction events generalizing state with
  | nil => trivial
  | cons event rest ih =>
    intro next moved
    obtain ⟨here, later⟩ := meets next moved
    exact ⟨implies start here, ih later (keeps start here moved)⟩

/-- A condition on the events alone may be added to a condition on the steps. -/
theorem Meets.and_forall {allowed : Event → Prop} {state : State} {events : List Event}
    (meets : Meets step ok state events) (all : ∀ event ∈ events, allowed event)
    : Meets step (fun state event => ok state event ∧ allowed event) state events := by
  induction events generalizing state with
  | nil => trivial
  | cons event rest ih =>
    intro next moved
    obtain ⟨here, later⟩ := meets next moved
    exact ⟨⟨here, all event List.mem_cons_self⟩,
      ih later fun other member => all other (List.mem_cons_of_mem _ member)⟩

/-- Two conditions on the steps of a run. -/
theorem meets_and_iff {ok' state events}
    : Meets step (fun state event => ok state event ∧ ok' state event) state events
      ↔ Meets step ok state events ∧ Meets step ok' state events := by
  refine ⟨fun both => ⟨both.mono fun _ _ => And.left, both.mono fun _ _ => And.right⟩, ?_⟩
  rintro ⟨first, second⟩
  induction events generalizing state with
  | nil => trivial
  | cons event rest ih =>
    intro next moved
    exact ⟨⟨(first next moved).1, (second next moved).1⟩,
      ih (first next moved).2 (second next moved).2⟩

/-- A condition on the events alone. -/
theorem meets_of_forall {allowed : Event → Prop} {state : State} {events : List Event}
    (all : ∀ event ∈ events, allowed event)
    : Meets step (fun _ event => allowed event) state events := by
  induction events generalizing state with
  | nil => trivial
  | cons event rest ih =>
    intro next moved
    exact ⟨all event List.mem_cons_self, ih fun other member => all other (List.mem_cons_of_mem _ member)⟩

/-- Whether a run meets a decidable condition is decided by taking its steps. -/
instance decidableMeets [∀ state event, Decidable (ok state event)]
    : ∀ state events, Decidable (Meets step ok state events)
  | _, [] => isTrue trivial
  | state, event :: rest =>
    match moved : step state event with
    | none => isTrue (by intro next other; rw [moved] at other; cases other)
    | some next =>
      have : Decidable (Meets step ok next rest) := decidableMeets next rest
      decidable_of_iff (ok state event ∧ Meets step ok next rest) ⟨
        fun allowed _ other => Option.some.inj (moved.symm.trans other) ▸ allowed,
        fun meets => meets next moved
      ⟩

/-- Conditions that are the same for every step from an invariant state are the same for runs. -/
theorem meets_congr {ok'}
    (keeps : ∀ {state event next},
      inv state → ok state event → step state event = some next → inv next)
    (same : ∀ {state event next},
      inv state → step state event = some next → (ok state event ↔ ok' state event)) {state events}
    (start : inv state)
    : Meets step ok state events ↔ Meets step ok' state events := by
  induction events generalizing state with
  | nil => exact Iff.rfl
  | cons event rest ih =>
    refine forall₂_congr fun next moved => ?_
    rw [← same start moved]
    exact and_congr_right fun allowed => ih (keeps start allowed moved)

/-- The invariant rule for runs whose steps all satisfy a condition, by run induction. -/
theorem invariant_run
    (keeps : ∀ {state event next},
      inv state → ok state event → step state event = some next → inv next) {state final events}
    (start : inv state) (meets : Meets step ok state events)
    (ran : run step state events = some final)
    : inv final := by
  induction events generalizing state with
  | nil => exact Option.some.inj ran ▸ start
  | cons event rest ih =>
    cases moved : step state event with
    | none => simp [moved] at ran
    | some next =>
      obtain ⟨allowed, later⟩ := meets next moved
      exact ih (keeps start allowed moved) later (by simpa [moved] using ran)

/-- The invariant rule for all runs, by run induction. -/
theorem invariant_every_run
    (keeps : ∀ {state event next}, inv state → step state event = some next → inv next)
    {state final events} (start : inv state) (ran : run step state events = some final)
    : inv final := by
  induction events generalizing state with
  | nil => exact Option.some.inj ran ▸ start
  | cons event rest ih =>
    cases moved : step state event with
    | none => simp [moved] at ran
    | some next => exact ih (keeps start moved) (by simpa [moved] using ran)

/-- The states a run passes through are the ends of its prefixes. -/
theorem always_iff_prefixes {state events}
    : Always step good state events
      ↔ ∀ before after final, events = before ++ after
          → run step state before = some final → good final := by
  constructor
  · intro always before after final split ran
    induction before generalizing state events with
    | nil =>
      have same : state = final := Option.some.inj ran
      cases events with
      | nil => exact same ▸ always
      | cons event rest => exact same ▸ always.1
    | cons event rest ih =>
      subst split
      cases moved : step state event with
      | none => simp [moved] at ran
      | some next => exact ih (always.2 next moved) rfl (by simpa [moved] using ran)
  · intro prefixes
    induction events generalizing state with
    | nil => exact prefixes [] [] state rfl rfl
    | cons event rest ih =>
      refine ⟨prefixes [] (event :: rest) state rfl rfl, ?_⟩
      intro next moved
      apply ih
      intro before after final split ran
      exact prefixes (event :: before) after final (by simp [split]) (by simpa [moved] using ran)

/-- The invariant rule for all states of a run whose steps all satisfy a condition. -/
theorem always_of_meets
    (keeps : ∀ {state event next},
      inv state → ok state event → step state event = some next → inv next)
    (shows : ∀ {state}, inv state → good state) {state events} (start : inv state)
    (meets : Meets step ok state events)
    : Always step good state events := by
  induction events generalizing state with
  | nil => exact shows start
  | cons event rest ih =>
    refine ⟨shows start, fun next moved => ?_⟩
    obtain ⟨allowed, later⟩ := meets next moved
    exact ih (keeps start allowed moved) later

/-- The invariant rule for all states of a run, where every step keeps the invariant. -/
theorem always_of_keeps
    (keeps : ∀ {state event next}, inv state → step state event = some next → inv next)
    (shows : ∀ {state}, inv state → good state) {state events} (start : inv state)
    : Always step good state events := by
  induction events generalizing state with
  | nil => exact shows start
  | cons event rest ih => exact ⟨shows start, fun next moved => ih (keeps start moved)⟩

/-- When every other step leads out of `good` at once, the condition is exact: a run stays
in `good` if and only if all its steps satisfy it.
-/
theorem always_iff_meets
    (keeps : ∀ {state event next},
      inv state → ok state event → step state event = some next → inv next)
    (shows : ∀ {state}, inv state → good state)
    (breaks : ∀ {state event next},
      inv state → ¬ ok state event → step state event = some next → ¬ good next) {state events}
    (start : inv state)
    : Always step good state events ↔ Meets step ok state events := by
  refine ⟨fun always => ?_, always_of_meets keeps shows start⟩
  induction events generalizing state with
  | nil => trivial
  | cons event rest ih =>
    intro next moved
    have later := always.2 next moved
    have allowed : ok state event := by
      by_contra refused
      apply breaks start refused moved
      cases rest with
      | nil => exact later
      | cons _ _ => exact later.1
    exact ⟨allowed, ih (keeps start allowed moved) later⟩

-- Counted steps

def countSteps (step : State → Event → Option State) (counted : State → Event → Bool)
    : State → List Event → Nat
  | _, [] => 0
  | state, event :: rest =>
    match step state event with
    | none => 0
    | some next => (counted state event).toNat + countSteps step counted next rest

/-- A measure that grows with every counted step bounds their number, by run induction. -/
theorem countSteps_le {counted : State → Event → Bool} {measure : State → Nat}
    (keeps : ∀ {state event next},
      inv state → ok state event → step state event = some next → inv next)
    (grows : ∀ {state event next}, inv state → ok state event → step state event = some next →
      measure state + (counted state event).toNat ≤ measure next)
    {state final : State} {events : List Event} (start : inv state)
    (meets : Meets step ok state events) (ran : run step state events = some final)
    : measure state + countSteps step counted state events ≤ measure final := by
  induction events generalizing state with
  | nil => exact Nat.le_of_eq (congrArg measure (Option.some.inj ran))
  | cons event rest ih =>
    cases moved : step state event with
    | none => simp [moved] at ran
    | some next =>
      obtain ⟨allowed, later⟩ := meets next moved
      have here := grows start allowed moved
      have after := ih (keeps start allowed moved) later (by simpa [moved] using ran)
      simp only [countSteps, moved]
      omega

end BacPy.Library
