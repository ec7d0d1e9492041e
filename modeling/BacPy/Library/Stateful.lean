import Mathlib.Data.List.Basic

/-! Computations on a mutable state that return a result or raise, with rules of pre- and
postconditions for them.

An exception does not undo what was done before it, so the state a computation leaves is kept
next to its outcome, and every triple says something about both ways to end.
-/

namespace BacPy.Library

/-- A computation on `State` that returns a `Result` or raises a `Failure`. -/
def Stateful (Failure State Result : Type) := State → Except Failure Result × State

namespace Stateful

variable {Failure State Result Later Item : Type}

instance : Monad (Stateful Failure State) where
  pure result := fun state => (.ok result, state)
  bind first next := fun state =>
    match first state with
    | (.ok result, state) => next result state
    | (.error failure, state) => (.error failure, state)

/-- `raise failure` -/
def raise (failure : Failure) : Stateful Failure State Result :=
  fun state => (.error failure, state)

def reads (look : State → Result) : Stateful Failure State Result :=
  fun state => (.ok (look state), state)

def modifies (change : State → State) : Stateful Failure State Unit :=
  fun state => (.ok (), change state)

/-- A computation that does not touch the state. -/
def lift (outcome : Except Failure Result) : Stateful Failure State Result :=
  fun state => (outcome, state)

def consults (look : State → Except Failure Result) : Stateful Failure State Result :=
  fun state => (look state, state)

/-- `if test: raise failure` -/
def refuseIf (test : State → Prop) [DecidablePred test] (failure : Failure)
    : Stateful Failure State Unit :=
  fun state => if test state then (.error failure, state) else (.ok (), state)

/-- `if condition: body` -/
def when (condition : Prop) [Decidable condition] (body : Stateful Failure State Unit)
    : Stateful Failure State Unit :=
  if condition then body else pure ()

/-- `for item in items: body(item)` -/
def forEach (body : Item → Stateful Failure State Unit) : List Item → Stateful Failure State Unit
  | [] => pure ()
  | item :: rest => body item >>= fun _ => forEach body rest

@[simp] theorem pure_apply (result : Result) (state : State)
    : (pure result : Stateful Failure State Result) state = (.ok result, state) :=
  rfl

theorem bind_apply (first : Stateful Failure State Result)
    (next : Result → Stateful Failure State Later) (state : State)
    : (first >>= next) state
      = match first state with
        | (.ok result, state) => next result state
        | (.error failure, state) => (.error failure, state) :=
  rfl

/-- A sequence returns a result if both of its parts do. -/
theorem bind_ok_iff {first : Stateful Failure State Result}
    {next : Result → Stateful Failure State Later} {state : State} {last : Later}
    : ((first >>= next) state).1 = .ok last
      ↔ ∃ result reached, first state = (.ok result, reached) ∧ (next result reached).1 = .ok last := by
  rw [bind_apply]
  rcases first state with ⟨failure | result, reached⟩
  · simp
  · simp

/-- A part that does not touch the state only has to succeed. -/
theorem bind_lift_ok_iff {outcome : Except Failure Result}
    {next : Result → Stateful Failure State Later} {state : State} {last : Later}
    : ((lift outcome >>= next) state).1 = .ok last
      ↔ ∃ result, outcome = .ok result ∧ (next result state).1 = .ok last := by
  rw [bind_ok_iff]
  simp only [lift, Prod.mk.injEq]
  constructor
  · rintro ⟨result, reached, ⟨same, rfl⟩, ended⟩
    exact ⟨result, same, ended⟩
  · rintro ⟨result, same, ended⟩
    exact ⟨result, state, ⟨same, rfl⟩, ended⟩

@[simp] theorem raise_apply (failure : Failure) (state : State)
    : (raise failure : Stateful Failure State Result) state = (.error failure, state) :=
  rfl

@[simp] theorem reads_apply (look) (state : State)
    : (reads look : Stateful Failure State Result) state = (.ok (look state), state) :=
  rfl

@[simp] theorem modifies_apply (change : State → State) (state : State)
    : (modifies change : Stateful Failure State Unit) state = (.ok (), change state) :=
  rfl

@[simp] theorem lift_apply (outcome : Except Failure Result) (state : State)
    : lift outcome state = (outcome, state) :=
  rfl

@[simp] theorem consults_apply (look : State → Except Failure Result) (state : State)
    : consults look state = (look state, state) :=
  rfl

-- Triples

/-- From states with `before`, the computation ends with a result and a state that satisfy
`after`, or raises in a state that satisfies `failed`.
-/
def Triple (before : State → Prop) (program : Stateful Failure State Result)
    (after : Result → State → Prop) (failed : State → Prop)
    : Prop :=
  ∀ state, before state →
    match program state with
    | (.ok result, state) => after result state
    | (.error _, state) => failed state

variable {before other : State → Prop} {after later : Result → State → Prop}
  {failed worse inv : State → Prop} {state : State} {items : List Item}
  {program first : Stateful Failure State Result} {next : Result → Stateful Failure State Later}
  {body : Item → Stateful Failure State Unit}

/-- The rule of consequence. -/
theorem Triple.weaken (triple : Triple before program after failed)
    (stronger : ∀ state, other state → before state)
    (weaker : ∀ result state, after result state → later result state)
    (weakerFailure : ∀ state, failed state → worse state)
    : Triple other program later worse := by
  intro state holds
  have ended := triple state (stronger state holds)
  rcases outcome : program state with ⟨result | result, final⟩
  · rw [outcome] at ended
    exact weakerFailure final ended
  · rw [outcome] at ended
    exact weaker result final ended

theorem Triple.pure {result} (here : ∀ state, before state → after result state)
    : Triple before (pure result : Stateful Failure State Result) after failed :=
  here

theorem Triple.raise {failure} (here : ∀ state, before state → failed state)
    : Triple before (raise failure : Stateful Failure State Result) after failed :=
  here

theorem Triple.reads {look} (here : ∀ state, before state → after (look state) state)
    : Triple before (reads look : Stateful Failure State Result) after failed :=
  here

theorem Triple.modifies {change after} (here : ∀ state, before state → after () (change state))
    : Triple before (modifies change : Stateful Failure State Unit) after failed :=
  here

theorem Triple.lift {outcome : Except Failure Result}
    (success : ∀ result, outcome = .ok result → ∀ state, before state → after result state)
    (failure : ∀ raised, outcome = .error raised → ∀ state, before state → failed state)
    : Triple before (lift outcome) after failed := by
  intro state holds
  cases outcome with
  | ok result => exact success result rfl state holds
  | error raised => exact failure raised rfl state holds

theorem Triple.consults {look : State → Except Failure Result}
    (success : ∀ result state, before state → look state = .ok result → after result state)
    (failure : ∀ raised state, before state → look state = .error raised → failed state)
    : Triple before (consults look) after failed := by
  intro state holds
  rw [consults_apply]
  cases outcome : look state with
  | ok result => exact success result state holds outcome
  | error raised => exact failure raised state holds outcome

theorem Triple.refuseIf {test : State → Prop} [DecidablePred test] {raised : Failure}
    {after : Unit → State → Prop} (passed : ∀ state, before state → ¬ test state → after () state)
    (refused : ∀ state, before state → test state → failed state)
    : Triple before (refuseIf test raised) after failed := by
  intro state holds
  unfold Stateful.refuseIf
  by_cases tested : test state
  · rw [if_pos tested]
    exact refused state holds tested
  · rw [if_neg tested]
    exact passed state holds tested

theorem Triple.when {condition : Prop} [Decidable condition] {body : Stateful Failure State Unit}
    {after : Unit → State → Prop} (taken : condition → Triple before body after failed)
    (skipped : ¬ condition → ∀ state, before state → after () state)
    : Triple before (when condition body) after failed := by
  unfold Stateful.when
  by_cases holds : condition
  · rw [if_pos holds]
    exact taken holds
  · rw [if_neg holds]
    exact Triple.pure (skipped holds)

/-- The sequence rule: the second part starts where the first one ended, or is not reached. -/
theorem Triple.bind (middle : Result → State → Prop) {final : Later → State → Prop}
    (start : Triple before first middle failed)
    (onward : ∀ result, Triple (middle result) (next result) final failed)
    : Triple before (first >>= next) final failed := by
  intro state holds
  have ended := start state holds
  rw [bind_apply]
  rcases outcome : first state with ⟨failure | result, reached⟩
  · rw [outcome] at ended
    exact ended
  · rw [outcome] at ended
    exact onward result reached ended

/-- The loop rule, by induction on the items. -/
theorem Triple.forEach (each : ∀ item ∈ items, Triple inv (body item) (fun _ => inv) failed)
    : Triple inv (forEach body items) (fun _ => inv) failed := by
  induction items with
  | nil => exact fun _ holds => holds
  | cons item rest ih =>
    apply Triple.bind (fun _ => inv) (each item List.mem_cons_self)
    intro _
    exact ih fun another member => each another (List.mem_cons_of_mem _ member)

/-- What a computation that returns leaves. -/
theorem Triple.returned (triple : Triple before program after failed) (holds : before state)
    {result : Result} (outcome : (program state).1 = .ok result)
    : after result (program state).2 := by
  have ended := triple state holds
  rcases reached : program state with ⟨failure | other, final⟩
  · rw [reached] at outcome
    cases outcome
  · rw [reached] at ended outcome
    cases outcome
    exact ended

-- Failures

/-- If the computation raises from this state, the state it leaves satisfies `failed`. -/
def FailsTo (failed : State → Prop) (program : Stateful Failure State Result) (state : State)
    : Prop :=
  Triple (· = state) program (fun _ _ => True) failed

theorem FailsTo.final (fails : FailsTo failed program state) {raised : Failure}
    (outcome : (program state).1 = .error raised)
    : failed (program state).2 := by
  have ended := fails state rfl
  rcases result : program state with ⟨_ | _, final⟩
  · rwa [result] at ended
  · rw [result] at outcome
    cases outcome

/-- A computation that does not raise. -/
theorem FailsTo.of_ok {result : Result} (outcome : (program state).1 = .ok result)
    : FailsTo failed program state := by
  rintro state rfl
  rcases ended : program state with ⟨_ | _, final⟩
  · rw [ended] at outcome
    cases outcome
  · trivial

/-- A computation that leaves a harmless state whatever its outcome. -/
theorem FailsTo.of_final (harmless : failed (program state).2)
    : FailsTo failed program state := by
  rintro state rfl
  rcases outcome : program state with ⟨_ | _, final⟩
  · rwa [outcome] at harmless
  · trivial

/-- A change alone cannot raise. -/
theorem FailsTo.modifies (change : State → State)
    : FailsTo failed (modifies change : Stateful Failure State Unit) state := by
  rintro state rfl
  trivial

/-- The sequence rule for one state: the second part starts from what the first one leaves. -/
theorem FailsTo.bind (start : FailsTo failed first state)
    (onward : ∀ result reached, first state = (.ok result, reached)
      → FailsTo failed (next result) reached)
    : FailsTo failed (first >>= next) state := by
  rintro state rfl
  have ended := start state rfl
  rw [bind_apply]
  rcases outcome : first state with ⟨raised | result, reached⟩
  · rw [outcome] at ended
    exact ended
  · exact onward result reached outcome reached rfl

/-- A part that cannot change the state. -/
theorem FailsTo.bind_lift {outcome : Except Failure Result} (here : failed state)
    (onward : ∀ result, outcome = .ok result → FailsTo failed (next result) state)
    : FailsTo failed (Stateful.lift outcome >>= next) state := by
  refine FailsTo.bind (.of_final here) ?_
  intro result reached same
  rw [lift_apply, Prod.mk.injEq] at same
  obtain ⟨same, rfl⟩ := same
  exact onward result same

theorem FailsTo.bind_consults {look : State → Except Failure Result} (here : failed state)
    (onward : ∀ result, look state = .ok result → FailsTo failed (next result) state)
    : FailsTo failed (Stateful.consults look >>= next) state := by
  refine FailsTo.bind (.of_final here) ?_
  intro result reached same
  rw [consults_apply, Prod.mk.injEq] at same
  obtain ⟨same, rfl⟩ := same
  exact onward result same

theorem FailsTo.bind_reads {look : State → Result}
    (onward : FailsTo failed (next (look state)) state)
    : FailsTo failed (Stateful.reads look >>= next) state := by
  rintro state rfl
  exact onward state rfl

/-- Something holds of every item of a loop in its turn, in the state its predecessors leave. -/
def InTurn (holds : Item → State → Prop) (body : Item → Stateful Failure State Unit)
    : List Item → State → Prop
  | [], _ => True
  | item :: rest, state => holds item state ∧ InTurn holds body rest (body item state).2

/-- Something holds of every item that a loop gets to, in the state its predecessors leave. -/
def AsReached (holds : Item → State → Prop) (body : Item → Stateful Failure State Unit)
    : List Item → State → Prop
  | [], _ => True
  | item :: rest, state =>
    holds item state
      ∧ ((body item state).1 = .ok () → AsReached holds body rest (body item state).2)

/-- Whether a computation without a result has succeeded. -/
instance decidableDone (outcome : Except Failure Unit) : Decidable (outcome = .ok ()) :=
  match outcome with
  | .ok () => isTrue rfl
  | .error _ => isFalse nofun

instance AsReached.decidable {holds : Item → State → Prop}
    {body : Item → Stateful Failure State Unit} [∀ item state, Decidable (holds item state)]
    : ∀ items state, Decidable (AsReached holds body items state)
  | [], _ => isTrue trivial
  | item :: rest, state =>
    have : Decidable (AsReached holds body rest (body item state).2) :=
      AsReached.decidable rest (body item state).2
    inferInstanceAs (Decidable (holds item state ∧ (_ → _)))

/-- The loop rule for an invariant that a condition on each item keeps, whatever the outcome, by
induction on the items.
-/
theorem AsReached.final {holds : Item → State → Prop}
    (each : ∀ item ∈ items, ∀ state, inv state → holds item state → inv (body item state).2)
    {state : State} (start : inv state) (reached : AsReached holds body items state)
    : inv (forEach body items state).2 := by
  induction items generalizing state with
  | nil => exact start
  | cons item rest ih =>
    have here := each item List.mem_cons_self state start reached.1
    have later := @ih fun other member => each other (List.mem_cons_of_mem _ member)
    have onward := reached.2
    rw [forEach, bind_apply]
    rcases outcome : body item state with ⟨raised | done, next⟩
    · rw [outcome] at here
      exact here
    · rw [outcome] at here onward
      exact later here (onward rfl)

/-- A loop does not raise exactly if no item does in its turn, by induction on the items. -/
theorem forEach_ok_iff {holds : Item → State → Prop}
    (exact : ∀ item ∈ items, ∀ state, (body item state).1 = .ok () ↔ holds item state)
    : (forEach body items state).1 = .ok () ↔ InTurn holds body items state := by
  induction items generalizing state with
  | nil => exact ⟨fun _ => trivial, fun _ => rfl⟩
  | cons item rest ih =>
    have here := exact item List.mem_cons_self state
    have later : ∀ state, (forEach body rest state).1 = .ok () ↔ InTurn holds body rest state :=
      fun _ => ih fun other member => exact other (List.mem_cons_of_mem _ member)
    rw [forEach, bind_apply, InTurn, ← here, ← later]
    rcases body item state with ⟨raised | done, reached⟩
    · simp
    · simp

/-- A loop may fail at its first item, or nowhere. -/
theorem FailsTo.forEach (starts : (Stateful.forEach body items state).1 = .ok ()
      ∨ ∃ item rest, items = item :: rest ∧ FailsTo failed (body item) state
        ∧ (body item state).1 ≠ .ok ())
    : FailsTo failed (Stateful.forEach body items) state := by
  rcases starts with succeeds | ⟨item, rest, rfl, fails, refused⟩
  · exact .of_ok succeeds
  · refine FailsTo.bind fails ?_
    intro _ reached same
    exact absurd (congrArg Prod.fst same) refused

-- Invariants

/-- Whatever the outcome, the computation leads from states with the invariant to such states. -/
def Preserves (inv : State → Prop) (program : Stateful Failure State Result) : Prop :=
  Triple inv program (fun _ => inv) inv

/-- What an invariant says of the state that is left. -/
theorem Preserves.final (preserves : Preserves inv program) (holds : inv state)
    : inv (program state).2 := by
  have ended := preserves state holds
  rcases outcome : program state with ⟨_ | _, final⟩ <;> rwa [outcome] at ended

theorem Preserves.of_final (kept : ∀ state, inv state → inv (program state).2)
    : Preserves inv program := by
  intro state holds
  have ended := kept state holds
  rcases outcome : program state with ⟨_ | _, final⟩ <;> rwa [outcome] at ended

theorem Preserves.pure (result : Result)
    : Preserves inv (pure result : Stateful Failure State Result) :=
  Triple.pure fun _ holds => holds

theorem Preserves.raise (failure : Failure)
    : Preserves inv (raise failure : Stateful Failure State Result) :=
  Triple.raise fun _ holds => holds

theorem Preserves.reads (look)
    : Preserves inv (reads look : Stateful Failure State Result) :=
  Triple.reads fun _ holds => holds

theorem Preserves.lift (outcome : Except Failure Result) : Preserves inv (lift outcome) :=
  Triple.lift (fun _ _ _ holds => holds) (fun _ _ _ holds => holds)

theorem Preserves.consults (look : State → Except Failure Result)
    : Preserves inv (consults look) :=
  Triple.consults (fun _ _ holds _ => holds) (fun _ _ holds _ => holds)

theorem Preserves.modifies {change} (kept : ∀ state, inv state → inv (change state))
    : Preserves inv (modifies change : Stateful Failure State Unit) :=
  Triple.modifies kept

theorem Preserves.when {condition : Prop} [Decidable condition]
    {body : Stateful Failure State Unit} (kept : condition → Preserves inv body)
    : Preserves inv (when condition body) :=
  Triple.when kept fun _ _ holds => holds

/-- Both parts of a sequence preserve the invariant. -/
theorem Preserves.bind (start : Preserves inv first)
    (onward : ∀ result, Preserves inv (next result))
    : Preserves inv (first >>= next) :=
  Triple.bind _ start onward

/-- A part that only computes a result, or raises. -/
theorem Preserves.bind_lift {outcome : Except Failure Result}
    (onward : ∀ result, outcome = .ok result → Preserves inv (next result))
    : Preserves inv (Stateful.lift outcome >>= next) := by
  cases outcome with
  | error raised => exact fun _ holds => holds
  | ok result => exact onward result rfl

theorem Preserves.bind_reads {look : State → Result}
    (onward : ∀ state, inv state → Preserves inv (next (look state)))
    : Preserves inv (Stateful.reads look >>= next) :=
  fun state holds => onward state holds state holds

theorem Preserves.forEach (each : ∀ item ∈ items, Preserves inv (body item))
    : Preserves inv (forEach body items) :=
  Triple.forEach each

end Stateful

end BacPy.Library
