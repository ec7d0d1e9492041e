import Mathlib.Tactic.TypeStar

/-! Futures, and the tasks that await them in an event loop with one thread.

A task that awaits a future goes on after the future is settled. Cancelling the task cancels the
future it awaits; if that is settled already, the task is told of the cancellation when it goes on.
-/

namespace BacPy.Library

/-- A value to come. -/
inductive Future (Result : Type*) where
  | pending
  | done (result : Result)
  | cancelled
  deriving DecidableEq

namespace Future

variable {Result : Type*} {future : Future Result} {result other : Result}

def setResult (future : Future Result) (result : Result) : Future Result :=
  match future with
  | pending => done result
  | done earlier => done earlier
  | cancelled => cancelled

/-- The future is cancelled unless it is settled. -/
def cancel (future : Future Result) : Future Result :=
  match future with
  | pending => cancelled
  | done result => done result
  | cancelled => cancelled

/-- Whether a task that is cancelled while it awaits the future is yet to be told. -/
def mustCancel (future : Future Result) : Bool :=
  match future with
  | pending => false
  | done _ => true
  | cancelled => true

/-- How an `await` ends: with the result, or with a cancellation. -/
def awaited (future : Future Result) (mustCancel : Bool) : Option (Option Result) :=
  match future with
  | pending => none
  | done result => some (if mustCancel then none else some result)
  | cancelled => some none

@[simp] theorem setResult_pending : (pending : Future Result).setResult result = done result := rfl

@[simp] theorem cancel_pending : (pending : Future Result).cancel = cancelled := rfl

theorem cancel_settled (settled : future ≠ pending) : future.cancel = future := by
  cases future <;> first | rfl | contradiction

theorem mustCancel_iff : future.mustCancel = true ↔ future ≠ pending := by
  cases future <;> simp [mustCancel]

/-- A task that gets the result has not been cancelled. -/
theorem awaited_result {mustCancel}
    : future.awaited mustCancel = some (some result) ↔ future = done result ∧ mustCancel = false := by
  cases future <;> cases mustCancel <;> simp [awaited]

/-- A task gets a cancellation of its own or of the future. -/
theorem awaited_cancelled {mustCancel}
    : future.awaited mustCancel = some none
      ↔ future = cancelled ∨ (future ≠ pending ∧ mustCancel = true) := by
  cases future <;> cases mustCancel <;> simp [awaited]

/-- A task goes on exactly if the future is settled. -/
theorem awaited_eq_none {mustCancel} : future.awaited mustCancel = none ↔ future = pending := by
  cases future <;> simp [awaited]

end Future

end BacPy.Library
