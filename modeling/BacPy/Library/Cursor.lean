import Mathlib.Data.List.Basic

/-! Loops that move a cursor through a buffer: every round reads something at the cursor and either
goes on behind it, with the state it has so far, or stops with a result. What such a loop computes
does not depend on the fuel it is given, as soon as that covers the rest of the buffer.
-/

namespace BacPy.Library

variable {Failure State Result : Type}

/-- What one round leads to. -/
inductive Round (State Result : Type) where
  | next (offset : Nat) (state : State)
  | stop (result : Result)

/-- The rounds from an offset, as long as there is fuel. `finish` makes the result when the cursor
has passed the end of the buffer.
-/
def scanFor (size : Nat) (round : Nat → State → Except Failure (Round State Result))
    (finish : Nat → State → Except Failure Result)
    : Nat → Nat → State → Except Failure Result
  | 0, offset, state => finish offset state
  | fuel + 1, offset, state =>
    if offset < size then
      match round offset state with
      | .error failure => .error failure
      | .ok (.stop result) => .ok result
      | .ok (.next later changed) => scanFor size round finish fuel later changed
    else finish offset state

/-- The whole loop: a round reads at least one octet, so the rest of the buffer is enough fuel. -/
def scan (size : Nat) (round : Nat → State → Except Failure (Round State Result))
    (finish : Nat → State → Except Failure Result) (offset : Nat) (state : State)
    : Except Failure Result :=
  scanFor size round finish (size - offset) offset state

/-- Every round that goes on has moved the cursor. -/
def Advances (round : Nat → State → Except Failure (Round State Result)) : Prop :=
  ∀ offset state later changed, round offset state = .ok (.next later changed) → offset < later

section Loops

variable {size : Nat} {round : Nat → State → Except Failure (Round State Result)}
  {finish : Nat → State → Except Failure Result} {offset : Nat} {state : State}

/-- Any two amounts of fuel that cover the rest of the buffer lead to the same result, by
induction on the first.
-/
theorem scanFor_fuel (advances : Advances round) {fuel other} (enough : size - offset ≤ fuel)
    (covers : size - offset ≤ other)
    : scanFor size round finish fuel offset state = scanFor size round finish other offset state := by
  induction fuel generalizing offset state other with
  | zero =>
    have past : ¬ offset < size := by omega
    cases other with
    | zero => rfl
    | succ more => simp only [scanFor, if_neg past]
  | succ fuel ih =>
    cases other with
    | zero =>
      have past : ¬ offset < size := by omega
      simp only [scanFor, if_neg past]
    | succ more =>
      simp only [scanFor]
      split
      · cases read : round offset state with
        | error failure => rfl
        | ok outcome =>
          cases outcome with
          | stop result => rfl
          | next later changed =>
            have moved := advances _ _ _ _ read
            exact ih (by omega) (by omega)
      · rfl

/-- Two loops whose rounds agree from where they start on are one, by induction on the fuel. -/
theorem scanFor_congr {other} (advances : Advances round) {start}
    (agree : ∀ offset state, start ≤ offset → offset < size →
      other offset state = round offset state) (fuel : Nat) (later : start ≤ offset)
    : scanFor size other finish fuel offset state = scanFor size round finish fuel offset state := by
  induction fuel generalizing offset state with
  | zero => rfl
  | succ fuel ih =>
    simp only [scanFor]
    split
    · next inside =>
        rw [agree offset state later inside]
        cases read : round offset state with
        | error failure => rfl
        | ok outcome =>
          cases outcome with
          | stop result => rfl
          | next moved changed =>
            have behind := advances _ _ _ _ read
            exact ih (by omega)
    · rfl

/-- Behind the end the loop makes its result. -/
theorem scan_past (past : size ≤ offset)
    : scan size round finish offset state = finish offset state := by
  rw [scan, show size - offset = 0 by omega, scanFor]

/-- A round that goes on is followed by the loop from the new offset. -/
theorem scan_next (advances : Advances round) (inside : offset < size) {later changed}
    (read : round offset state = .ok (.next later changed))
    : scan size round finish offset state = scan size round finish later changed := by
  have moved := advances _ _ _ _ read
  obtain ⟨least, covers⟩ : ∃ least, size - offset = least + 1 := ⟨size - offset - 1, by omega⟩
  rw [scan, covers]
  simp only [scanFor, if_pos inside, read]
  exact scanFor_fuel advances (by omega) (by omega)

/-- A round that stops gives the result of the loop. -/
theorem scan_stop (inside : offset < size) {result} (read : round offset state = .ok (.stop result))
    : scan size round finish offset state = .ok result := by
  obtain ⟨least, covers⟩ : ∃ least, size - offset = least + 1 := ⟨size - offset - 1, by omega⟩
  rw [scan, covers]
  simp only [scanFor, if_pos inside, read]

/-- A round that fails makes the loop fail. -/
theorem scan_error (inside : offset < size) {failure} (read : round offset state = .error failure)
    : scan size round finish offset state = .error failure := by
  obtain ⟨least, covers⟩ : ∃ least, size - offset = least + 1 := ⟨size - offset - 1, by omega⟩
  rw [scan, covers]
  simp only [scanFor, if_pos inside, read]

/-- The induction rule of the loop: a property of where it stands and what it results in holds of
every successful loop when the end and a stopping round establish it, and a round that goes on
carries it backwards.
-/
theorem scan_induction (Property : Nat → State → Result → Prop) (advances : Advances round)
    (past : ∀ offset state result, size ≤ offset → finish offset state = .ok result →
      Property offset state result)
    (stop : ∀ offset state result, offset < size → round offset state = .ok (.stop result) →
      Property offset state result)
    (next : ∀ offset state later changed result, offset < size →
      round offset state = .ok (.next later changed) → Property later changed result →
      Property offset state result) {result}
    (scanned : scan size round finish offset state = .ok result)
    : Property offset state result := by
  induction rest : size - offset using Nat.strongRecOn generalizing offset state with
  | ind remaining ih =>
    by_cases inside : offset < size
    · cases read : round offset state with
      | error failure =>
        rw [scan_error inside read] at scanned
        cases scanned
      | ok outcome =>
        cases outcome with
        | stop found =>
          rw [scan_stop inside read] at scanned
          cases scanned
          exact stop _ _ _ inside read
        | next later changed =>
          have moved := advances _ _ _ _ read
          rw [scan_next advances inside read] at scanned
          exact next _ _ _ _ _ inside read (ih (size - later) (by omega) scanned rfl)
    · rw [scan_past (by omega)] at scanned
      exact past _ _ _ (by omega) scanned

/-- What a failing loop raises is raised by a round or at the end, by induction on the fuel. -/
theorem scanFor_failure (Property : Failure → Prop)
    (rounds : ∀ offset state failure, round offset state = .error failure → Property failure)
    (ends : ∀ offset state failure, finish offset state = .error failure → Property failure)
    {fuel failure} (failed : scanFor size round finish fuel offset state = .error failure)
    : Property failure := by
  induction fuel generalizing offset state with
  | zero => exact ends _ _ _ failed
  | succ fuel ih =>
    rw [scanFor] at failed
    split at failed
    · cases read : round offset state with
      | error raised =>
        rw [read] at failed
        obtain rfl := Except.error.inj failed
        exact rounds _ _ _ read
      | ok outcome =>
        rw [read] at failed
        cases outcome with
        | stop result => cases failed
        | next later changed => exact ih failed
    · exact ends _ _ _ failed

end Loops

end BacPy.Library
