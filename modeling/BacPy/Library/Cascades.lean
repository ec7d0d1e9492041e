import BacPy.Library.Runs
import Mathlib.Logic.Hydra
import Mathlib.Order.Interval.Set.Nat

/-! Cascades: machines with messages in flight, where a message that is taken in may put others
out. Messages whose ranks go down set off finite cascades only; a cycle of events sets off an
endless one.
-/

namespace BacPy.Library

open Relation

variable {State Event Message Measure : Type*} {step : State → Event → Option State}
  {states : ℕ → State} {events : ℕ → Event}

-- Endless runs

/-- Every event of the run was enabled, without an end. -/
def EndlessRun (step : State → Event → Option State) (states : ℕ → State) (events : ℕ → Event)
    : Prop :=
  ∀ n, step (states n) (events n) = some (states (n + 1))

/-- The invariant rule for endless runs, by induction on the steps. -/
theorem EndlessRun.invariant {inv : State → Prop} (endless : EndlessRun step states events)
    (keeps : ∀ {state event next}, inv state → step state event = some next → inv next)
    (start : inv (states 0))
    : ∀ n, inv (states n) := by
  intro n
  induction n with
  | zero => exact start
  | succ n ih => exact keeps ih (endless n)

def LeadsTo (step : State → Event → Option State) (kind : State → Event → Prop)
    (goal state : State)
    : Prop :=
  ∃ event rest, Meets step kind state (event :: rest)
    ∧ run step state (event :: rest) = some goal

variable {kind : State → Event → Prop} {goal start : State}

/-- Where a state leads back to itself, what leads there takes a step to what leads there. -/
theorem LeadsTo.next (cycle : LeadsTo step kind goal goal) {state}
    (leads : LeadsTo step kind goal state)
    : ∃ event next, kind state event ∧ step state event = some next
        ∧ LeadsTo step kind goal next := by
  obtain ⟨event, rest, meets, ran⟩ := leads
  rw [run_cons] at ran
  obtain ⟨next, moved, later⟩ := Option.bind_eq_some_iff.mp ran
  obtain ⟨right, onward⟩ := meets next moved
  refine ⟨event, next, right, moved, ?_⟩
  cases rest with
  | nil => exact Option.some.inj later ▸ cycle
  | cons second rest => exact ⟨second, rest, onward, later⟩

theorem LeadsTo.exists_endlessRun (cycle : LeadsTo step kind goal goal)
    (leads : LeadsTo step kind goal start)
    : ∃ states events, EndlessRun step states events ∧ states 0 = start
        ∧ ∀ n, kind (states n) (events n) := by
  choose event next right moved onward using
    fun state : { state // LeadsTo step kind goal state } => cycle.next state.2
  let path : ℕ → { state // LeadsTo step kind goal state } :=
    fun n => n.rec ⟨start, leads⟩ fun _ state => ⟨next state, onward state⟩
  exact ⟨fun n => (path n).1, fun n => event (path n), fun n => moved (path n), rfl,
    fun n => right (path n)⟩

-- Ranks

/-- A measure that never grows goes down finitely often only, by well-founded induction on it. -/
theorem settles {less} (wellFounded : WellFounded less) (measure : ℕ → Measure)
    (each : ∀ n, measure (n + 1) = measure n ∨ less (measure (n + 1)) (measure n))
    : ∃ last, ∀ n, last ≤ n → ¬ less (measure (n + 1)) (measure n) := by
  suffices from_ : ∀ value n, measure n = value →
      ∃ last, ∀ n, last ≤ n → ¬ less (measure (n + 1)) (measure n) from from_ _ 0 rfl
  intro value
  induction value using wellFounded.induction with
  | _ value ih =>
    intro n here
    by_cases goes : ∃ k, less (measure (n + k + 1)) (measure (n + k))
    · classical
      -- up to the first step down the measure stays what it is
      have stays : ∀ k, k ≤ Nat.find goes → measure (n + k) = value := by
        intro k
        induction k with
        | zero => exact fun _ => here
        | succ k same =>
          intro before
          rw [← same (by omega)]
          exact (each (n + k)).resolve_right (Nat.find_min goes (by omega))
      have down := Nat.find_spec goes
      rw [stays _ le_rfl] at down
      exact ih _ down _ rfl
    · refine ⟨n, fun m later => ?_⟩
      obtain ⟨k, rfl⟩ := Nat.exists_eq_add_of_le later
      exact fun down => goes ⟨k, down⟩

/-- A message is taken out, and messages that are lower are put in. -/
theorem cutExpand_eraseIdx {lower : Message → Message → Prop} {inFlight caused : List Message}
    {index : ℕ} {message : Message} (there : inFlight[index]? = some message)
    (lowered : ∀ another ∈ caused, lower another message)
    : CutExpand lower ((inFlight.eraseIdx index ++ caused : List Message) : Multiset Message)
        (inFlight : Multiset Message) := by
  obtain ⟨inside, rfl⟩ := List.getElem?_eq_some_iff.mp there
  refine ⟨caused, inFlight[index], fun another member => lowered another member, ?_⟩
  have whole : (inFlight[index] ::ₘ (inFlight.eraseIdx index : Multiset Message))
      = (inFlight : Multiset Message) :=
    Multiset.coe_eq_coe.mpr (List.getElem_cons_eraseIdx_perm inside)
  rw [← whole, ← Multiset.coe_add, ← Multiset.singleton_add]
  ac_rfl

/-- Messages that are lower each time set off finite cascades only: of an endless run, finitely
many steps take a message in.
-/
theorem EndlessRun.finite_of_lower {lower : Message → Message → Prop} {inv : State → Prop}
    {ok : State → Event → Prop} (endless : EndlessRun step states events)
    (wellFounded : WellFounded lower) (inFlight : State → List Message) (takesIn : Event → Prop)
    (keeps : ∀ {state event next}, inv state → step state event = some next → inv next)
    (lowers : ∀ {state event next}, inv state → ok state event → takesIn event
      → step state event = some next
      → CutExpand lower (inFlight next : Multiset Message) (inFlight state))
    (rests : ∀ {state event next}, ¬ takesIn event → step state event = some next
      → inFlight next = inFlight state)
    (start : inv (states 0)) (meets : ∀ n, ok (states n) (events n))
    : { n | takesIn (events n) }.Finite := by
  let measure n : Multiset Message := inFlight (states n)
  have down : ∀ n, takesIn (events n) → CutExpand lower (measure (n + 1)) (measure n) :=
    fun n taken => lowers (endless.invariant keeps start n) (meets n) taken (endless n)
  have each : ∀ n, measure (n + 1) = measure n
      ∨ CutExpand lower (measure (n + 1)) (measure n) := by
    intro n
    by_cases taken : takesIn (events n)
    · exact .inr (down n taken)
    · exact .inl (congrArg Multiset.ofList (rests taken (endless n)))
  obtain ⟨last, settled⟩ := settles wellFounded.cutExpand measure each
  refine (Set.finite_lt_nat last).subset fun n taken => ?_
  by_contra late
  exact settled n (not_lt.mp late) (down n taken)

-- Everything that a message sets off

/-- A message and what it sets off, for so many generations. -/
def generations (caused : Message → List Message) : ℕ → Message → List Message
  | 0, message => [message]
  | count + 1, message => message :: (caused message).flatMap (generations caused count)

/-- A message and everything that it sets off, if ranks go down. -/
def cascade (caused : Message → List Message) (rank : Message → ℕ) (message : Message)
    : List Message :=
  generations caused (rank message) message

/-- What messages pass on to all that they cause, all that comes of them has, by induction on the
generations.
-/
theorem holds_of_mem_cascade {holds : Message → Prop} {caused : Message → List Message}
    {rank : Message → ℕ} {message later : Message}
    (passed : ∀ message, holds message → ∀ another ∈ caused message, holds another)
    (first : holds message) (comes : later ∈ cascade caused rank message)
    : holds later := by
  suffices each : ∀ count message, holds message → ∀ later ∈ generations caused count message,
      holds later from
    each _ message first later comes
  intro count
  induction count with
  | zero =>
    intro message first later comes
    exact List.mem_singleton.mp comes ▸ first
  | succ count ih =>
    intro message first later comes
    rcases List.mem_cons.mp comes with rfl | after
    · exact first
    · obtain ⟨another, member, within⟩ := List.mem_flatMap.mp after
      exact ih another (passed message first another member) later within

/-- Messages of a kind set off messages of the same kind only, and these are of lower rank. -/
def LowersIn (kind : Message → Prop) (caused : Message → List Message) (rank : Message → ℕ) : Prop :=
  ∀ message, kind message → ∀ another ∈ caused message, kind another ∧ rank another < rank message

variable {kind : Message → Prop} {caused : Message → List Message} {rank : Message → ℕ}

theorem LowersIn.nothing (lowers : LowersIn kind caused rank) {message} (right : kind message)
    (lowest : rank message ≤ 0)
    : caused message = [] :=
  List.eq_nil_iff_forall_not_mem.mpr fun another member =>
    absurd (lowers message right another member).2 (by omega)

/-- More generations than the rank add nothing, by induction on their number. -/
theorem LowersIn.generations_of_le (lowers : LowersIn kind caused rank) {message count}
    (right : kind message) (enough : rank message ≤ count)
    : generations caused count message = cascade caused rank message := by
  suffices same : ∀ few many message, kind message → rank message ≤ few → rank message ≤ many
      → generations caused few message = generations caused many message from
    same _ _ _ right enough le_rfl
  intro few
  induction few with
  | zero =>
    intro many message right none _
    cases many with
    | zero => rfl
    | succ many => rw [generations, generations, lowers.nothing right none, List.flatMap_nil]
  | succ few ih =>
    intro many message right fewEnough manyEnough
    cases many with
    | zero => rw [generations, generations, lowers.nothing right manyEnough, List.flatMap_nil]
    | succ many =>
      rw [generations, generations]
      congr 1
      apply List.flatMap_congr
      intro another member
      obtain ⟨alsoRight, lower⟩ := lowers message right another member
      exact ih many another alsoRight (by omega) (by omega)

/-- What a message sets off: itself, and what its successors set off. -/
theorem LowersIn.cascade_eq (lowers : LowersIn kind caused rank) {message} (right : kind message)
    : cascade caused rank message
      = message :: (caused message).flatMap (cascade caused rank) := by
  rw [← lowers.generations_of_le right (Nat.le_succ (rank message)), generations]
  congr 1
  apply List.flatMap_congr
  intro another member
  obtain ⟨alsoRight, lower⟩ := lowers message right another member
  exact lowers.generations_of_le alsoRight lower.le

/-- What has been taken in, and what the messages in flight still set off, stay the same when one
of them is taken in.
-/
theorem LowersIn.perm_cascade (lowers : LowersIn kind caused rank) {inFlight taken : List Message}
    {index : ℕ} {message : Message} (there : inFlight[index]? = some message)
    (right : kind message)
    : ((taken ++ [message])
        ++ (inFlight.eraseIdx index ++ caused message).flatMap (cascade caused rank)).Perm
          (taken ++ inFlight.flatMap (cascade caused rank)) := by
  obtain ⟨inside, rfl⟩ := List.getElem?_eq_some_iff.mp there
  have whole : (inFlight.flatMap (cascade caused rank)).Perm
      ((inFlight[index] :: inFlight.eraseIdx index).flatMap (cascade caused rank)) :=
    (List.getElem_cons_eraseIdx_perm inside).symm.flatMap_right _
  rw [List.flatMap_cons, lowers.cascade_eq right, List.cons_append] at whole
  rw [List.append_assoc, List.flatMap_append, List.singleton_append]
  exact ((List.perm_append_comm.cons _).trans whole.symm).append_left taken

end BacPy.Library
