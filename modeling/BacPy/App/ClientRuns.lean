import BacPy.App.ClientHandlers
import BacPy.Library.Runs

/-! Runs of a client TSM: its calls of `send_request`, the APDUs that arrive, and its timers.

Every step either starts a transaction, leaves all of them alone, runs a handler on one of them, or ends
one; the results about runs follow from that.
-/

namespace BacPy

open Library

/-- A client TSM, the keys of the `send_request` calls that wait for their future, and all that has been
sent.
-/
structure ClientRun where
  tsm : ClientTSM
  calls : List Key := []
  sent : List Sent := []

namespace ClientRun

/-- What can happen to a client TSM. -/
inductive Event where
  /-- `send_request` is called -/
  | requestCalled (serviceChoice : Nat) (requestData : Bytes) (destination : BACnetAddress)
    (maxApduOverride : Option Nat)
  | apduReceived (apdu : APDU) (source : BACnetAddress)
  | timerFires (key : Key)
  /-- the task of a call is cancelled -/
  | callCancelled (key : Key)
  /-- a call whose future is done returns -/
  | callReturns (key : Key)
  deriving DecidableEq

def after (state : ClientRun) (stepped : ClientTSM × List Sent) : ClientRun :=
  { state with tsm := stepped.1, sent := state.sent ++ stepped.2 }

/-- One step; `none` where the event cannot happen. -/
def step (state : ClientRun) : Event → Option ClientRun
  | .requestCalled serviceChoice requestData destination maxApduOverride =>
    match state.tsm.sendRequest serviceChoice requestData destination maxApduOverride with
    | (.ok invokeId, stepped) =>
      some { state.after stepped with calls := state.calls ++ [(destination, invokeId)] }
    | (.error _, stepped) => some (state.after stepped)
  | .apduReceived apdu source => some (state.after (state.tsm.receive source apdu))
  | .timerFires key => (state.tsm.fireTimer key).map state.after
  | .callCancelled key =>
    if key ∈ state.calls then some (state.after (state.tsm.cancelCall key)) else none
  | .callReturns key =>
    if key ∈ state.calls then
      (state.tsm.transactions.get key).bind fun txn =>
        if txn.future.done then
          some { state with tsm := state.tsm.finish key, calls := state.calls.erase key }
        else none
    else none

/-- The client before its first call, with the settings of a TSM. -/
def start (tsm : ClientTSM) : ClientRun where
  tsm := { tsm with transactions := Dict.empty, nextInvokeId := 0 }

/-- The transaction that an event runs a handler on. -/
inductive Handles (tsm : ClientTSM) : Event → Key
    → (ClientTransaction → ClientTransaction × List Sent) → Prop
  | answered {apdu source invokeId body} (answers : apdu.answers = some invokeId)
    (spec : ∀ txn, tsm.Answered txn (body txn))
    : Handles tsm (.apduReceived apdu source) (source, invokeId) body
  | expired {key txn timer} (found : tsm.transactions.get key = some txn)
    (armed : txn.timeoutHandle = some timer)
    : Handles tsm (.timerFires key) key (tsm.expire timer)
  | cancelled {key}
    : Handles tsm (.callCancelled key) key fun txn => ({ txn with future := .cancelled }, [])

/-- All that a step can do. -/
inductive Effect (state : ClientRun) : Event → ClientRun → Prop
  | refused {serviceChoice requestData destination maxApduOverride counter} (small : counter < 256)
    (raises : ∃ raised, (state.tsm.sendRequest serviceChoice requestData destination
      maxApduOverride).1 = .error raised)
    : Effect state (.requestCalled serviceChoice requestData destination maxApduOverride)
        (state.after ({ state.tsm with nextInvokeId := counter }, []))
  | called {serviceChoice requestData destination maxApduOverride counter invokeId txn sent}
    (small : counter < 256) (octet : invokeId < 256)
    (free : state.tsm.transactions.get (destination, invokeId) = none)
    (transmitted : state.tsm.transmit (state.tsm.newTransaction invokeId serviceChoice requestData
      destination maxApduOverride) = .ok (txn, sent))
    (key : txn.key = (destination, invokeId))
    (outcome : (state.tsm.sendRequest serviceChoice requestData destination maxApduOverride).1
      = .ok invokeId)
    : Effect state (.requestCalled serviceChoice requestData destination maxApduOverride) {
        state.after ({
          state.tsm with
          nextInvokeId := counter
          transactions := state.tsm.transactions.set (destination, invokeId) txn
        }, sent) with
        calls := state.calls ++ [(destination, invokeId)]
      }
  | unanswered {apdu source} (unrelated : apdu.answers = none)
    : Effect state (.apduReceived apdu source) (state.after (state.tsm, []))
  | handled {event key body} (handles : Handles state.tsm event key body)
    : Effect state event (state.after (state.tsm.update key body))
  | returned {key txn} (waiting : key ∈ state.calls)
    (found : state.tsm.transactions.get key = some txn) (done : txn.future.done = true)
    : Effect state (.callReturns key)
        { state with tsm := state.tsm.finish key, calls := state.calls.erase key }

variable {state next : ClientRun} {event : Event} {key : Key}

/-- The inversion of `step`. -/
theorem effect_of_step (small : state.tsm.nextInvokeId < 256) (stepped : step state event = some next)
    : Effect state event next := by
  cases event with
  | requestCalled serviceChoice requestData destination maxApduOverride =>
    dsimp only [step] at stepped
    rcases ClientTSM.sendRequest_cases small serviceChoice requestData destination maxApduOverride with
      ⟨raised, counter, counterSmall, same⟩ |
      ⟨invokeId, counter, txn, sent, counterSmall, octet, free, transmitted, key, same⟩
    · have raises := congrArg Prod.fst same
      rw [same] at stepped
      cases stepped
      exact .refused counterSmall ⟨raised, raises⟩
    · have outcome := congrArg Prod.fst same
      rw [same] at stepped
      cases stepped
      exact .called counterSmall octet free transmitted key outcome
  | apduReceived apdu source =>
    cases stepped
    rcases state.tsm.receive_answers source apdu with
      ⟨unrelated, same⟩ | ⟨invokeId, body, answers, spec, same⟩
    · rw [same]
      exact .unanswered unrelated
    · rw [same]
      exact .handled (.answered answers spec)
  | timerFires key =>
    obtain ⟨ran, fired, rfl⟩ := Option.map_eq_some_iff.mp stepped
    obtain ⟨txn, timer, found, armed, rfl⟩ := ClientTSM.fireTimer_eq_some.mp fired
    exact .handled (.expired found armed)
  | callCancelled key =>
    dsimp only [step] at stepped
    split at stepped
    · cases stepped
      exact .handled .cancelled
    · cases stepped
  | callReturns key =>
    dsimp only [step] at stepped
    split at stepped
    · next waiting =>
        obtain ⟨txn, found, rest⟩ := Option.bind_eq_some_iff.mp stepped
        split at rest
        · next done =>
            cases rest
            exact .returned waiting found done
        · cases rest
    · cases stepped

/-- A handler leaves its transaction the peer, the invoke ID, and its PDUs. -/
theorem Handles.spec {tsm body} (handles : Handles tsm event key body) (txn)
    : (body txn).1.key = txn.key ∧ txn.Sends (body txn).2 := by
  cases handles with
  | answered answers spec =>
    exact ⟨Prod.ext (spec txn).progress.destination (spec txn).progress.invokeId, (spec txn).sends⟩
  | expired found armed =>
    obtain ⟨progress, sends⟩ := tsm.expire_progress txn _
    exact ⟨Prod.ext progress.destination progress.invokeId, sends⟩
  | cancelled => exact ⟨rfl, txn.sends_nil⟩

-- The table of a run

/-- Each outstanding transaction belongs to one waiting call, and has its key. -/
structure Disciplined (state : ClientRun) : Prop where
  small : state.tsm.nextInvokeId < 256
  nodup : state.calls.Nodup
  mem_calls : ∀ key, key ∈ state.calls ↔ ∃ txn, state.tsm.transactions.get key = some txn
  keyed : ∀ key txn, state.tsm.transactions.get key = some txn → txn.key = key ∧ key.2 < 256

theorem disciplined_start (tsm : ClientTSM) : (start tsm).Disciplined where
  small := Nat.zero_lt_succ 255
  nodup := List.nodup_nil
  mem_calls key := by simp [start]
  keyed key txn found := by simp [start] at found

variable {tsm : ClientTSM}

/-- A handler changes the transaction under its key, if that one is pending. -/
theorem get_update {body : ClientTransaction → ClientTransaction × List Sent}
    {other : Key} {txn : ClientTransaction}
    (found : (tsm.update key body).1.transactions.get other = some txn)
    : tsm.transactions.get other = some txn
      ∨ other = key ∧ ∃ old, tsm.transactions.get key = some old ∧ old.future.done = false
          ∧ txn = (body old).1 := by
  by_cases same : other = key
  · subst same
    unfold ClientTSM.update at found
    split at found
    · exact Or.inl found
    · next old here =>
        split at found
        · exact Or.inl found
        · next pending =>
            rw [Dict.get_set_self] at found
            exact Or.inr ⟨rfl, old, here, by simpa using pending, (Option.some.inj found).symm⟩
  · exact Or.inl (by rwa [ClientTSM.get_update_ne same] at found)

/-- A handler neither adds nor removes transactions. -/
theorem exists_get_update {other : Key} (body : ClientTransaction → ClientTransaction × List Sent)
    : (∃ txn, (tsm.update key body).1.transactions.get other = some txn)
      ↔ ∃ txn, tsm.transactions.get other = some txn := by
  by_cases same : other = key
  · subst same
    unfold ClientTSM.update
    split
    · exact Iff.rfl
    · next old here =>
        split
        · exact Iff.rfl
        · simp [here]
  · rw [ClientTSM.get_update_ne same]

theorem nextInvokeId_update (body : ClientTransaction → ClientTransaction × List Sent)
    : (tsm.update key body).1.nextInvokeId = tsm.nextInvokeId := by
  unfold ClientTSM.update
  split
  · rfl
  · split <;> rfl

/-- Every step keeps the discipline. -/
theorem Disciplined.effect (disciplined : state.Disciplined) (effect : Effect state event next)
    : next.Disciplined := by
  cases effect with
  | refused small raises =>
    exact ⟨small, disciplined.nodup, disciplined.mem_calls, disciplined.keyed⟩
  | @called _ _ destination _ _ invokeId txn _ small octet free _ key _ =>
    have fresh : (destination, invokeId) ∉ state.calls := by
      rw [disciplined.mem_calls, free]
      simp
    refine ⟨small, ?_, fun other => ?_, fun other found here => ?_⟩
    · exact List.nodup_append.mpr ⟨disciplined.nodup, List.nodup_singleton _,
        fun first member second single => by
          rw [List.mem_singleton.mp single]
          exact fun same => fresh (same ▸ member)⟩
    · simp only [after, List.mem_append, List.mem_singleton, Dict.get_set]
      split
      · next same => simp [same]
      · next different => rw [disciplined.mem_calls other, or_iff_left different]
    · simp only [after, Dict.get_set] at here
      split at here
      · next same =>
          cases here
          exact ⟨same ▸ key, same ▸ octet⟩
      · exact disciplined.keyed other found here
  | unanswered unrelated =>
    exact ⟨disciplined.small, disciplined.nodup, disciplined.mem_calls, disciplined.keyed⟩
  | handled handles =>
    refine ⟨?_, disciplined.nodup, fun other => ?_, fun other found here => ?_⟩
    · exact (nextInvokeId_update _).symm ▸ disciplined.small
    · exact (disciplined.mem_calls other).trans (exists_get_update _).symm
    · rcases get_update here with kept | ⟨rfl, old, before, _, rfl⟩
      · exact disciplined.keyed other found kept
      · obtain ⟨key, octet⟩ := disciplined.keyed other old before
        exact ⟨(handles.spec old).1.trans key, octet⟩
  | @returned key txn waiting found done =>
    refine ⟨disciplined.small, disciplined.nodup.erase _, fun other => ?_, fun other txn here => ?_⟩
    · rw [disciplined.nodup.mem_erase_iff, disciplined.mem_calls other]
      simp only [ClientTSM.finish, Dict.get_pop]
      split
      · next same => simp [same]
      · next different => simp [different]
    · simp only [ClientTSM.finish, Dict.get_pop] at here
      split at here
      · cases here
      · exact disciplined.keyed other txn here

theorem Disciplined.step (disciplined : state.Disciplined) (stepped : ClientRun.step state event = some next)
    : next.Disciplined :=
  disciplined.effect (effect_of_step disciplined.small stepped)

theorem disciplined_of_run {tsm events} (ran : run ClientRun.step (start tsm) events = some state)
    : state.Disciplined :=
  invariant_every_run Disciplined.step (disciplined_start tsm) ran

-- Done, and collected

/-- A handler does nothing to a transaction that is done. -/
theorem update_done {txn : ClientTransaction}
    (found : tsm.transactions.get key = some txn) (done : txn.future.done = true)
    (body : ClientTransaction → ClientTransaction × List Sent)
    : tsm.update key body = (tsm, []) := by
  simp [ClientTSM.update, found, done]

theorem update_missing (missing : tsm.transactions.get key = none)
    (body : ClientTransaction → ClientTransaction × List Sent)
    : tsm.update key body = (tsm, []) := by
  simp [ClientTSM.update, missing]

theorem done_of_step {txn : ClientTransaction} (disciplined : state.Disciplined)
    (found : state.tsm.transactions.get key = some txn) (done : txn.future.done = true)
    (stepped : step state event = some next) (other : event ≠ .callReturns key)
    : next.tsm.transactions.get key = some txn := by
  cases effect_of_step disciplined.small stepped with
  | refused small raises => exact found
  | @called _ _ destination _ _ invokeId _ _ _ _ free _ _ _ =>
    have different : key ≠ (destination, invokeId) := by
      rintro rfl
      rw [free] at found
      cases found
    exact (Dict.get_set_ne different).trans found
  | unanswered unrelated => exact found
  | @handled _ handledKey body handles =>
    by_cases same : key = handledKey
    · rw [← same, update_done found done]
      exact found
    · exact (ClientTSM.get_update_ne same).trans found
  | @returned returnedKey _ _ _ _ =>
    have different : key ≠ returnedKey := fun same => other (same ▸ rfl)
    exact (Dict.get_pop_ne different).trans found

def Event.allocates (state : ClientRun) : Event → Option Key
  | .requestCalled serviceChoice requestData destination maxApduOverride =>
    match (state.tsm.sendRequest serviceChoice requestData destination maxApduOverride).1 with
    | .ok invokeId => some (destination, invokeId)
    | .error _ => none
  | _ => none

/-- A key that is free stays so until it is allocated. -/
theorem free_of_step (disciplined : state.Disciplined)
    (free : state.tsm.transactions.get key = none) (stepped : step state event = some next)
    (unallocated : event.allocates state ≠ some key)
    : next.tsm.transactions.get key = none := by
  cases effect_of_step disciplined.small stepped with
  | refused small raises => exact free
  | @called _ _ destination _ _ invokeId _ _ _ _ _ _ _ outcome =>
    have different : key ≠ (destination, invokeId) := by
      rintro rfl
      exact unallocated (by simp only [Event.allocates, outcome])
    exact (Dict.get_set_ne different).trans free
  | unanswered unrelated => exact free
  | handled handles =>
    refine Option.eq_none_iff_forall_ne_some.mpr fun txn found => ?_
    obtain ⟨before, here⟩ := (exists_get_update _).mp ⟨txn, found⟩
    rw [free] at here
    cases here
  | @returned returnedKey _ _ _ _ =>
    show (state.tsm.transactions.pop returnedKey).get key = none
    rw [Dict.get_pop]
    split
    · rfl
    · exact free

/-- An answer to a request that is not outstanding changes nothing. -/
theorem step_late {apdu : APDU} (free : state.tsm.transactions.get key = none)
    (answers : apdu.answers = some key.2)
    : step state (.apduReceived apdu key.1) = some state := by
  rcases state.tsm.receive_answers key.1 apdu with ⟨unrelated, _⟩ | ⟨invokeId, body, same, _, received⟩
  · rw [answers] at unrelated
    cases unrelated
  · obtain rfl : key.2 = invokeId := Option.some.inj (answers.symm.trans same)
    have unchanged : state.tsm.receive key.1 apdu = (state.tsm, []) :=
      received.trans (update_missing free body)
    simp only [step, unchanged, after, List.append_nil]

/-- What the client does with invoke IDs in a state that it reaches. -/
structure InvokeIdDiscipline (state : ClientRun) : Prop where
  /-- an allocated invoke ID is free -/
  allocates : ∀ destination invokeId next,
    state.tsm.allocateInvokeId destination 256 = .ok (invokeId, next) →
    invokeId < 256 ∧ state.tsm.transactions.get (destination, invokeId) = none
  /-- none is found just where all are in use -/
  exhausted : ∀ destination,
    (∃ raised, state.tsm.allocateInvokeId destination 256 = .error raised)
      ↔ ∀ invokeId < 256, ∃ txn, state.tsm.transactions.get (destination, invokeId) = some txn
  /-- no two calls wait under one key, and those that wait have the transactions -/
  unique : state.calls.Nodup
    ∧ ∀ key, key ∈ state.calls ↔ ∃ txn, state.tsm.transactions.get key = some txn
  /-- what a future is done with is all that it is ever done with -/
  once : ∀ key txn, state.tsm.transactions.get key = some txn → txn.future.done = true →
    ∀ later last, run step state later = some last → .callReturns key ∉ later →
      last.tsm.transactions.get key = some txn
  /-- from the return of the call on, answers change nothing until the key is allocated again -/
  collected : ∀ key next, step state (.callReturns key) = some next →
    ∀ later last, run step next later = some last →
      Meets step (fun reached event => event.allocates reached ≠ some key) next later →
      ∀ apdu, apdu.answers = some key.2 → step last (.apduReceived apdu key.1) = some last

/-- The discipline holds in every state of every run, whatever arrives in whatever order. -/
theorem invokeIds_disciplined (tsm : ClientTSM) {events : List Event}
    (ran : run step (start tsm) events = some state)
    : state.InvokeIdDiscipline := by
  have disciplined := disciplined_of_run ran
  refine ⟨?_, ?_, ⟨disciplined.nodup, disciplined.mem_calls⟩, ?_, ?_⟩
  · intro destination invokeId next allocated
    exact ⟨(ClientTSM.allocateInvokeId_small disciplined.small allocated).1,
      (ClientTSM.allocateInvokeId_spec allocated).1⟩
  · exact fun destination => ClientTSM.allocateInvokeId_exhausted_iff disciplined.small destination
  · intro key txn found done later last ranOn collected
    have meets : Meets step (fun _ event => event ≠ .callReturns key) state later :=
      meets_of_forall fun event member same => collected (same ▸ member)
    exact (@invariant_run _ _ step (fun _ event => event ≠ .callReturns key)
      (fun reached => reached.Disciplined ∧ reached.tsm.transactions.get key = some txn)
      (fun holds other stepped => ⟨holds.1.step stepped, done_of_step holds.1 holds.2 done stepped other⟩)
      _ _ _ ⟨disciplined, found⟩ meets ranOn).2
  · intro key next returned later last ranOn unallocated apdu answers
    have free : next.tsm.transactions.get key = none := by
      cases effect_of_step disciplined.small returned with
      | handled handles => cases handles
      | returned waiting found done => exact Dict.get_pop_self _ _
    have reached := @invariant_run _ _ step (fun reached event => event.allocates reached ≠ some key)
      (fun reached => reached.Disciplined ∧ reached.tsm.transactions.get key = none)
      (fun holds other stepped => ⟨holds.1.step stepped, free_of_step holds.1 holds.2 stepped other⟩)
      _ _ _ ⟨disciplined.step returned, free⟩ unallocated ranOn
    exact step_late reached.2 answers

/-- A request to one peer, its answer, and the return of the call. -/
def oneExchange : List Event :=
  [
    .requestCalled 15 [1] { macAddress := [7] } none,
    .apduReceived (.simpleAck { invokeId := 0, serviceChoice := 15 }) { macAddress := [7] },
    .callReturns ({ macAddress := [7] }, 0)
  ]

/-- After the exchange no call waits, and one PDU has been sent. -/
theorem invokeIds_disciplined_oneExchange
    : ∃ state, run step (start {}) oneExchange = some state ∧ state.calls = []
        ∧ state.sent.length = 1 ∧ state.InvokeIdDiscipline := by
  have reached : (run step (start {}) oneExchange).map (fun state => (state.calls, state.sent.length))
      = some ([], 1) := by
    decide +kernel
  obtain ⟨state, ran, facts⟩ := Option.map_eq_some_iff.mp reached
  obtain ⟨calls, sent⟩ := Prod.mk.inj facts
  exact ⟨state, ran, calls, sent, invokeIds_disciplined {} ran⟩
end ClientRun

end BacPy
