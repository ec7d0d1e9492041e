import BacPy.App.ClientRuns

/-! How often a client repeats a request: what a silent peer gets to see, and what the two retry counters
bound whatever arrives.
-/

namespace BacPy

open Library

namespace ClientRun

-- The PDUs of one transaction

/-- Whether a PDU goes to the peer of a transaction, with its invoke ID. -/
def isFor (key : Key) (message : Sent) : Bool :=
  decide (message.destination = key.1 ∧ message.apdu.invokeId = some key.2)

def sentFor (state : ClientRun) (key : Key) : List Sent := state.sent.filter (isFor key)

def Event.about : Event → Option Key
  | .requestCalled _ _ _ _ => none
  | .apduReceived apdu source => apdu.answers.map fun invokeId => (source, invokeId)
  | .timerFires key => some key
  | .callCancelled key => some key
  | .callReturns key => some key

theorem filter_isFor {txn : ClientTransaction} {sent : List Sent} (sends : txn.Sends sent) (key : Key)
    : sent.filter (isFor key) = if txn.key = key then sent else [] := by
  split
  · next same =>
      refine List.filter_eq_self.mpr fun message member => ?_
      obtain ⟨destination, invokeId, _⟩ := sends message member
      simp [isFor, destination, invokeId, ← same, ClientTransaction.key]
  · next different =>
      refine List.filter_eq_nil_iff.mpr fun message member => ?_
      obtain ⟨destination, invokeId, _⟩ := sends message member
      simp only [isFor, destination, invokeId, decide_eq_true_eq, Option.some.injEq]
      exact fun same => different (Prod.ext same.1 same.2)

variable {state next : ClientRun} {event : Event} {key : Key} {txn : ClientTransaction}

theorem sentFor_after (stepped) (key : Key)
    : (state.after stepped).sentFor key = state.sentFor key ++ stepped.2.filter (isFor key) := by
  simp [sentFor, after]

/-- What a step does to an outstanding transaction: it runs a handler on it while it is pending, or it
leaves it alone and sends nothing under its key.
-/
inductive TransactionStep (state : ClientRun) (event : Event) (key : Key) (txn : ClientTransaction)
    (next : ClientRun) : Prop
  | handled {body} (handles : Handles state.tsm event key body) (pending : txn.future.done = false)
    (found : next.tsm.transactions.get key = some (body txn).1)
    (sent : next.sentFor key = state.sentFor key ++ (body txn).2)
  | same (found : next.tsm.transactions.get key = some txn)
    (sent : next.sentFor key = state.sentFor key)
    (other : event.about ≠ some key ∨ txn.future.done = true)

theorem Handles.about {tsm : ClientTSM} {body : ClientTransaction → ClientTransaction × List Sent}
    (handles : Handles tsm event key body)
    : event.about = some key := by
  cases handles with
  | answered answers spec => simp [Event.about, answers]
  | expired found armed => rfl
  | cancelled => rfl

/-- Every step but the return of the call is one of the two. -/
theorem transactionStep_of_step (disciplined : state.Disciplined)
    (found : state.tsm.transactions.get key = some txn) (stepped : step state event = some next)
    (kept : event ≠ .callReturns key)
    : TransactionStep state event key txn next := by
  cases effect_of_step disciplined.small stepped with
  | refused small raises => exact .same found (by simp [sentFor_after]) (Or.inl nofun)
  | @called _ _ destination _ _ invokeId started sent _ _ free transmitted newKey _ =>
    have different : (destination, invokeId) ≠ key := by
      rintro rfl
      rw [free] at found
      cases found
    refine .same ((Dict.get_set_ne (Ne.symm different)).trans found) ?_ (Or.inl nofun)
    have sends := ClientTSM.transmit_sends transmitted
    have none : sent.filter (isFor key) = [] :=
      (filter_isFor sends key).trans (if_neg different)
    show (state.after (_, sent)).sentFor key = state.sentFor key
    rw [sentFor_after, none, List.append_nil]
  | unanswered unrelated =>
    exact .same found (by simp [sentFor_after]) (Or.inl (by simp [Event.about, unrelated]))
  | @handled _ handledKey body handles =>
    by_cases same : handledKey = key
    · subst same
      cases done : txn.future.done with
      | true =>
        rw [update_done found done]
        exact .same found (by simp [sentFor_after]) (Or.inr done)
      | false =>
        refine .handled handles done (ClientTSM.get_update_self found done) ?_
        have own := (filter_isFor (handles.spec txn).2 handledKey).trans
          (if_pos (disciplined.keyed handledKey txn found).1)
        have sent : (state.tsm.update handledKey body).2 = (body txn).2 := by
          simp [ClientTSM.update, found, done]
        rw [sentFor_after, sent, own]
    · refine .same ((ClientTSM.get_update_ne (Ne.symm same)).trans found) ?_ ?_
      · rw [sentFor_after]
        unfold ClientTSM.update
        split
        · exact List.append_nil _
        · next other here =>
            split
            · exact List.append_nil _
            · have foreign := (filter_isFor (handles.spec other).2 key).trans
                (if_neg ((disciplined.keyed handledKey other here).1 ▸ same))
              dsimp only
              rw [foreign, List.append_nil]
      · rw [handles.about]
        exact Or.inl fun other => same (Option.some.inj other)
  | @returned returnedKey _ _ _ _ =>
    have different : returnedKey ≠ key := fun same => kept (same ▸ rfl)
    refine .same ((Dict.get_pop_ne (Ne.symm different)).trans found) rfl (Or.inl ?_)
    exact fun same => different (Option.some.inj same)

-- Settings

def SameSettings (tsm other : ClientTSM) : Prop :=
  ∃ transactions counter, other = { tsm with transactions, nextInvokeId := counter }

theorem SameSettings.expire {tsm other} (same : SameSettings tsm other) (timer : ClientTimer) (txn)
    : other.expire timer txn = tsm.expire timer txn := by
  obtain ⟨transactions, counter, rfl⟩ := same
  cases timer <;> rfl

theorem SameSettings.replace {tsm other} (same : SameSettings tsm other) (transactions)
    (counter : Nat)
    : SameSettings tsm { other with transactions, nextInvokeId := counter } := by
  obtain ⟨_, _, rfl⟩ := same
  exact ⟨transactions, counter, rfl⟩

theorem SameSettings.update {tsm other} (same : SameSettings tsm other) (key : Key) (body)
    : SameSettings tsm (other.update key body).1 := by
  unfold ClientTSM.update
  split
  · exact same
  · split
    · exact same
    · exact same.replace _ _

theorem SameSettings.step {tsm} (same : SameSettings tsm state.tsm)
    (disciplined : state.Disciplined) (stepped : ClientRun.step state event = some next)
    : SameSettings tsm next.tsm := by
  cases effect_of_step disciplined.small stepped with
  | refused small raises => exact same.replace _ _
  | called small octet free transmitted newKey outcome => exact same.replace _ _
  | unanswered unrelated => exact same
  | handled handles => exact same.update _ _
  | returned waiting found done => exact same.replace _ _

theorem sameSettings_of_run {tsm events} (ran : run step (start tsm) events = some state)
    : SameSettings tsm state.tsm :=
  (@invariant_every_run _ _ step
    (fun reached => reached.Disciplined ∧ SameSettings tsm reached.tsm)
    (fun holds stepped => ⟨holds.1.step stepped, holds.2.step holds.1 stepped⟩) _ _ _
    ⟨disciplined_start tsm, _, _, rfl⟩ ran).2

-- A silent peer

/-- Nothing but its timers happens to a transaction. -/
def Silent (key : Key) (events : List Event) : Prop :=
  ∀ event ∈ events, event.about = some key → event = .timerFires key

/-- A transaction that repeats a transmission each time the timer fires, as often as the TSM retries,
and then ends.
-/
structure Repeats (tsm : ClientTSM) (attempt : Nat → ClientTransaction) (transmission : List Sent)
    (ended : ClientTransaction) (farewell : List Sent) : Prop where
  pending : ∀ count, (attempt count).future.done = false
  armed : ∀ count, ∃ timer, (attempt count).timeoutHandle = some timer
  again : ∀ count < tsm.retries, ∀ timer, (attempt count).timeoutHandle = some timer →
    tsm.expire timer (attempt count) = (attempt (count + 1), transmission)
  ends : ∀ timer, (attempt tsm.retries).timeoutHandle = some timer →
    tsm.expire timer (attempt tsm.retries) = (ended, farewell)
  done : ended.future.done = true
  spent : ended.timeoutHandle = none

/-- Where such a transaction is when its timer has fired a number of times. -/
structure Phase (tsm : ClientTSM) (attempt : Nat → ClientTransaction) (transmission : List Sent)
    (ended : ClientTransaction) (farewell before : List Sent) (key : Key) (fired : Nat)
    (state : ClientRun) : Prop where
  disciplined : state.Disciplined
  settings : SameSettings tsm state.tsm
  bound : fired ≤ tsm.retries + 1
  found : state.tsm.transactions.get key
    = some (if fired ≤ tsm.retries then attempt fired else ended)
  sent : state.sentFor key = before ++ (List.replicate (min fired tsm.retries) transmission).flatten
    ++ if fired ≤ tsm.retries then [] else farewell

variable {tsm : ClientTSM} {attempt : Nat → ClientTransaction} {transmission farewell before : List Sent}
  {ended : ClientTransaction} {fired : Nat}

theorem Phase.fires (repeats : Repeats tsm attempt transmission ended farewell)
    (phase : Phase tsm attempt transmission ended farewell before key fired state)
    (stepped : step state (.timerFires key) = some next)
    : Phase tsm attempt transmission ended farewell before key (fired + 1) next := by
  have disciplined := phase.disciplined.step stepped
  have settings := phase.settings.step phase.disciplined stepped
  obtain ⟨ran, firing, _⟩ := Option.map_eq_some_iff.mp stepped
  obtain ⟨txn, timer, here, armed, _⟩ := ClientTSM.fireTimer_eq_some.mp firing
  have running : fired ≤ tsm.retries := by
    by_contra finished
    rw [phase.found, if_neg finished] at here
    rw [← Option.some.inj here, repeats.spent] at armed
    cases armed
  have found := phase.found
  have sent := phase.sent
  rw [if_pos running] at found sent
  rw [List.append_nil, Nat.min_eq_left running] at sent
  have bound : fired + 1 ≤ tsm.retries + 1 := Nat.succ_le_succ running
  cases transactionStep_of_step phase.disciplined found stepped nofun with
  | handled handles pending foundAfter sentAfter =>
    cases handles with
    | @expired _ txn timer foundHere armed =>
      have armed : (attempt fired).timeoutHandle = some timer := by
        rw [found] at foundHere
        rw [Option.some.inj foundHere, armed]
      rw [phase.settings.expire] at foundAfter sentAfter
      by_cases more : fired < tsm.retries
      · rw [repeats.again fired more timer armed] at foundAfter sentAfter
        refine ⟨disciplined, settings, bound, ?_, ?_⟩
        · rw [foundAfter, if_pos (Nat.succ_le_of_lt more)]
        · rw [sentAfter, sent, if_pos (Nat.succ_le_of_lt more), List.append_nil,
            Nat.min_eq_left (Nat.succ_le_of_lt more), List.replicate_succ', List.flatten_append,
            List.flatten_singleton, List.append_assoc]
      · obtain rfl : fired = tsm.retries := by omega
        rw [repeats.ends timer armed] at foundAfter sentAfter
        have finished : ¬ tsm.retries + 1 ≤ tsm.retries := by omega
        refine ⟨disciplined, settings, bound, ?_, ?_⟩
        · rw [foundAfter, if_neg finished]
        · rw [sentAfter, sent, if_neg finished, Nat.min_eq_right (Nat.le_succ _)]
  | same foundAfter sentAfter other =>
    rcases other with elsewhere | done
    · exact absurd rfl elsewhere
    · rw [repeats.pending] at done
      cases done

/-- Nothing, if the event is about another transaction. -/
theorem Phase.elsewhere
    (phase : Phase tsm attempt transmission ended farewell before key fired state)
    (stepped : step state event = some next) (other : event.about ≠ some key)
    : Phase tsm attempt transmission ended farewell before key fired next := by
  have disciplined := phase.disciplined.step stepped
  have settings := phase.settings.step phase.disciplined stepped
  have kept : event ≠ .callReturns key := by
    rintro rfl
    exact other rfl
  cases transactionStep_of_step phase.disciplined phase.found stepped kept with
  | handled handles pending found sent => exact absurd handles.about other
  | same found sent _ => exact ⟨disciplined, settings, phase.bound, found, sent.trans phase.sent⟩

/-- By induction on the events, each of which is a timeout or about something else. -/
theorem Phase.run {later last} (repeats : Repeats tsm attempt transmission ended farewell)
    (phase : Phase tsm attempt transmission ended farewell before key fired state)
    (ran : Library.run step state later = some last) (silent : Silent key later)
    : Phase tsm attempt transmission ended farewell before key
        (fired + later.count (.timerFires key)) last := by
  induction later generalizing state fired with
  | nil => exact Option.some.inj ran ▸ phase
  | cons event rest ih =>
    obtain ⟨next, stepped, ranOn⟩ := Option.bind_eq_some_iff.mp ran
    have silentRest : Silent key rest := fun other member => silent other (List.mem_cons_of_mem _ member)
    by_cases here : event = .timerFires key
    · subst here
      have after := ih (phase.fires repeats stepped) ranOn silentRest
      rwa [List.count_cons_self, Nat.add_comm (rest.count _), ← Nat.add_assoc]
    · have other : event.about ≠ some key := fun same => here (silent event List.mem_cons_self same)
      rw [List.count_cons_of_ne here]
      exact ih (phase.elsewhere stepped other) ranOn silentRest

def wholeRequest (tsm : ClientTSM) (txn : ClientTransaction) : Sent where
  apdu := .confirmedRequest (tsm.confirmedRequestPdu txn)
  destination := txn.destination
  expectingReply := true

def requestWindow (tsm : ClientTSM) (txn : ClientTransaction) (sender : SegmentSender) : List Sent :=
  sender.fillWindow.map fun segment => {
    apdu := .confirmedRequest (tsm.requestSegmentPdu txn sender segment)
    destination := txn.destination
    expectingReply := true
  }

def timeoutAbort (txn : ClientTransaction) : Sent where
  apdu := .abort { sentByServer := false, invokeId := txn.invokeId, abortReason := .tsmTimeout }
  destination := txn.destination
  expectingReply := false

theorem repeats_whole {txn} (pending : txn.future = .pending)
    (short : ¬ computeMaxSegmentPayload txn.effectiveMaxApdu .confirmedRequest
      < txn.requestData.length)
    : Repeats tsm
        (fun count =>
          { txn with state := .awaitConfirmation, timeoutHandle := some .onTimeout, retryCount := count })
        [wholeRequest tsm txn]
        {
          txn with
          state := .awaitConfirmation
          timeoutHandle := none
          retryCount := tsm.retries
          future := .exception (.timeoutError s!"No response after {tsm.retries} retries")
        }
        [] where
  pending count := by simp [pending, Future.done]
  armed count := ⟨_, rfl⟩
  again count more timer armed := by
    cases armed
    simp only [ClientTSM.expire, ClientTSM.onTimeout, if_pos more, ClientTSM.transmit, if_neg short]
    rfl
  ends timer armed := by
    cases armed
    simp only [ClientTSM.expire, ClientTSM.onTimeout, Nat.lt_irrefl, if_false]
  done := rfl
  spent := rfl

theorem repeats_window {txn} (pending : txn.future = .pending) (sender : SegmentSender)
    : Repeats tsm
        (fun count => {
          txn with
          segmentSender := some sender
          state := .segmentedRequest
          timeoutHandle := some (.onSegmentTimeout true)
          segRetryCount := count
        })
        (requestWindow tsm txn sender)
        {
          txn with
          segmentSender := some sender
          state := .segmentedRequest
          timeoutHandle := none
          segRetryCount := tsm.retries
          future := .exception (.abortError .tsmTimeout)
        }
        [timeoutAbort txn] where
  pending count := by simp [pending, Future.done]
  armed count := ⟨_, rfl⟩
  again count more timer armed := by
    cases armed
    simp only [ClientTSM.expire, ClientTSM.onSegmentTimeout, if_pos more]
    rfl
  ends timer armed := by
    cases armed
    simp only [ClientTSM.expire, ClientTSM.onSegmentTimeout, Nat.lt_irrefl, if_false,
      ClientTSM.abortTransaction, pending, Future.done, Bool.false_eq_true]
    rfl
  done := rfl
  spent := rfl

/-- What a silent peer has got when the timer of a transaction has fired a number of times: the first
transmission, its repetitions, and after the last retry the farewell. Until then the transaction waits
with a timer that can fire; then its future has the exception.
-/
structure SilentOutcome (tsm : ClientTSM) (key : Key) (before transmission farewell : List Sent)
    (error : BACnetException) (fired : Nat) (last : ClientRun) : Prop where
  sent : last.sentFor key
    = before ++ (List.replicate (min fired tsm.retries + 1) transmission).flatten
      ++ if fired ≤ tsm.retries then [] else farewell
  waits : fired ≤ tsm.retries →
    (last.tsm.transactions.get key).map ClientTransaction.future = some .pending
      ∧ ∃ next, step last (.timerFires key) = some next
  fails : tsm.retries < fired →
    fired = tsm.retries + 1
      ∧ (last.tsm.transactions.get key).map ClientTransaction.future = some (.exception error)

/-- The outcome is the phase that the first transmission leads to. -/
theorem Phase.outcome {error last} (repeats : Repeats tsm attempt transmission ended farewell)
    (pending : ∀ count, (attempt count).future = .pending)
    (failed : ended.future = .exception error)
    (phase : Phase tsm attempt transmission ended farewell (before ++ transmission) key fired last)
    : SilentOutcome tsm key before transmission farewell error fired last := by
  refine ⟨?_, fun running => ?_, fun finished => ?_⟩
  · rw [phase.sent, List.replicate_succ, List.flatten_cons]
    simp only [List.append_assoc]
  · have found := phase.found
    rw [if_pos running] at found
    obtain ⟨timer, armed⟩ := repeats.armed fired
    refine ⟨by rw [found, Option.map_some, pending], ?_⟩
    have fires := ClientTSM.fireTimer_eq_some.mpr ⟨_, timer, found, armed, rfl⟩
    exact ⟨_, congrArg (Option.map last.after) fires⟩
  · have found := phase.found
    rw [if_neg (Nat.not_le.mpr finished)] at found
    exact ⟨by have := phase.bound; omega, by rw [found, Option.map_some, failed]⟩

-- Counters

/-- Neither counter is above the number of retries. -/
def Within (tsm : ClientTSM) (txn : ClientTransaction) : Prop :=
  txn.retryCount ≤ tsm.retries ∧ txn.segRetryCount ≤ tsm.retries

/-- A handler keeps both counters within the number of retries. -/
theorem Handles.within {tsm body} (handles : Handles tsm event key body) (within : Within tsm txn)
    : Within tsm (body txn).1 := by
  obtain ⟨retries, segRetries⟩ := within
  cases handles with
  | answered answers spec =>
    exact ⟨(spec txn).retryCount ▸ retries, Nat.le_trans (spec txn).segRetryCount segRetries⟩
  | @expired _ _ timer found armed =>
    cases timer with
    | onTimeout =>
      obtain ⟨same, ⟨more, counted⟩ | ⟨kept, _⟩⟩ :=
        tsm.onTimeout_counters { txn with timeoutHandle := none }
      · exact ⟨Nat.le_trans (Nat.le_of_eq counted) more, Nat.le_trans (Nat.le_of_eq same) segRetries⟩
      · exact ⟨Nat.le_trans (Nat.le_of_eq kept) retries, Nat.le_trans (Nat.le_of_eq same) segRetries⟩
    | onSegmentTimeout waitForSeg =>
      obtain ⟨same, ⟨more, counted⟩ | ⟨kept, _⟩⟩ :=
        tsm.onSegmentTimeout_counters { txn with timeoutHandle := none }
      · exact ⟨Nat.le_trans (Nat.le_of_eq same) retries, Nat.le_trans (Nat.le_of_eq counted) more⟩
      · exact ⟨Nat.le_trans (Nat.le_of_eq same) retries, Nat.le_trans (Nat.le_of_eq kept) segRetries⟩
  | cancelled => exact ⟨retries, segRetries⟩

/-- All transactions of a state have their counters within the number of retries. -/
def AllWithin (tsm : ClientTSM) (state : ClientRun) : Prop :=
  ∀ key txn, state.tsm.transactions.get key = some txn → Within tsm txn

theorem AllWithin.step {tsm} (all : AllWithin tsm state) (settings : SameSettings tsm state.tsm)
    (disciplined : state.Disciplined) (stepped : ClientRun.step state event = some next)
    : AllWithin tsm next := by
  intro key txn found
  cases effect_of_step disciplined.small stepped with
  | refused small raises => exact all key txn found
  | called small octet free transmitted newKey outcome =>
    simp only [after, Dict.get_set] at found
    split at found
    · cases found
      obtain ⟨retries, segRetries⟩ := ClientTSM.transmit_counters transmitted
      exact ⟨Nat.le_trans (Nat.le_of_eq retries) (Nat.zero_le _),
        Nat.le_trans (Nat.le_of_eq segRetries) (Nat.zero_le _)⟩
    · exact all key txn found
  | unanswered unrelated => exact all key txn found
  | handled handles =>
    rcases get_update found with kept | ⟨rfl, old, before, _, rfl⟩
    · exact all key txn kept
    · obtain ⟨transactions, counter, same⟩ := settings
      have within : Within state.tsm old := same ▸ all key old before
      have after := handles.within within
      rw [same] at after
      exact after
  | returned waiting before done =>
    simp only [ClientTSM.finish, Dict.get_pop] at found
    split at found
    · cases found
    · exact all key txn found

theorem allWithin_of_run {tsm events} (ran : run step (start tsm) events = some state)
    : AllWithin tsm state :=
  (@invariant_every_run _ _ step
    (fun reached => reached.Disciplined ∧ SameSettings tsm reached.tsm ∧ AllWithin tsm reached)
    (fun holds stepped => ⟨holds.1.step stepped, holds.2.1.step holds.1 stepped,
      holds.2.2.step holds.2.1 holds.1 stepped⟩) _ _ _
    ⟨disciplined_start tsm, ⟨_, _, rfl⟩, by simp [AllWithin, start]⟩ ran).2.2

/-- What a step sends under a key. -/
def transmitted (key : Key) (state : ClientRun) (event : Event) : List Sent :=
  match step state event with
  | some next => (next.sentFor key).drop (state.sentFor key).length
  | none => []

def armedTimer (key : Key) (state : ClientRun) : Option ClientTimer :=
  (state.tsm.transactions.get key).bind ClientTransaction.timeoutHandle

/-- Whether the event is a response timeout that sends the request again. -/
def responseResends (key : Key) (state : ClientRun) (event : Event) : Bool :=
  decide (event = .timerFires key ∧ armedTimer key state = some .onTimeout
    ∧ transmitted key state event ≠ [])

/-- Whether the event is a segment timeout that sends something. -/
def segmentTransmits (key : Key) (state : ClientRun) (event : Event) : Bool :=
  decide (event = .timerFires key ∧ (∃ waitForSeg, armedTimer key state = some (.onSegmentTimeout waitForSeg))
    ∧ transmitted key state event ≠ [])

/-- Whether the event is a segment timeout that sends something other than an Abort. -/
def segmentResends (key : Key) (state : ClientRun) (event : Event) : Bool :=
  decide (event = .timerFires key ∧ (∃ waitForSeg, armedTimer key state = some (.onSegmentTimeout waitForSeg))
    ∧ ∃ message ∈ transmitted key state event, ¬ ClientTSM.IsAbort message.apdu)

theorem transmitted_eq {sent} (stepped : step state event = some next)
    (grown : next.sentFor key = state.sentFor key ++ sent)
    : transmitted key state event = sent := by
  simp [transmitted, stepped, grown]

/-- Every step that sends the request again at a response timeout counts a retry. -/
theorem retryCount_of_step (disciplined : state.Disciplined)
    (found : state.tsm.transactions.get key = some txn) (stepped : step state event = some next)
    (kept : event ≠ .callReturns key)
    : ∃ after, next.tsm.transactions.get key = some after
        ∧ txn.retryCount + (responseResends key state event).toNat ≤ after.retryCount := by
  cases transactionStep_of_step disciplined found stepped kept with
  | same foundAfter sent other =>
    have nothing := transmitted_eq stepped (sent.trans (List.append_nil _).symm)
    exact ⟨txn, foundAfter, by simp [responseResends, nothing]⟩
  | handled handles pending foundAfter sent =>
    refine ⟨_, foundAfter, ?_⟩
    have sends := transmitted_eq stepped sent
    cases handles with
    | answered answers spec => simp [responseResends, (spec txn).retryCount]
    | cancelled => simp [responseResends]
    | @expired _ _ timer here armed =>
      cases found.symm.trans here
      cases timer with
      | onTimeout =>
        rcases (state.tsm.onTimeout_counters { txn with timeoutHandle := none }).2 with
          ⟨_, counted⟩ | ⟨same, none⟩
        · exact Nat.le_trans (Nat.add_le_add_left (Bool.toNat_le _) _) (Nat.le_of_eq counted.symm)
        · have nothing : transmitted key state (.timerFires key) = [] := sends.trans none
          simp only [responseResends, nothing, ne_eq, not_true_eq_false, and_false, decide_false,
            Bool.toNat_false, Nat.add_zero]
          exact Nat.le_of_eq same.symm
      | onSegmentTimeout waitForSeg =>
        have same := (state.tsm.onSegmentTimeout_counters { txn with timeoutHandle := none }).1
        simp only [responseResends, armedTimer, found, Option.bind_some, armed, Option.some.injEq,
          reduceCtorEq, false_and, and_false, decide_false, Bool.toNat_false, Nat.add_zero]
        exact Nat.le_of_eq same.symm

/-- Every step that sends something other than an Abort at a segment timeout counts a retry, and one that
sends the Abort ends the transaction, if the step is not an answer.
-/
theorem segRetryCount_of_step (disciplined : state.Disciplined)
    (found : state.tsm.transactions.get key = some txn) (stepped : step state event = some next)
    (kept : event ≠ .callReturns key)
    (unanswered : ∀ apdu, apdu.answers = some key.2 → event ≠ .apduReceived apdu key.1)
    : ∃ after, next.tsm.transactions.get key = some after
        ∧ txn.segRetryCount + (segmentResends key state event).toNat ≤ after.segRetryCount
        ∧ txn.segRetryCount + txn.future.done.toNat + (segmentTransmits key state event).toNat
          ≤ after.segRetryCount + after.future.done.toNat := by
  cases transactionStep_of_step disciplined found stepped kept with
  | same foundAfter sent other =>
    have nothing := transmitted_eq stepped (sent.trans (List.append_nil _).symm)
    exact ⟨txn, foundAfter, by simp [segmentResends, nothing], by simp [segmentTransmits, nothing]⟩
  | handled handles pending foundAfter sent =>
    refine ⟨_, foundAfter, ?_⟩
    have sends := transmitted_eq stepped sent
    rw [pending, Bool.toNat_false, Nat.add_zero]
    cases handles with
    | answered answers spec => exact absurd rfl (unanswered _ answers)
    | cancelled => simp [segmentResends, segmentTransmits]
    | @expired _ _ timer here armed =>
      cases found.symm.trans here
      cases timer with
      | onTimeout =>
        have same := (state.tsm.onTimeout_counters { txn with timeoutHandle := none }).1
        simp only [segmentResends, segmentTransmits, armedTimer, found, Option.bind_some, armed,
          Option.some.injEq, reduceCtorEq, exists_false, false_and, and_false, decide_false,
          Bool.toNat_false, Nat.add_zero]
        exact ⟨Nat.le_of_eq same.symm, Nat.le_trans (Nat.le_of_eq same.symm) (Nat.le_add_right _ _)⟩
      | onSegmentTimeout waitForSeg =>
        rcases (state.tsm.onSegmentTimeout_counters { txn with timeoutHandle := none }).2 with
          ⟨_, counted⟩ | ⟨same, aborts, ends⟩
        · have grown (counts : Bool) : txn.segRetryCount + counts.toNat
              ≤ (state.tsm.expire (.onSegmentTimeout waitForSeg) txn).1.segRetryCount :=
            Nat.le_trans (Nat.add_le_add_left (Bool.toNat_le _) _) (Nat.le_of_eq counted.symm)
          exact ⟨grown _, Nat.le_trans (grown _) (Nat.le_add_right _ _)⟩
        · have onlyAborts : segmentResends key state (.timerFires key) = false := by
            refine decide_eq_false fun ⟨_, _, message, member, other⟩ => other ?_
            rw [sends] at member
            exact aborts message member
          refine ⟨?_, ?_⟩
          · rw [onlyAborts, Bool.toNat_false, Nat.add_zero]
            exact Nat.le_of_eq same.symm
          · refine Nat.add_le_add (Nat.le_of_eq same.symm) ?_
            cases transmits : segmentTransmits key state (.timerFires key) with
            | false => exact Nat.zero_le _
            | true =>
              have some' := (of_decide_eq_true transmits).2.2
              rw [sends] at some'
              exact Nat.le_of_eq (congrArg Bool.toNat (ends some')).symm

/-- Neither the return of the call nor an answer from the peer. -/
def Uninterrupted (key : Key) (events : List Event) : Prop :=
  ∀ event ∈ events, event ≠ .callReturns key
    ∧ ∀ apdu, apdu.answers = some key.2 → event ≠ .apduReceived apdu key.1

/-- A number that a transaction has, and 0 where there is none. -/
def counter (number : ClientTransaction → Nat) (key : Key) (state : ClientRun) : Nat :=
  ((state.tsm.transactions.get key).map number).getD 0

theorem counter_eq {number} (found : state.tsm.transactions.get key = some txn)
    : counter number key state = number txn := by
  simp [counter, found]

theorem countSteps_le_counter {ok : Event → Prop} {counted : ClientRun → Event → Bool}
    {number : ClientTransaction → Nat}
    (grows : ∀ {state event next txn}, Disciplined state →
      state.tsm.transactions.get key = some txn → ok event → step state event = some next →
      ∃ after, next.tsm.transactions.get key = some after
        ∧ number txn + (counted state event).toNat ≤ number after)
    {last : ClientRun} {events : List Event} (disciplined : state.Disciplined)
    (found : state.tsm.transactions.get key = some txn) (allowed : ∀ event ∈ events, ok event)
    (ran : run step state events = some last)
    : ∃ after, last.tsm.transactions.get key = some after
        ∧ countSteps step counted state events ≤ number after := by
  have keeps {state next : ClientRun} {event : Event}
      (holds : state.Disciplined ∧ ∃ txn, state.tsm.transactions.get key = some txn) (here : ok event)
      (stepped : step state event = some next)
      : next.Disciplined ∧ ∃ txn, next.tsm.transactions.get key = some txn := by
    obtain ⟨disciplined, txn, found⟩ := holds
    obtain ⟨after, foundAfter, _⟩ := grows disciplined found here stepped
    exact ⟨disciplined.step stepped, after, foundAfter⟩
  have bound := @countSteps_le _ _ step (fun _ event => ok event)
    (fun reached => reached.Disciplined ∧ ∃ txn, reached.tsm.transactions.get key = some txn)
    counted (counter number key) keeps
    (fun holds here stepped => by
      obtain ⟨disciplined, txn, found⟩ := holds
      obtain ⟨after, foundAfter, more⟩ := grows disciplined found here stepped
      rwa [counter_eq found, counter_eq foundAfter])
    state last events ⟨disciplined, txn, found⟩ (meets_of_forall allowed) ran
  obtain ⟨_, after, foundAfter⟩ := @invariant_run _ _ step (fun _ event => ok event)
    (fun reached => reached.Disciplined ∧ ∃ txn, reached.tsm.transactions.get key = some txn)
    keeps state last events ⟨disciplined, txn, found⟩ (meets_of_forall allowed) ran
  rw [counter_eq foundAfter] at bound
  exact ⟨after, foundAfter, Nat.le_trans (Nat.le_add_left _ _) bound⟩

-- The bounds of a request

/-- How often the client repeats what it sends for a transaction that a call has started. -/
structure RetryBounds (tsm : ClientTSM) (state called : ClientRun) (txn : ClientTransaction) : Prop where
  /-- a silent peer gets a request in one piece once and at every retry, then the call times out -/
  whole : ¬ computeMaxSegmentPayload txn.effectiveMaxApdu .confirmedRequest < txn.requestData.length →
    ∀ later last, run step called later = some last → Silent txn.key later →
      SilentOutcome tsm txn.key (state.sentFor txn.key) [wholeRequest tsm txn] []
        (.timeoutError s!"No response after {tsm.retries} retries")
        (later.count (.timerFires txn.key)) last
  /-- it gets the first window once and at every retry, then an Abort -/
  window : computeMaxSegmentPayload txn.effectiveMaxApdu .confirmedRequest < txn.requestData.length →
    ∃ sender, SegmentSender.create txn.requestData txn.invokeId txn.serviceChoice
        txn.effectiveMaxApdu .confirmedRequest tsm.proposedWindowSize = .ok sender
      ∧ ∀ later last, run step called later = some last → Silent txn.key later →
        SilentOutcome tsm txn.key (state.sentFor txn.key) (requestWindow tsm txn sender)
          [timeoutAbort txn] (.abortError .tsmTimeout) (later.count (.timerFires txn.key)) last
  /-- whatever arrives, response timeouts send the request again at most that often -/
  responses : ∀ later last, run step called later = some last → .callReturns txn.key ∉ later →
    countSteps step (responseResends txn.key) called later ≤ tsm.retries
  /-- while no answer arrives, segment timeouts send at most that often, and once more the Abort -/
  segments : ∀ before middle, run step called before = some middle → .callReturns txn.key ∉ before →
    ∀ later last, run step middle later = some last → Uninterrupted txn.key later →
      countSteps step (segmentResends txn.key) middle later ≤ tsm.retries
        ∧ ((last.tsm.transactions.get txn.key).map ClientTransaction.future = some .pending →
          countSteps step (segmentTransmits txn.key) middle later ≤ tsm.retries)

theorem SameSettings.transmit {tsm other} (same : SameSettings tsm other) (txn)
    : other.transmit txn = tsm.transmit txn := by
  obtain ⟨transactions, counter, rfl⟩ := same
  rfl

/-- A client does not know how many segments its peer takes. -/
theorem create_no_segmentationError
    {payload invokeId serviceChoice maxApduLength pduType proposedWindowSize error}
    : SegmentSender.create payload invokeId serviceChoice maxApduLength pduType proposedWindowSize
      ≠ .error (.segmentation error) := by
  unfold SegmentSender.create
  split
  · exact nofun
  · simp [checkSegmentCount]

/-- What has been called, and how it goes on. -/
theorem phase_of_call {serviceChoice invokeId : Nat} {requestData : Bytes}
    {destination : BACnetAddress} {maxApduOverride : Option Nat} {called : ClientRun}
    (disciplined : state.Disciplined) (settings : SameSettings tsm state.tsm)
    (outcome : (state.tsm.sendRequest serviceChoice requestData destination maxApduOverride).1
      = .ok invokeId)
    (stepped : step state (.requestCalled serviceChoice requestData destination maxApduOverride)
      = some called)
    : ∃ txn sent, tsm.transmit
          (tsm.newTransaction invokeId serviceChoice requestData destination maxApduOverride)
        = .ok (txn, sent)
      ∧ called.tsm.transactions.get (destination, invokeId) = some txn
      ∧ called.sentFor (destination, invokeId) = state.sentFor (destination, invokeId) ++ sent := by
  have same : state.tsm.newTransaction = tsm.newTransaction := by
    obtain ⟨transactions, counter, rest⟩ := settings
    rw [rest]
    rfl
  cases effect_of_step disciplined.small stepped with
  | refused small raises =>
    obtain ⟨raised, failed⟩ := raises
    rw [outcome] at failed
    cases failed
  | handled handles => cases handles
  | @called _ _ _ _ _ other txn sent small octet free transmitted newKey outcomeHere =>
    obtain rfl : other = invokeId := Except.ok.inj (outcomeHere.symm.trans outcome)
    rw [settings.transmit, same] at transmitted
    refine ⟨txn, sent, transmitted, Dict.get_set_self _ _ _, ?_⟩
    have own := (filter_isFor (ClientTSM.transmit_sends transmitted) (destination, other)).trans
      (if_pos rfl)
    show (state.after (_, sent)).sentFor _ = _
    rw [sentFor_after, own]

theorem silentOutcome {called last : ClientRun} {later : List Event} {error : BACnetException}
    (repeats : Repeats tsm attempt transmission ended farewell)
    (pending : ∀ count, (attempt count).future = .pending) (failed : ended.future = .exception error)
    (disciplined : called.Disciplined) (settings : SameSettings tsm called.tsm)
    (found : called.tsm.transactions.get key = some (attempt 0))
    (sent : called.sentFor key = before ++ transmission)
    (ran : run step called later = some last) (silent : Silent key later)
    : SilentOutcome tsm key before transmission farewell error (later.count (.timerFires key)) last := by
  have first : Phase tsm attempt transmission ended farewell (before ++ transmission) key 0 called :=
    ⟨disciplined, settings, Nat.zero_le _, found, by simp [sent]⟩
  have reached := first.run repeats ran silent
  rw [Nat.zero_add] at reached
  exact reached.outcome repeats pending failed

/-- The bounds hold for every call that starts a transaction, in every state of every run. -/
theorem retries_bounded (tsm : ClientTSM) {events : List Event}
    (ran : run step (start tsm) events = some state) {serviceChoice invokeId : Nat}
    {requestData : Bytes} {destination : BACnetAddress} {maxApduOverride : Option Nat}
    {called : ClientRun}
    (outcome : (state.tsm.sendRequest serviceChoice requestData destination maxApduOverride).1
      = .ok invokeId)
    (stepped : step state (.requestCalled serviceChoice requestData destination maxApduOverride)
      = some called)
    : RetryBounds tsm state called
        (tsm.newTransaction invokeId serviceChoice requestData destination maxApduOverride) := by
  have disciplinedBefore := disciplined_of_run ran
  have settingsBefore := sameSettings_of_run ran
  have disciplined := disciplinedBefore.step stepped
  have settings := settingsBefore.step disciplinedBefore stepped
  have reaches {later last} (ranOn : run step called later = some last)
      : run step (start tsm) (events ++ .requestCalled serviceChoice requestData destination
          maxApduOverride :: later) = some last := by
    rw [run_append, ran, Option.bind_some, run_cons, stepped, Option.bind_some, ranOn]
  obtain ⟨txn, sent, transmitted, found, sentFor⟩ :=
    phase_of_call disciplinedBefore settingsBefore outcome stepped
  refine ⟨fun short later last ranOn silent => ?_, fun long => ?_, fun later last ranOn kept => ?_,
    fun before middle ranTo kept later last ranOn quiet => ?_⟩
  · unfold ClientTSM.transmit at transmitted
    rw [if_neg short] at transmitted
    cases transmitted
    exact silentOutcome (repeats_whole rfl short) (fun _ => rfl) rfl disciplined settings found sentFor
      ranOn silent
  · unfold ClientTSM.transmit ClientTSM.sendSegmentedRequest at transmitted
    rw [if_pos long] at transmitted
    split at transmitted
    · next error refused => exact absurd refused create_no_segmentationError
    · cases transmitted
    · next sender created =>
        cases transmitted
        refine ⟨sender, created, fun later last ranOn silent => ?_⟩
        exact silentOutcome (repeats_window rfl sender) (fun _ => rfl) rfl disciplined settings found
          sentFor ranOn silent
  · obtain ⟨after, foundAfter, bound⟩ := @countSteps_le_counter called (destination, invokeId) txn
      (fun event => event ≠ .callReturns (destination, invokeId)) _ ClientTransaction.retryCount
      (fun disciplined found kept stepped => retryCount_of_step disciplined found stepped kept)
      last later disciplined found (fun event member same => kept (same ▸ member)) ranOn
    exact Nat.le_trans bound (allWithin_of_run (reaches ranOn) _ after foundAfter).1
  · obtain ⟨at', foundMiddle, _⟩ := @countSteps_le_counter called (destination, invokeId) txn
      (fun event => event ≠ .callReturns (destination, invokeId)) _ ClientTransaction.retryCount
      (fun disciplined found kept stepped => retryCount_of_step disciplined found stepped kept)
      middle before disciplined found (fun event member same => kept (same ▸ member)) ranTo
    have disciplinedMiddle := disciplined_of_run (reaches ranTo)
    have within {after} (here : last.tsm.transactions.get (destination, invokeId) = some after)
        : Within tsm after := by
      have ranAll : run step called (before ++ later) = some last := by
        rw [run_append, ranTo, Option.bind_some, ranOn]
      exact allWithin_of_run (reaches ranAll) _ after here
    constructor
    · obtain ⟨after, foundAfter, bound⟩ := countSteps_le_counter
        (fun disciplined found allowed stepped => by
          obtain ⟨after, foundAfter, more, _⟩ :=
            segRetryCount_of_step disciplined found stepped allowed.1 allowed.2
          exact ⟨after, foundAfter, more⟩)
        disciplinedMiddle foundMiddle quiet ranOn
      exact Nat.le_trans bound (within foundAfter).2
    · intro pending
      obtain ⟨after, foundAfter, bound⟩ := @countSteps_le_counter middle _ _ _ _
        (fun txn => txn.segRetryCount + txn.future.done.toNat)
        (fun disciplined found allowed stepped => by
          obtain ⟨after, foundAfter, _, more⟩ :=
            segRetryCount_of_step disciplined found stepped allowed.1 allowed.2
          exact ⟨after, foundAfter, more⟩)
        last later disciplinedMiddle foundMiddle quiet ranOn
      have future : after.future = .pending := by
        have here : last.tsm.transactions.get (destination, invokeId) = some after := foundAfter
        have futures : (last.tsm.transactions.get (destination, invokeId)).map
            ClientTransaction.future = some .pending := pending
        rw [here] at futures
        exact Option.some.inj futures
      rw [future] at bound
      exact Nat.le_trans bound (within foundAfter).2

/-- A client that retries once sends a request twice to a peer that stays silent. -/
theorem retries_bounded_once
    : ∃ called last,
        step (start { retries := 1 }) (.requestCalled 15 [1] { macAddress := [7] } none) = some called
        ∧ run step called
            [.timerFires ({ macAddress := [7] }, 0), .timerFires ({ macAddress := [7] }, 0)] = some last
        ∧ (last.sentFor ({ macAddress := [7] }, 0)).length = 2
        ∧ RetryBounds { retries := 1 } (start { retries := 1 }) called
            (ClientTSM.newTransaction { retries := 1 } 0 15 [1] { macAddress := [7] } none) := by
  have reached : (run step (start { retries := 1 })
      [.requestCalled 15 [1] { macAddress := [7] } none, .timerFires ({ macAddress := [7] }, 0),
        .timerFires ({ macAddress := [7] }, 0)]).map
          (fun last => (last.sentFor ({ macAddress := [7] }, 0)).length) = some 2 := by
    decide +kernel
  obtain ⟨last, ran, length⟩ := Option.map_eq_some_iff.mp reached
  obtain ⟨called, stepped, ranOn⟩ := Option.bind_eq_some_iff.mp ran
  exact ⟨called, last, stepped, ranOn, length,
    @retries_bounded _ { retries := 1 } [] rfl 15 0 [1] { macAddress := [7] } none called
      (by decide +kernel) stepped⟩

end ClientRun

end BacPy
