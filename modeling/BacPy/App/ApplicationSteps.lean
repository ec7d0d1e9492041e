import BacPy.App.Application
import BacPy.App.ClientSteps
import BacPy.App.ServerSteps

/-! What one event can do to the server side of the application: to the transactions of the
server TSM and to the dispatches in progress.
-/

namespace BacPy

open Library

namespace Application

/-- The transactions whose dispatch a background task has in progress. -/
def busy (self : Application) : List Nat := self.backgroundTasks.filterMap Task.transaction?

/-- Unsegmented requests wait for their task without a sequence number. -/
def PlainRequests (self : Application) : Prop :=
  ∀ pdu source, .handleConfirmedRequest pdu source ∈ self.backgroundTasks
    → pdu.sequenceNumber = none

def owner (self : Application) : Event → Option Nat
  | .serverTimerFires ref => some ref
  | .handlerEnds index _ => self.backgroundTasks[index]?.bind Task.transaction?
  | _ => none

/-- The request the event hands to `receive_confirmed_request`, and its source. -/
def requestOf (self : Application) : Event → Option (ConfirmedRequestPDU × BACnetAddress)
  | .apduReceived data source =>
    match decodeApdu data with
    | .ok (.confirmedRequest pdu) => if pdu.segmented then some (pdu, source) else none
    | _ => none
  | .taskStarts index =>
    match self.backgroundTasks[index]? with
    | some (.handleConfirmedRequest pdu source) => some (pdu, source)
    | _ => none
  | _ => none

/-- How the end of a handler leaves its transaction. -/
inductive Finished (tsm : ServerTSM) (ref : Nat) (txn : ServerTransaction)
    (source : BACnetAddress)
    : ServerTSM → List Sent → Prop
  | responded {response}
    (fits : ∀ pdu, response = .complexAck pdu → ∃ serviceChoice data,
      pdu = unsegmentedComplexAck txn.invokeId serviceChoice data
      ∧ data.length ≤ computeMaxSegmentPayload txn.clientMaxApduLength .complexAck)
    : Finished tsm ref txn source (tsm.completeTransaction ref txn response) [{
        apdu := response
        destination := source
        expectingReply := false
        transaction := some ref
      }]
  | segmented {sender serviceChoice data} (accepted : txn.segmentedResponseAccepted = true)
    (created : SegmentSender.create data txn.invokeId serviceChoice txn.clientMaxApduLength
      .complexAck tsm.proposedWindowSize txn.clientMaxSegments = .ok sender)
    : Finished tsm ref txn source
        (tsm.writeAndSend ref
          (txn.sendingResponse sender serviceChoice data).fillAndSendResponseWindow).1
        (tsm.writeAndSend ref
          (txn.sendingResponse sender serviceChoice data).fillAndSendResponseWindow).2
  | aborted {reason}
    : Finished tsm ref txn source (tsm.abortServerTransaction ref txn reason).1
        (tsm.abortServerTransaction ref txn reason).2

/-- What an event does to the server side. The dispatches in progress are given up to order. -/
inductive Effect (self : Application) (event : Event) (next : Application) (sent : List Sent)
    : Prop
  | quiet (same : next.serverTsm = self.serverTsm) (tasks : next.busy.Perm self.busy)
    (client : Unmarked sent)
  | entry {key} (unowned : self.owner event = none)
    (step : self.serverTsm.EntryStep key next.serverTsm sent) (tasks : next.busy.Perm self.busy)
  | received {pdu source result} (request : self.requestOf event = some (pdu, source))
    (received : self.serverTsm.Received (source, pdu.invokeId) pdu
      (next.serverTsm, sent, result))
    (idle : ∀ ref data, result ≠ some (ref, some data)) (tasks : next.busy.Perm self.busy)
  | accepted {pdu source ref data} (request : self.requestOf event = some (pdu, source))
    (received : self.serverTsm.Received (source, pdu.invokeId) pdu
      (next.serverTsm, sent, some (ref, some data)))
    (tasks : next.busy.Perm (ref :: self.busy))
  | refused {pdu source ref data} (request : self.requestOf event = some (pdu, source))
    (received : self.serverTsm.Received (source, pdu.invokeId) pdu
      (next.serverTsm, sent, some (ref, some data)))
    (plain : pdu.sequenceNumber = none) (tasks : next.busy.Perm self.busy)
  | dropped {index ref serviceChoice serviceData source} (starts : event = .taskStarts index)
    (task : self.backgroundTasks[index]?
      = some (.dispatchRequest ref serviceChoice serviceData source))
    (drops : self.dccDrops serviceChoice = true) (same : next.serverTsm = self.serverTsm)
    (tasks : self.busy.Perm (ref :: next.busy)) (silent : sent = [])
  | finished {index outcome ref serviceChoice serviceData source txn}
    (ends : event = .handlerEnds index outcome)
    (task : self.backgroundTasks[index]?
      = some (.awaitHandler ref serviceChoice serviceData source))
    (found : self.serverTsm.objects.get ref = some txn)
    (step : Finished self.serverTsm ref txn source next.serverTsm sent)
    (tasks : self.busy.Perm (ref :: next.busy))
  | fired {ref} (fires : event = .serverTimerFires ref)
    (step : self.serverTsm.fireTimer ref = some (next.serverTsm, sent))
    (tasks : next.busy = self.busy)

-- Tasks and the dispatches in progress

/-- The dispatches in progress are the one of a task and those of all other tasks. -/
theorem busy_perm {tasks : List Task} {index : Nat} {task : Task}
    (present : tasks[index]? = some task)
    : (tasks.filterMap Task.transaction?).Perm
        (task.transaction?.toList
          ++ (tasks.eraseIdx index).filterMap Task.transaction?) := by
  obtain ⟨inside, here⟩ := List.getElem?_eq_some_iff.mp present
  have split := (List.getElem_cons_eraseIdx_perm inside).symm.filterMap Task.transaction?
  rw [here, List.filterMap_cons] at split
  cases ref : task.transaction? <;> simpa [ref] using split

/-- What is left of a task takes its place. -/
theorem busy_replaceTask {tasks : List Task} {index : Nat} {task : Task} {waiting : Option Task}
    (present : tasks[index]? = some task)
    : ((replaceTask tasks index waiting).filterMap Task.transaction?).Perm
        ((waiting.bind Task.transaction?).toList
          ++ (tasks.eraseIdx index).filterMap Task.transaction?) := by
  obtain ⟨inside, here⟩ := List.getElem?_eq_some_iff.mp present
  cases waiting with
  | none => exact .rfl
  | some left =>
    have placed : (tasks.set index left)[index]? = some left := by
      rw [List.getElem?_set_self inside]
    have split := busy_perm placed
    rwa [List.eraseIdx_set_eq] at split

/-- A spawned task adds its own dispatch, if it has one. -/
theorem busy_spawnTask (self : Application) (task : Task)
    : (self.spawnTask task).busy.Perm (task.transaction?.toList ++ self.busy) := by
  unfold busy spawnTask
  rw [List.filterMap_append]
  refine List.perm_append_comm.trans (.append_right _ ?_)
  cases ref : task.transaction? <;> simp [ref]

-- The effect of each event

variable {self next : Application} {sent : List Sent} {event : Event}

/-- A request belongs to no transaction yet. -/
theorem owner_of_requestOf {request} (requested : self.requestOf event = some request)
    : self.owner event = none := by
  cases event with
  | apduReceived data source => rfl
  | taskStarts index => rfl
  | _ => cases requested

/-- Steps of the client TSM are quiet on the server side. -/
theorem withClient_effect {stepped} (client : Unmarked stepped.2)
    : self.Effect event (self.withClient stepped).1 (self.withClient stepped).2 :=
  .quiet rfl .rfl client

/-- A received APDU that decodes has its effect through one of the two TSMs. -/
theorem dispatchApdu_effect {data source pdu} (coherent : self.serverTsm.AllCoherent)
    (decoded : decodeApdu data = .ok pdu) (received : event = .apduReceived data source)
    : self.Effect event (self.dispatchApdu source pdu).1 (self.dispatchApdu source pdu).2 := by
  have unowned : self.owner event = none := by rw [received]; rfl
  have plainUpdate (key : Key) (body : ClientTransaction → ClientTransaction)
      : Unmarked (self.clientTsm.update key fun txn => (body txn, [])).2 :=
    ClientTSM.update_unmarked fun _ => unmarked_nil
  cases pdu with
  | confirmedRequest pdu =>
    simp only [dispatchApdu]
    split
    · next segmented =>
      have request : self.requestOf event = some (pdu, source) := by
        simp only [received, requestOf, decoded, segmented, if_true]
      have received := @ServerTSM.receiveConfirmedRequest_received self.serverTsm pdu source
        coherent
      unfold handleSegmentedRequest
      generalize self.serverTsm.receiveConfirmedRequest pdu source = outcome at received ⊢
      obtain ⟨serverTsm, sent, result⟩ := outcome
      dsimp only
      split
      · exact .accepted request received (busy_spawnTask _ _)
      · next idle => exact .received request received (fun ref data same => idle ref data same) .rfl
    · refine .quiet rfl ?_ unmarked_nil
      exact busy_spawnTask self _
  | unconfirmedRequest pdu =>
    refine .quiet rfl ?_ unmarked_nil
    exact busy_spawnTask self _
  | simpleAck pdu => exact withClient_effect (plainUpdate _ _)
  | complexAck pdu =>
    simp only [dispatchApdu]
    split
    · exact withClient_effect
        (ClientTSM.update_unmarked fun _ => (ClientTSM.onSegmentedComplexAck_sends _ _ _).unmarked)
    · exact withClient_effect (plainUpdate _ _)
  | error pdu => exact withClient_effect (plainUpdate _ _)
  | reject pdu => exact withClient_effect (plainUpdate _ _)
  | abort pdu => exact withClient_effect (plainUpdate _ _)
  | segmentAck pdu =>
    simp only [dispatchApdu]
    split
    · exact withClient_effect
        (ClientTSM.update_unmarked fun _ => (ClientTSM.onSegmentAck_sends _ _ _).unmarked)
    · exact .entry unowned (self.serverTsm.handleSegmentAckForResponse_step coherent source pdu) .rfl

/-- The start of a spawned task: a request is received, or a dispatch meets the DCC check. -/
theorem startTask_effect {index : Nat} {task : Task} {started : Application}
    {waiting : Option Task} (coherent : self.serverTsm.AllCoherent)
    (plain : self.PlainRequests) (present : self.backgroundTasks[index]? = some task)
    (starts : self.startTask task = some (started, sent, waiting))
    : self.Effect (.taskStarts index)
        { started with backgroundTasks := replaceTask started.backgroundTasks index waiting }
        sent := by
  have before := busy_perm present
  have after := @busy_replaceTask _ _ _ waiting present
  cases task with
  | handleConfirmedRequest pdu source =>
    have unsegmented := plain pdu source (List.mem_of_getElem? present)
    have request : self.requestOf (.taskStarts index) = some (pdu, source) := by
      simp only [requestOf, present]
    have received := @ServerTSM.receiveConfirmedRequest_received self.serverTsm pdu source
      coherent
    simp only [startTask] at starts
    generalize self.serverTsm.receiveConfirmedRequest pdu source = outcome at received starts
    obtain ⟨serverTsm, sent', result⟩ := outcome
    dsimp only at starts
    split at starts
    · next ref data =>
        simp only [startDispatch] at starts
        split at starts
        · cases starts
          exact .refused request received unsegmented (after.trans before.symm)
        · cases starts
          exact .accepted request received (after.trans (before.symm.cons ref))
    · next idle =>
        cases starts
        exact .received request received (fun ref data same => idle ref data same)
          (after.trans before.symm)
  | handleUnconfirmedRequest pdu source =>
    cases starts
    exact .quiet rfl (after.trans before.symm) unmarked_nil
  | dispatchRequest ref serviceChoice serviceData source =>
    simp only [startTask, startDispatch] at starts
    split at starts
    · next drops =>
        cases starts
        exact .dropped rfl present drops rfl (before.trans (after.symm.cons ref)) rfl
    · cases starts
      exact .quiet rfl (after.trans before.symm) unmarked_nil
  | awaitHandler ref serviceChoice serviceData source => cases starts

/-- The end of a handler: a response is sent, segmented or aborted. -/
theorem finishDispatch_finished {ref serviceChoice txn source outcome}
    : Finished self.serverTsm ref txn source
        (self.finishDispatch ref txn serviceChoice source outcome).1.serverTsm
        (self.finishDispatch ref txn serviceChoice source outcome).2 := by
  have noData (response : APDU) (simple : ∀ pdu, response ≠ .complexAck pdu)
      : Finished self.serverTsm ref txn source
          (self.respond ref txn source response).1.serverTsm
          (self.respond ref txn source response).2 :=
    .responded fun pdu same => absurd same (simple pdu)
  unfold finishDispatch
  split
  · next data =>
      split
      · unfold ServerTSM.startSegmentedResponse
        split
        · next stepped started =>
            split at started
            · cases started
              exact .aborted
            · next accepted =>
                split at started
                · cases started
                  exact .aborted
                · cases started
                · next sender created =>
                    cases started
                    exact .segmented (not_not.mp accepted) created
        · exact noData _ (by simp [responsePdu])
      · next small =>
          refine .responded fun pdu same => ?_
          cases same
          exact ⟨serviceChoice, data, rfl, Int.not_lt.mp small⟩
  · next other =>
      refine noData _ fun pdu same => ?_
      cases outcome with
      | result data =>
        cases data with
        | none => cases same
        | some data => exact other data rfl
      | _ => cases same

/-- The end of a handler spawns no task. -/
theorem finishDispatch_tasks (self : Application) (ref serviceChoice : Nat)
    (txn : ServerTransaction) (source : BACnetAddress) (outcome : HandlerOutcome)
    : (self.finishDispatch ref txn serviceChoice source outcome).1.backgroundTasks
      = self.backgroundTasks := by
  unfold finishDispatch
  split
  · split
    · split <;> rfl
    · rfl
  · rfl

/-- Every event has one of the effects, provided the transactions are coherent. -/
theorem step_effect (coherent : self.serverTsm.AllCoherent) (plain : self.PlainRequests)
    (moved : self.step event = some (next, sent))
    : self.Effect event next sent := by
  cases event with
  | apduReceived data source =>
    simp only [step, Option.some.injEq, onApduReceived] at moved
    split at moved
    · cases moved
      exact .quiet rfl .rfl unmarked_nil
    · next pdu decoded =>
        have effect := @dispatchApdu_effect self (.apduReceived data source) data source pdu
          coherent decoded rfl
        rw [moved] at effect
        exact effect
  | taskStarts index =>
    simp only [step, Option.bind_eq_some_iff, Option.map_eq_some_iff] at moved
    obtain ⟨task, present, ⟨started, sent', waiting⟩, starts, result⟩ := moved
    cases result
    exact startTask_effect coherent plain present starts
  | handlerEnds index outcome =>
    simp only [step, Option.bind_eq_some_iff, Option.map_eq_some_iff] at moved
    obtain ⟨task, present, ⟨ended, sent'⟩, ends, result⟩ := moved
    cases result
    cases task with
    | awaitHandler ref serviceChoice serviceData source =>
      simp only [handlerEnds, Option.map_eq_some_iff] at ends
      obtain ⟨txn, found, finished⟩ := ends
      have step := @finishDispatch_finished
        { self with handlerOutcomes := self.handlerOutcomes ++ [(ref, outcome)] }
        ref serviceChoice txn source outcome
      have tasks := finishDispatch_tasks
        { self with handlerOutcomes := self.handlerOutcomes ++ [(ref, outcome)] }
        ref serviceChoice txn source outcome
      rw [finished] at step tasks
      refine .finished rfl present found step ?_
      have split := busy_perm present
      unfold busy
      rwa [tasks]
    | _ => cases ends
  | serverTimerFires ref =>
    simp only [step, Option.map_eq_some_iff] at moved
    obtain ⟨stepped, fires, result⟩ := moved
    cases result
    exact .fired rfl fires rfl
  | clientTimerFires key =>
    simp only [step, Option.map_eq_some_iff] at moved
    obtain ⟨stepped, fired, result⟩ := moved
    cases result
    exact .quiet rfl .rfl (ClientTSM.fireTimer_unmarked fired)
  | dccStateChanges state =>
    cases moved
    exact .quiet rfl .rfl unmarked_nil
  | requestCalled serviceChoice requestData destination maxApduOverride =>
    cases moved
    exact .quiet rfl .rfl (ClientTSM.sendRequest_unmarked _ _ _ _ _)
  | requestReturns key =>
    simp only [step, Option.bind_eq_some_iff] at moved
    obtain ⟨txn, _, returned⟩ := moved
    split at returned
    · cases returned
      exact .quiet rfl .rfl unmarked_nil
    · cases returned

-- Waiting requests

/-- A task that is replaced leaves the others and what is left of it. -/
theorem mem_replaceTask {tasks index waiting task} (member : task ∈ replaceTask tasks index waiting)
    : task ∈ tasks ∨ waiting = some task := by
  cases waiting with
  | none => exact Or.inl (List.mem_of_mem_eraseIdx member)
  | some left =>
    rcases List.mem_or_eq_of_mem_set member with old | new
    · exact Or.inl old
    · exact Or.inr (congrArg some new.symm)

/-- What is left of a started task awaits a handler; no task is spawned by it. -/
theorem startTask_tasks {task started waiting}
    (starts : self.startTask task = some (started, sent, waiting))
    : started.backgroundTasks = self.backgroundTasks
      ∧ ∀ pdu source, waiting ≠ some (.handleConfirmedRequest pdu source) := by
  have dispatch (app : Application) (ref serviceChoice : Nat) (serviceData : Bytes)
      (source : BACnetAddress)
      : (app.startDispatch ref serviceChoice serviceData source).1.backgroundTasks
          = app.backgroundTasks
        ∧ ∀ pdu source', (app.startDispatch ref serviceChoice serviceData source).2
          ≠ some (.handleConfirmedRequest pdu source') := by
    unfold startDispatch
    split <;> simp
  cases task with
  | handleConfirmedRequest pdu source =>
    simp only [startTask] at starts
    split at starts
    · cases starts
      exact dispatch _ _ _ _ _
    · cases starts
      simp
  | handleUnconfirmedRequest pdu source =>
    cases starts
    simp
  | dispatchRequest ref serviceChoice serviceData source =>
    cases starts
    exact dispatch _ _ _ _ _
  | awaitHandler ref serviceChoice serviceData source => cases starts

/-- A received APDU spawns the task of an unsegmented request, or none that is one. -/
theorem dispatchApdu_tasks {source pdu task}
    (member : task ∈ (self.dispatchApdu source pdu).1.backgroundTasks)
    : task ∈ self.backgroundTasks
      ∨ (∃ request, pdu = .confirmedRequest request ∧ request.segmented = false
          ∧ task = .handleConfirmedRequest request source)
      ∨ ∀ request source', task ≠ .handleConfirmedRequest request source' := by
  cases pdu with
  | confirmedRequest pdu =>
    simp only [dispatchApdu] at member
    split at member
    · unfold handleSegmentedRequest at member
      dsimp only at member
      split at member
      · rcases List.mem_append.mp member with old | new
        · exact Or.inl old
        · exact Or.inr (Or.inr fun request source' same => by
            rw [same] at new
            simp at new)
      · exact Or.inl member
    · next whole =>
        rcases List.mem_append.mp member with old | new
        · exact Or.inl old
        · exact Or.inr (Or.inl ⟨pdu, rfl, by simpa using whole, List.mem_singleton.mp new⟩)
  | unconfirmedRequest pdu =>
    rcases List.mem_append.mp member with old | new
    · exact Or.inl old
    · exact Or.inr (Or.inr fun request source' same => by
        rw [same] at new
        simp at new)
  | simpleAck pdu => exact Or.inl member
  | complexAck pdu => exact Or.inl member
  | error pdu => exact Or.inl member
  | reject pdu => exact Or.inl member
  | abort pdu => exact Or.inl member
  | segmentAck pdu =>
    simp only [dispatchApdu] at member
    split at member <;> exact Or.inl member

/-- Requests that wait for their task stay plain: the decoder gives a sequence number to
segmented requests only.
-/
theorem step_plainRequests (plain : self.PlainRequests)
    (moved : self.step event = some (next, sent))
    : next.PlainRequests := by
  intro pdu source member
  cases event with
  | apduReceived data source' =>
    simp only [step, Option.some.injEq, onApduReceived] at moved
    split at moved
    · cases moved
      exact plain pdu source member
    · next apdu decoded =>
        have received := congrArg (fun outcome => outcome.1.backgroundTasks) moved
        dsimp only at received
        rw [← received] at member
        rcases dispatchApdu_tasks member with old | ⟨request, rfl, whole, same⟩ | other
        · exact plain pdu source old
        · cases same
          exact decodeConfirmedRequest_unsegmented (decodeApdu_confirmedRequest decoded) whole
        · exact absurd rfl (other pdu source)
  | taskStarts index =>
    simp only [step, Option.bind_eq_some_iff, Option.map_eq_some_iff] at moved
    obtain ⟨task, _, ⟨started, sent', waiting⟩, starts, result⟩ := moved
    cases result
    obtain ⟨same, noRequest⟩ := startTask_tasks starts
    rcases mem_replaceTask member with old | left
    · exact plain pdu source (same ▸ old)
    · exact absurd left (noRequest pdu source)
  | handlerEnds index outcome =>
    simp only [step, Option.bind_eq_some_iff, Option.map_eq_some_iff] at moved
    obtain ⟨task, _, ⟨ended, sent'⟩, ends, result⟩ := moved
    cases result
    have same : ended.backgroundTasks = self.backgroundTasks := by
      cases task with
      | awaitHandler ref serviceChoice serviceData source =>
        simp only [handlerEnds, Option.map_eq_some_iff] at ends
        obtain ⟨txn, _, finished⟩ := ends
        have tasks := finishDispatch_tasks
          { self with handlerOutcomes := self.handlerOutcomes ++ [(ref, outcome)] }
          ref serviceChoice txn source outcome
        rwa [finished] at tasks
      | _ => cases ends
    exact plain pdu source (same ▸ List.mem_of_mem_eraseIdx member)
  | serverTimerFires ref =>
    simp only [step, Option.map_eq_some_iff] at moved
    obtain ⟨stepped, _, result⟩ := moved
    cases result
    exact plain pdu source member
  | clientTimerFires key =>
    simp only [step, Option.map_eq_some_iff] at moved
    obtain ⟨stepped, _, result⟩ := moved
    cases result
    exact plain pdu source member
  | dccStateChanges state =>
    cases moved
    exact plain pdu source member
  | requestCalled serviceChoice requestData destination maxApduOverride =>
    cases moved
    exact plain pdu source member
  | requestReturns key =>
    simp only [step, Option.bind_eq_some_iff] at moved
    obtain ⟨txn, _, returned⟩ := moved
    split at returned
    · cases returned
      exact plain pdu source member
    · cases returned

end Application

end BacPy
