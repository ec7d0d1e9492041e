import BacPy.App.NegativeAnswers

/-! The two roles of a device: requests it makes as a client and requests it answers as a server.

Both transaction tables are keyed by (address, invoke ID), so only the type of a PDU and its
server flag can tell the roles apart.
-/

namespace BacPy

open Library

/-- PDUs a peer sends as the client of a transaction (Clause 5.4). -/
def APDU.SentAsClient : APDU → Prop
  | .confirmedRequest _ => True
  | .segmentAck pdu => pdu.sentByServer = false
  | .abort pdu => pdu.sentByServer = false
  | _ => False

/-- PDUs a peer sends as the server of a transaction (Clause 5.4). -/
def APDU.SentAsServer : APDU → Prop
  | .simpleAck _ | .complexAck _ | .error _ | .reject _ => True
  | .segmentAck pdu => pdu.sentByServer = true
  | .abort pdu => pdu.sentByServer = true
  | _ => False

namespace Application

/-- A received PDU acts on the transactions of the other role only. Tasks it spawns act later,
so no step of a task may change client transactions either.
-/
structure RolesSeparate (app : Application) (data : Bytes) (source : BACnetAddress) (pdu : APDU)
    : Prop where
  client : pdu.SentAsClient → ∀ key,
    (app.onApduReceived data source).1.clientTsm.transactions.get key
      = app.clientTsm.transactions.get key
  tasks : ∀ (later next : Application) index sent,
    (later.step (.taskStarts index) = some (next, sent)
      ∨ ∃ outcome, later.step (.handlerEnds index outcome) = some (next, sent))
    → next.clientTsm = later.clientTsm
  server : pdu.SentAsServer
    → (app.onApduReceived data source).1.serverTsm = app.serverTsm
      ∧ (app.onApduReceived data source).1.backgroundTasks = app.backgroundTasks

/-- The PDU is an Abort from a client, and a request of ours to the same peer with the same
invoke ID is outstanding.
-/
def ClientAbortMeetsOwnRequest (self : Application) (source : BACnetAddress) (pdu : APDU)
    : Prop :=
  ∃ abort txn, pdu = .abort abort ∧ abort.sentByServer = false
    ∧ self.clientTsm.transactions.get (source, abort.invokeId) = some txn
    ∧ txn.future = .pending

-- Background tasks act as a server

@[simp] theorem startDispatch_clientTsm (self : Application) (ref serviceChoice : Nat)
    (serviceData : Bytes) (source : BACnetAddress)
    : (self.startDispatch ref serviceChoice serviceData source).1.clientTsm = self.clientTsm := by
  unfold startDispatch
  split <;> rfl

@[simp] theorem finishDispatch_clientTsm (self : Application) (ref : Nat) (txn)
    (serviceChoice : Nat) (source : BACnetAddress) (outcome)
    : (self.finishDispatch ref txn serviceChoice source outcome).1.clientTsm
      = self.clientTsm := by
  unfold finishDispatch
  split
  · split
    · split <;> rfl
    · rfl
  · rfl

/-- The start of a task leaves the client TSM alone, by cases on the task. -/
theorem startTask_clientTsm {self next : Application} {task : Task} {sent : List Sent}
    {waiting : Option Task} (started : self.startTask task = some (next, sent, waiting))
    : next.clientTsm = self.clientTsm := by
  cases task with
  | handleConfirmedRequest pdu source =>
    simp only [startTask] at started
    split at started
    all_goals
      simp only [Option.some.injEq, Prod.mk.injEq] at started
      obtain ⟨rfl, _⟩ := started
      simp
  | handleUnconfirmedRequest pdu source =>
    simp only [startTask, Option.some.injEq, Prod.mk.injEq] at started
    exact started.1 ▸ rfl
  | dispatchRequest ref serviceChoice serviceData source =>
    simp only [startTask, Option.some.injEq, Prod.mk.injEq] at started
    obtain ⟨rfl, _⟩ := started
    simp
  | awaitHandler ref serviceChoice serviceData source => simp [startTask] at started

theorem handlerEnds_clientTsm {self next : Application} {task : Task} {sent : List Sent}
    {outcome : HandlerOutcome} (ended : self.handlerEnds outcome task = some (next, sent))
    : next.clientTsm = self.clientTsm := by
  cases task with
  | awaitHandler ref serviceChoice serviceData source =>
    simp only [handlerEnds, Option.map_eq_some_iff] at ended
    obtain ⟨txn, _, finished⟩ := ended
    simpa [finished] using
      finishDispatch_clientTsm
        { self with handlerOutcomes := self.handlerOutcomes ++ [(ref, outcome)] }
        ref txn serviceChoice source outcome
  | _ => simp [handlerEnds] at ended

theorem taskSteps_clientTsm (later next : Application) (index : Nat) (sent : List Sent)
    (moved : later.step (.taskStarts index) = some (next, sent)
      ∨ ∃ outcome, later.step (.handlerEnds index outcome) = some (next, sent))
    : next.clientTsm = later.clientTsm := by
  rcases moved with starts | ⟨outcome, ends⟩
  · simp only [step, Option.bind_eq_some_iff, Option.map_eq_some_iff] at starts
    obtain ⟨task, _, ⟨started, taskSent, waiting⟩, startedHere, result⟩ := starts
    simp only [Prod.mk.injEq] at result
    have kept := startTask_clientTsm startedHere
    rw [← result.1]
    exact kept
  · simp only [step, Option.bind_eq_some_iff, Option.map_eq_some_iff] at ends
    obtain ⟨task, _, ⟨ended, taskSent⟩, endedHere, result⟩ := ends
    simp only [Prod.mk.injEq] at result
    have kept := handlerEnds_clientTsm endedHere
    rw [← result.1]
    exact kept

-- Dispatch by role

@[simp] theorem handleSegmentedRequest_clientTsm (self : Application) (pdu) (source : BACnetAddress)
    : (self.handleSegmentedRequest pdu source).1.clientTsm = self.clientTsm := by
  unfold handleSegmentedRequest
  split
  split <;> rfl

theorem dispatchApdu_sentAsServer {self : Application} {source : BACnetAddress} {pdu : APDU}
    (role : pdu.SentAsServer)
    : (self.dispatchApdu source pdu).1.serverTsm = self.serverTsm
      ∧ (self.dispatchApdu source pdu).1.backgroundTasks = self.backgroundTasks := by
  cases pdu with
  | segmentAck pdu =>
    have fromServer : pdu.sentByServer = true := role
    simp [dispatchApdu, fromServer, withClient]
  | confirmedRequest pdu => exact role.elim
  | unconfirmedRequest pdu => exact role.elim
  | simpleAck pdu => exact ⟨rfl, rfl⟩
  | complexAck pdu => exact ⟨rfl, rfl⟩
  | error pdu => exact ⟨rfl, rfl⟩
  | reject pdu => exact ⟨rfl, rfl⟩
  | abort pdu => exact ⟨rfl, rfl⟩

theorem dispatchApdu_sentAsClient {self : Application} {source : BACnetAddress} {pdu : APDU}
    (role : pdu.SentAsClient) (noAbort : ∀ abort, pdu ≠ .abort abort)
    : (self.dispatchApdu source pdu).1.clientTsm = self.clientTsm := by
  cases pdu with
  | confirmedRequest pdu =>
    simp only [dispatchApdu]
    split
    · exact handleSegmentedRequest_clientTsm self pdu source
    · rfl
  | segmentAck pdu =>
    have fromClient : pdu.sentByServer = false := role
    simp [dispatchApdu, fromClient, withServer]
  | abort pdu => exact absurd rfl (noAbort pdu)
  | _ => exact role.elim

/-- An Abort reaches the client transaction with its invoke ID, whoever sent it: it changes a
transaction exactly if that one is outstanding.
-/
theorem dispatchApdu_abort_unchanged_iff (self : Application) (source : BACnetAddress)
    (abort : AbortPDU)
    : (∀ key, (self.dispatchApdu source (.abort abort)).1.clientTsm.transactions.get key
          = self.clientTsm.transactions.get key)
      ↔ ¬ ∃ txn, self.clientTsm.transactions.get (source, abort.invokeId) = some txn
          ∧ txn.future = .pending := by
  constructor
  · rintro unchanged ⟨txn, found, pending⟩
    have handled := unchanged (source, abort.invokeId)
    simp only [dispatchApdu, withClient, ClientTSM.handleAbort,
      ClientTSM.get_update_self found (by simp [pending, Future.done]), found] at handled
    have futures := congrArg ClientTransaction.future (Option.some.inj handled)
    simp [ClientTSM.onFailure, pending] at futures
  · intro none key
    simp only [dispatchApdu, withClient, ClientTSM.handleAbort, ClientTSM.update]
    cases found : self.clientTsm.transactions.get (source, abort.invokeId) with
    | none => rfl
    | some txn =>
      have done : txn.future.done = true := by
        cases future : txn.future with
        | pending => exact absurd ⟨txn, found, future⟩ none
        | result data => rfl
        | exception error => rfl
        | cancelled => rfl
      simp [done]

/-- The roles are kept apart for every received PDU but one kind: the Abort of a client goes to
the client TSM, so it must not meet an outstanding request of ours with its invoke ID.
-/
theorem rolesSeparate_iff {self : Application} {data : Bytes} {source : BACnetAddress}
    {pdu : APDU} (decoded : decodeApdu data = .ok pdu)
    : self.RolesSeparate data source pdu ↔ ¬ self.ClientAbortMeetsOwnRequest source pdu := by
  have received : self.onApduReceived data source = self.dispatchApdu source pdu := by
    simp only [onApduReceived, decoded]
  constructor
  · rintro separate ⟨abort, txn, rfl, fromClient, found, pending⟩
    have unchanged := separate.client fromClient
    rw [received] at unchanged
    exact (dispatchApdu_abort_unchanged_iff self source abort).mp unchanged ⟨txn, found, pending⟩
  · intro apart
    refine ⟨?_, taskSteps_clientTsm, ?_⟩
    · intro role
      rw [received]
      by_cases isAbort : ∃ abort, pdu = .abort abort
      · obtain ⟨abort, rfl⟩ := isAbort
        apply (dispatchApdu_abort_unchanged_iff self source abort).mpr
        rintro ⟨txn, found, pending⟩
        exact apart ⟨abort, txn, rfl, role, found, pending⟩
      · intro key
        rw [dispatchApdu_sentAsClient role fun abort same => isAbort ⟨abort, same⟩]
    · intro role
      rw [received]
      exact dispatchApdu_sentAsServer role

/-- Two controllers that write to each other, both with invoke ID 0: the segments of the peer's
request are being reassembled while our own request is outstanding.
-/
def writingBothWays : Application :=
  (awaitingWrite.onApduReceived [0x0C, 0x05, 0, 0, 4, 15, 0x0C] writeTarget).1

/-- The reply of the peer to our request leaves the server TSM alone. -/
theorem simpleAck_separate
    : writingBothWays.RolesSeparate [0x20, 0, 15] writeTarget
        (.simpleAck { invokeId := 0, serviceChoice := 15 }) := by
  apply (rolesSeparate_iff (by rfl)).mpr
  rintro ⟨abort, txn, isAbort, _⟩
  cases isAbort

/-- The peer aborts its own request; it is our request to the peer that ends. -/
theorem clientAbort_ends_own_request
    : decodeApdu [0x70, 0, 0]
        = .ok (.abort { sentByServer := false, invokeId := 0, abortReason := .other })
      ∧ (writingBothWays.serverTsm.transactions.get (writeTarget, 0)).isSome
      ∧ (writingBothWays.clientTsm.transactions.get (writeTarget, 0)).map
          ClientTransaction.future = some .pending
      ∧ ((writingBothWays.onApduReceived [0x70, 0, 0] writeTarget).1.clientTsm.transactions.get
          (writeTarget, 0)).map ClientTransaction.future
        = some (.exception (.abortError .other))
      ∧ ¬ writingBothWays.RolesSeparate [0x70, 0, 0] writeTarget
          (.abort { sentByServer := false, invokeId := 0, abortReason := .other }) := by
  have before : (writingBothWays.clientTsm.transactions.get (writeTarget, 0)).map
      ClientTransaction.future = some .pending := by
    decide +kernel
  have after : ((writingBothWays.onApduReceived [0x70, 0, 0] writeTarget).1.clientTsm.transactions.get
      (writeTarget, 0)).map ClientTransaction.future
      = some (.exception (.abortError .other)) := by
    decide +kernel
  refine ⟨rfl, by decide +kernel, before, after, fun separate => ?_⟩
  have same := separate.client rfl (writeTarget, 0)
  rw [same, before] at after
  cases after

end Application

end BacPy
