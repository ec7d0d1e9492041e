import BacPy.App.ClientTsm
import BacPy.Segmentation.Transfer

/-! What the PDUs of the client TSM look like, and what a handler leaves of its transaction. -/

namespace BacPy

open Library

def APDU.invokeId : APDU → Option Nat
  | .confirmedRequest pdu => some pdu.invokeId
  | .unconfirmedRequest _ => none
  | .simpleAck pdu => some pdu.invokeId
  | .complexAck pdu => some pdu.invokeId
  | .segmentAck pdu => some pdu.invokeId
  | .error pdu => some pdu.invokeId
  | .reject pdu => some pdu.invokeId
  | .abort pdu => some pdu.invokeId

def Unmarked (sent : List Sent) : Prop := ∀ message ∈ sent, message.transaction = none

@[simp] theorem unmarked_nil : Unmarked [] := by simp [Unmarked]

/-- A PDU of a client transaction: for its peer, with its invoke ID. -/
structure Sent.IsOf (message : Sent) (txn : ClientTransaction) : Prop where
  destination : message.destination = txn.destination
  invokeId : message.apdu.invokeId = some txn.invokeId
  unmarked : message.transaction = none

def ClientTransaction.Sends (txn : ClientTransaction) (sent : List Sent) : Prop :=
  ∀ message ∈ sent, message.IsOf txn

@[simp] theorem ClientTransaction.sends_nil (txn : ClientTransaction) : txn.Sends [] := by
  simp [ClientTransaction.Sends]

theorem ClientTransaction.Sends.unmarked {txn : ClientTransaction} {sent : List Sent}
    (sends : txn.Sends sent)
    : Unmarked sent :=
  fun message member => (sends message member).unmarked

namespace ClientTSM

theorem fillAndSendRequestWindow_sends (self : ClientTSM) (txn : ClientTransaction)
    : txn.Sends (self.fillAndSendRequestWindow txn).2 := by
  unfold fillAndSendRequestWindow
  split
  · exact txn.sends_nil
  · intro message member
    obtain ⟨segment, _, rfl⟩ := List.mem_map.mp member
    exact ⟨rfl, rfl, rfl⟩

theorem transmit_sends {self : ClientTSM} {txn next : ClientTransaction} {sent : List Sent}
    (transmitted : self.transmit txn = .ok (next, sent))
    : txn.Sends sent := by
  unfold transmit sendSegmentedRequest at transmitted
  split at transmitted
  · split at transmitted
    · cases transmitted
      exact txn.sends_nil
    · cases transmitted
    · next sender created =>
        have same := congrArg Prod.snd (Except.ok.inj transmitted)
        dsimp only at same
        rw [← same]
        intro message member
        have own := fillAndSendRequestWindow_sends self
          { txn with segmentSender := some sender, state := .segmentedRequest } message member
        exact ⟨own.destination, own.invokeId, own.unmarked⟩
  · cases transmitted
    intro message member
    rw [List.mem_singleton.mp member]
    exact ⟨rfl, rfl, rfl⟩

theorem sendClientSegmentAck_sends (txn : ClientTransaction) (seq : Nat) (negative : Bool)
    : txn.Sends (sendClientSegmentAck txn seq negative) := by
  unfold sendClientSegmentAck
  split
  · exact txn.sends_nil
  · intro message member
    rw [List.mem_singleton.mp member]
    exact ⟨rfl, rfl, rfl⟩

theorem abortTransaction_sends (txn : ClientTransaction) (reason : AbortReason)
    : txn.Sends (abortTransaction txn reason).2 := by
  intro message member
  rw [List.mem_singleton.mp member]
  exact ⟨rfl, rfl, rfl⟩

/-- PDUs of a transaction with the same peer and invoke ID. -/
theorem sends_of_same {txn other : ClientTransaction} {sent : List Sent}
    (sends : other.Sends sent) (destination : other.destination = txn.destination)
    (invokeId : other.invokeId = txn.invokeId)
    : txn.Sends sent :=
  fun message member => ⟨destination ▸ (sends message member).destination,
    invokeId ▸ (sends message member).invokeId, (sends message member).unmarked⟩

theorem onSegmentAck_sends (self : ClientTSM) (txn : ClientTransaction) (pdu : SegmentAckPDU)
    : txn.Sends (self.onSegmentAck txn pdu).2 := by
  unfold onSegmentAck
  split
  · exact txn.sends_nil
  · split
    · exact txn.sends_nil
    · split
      · exact abortTransaction_sends _ _
      · dsimp only
        split
        · exact txn.sends_nil
        · exact sends_of_same (fillAndSendRequestWindow_sends _ _) rfl rfl

theorem onSegmentedComplexAck_sends (self : ClientTSM) (txn : ClientTransaction)
    (pdu : ComplexAckPDU)
    : txn.Sends (self.onSegmentedComplexAck txn pdu).2 := by
  unfold onSegmentedComplexAck
  split
  · unfold onFirstResponseSegment
    dsimp only
    split
    · dsimp only
      exact sends_of_same (sendClientSegmentAck_sends _ _ _) rfl rfl
    · split <;> exact txn.sends_nil
  · unfold onResponseSegment
    split
    · exact txn.sends_nil
    · split
      · dsimp only
        split
        · split
          all_goals
            dsimp only
            exact sends_of_same (sendClientSegmentAck_sends _ _ _) rfl rfl
        · dsimp only
          exact sends_of_same (sendClientSegmentAck_sends _ _ _) rfl rfl
        · dsimp only
          exact sends_of_same (sendClientSegmentAck_sends _ _ _) rfl rfl
        · exact txn.sends_nil
        · exact sends_of_same (abortTransaction_sends _ _) rfl rfl
      · exact txn.sends_nil

theorem onTimeout_sends (self : ClientTSM) (txn : ClientTransaction)
    : txn.Sends (self.onTimeout txn).2 := by
  unfold onTimeout
  split
  · dsimp only
    split
    · next transmitted => exact sends_of_same (transmit_sends transmitted) rfl rfl
    · exact txn.sends_nil
  · exact txn.sends_nil

theorem onSegmentTimeout_sends (self : ClientTSM) (txn : ClientTransaction)
    : txn.Sends (self.onSegmentTimeout txn).2 := by
  unfold onSegmentTimeout
  split
  · split
    · exact sends_of_same (fillAndSendRequestWindow_sends _ _) rfl rfl
    · exact abortTransaction_sends _ _
  · split
    · dsimp only
      split
      · exact txn.sends_nil
      · dsimp only
        exact sends_of_same (sendClientSegmentAck_sends _ _ _) rfl rfl
    · exact abortTransaction_sends _ _
  · exact txn.sends_nil

/-- A handler sends what its body sends. -/
theorem update_unmarked {self : ClientTSM} {key : Key}
    {body : ClientTransaction → ClientTransaction × List Sent}
    (unmarked : ∀ txn, Unmarked (body txn).2)
    : Unmarked (self.update key body).2 := by
  unfold update
  split
  · exact unmarked_nil
  · split
    · exact unmarked_nil
    · exact unmarked _

theorem fireTimer_unmarked {self next : ClientTSM} {key : Key} {sent : List Sent}
    (fired : self.fireTimer key = some (next, sent))
    : Unmarked sent := by
  simp only [fireTimer, Option.bind_eq_some_iff, Option.map_eq_some_iff] at fired
  obtain ⟨txn, _, timer, _, stepped⟩ := fired
  have unmarked := congrArg Prod.snd stepped
  dsimp only at unmarked
  rw [← unmarked]
  apply update_unmarked
  intro txn
  cases timer with
  | onTimeout => exact (onTimeout_sends _ _).unmarked
  | onSegmentTimeout waitForSeg => exact (onSegmentTimeout_sends _ _).unmarked

theorem sendRequest_unmarked (self : ClientTSM) (serviceChoice : Nat) (requestData : Bytes)
    (destination : BACnetAddress) (maxApduOverride : Option Nat)
    : Unmarked (self.sendRequest serviceChoice requestData destination maxApduOverride).2.2 := by
  unfold sendRequest
  split
  · exact unmarked_nil
  · dsimp only
    split
    · exact unmarked_nil
    · next transmitted => exact (transmit_sends transmitted).unmarked

-- One transaction

/-- What the client sends for a transaction: its request, whole or in segments of the current
window, its SegmentACKs and Aborts.
-/
inductive Emits (tsm : ClientTSM) (txn : ClientTransaction) : APDU → Prop
  | whole (short : ¬ computeMaxSegmentPayload txn.effectiveMaxApdu .confirmedRequest
      < txn.requestData.length)
    : Emits tsm txn (.confirmedRequest (tsm.confirmedRequestPdu txn))
  | segment {sender entry} (sending : txn.segmentSender = some sender)
    (inside : entry ∈ sender.fillWindow)
    : Emits tsm txn (.confirmedRequest (tsm.requestSegmentPdu txn sender entry))
  | segmentAck {pdu} (fromClient : pdu.sentByServer = false) : Emits tsm txn (.segmentAck pdu)
  | abort {pdu} (fromClient : pdu.sentByServer = false) : Emits tsm txn (.abort pdu)

/-- What a handler leaves of its transaction: the same request, split as before or anew, and PDUs
of the client.
-/
structure Progress (tsm : ClientTSM) (old : ClientTransaction)
    (stepped : ClientTransaction × List Sent) : Prop where
  invokeId : stepped.1.invokeId = old.invokeId
  destination : stepped.1.destination = old.destination
  serviceChoice : stepped.1.serviceChoice = old.serviceChoice
  requestData : stepped.1.requestData = old.requestData
  effectiveMaxApdu : stepped.1.effectiveMaxApdu = old.effectiveMaxApdu
  sender : ∀ sender, stepped.1.segmentSender = some sender
    → (∃ before, old.segmentSender = some before ∧ sender.segments = before.segments)
      ∨ splitPayload old.requestData
          (computeMaxSegmentPayload old.effectiveMaxApdu .confirmedRequest) = .ok sender.segments
  emits : ∀ message ∈ stepped.2, Emits tsm stepped.1 message.apdu

variable {self : ClientTSM} {old txn : ClientTransaction}

/-- Nothing happened. -/
theorem Progress.refl (self : ClientTSM) (txn) : self.Progress txn (txn, []) :=
  ⟨rfl, rfl, rfl, rfl, rfl, fun sender sending => Or.inl ⟨sender, sending, rfl⟩, by simp⟩

/-- The window of a transaction that has made progress goes out. -/
theorem Progress.fillAndSendRequestWindow (progress : self.Progress old (txn, []))
    : self.Progress old (self.fillAndSendRequestWindow txn) := by
  unfold ClientTSM.fillAndSendRequestWindow
  split
  · exact progress
  · next sender sending =>
      refine ⟨progress.invokeId, progress.destination, progress.serviceChoice,
        progress.requestData, progress.effectiveMaxApdu, ?_, ?_⟩
      · intro other same
        exact progress.sender other same
      · intro message member
        obtain ⟨entry, inside, rfl⟩ := List.mem_map.mp member
        exact @Emits.segment self { txn with timeoutHandle := some (.onSegmentTimeout true) }
          sender entry sending inside

/-- Sending a request, whole or in segments. -/
theorem Progress.transmit {stepped} (progress : self.Progress old (txn, []))
    (transmitted : self.transmit txn = .ok stepped)
    : self.Progress old stepped := by
  unfold ClientTSM.transmit at transmitted
  split at transmitted
  · unfold sendSegmentedRequest at transmitted
    split at transmitted
    · cases transmitted
      exact ⟨progress.invokeId, progress.destination, progress.serviceChoice,
        progress.requestData, progress.effectiveMaxApdu, progress.sender, by simp⟩
    · cases transmitted
    · next sender created =>
        obtain ⟨split, _⟩ := SegmentSender.create_spec created
        rw [progress.requestData, progress.effectiveMaxApdu] at split
        cases transmitted
        apply Progress.fillAndSendRequestWindow
        refine ⟨progress.invokeId, progress.destination, progress.serviceChoice,
          progress.requestData, progress.effectiveMaxApdu, ?_, by simp⟩
        intro other same
        cases same
        exact Or.inr split
  · next short =>
      cases transmitted
      refine ⟨progress.invokeId, progress.destination, progress.serviceChoice,
        progress.requestData, progress.effectiveMaxApdu, progress.sender, ?_⟩
      intro message member
      rw [List.mem_singleton.mp member]
      exact @Emits.whole self
        { txn with state := .awaitConfirmation, timeoutHandle := some .onTimeout } short

theorem Progress.sendClientSegmentAck (progress : self.Progress old (txn, [])) (sending) (seq : Nat)
    (negative : Bool)
    : self.Progress old (txn, ClientTSM.sendClientSegmentAck sending seq negative) := by
  refine ⟨progress.invokeId, progress.destination, progress.serviceChoice, progress.requestData,
    progress.effectiveMaxApdu, progress.sender, ?_⟩
  intro message member
  unfold ClientTSM.sendClientSegmentAck at member
  split at member
  · cases member
  · rw [List.mem_singleton.mp member]
    exact .segmentAck rfl

theorem abortTransaction_progress (txn) (reason : AbortReason)
    : self.Progress txn (abortTransaction txn reason) := by
  have emits (other : ClientTransaction)
      : ∀ message ∈ (abortTransaction txn reason).2, Emits self other message.apdu := by
    intro message member
    rw [List.mem_singleton.mp member]
    exact .abort rfl
  refine ⟨?_, ?_, ?_, ?_, ?_, ?_, emits _⟩
  all_goals
    simp only [abortTransaction]
    split
  all_goals first | rfl | exact fun sender sending => Or.inl ⟨sender, sending, rfl⟩

theorem onAck_progress (txn) (data : Bytes)
    : self.Progress txn (onAck txn data, []) := by
  unfold onAck
  split
  · exact .refl self txn
  · exact ⟨rfl, rfl, rfl, rfl, rfl, fun sender sending => Or.inl ⟨sender, sending, rfl⟩, by simp⟩

theorem onFailure_progress (txn error)
    : self.Progress txn (onFailure txn error, []) :=
  ⟨rfl, rfl, rfl, rfl, rfl, fun sender sending => Or.inl ⟨sender, sending, rfl⟩, by simp⟩

theorem onSegmentAck_progress (self : ClientTSM) (txn) (pdu : SegmentAckPDU)
    : self.Progress txn (self.onSegmentAck txn pdu) := by
  unfold onSegmentAck
  split
  · exact .refl self txn
  · split
    · exact .refl self txn
    · next sender sending =>
        split
        · exact abortTransaction_progress txn _
        · dsimp only
          split
          · exact ⟨rfl, rfl, rfl, rfl, rfl, fun other same => (by cases same), by simp⟩
          · apply Progress.fillAndSendRequestWindow
            refine ⟨rfl, rfl, rfl, rfl, rfl, ?_, by simp⟩
            intro other same
            cases same
            exact Or.inl ⟨sender, sending, rfl⟩

theorem onSegmentedComplexAck_progress (self : ClientTSM) (txn) (pdu : ComplexAckPDU)
    : self.Progress txn (self.onSegmentedComplexAck txn pdu) := by
  have keeps (sender : SegmentSender) (sending : txn.segmentSender = some sender)
      : (∃ before, txn.segmentSender = some before ∧ sender.segments = before.segments)
        ∨ splitPayload txn.requestData
          (computeMaxSegmentPayload txn.effectiveMaxApdu .confirmedRequest)
          = .ok sender.segments :=
    Or.inl ⟨sender, sending, rfl⟩
  unfold onSegmentedComplexAck
  split
  · unfold onFirstResponseSegment
    dsimp only
    split
    · apply Progress.sendClientSegmentAck
      exact ⟨rfl, rfl, rfl, rfl, rfl, keeps, by simp⟩
    · split <;> exact ⟨rfl, rfl, rfl, rfl, rfl, keeps, by simp⟩
  · unfold onResponseSegment
    split
    · exact .refl self txn
    · split
      · dsimp only
        split
        · split
          all_goals
            apply Progress.sendClientSegmentAck
            exact ⟨rfl, rfl, rfl, rfl, rfl, keeps, by simp⟩
        · apply Progress.sendClientSegmentAck
          exact ⟨rfl, rfl, rfl, rfl, rfl, keeps, by simp⟩
        · apply Progress.sendClientSegmentAck
          exact ⟨rfl, rfl, rfl, rfl, rfl, keeps, by simp⟩
        · exact ⟨rfl, rfl, rfl, rfl, rfl, keeps, by simp⟩
        · have aborted := @abortTransaction_progress self
          exact ⟨(aborted _ _).invokeId, (aborted _ _).destination, (aborted _ _).serviceChoice,
            (aborted _ _).requestData, (aborted _ _).effectiveMaxApdu, (aborted _ _).sender,
            (aborted _ _).emits⟩
      · exact .refl self txn

theorem onTimeout_progress (self : ClientTSM) (txn)
    : self.Progress txn (self.onTimeout txn) := by
  unfold onTimeout
  split
  · have counted : self.Progress txn ({ txn with retryCount := txn.retryCount + 1 }, []) :=
      ⟨rfl, rfl, rfl, rfl, rfl, fun sender sending => Or.inl ⟨sender, sending, rfl⟩, by simp⟩
    dsimp only
    split
    · next transmitted => exact counted.transmit transmitted
    · exact counted
  · exact ⟨rfl, rfl, rfl, rfl, rfl, fun sender sending => Or.inl ⟨sender, sending, rfl⟩, by simp⟩

theorem onSegmentTimeout_progress (self : ClientTSM) (txn)
    : self.Progress txn (self.onSegmentTimeout txn) := by
  have keeps (sender : SegmentSender) (sending : txn.segmentSender = some sender)
      : (∃ before, txn.segmentSender = some before ∧ sender.segments = before.segments)
        ∨ splitPayload txn.requestData
          (computeMaxSegmentPayload txn.effectiveMaxApdu .confirmedRequest)
          = .ok sender.segments :=
    Or.inl ⟨sender, sending, rfl⟩
  unfold onSegmentTimeout
  split
  · split
    · apply Progress.fillAndSendRequestWindow
      exact ⟨rfl, rfl, rfl, rfl, rfl, keeps, by simp⟩
    · exact abortTransaction_progress txn _
  · split
    · dsimp only
      split
      · exact ⟨rfl, rfl, rfl, rfl, rfl, keeps, by simp⟩
      · apply Progress.sendClientSegmentAck
        exact ⟨rfl, rfl, rfl, rfl, rfl, keeps, by simp⟩
    · exact abortTransaction_progress txn _
  · exact .refl self txn

-- Received APDUs and timers

/-- Whatever arrives, at most one transaction makes progress. -/
theorem receive_cases (self : ClientTSM) (source : BACnetAddress) (apdu : APDU)
    : self.receive source apdu = (self, [])
      ∨ ∃ key body, (∀ txn, self.Progress txn (body txn))
        ∧ self.receive source apdu = self.update key body := by
  cases apdu with
  | simpleAck pdu => exact Or.inr ⟨_, _, fun txn => onAck_progress txn _, rfl⟩
  | complexAck pdu =>
    simp only [receive]
    split
    · exact Or.inr ⟨_, _, fun txn => onSegmentedComplexAck_progress self txn pdu, rfl⟩
    · exact Or.inr ⟨_, _, fun txn => onAck_progress txn _, rfl⟩
  | error pdu => exact Or.inr ⟨_, _, fun txn => onFailure_progress txn _, rfl⟩
  | reject pdu => exact Or.inr ⟨_, _, fun txn => onFailure_progress txn _, rfl⟩
  | abort pdu => exact Or.inr ⟨_, _, fun txn => onFailure_progress txn _, rfl⟩
  | segmentAck pdu =>
    simp only [receive]
    split
    · exact Or.inr ⟨_, _, fun txn => onSegmentAck_progress self txn pdu, rfl⟩
    · exact Or.inl rfl
  | confirmedRequest pdu => exact Or.inl rfl
  | unconfirmedRequest pdu => exact Or.inl rfl

/-- A timer that fires lets its transaction make progress. -/
theorem fireTimer_update {self : ClientTSM} {key : Key}
    {stepped : ClientTSM × List Sent} (fired : self.fireTimer key = some stepped)
    : ∃ body, (∀ txn, self.Progress txn (body txn)) ∧ stepped = self.update key body := by
  simp only [fireTimer, Option.bind_eq_some_iff, Option.map_eq_some_iff] at fired
  obtain ⟨_, _, timer, _, rfl⟩ := fired
  have spent (txn : ClientTransaction) {stepped : ClientTransaction × List Sent}
      (progress : self.Progress { txn with timeoutHandle := none } stepped)
      : self.Progress txn stepped :=
    ⟨progress.invokeId, progress.destination, progress.serviceChoice, progress.requestData,
      progress.effectiveMaxApdu, progress.sender, progress.emits⟩
  cases timer with
  | onTimeout => exact ⟨_, fun txn => spent txn (onTimeout_progress self _), rfl⟩
  | onSegmentTimeout waitForSeg =>
    exact ⟨_, fun txn => spent txn (onSegmentTimeout_progress self _), rfl⟩

-- Invoke IDs

/-- An allocated invoke ID is free, and only the counter changes, by induction on the tries. -/
theorem allocateInvokeId_spec {next destination rounds invokeId}
    (allocated : self.allocateInvokeId destination rounds = .ok (invokeId, next))
    : self.transactions.get (destination, invokeId) = none
      ∧ ∃ counter, next = { self with nextInvokeId := counter } := by
  induction rounds generalizing self with
  | zero => cases allocated
  | succ rounds ih =>
    simp only [allocateInvokeId] at allocated
    split at allocated
    · next free =>
        cases allocated
        exact ⟨Option.isNone_iff_eq_none.mp free, _, rfl⟩
    · obtain ⟨free, counter, same⟩ := ih allocated
      exact ⟨free, counter, same⟩

end ClientTSM

end BacPy
