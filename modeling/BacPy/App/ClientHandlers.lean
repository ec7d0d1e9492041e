import BacPy.App.ClientSteps

/-! What each handler, each timer and each call of the client TSM does: to which transaction, what it
sends, and which retries it counts.
-/

namespace BacPy

/-- The invoke ID of the request that an APDU answers, if the client has a handler for it. -/
def APDU.answers : APDU → Option Nat
  | .simpleAck pdu => some pdu.invokeId
  | .complexAck pdu => some pdu.invokeId
  | .error pdu => some pdu.invokeId
  | .reject pdu => some pdu.invokeId
  | .abort pdu => some pdu.invokeId
  | .segmentAck pdu => if pdu.sentByServer then some pdu.invokeId else none
  | .confirmedRequest _ | .unconfirmedRequest _ => none

namespace ClientTSM

-- Handlers and counters

/-- What a handler of an APDU leaves of its transaction: no retry is counted. -/
structure Answered (tsm : ClientTSM) (old : ClientTransaction)
    (stepped : ClientTransaction × List Sent) : Prop where
  progress : tsm.Progress old stepped
  sends : old.Sends stepped.2
  retryCount : stepped.1.retryCount = old.retryCount
  segRetryCount : stepped.1.segRetryCount ≤ old.segRetryCount

variable (self : ClientTSM) (txn : ClientTransaction)

theorem onAck_answered (data : Bytes) : self.Answered txn (onAck txn data, []) := by
  have counters : (onAck txn data).retryCount = txn.retryCount
      ∧ (onAck txn data).segRetryCount = txn.segRetryCount := by
    unfold onAck
    split <;> exact ⟨rfl, rfl⟩
  exact ⟨onAck_progress txn data, txn.sends_nil, counters.1, Nat.le_of_eq counters.2⟩

theorem onFailure_answered (error) : self.Answered txn (onFailure txn error, []) :=
  ⟨onFailure_progress txn error, txn.sends_nil, rfl, le_rfl⟩

theorem abortTransaction_counters (reason : AbortReason)
    : (abortTransaction txn reason).1.retryCount = txn.retryCount
      ∧ (abortTransaction txn reason).1.segRetryCount = txn.segRetryCount := by
  unfold abortTransaction
  dsimp only
  split <;> exact ⟨rfl, rfl⟩

theorem fillAndSendRequestWindow_counters
    : (self.fillAndSendRequestWindow txn).1.retryCount = txn.retryCount
      ∧ (self.fillAndSendRequestWindow txn).1.segRetryCount = txn.segRetryCount := by
  unfold fillAndSendRequestWindow
  split <;> exact ⟨rfl, rfl⟩

theorem transmit_counters {self : ClientTSM} {txn : ClientTransaction}
    {stepped : ClientTransaction × List Sent} (transmitted : self.transmit txn = .ok stepped)
    : stepped.1.retryCount = txn.retryCount ∧ stepped.1.segRetryCount = txn.segRetryCount := by
  unfold transmit sendSegmentedRequest at transmitted
  split at transmitted
  · split at transmitted
    · cases transmitted
      exact ⟨rfl, rfl⟩
    · cases transmitted
    · cases transmitted
      exact fillAndSendRequestWindow_counters _ _
  · cases transmitted
    exact ⟨rfl, rfl⟩

theorem onSegmentAck_answered (pdu : SegmentAckPDU) : self.Answered txn (self.onSegmentAck txn pdu) := by
  have counters : (self.onSegmentAck txn pdu).1.retryCount = txn.retryCount
      ∧ (self.onSegmentAck txn pdu).1.segRetryCount ≤ txn.segRetryCount := by
    unfold onSegmentAck
    split
    · exact ⟨rfl, Nat.le_refl _⟩
    · split
      · exact ⟨rfl, Nat.le_refl _⟩
      · split
        · exact ⟨(abortTransaction_counters txn _).1, Nat.le_of_eq (abortTransaction_counters txn _).2⟩
        · dsimp only
          split
          · exact ⟨rfl, Nat.zero_le _⟩
          · obtain ⟨retries, segRetries⟩ := fillAndSendRequestWindow_counters self {
              txn with
              segmentSender := some (SegmentSender.handleSegmentAck _ pdu.sequenceNumber
                pdu.actualWindowSize pdu.negativeAck).1
              segRetryCount := 0
            }
            exact ⟨retries, Nat.le_trans (Nat.le_of_eq segRetries) (Nat.zero_le _)⟩
  exact ⟨onSegmentAck_progress self txn pdu, onSegmentAck_sends self txn pdu, counters.1, counters.2⟩

theorem onSegmentedComplexAck_answered (pdu : ComplexAckPDU)
    : self.Answered txn (self.onSegmentedComplexAck txn pdu) := by
  have counters : (self.onSegmentedComplexAck txn pdu).1.retryCount = txn.retryCount
      ∧ (self.onSegmentedComplexAck txn pdu).1.segRetryCount = txn.segRetryCount := by
    unfold onSegmentedComplexAck
    split
    · unfold onFirstResponseSegment
      dsimp only
      split
      · exact ⟨rfl, rfl⟩
      · split <;> exact ⟨rfl, rfl⟩
    · unfold onResponseSegment
      split
      · exact ⟨rfl, rfl⟩
      · split
        · dsimp only
          split
          · split <;> exact ⟨rfl, rfl⟩
          · exact ⟨rfl, rfl⟩
          · exact ⟨rfl, rfl⟩
          · exact ⟨rfl, rfl⟩
          · exact abortTransaction_counters _ _
        · exact ⟨rfl, rfl⟩
  exact ⟨onSegmentedComplexAck_progress self txn pdu, onSegmentedComplexAck_sends self txn pdu,
    counters.1, Nat.le_of_eq counters.2⟩

/-- What arrives is no answer, and nothing happens, or it runs a handler on the transaction that it
answers.
-/
theorem receive_answers (source : BACnetAddress) (apdu : APDU)
    : (apdu.answers = none ∧ self.receive source apdu = (self, []))
      ∨ ∃ invokeId body, apdu.answers = some invokeId ∧ (∀ txn, self.Answered txn (body txn))
          ∧ self.receive source apdu = self.update (source, invokeId) body := by
  cases apdu with
  | simpleAck pdu => exact Or.inr ⟨_, _, rfl, fun txn => onAck_answered self txn _, rfl⟩
  | complexAck pdu =>
    refine Or.inr ⟨pdu.invokeId, ?_⟩
    simp only [receive]
    split
    · exact ⟨_, rfl, fun txn => onSegmentedComplexAck_answered self txn pdu, rfl⟩
    · exact ⟨_, rfl, fun txn => onAck_answered self txn _, rfl⟩
  | error pdu => exact Or.inr ⟨_, _, rfl, fun txn => onFailure_answered self txn _, rfl⟩
  | reject pdu => exact Or.inr ⟨_, _, rfl, fun txn => onFailure_answered self txn _, rfl⟩
  | abort pdu => exact Or.inr ⟨_, _, rfl, fun txn => onFailure_answered self txn _, rfl⟩
  | segmentAck pdu =>
    simp only [receive, APDU.answers]
    split
    · exact Or.inr ⟨_, _, rfl, fun txn => onSegmentAck_answered self txn pdu, rfl⟩
    · exact Or.inl ⟨rfl, rfl⟩
  | confirmedRequest pdu => exact Or.inl ⟨rfl, rfl⟩
  | unconfirmedRequest pdu => exact Or.inl ⟨rfl, rfl⟩

-- Timers

def expire (timer : ClientTimer) (txn : ClientTransaction) : ClientTransaction × List Sent :=
  match timer with
  | .onTimeout => self.onTimeout { txn with timeoutHandle := none }
  | .onSegmentTimeout _ => self.onSegmentTimeout { txn with timeoutHandle := none }

theorem fireTimer_eq_some {self : ClientTSM} {key : Key} {stepped : ClientTSM × List Sent}
    : self.fireTimer key = some stepped
      ↔ ∃ txn timer, self.transactions.get key = some txn ∧ txn.timeoutHandle = some timer
          ∧ stepped = self.update key (self.expire timer) := by
  have bodies (timer : ClientTimer) : self.update key (self.expire timer)
      = self.update key fun txn =>
        let txn := { txn with timeoutHandle := none }
        match timer with
        | .onTimeout => self.onTimeout txn
        | .onSegmentTimeout _ => self.onSegmentTimeout txn := by
    cases timer <;> rfl
  simp only [fireTimer, Option.bind_eq_some_iff, Option.map_eq_some_iff, bodies]
  constructor
  · rintro ⟨txn, found, timer, armed, rfl⟩
    exact ⟨txn, timer, found, armed, rfl⟩
  · rintro ⟨txn, timer, found, armed, rfl⟩
    exact ⟨txn, found, timer, armed, rfl⟩

/-- A timer leaves the transaction its own, and sends its PDUs. -/
theorem expire_progress (timer : ClientTimer)
    : self.Progress txn (self.expire timer txn) ∧ txn.Sends (self.expire timer txn).2 := by
  have spent {stepped : ClientTransaction × List Sent}
      (progress : self.Progress { txn with timeoutHandle := none } stepped)
      : self.Progress txn stepped :=
    ⟨progress.invokeId, progress.destination, progress.serviceChoice, progress.requestData,
      progress.effectiveMaxApdu, progress.sender, progress.emits⟩
  cases timer with
  | onTimeout =>
    exact ⟨spent (onTimeout_progress self _), sends_of_same (onTimeout_sends self _) rfl rfl⟩
  | onSegmentTimeout waitForSeg =>
    exact ⟨spent (onSegmentTimeout_progress self _),
      sends_of_same (onSegmentTimeout_sends self _) rfl rfl⟩

/-- A response timeout counts a retry, or sends nothing. -/
theorem onTimeout_counters
    : (self.onTimeout txn).1.segRetryCount = txn.segRetryCount
      ∧ ((txn.retryCount < self.retries ∧ (self.onTimeout txn).1.retryCount = txn.retryCount + 1)
        ∨ ((self.onTimeout txn).1.retryCount = txn.retryCount ∧ (self.onTimeout txn).2 = [])) := by
  unfold onTimeout
  split
  · next more =>
      dsimp only
      split
      · next transmitted =>
          obtain ⟨retries, segRetries⟩ := transmit_counters transmitted
          exact ⟨segRetries, Or.inl ⟨more, retries⟩⟩
      · exact ⟨rfl, Or.inl ⟨more, rfl⟩⟩
  · exact ⟨rfl, Or.inr ⟨rfl, rfl⟩⟩

def IsAbort : APDU → Prop
  | .abort _ => True
  | _ => False

instance (apdu : APDU) : Decidable (IsAbort apdu) := by
  unfold IsAbort
  split <;> infer_instance

theorem abortTransaction_ends (reason : AbortReason)
    : (abortTransaction txn reason).1.future.done = true
      ∧ ∀ message ∈ (abortTransaction txn reason).2, IsAbort message.apdu := by
  unfold abortTransaction
  dsimp only
  constructor
  · split
    · assumption
    · rfl
  · intro message member
    rw [List.mem_singleton.mp member]
    trivial

/-- A segment timeout counts a retry and sends no Abort, or it sends nothing but the Abort that ends the
transaction.
-/
theorem onSegmentTimeout_counters
    : (self.onSegmentTimeout txn).1.retryCount = txn.retryCount
      ∧ ((txn.segRetryCount < self.retries
          ∧ (self.onSegmentTimeout txn).1.segRetryCount = txn.segRetryCount + 1)
        ∨ ((self.onSegmentTimeout txn).1.segRetryCount = txn.segRetryCount
          ∧ (∀ message ∈ (self.onSegmentTimeout txn).2, IsAbort message.apdu)
          ∧ ((self.onSegmentTimeout txn).2 ≠ [] → (self.onSegmentTimeout txn).1.future.done = true))) := by
  have aborted : (abortTransaction txn .tsmTimeout).1.retryCount = txn.retryCount
      ∧ (abortTransaction txn .tsmTimeout).1.segRetryCount = txn.segRetryCount
      ∧ (∀ message ∈ (abortTransaction txn .tsmTimeout).2, IsAbort message.apdu)
      ∧ ((abortTransaction txn .tsmTimeout).2 ≠ []
        → (abortTransaction txn .tsmTimeout).1.future.done = true) :=
    ⟨(abortTransaction_counters txn _).1, (abortTransaction_counters txn _).2,
      (abortTransaction_ends txn _).2, fun _ => (abortTransaction_ends txn _).1⟩
  unfold onSegmentTimeout
  split
  · split
    · next more =>
        obtain ⟨retries, segRetries⟩ := fillAndSendRequestWindow_counters self
          { txn with segRetryCount := txn.segRetryCount + 1 }
        exact ⟨retries, Or.inl ⟨more, segRetries⟩⟩
    · exact ⟨aborted.1, Or.inr aborted.2⟩
  · split
    · next more =>
        dsimp only
        split <;> exact ⟨rfl, Or.inl ⟨more, rfl⟩⟩
    · exact ⟨aborted.1, Or.inr aborted.2⟩
  · exact ⟨rfl, Or.inr ⟨rfl, by simp, by simp⟩⟩

-- Calls

/-- The caller's task is cancelled while it waits for the future. -/
def cancelCall (key : Key) : ClientTSM × List Sent :=
  self.update key fun txn => ({ txn with future := .cancelled }, [])

variable {self}

/-- An allocated invoke ID and the counter after it are octets, by induction on the tries. -/
theorem allocateInvokeId_small {next destination rounds invokeId} (small : self.nextInvokeId < 256)
    (allocated : self.allocateInvokeId destination rounds = .ok (invokeId, next))
    : invokeId < 256 ∧ next.nextInvokeId < 256 := by
  induction rounds generalizing self with
  | zero => cases allocated
  | succ rounds ih =>
    simp only [allocateInvokeId] at allocated
    split at allocated
    · cases allocated
      exact ⟨small, Nat.mod_lt _ (by decide)⟩
    · exact ih (Nat.mod_lt _ (by decide)) allocated

/-- No invoke ID is found if the tries meet none but used ones, by induction on the tries. -/
theorem allocateInvokeId_error_iff {destination rounds} (small : self.nextInvokeId < 256)
    : (∃ raised, self.allocateInvokeId destination rounds = .error raised)
      ↔ ∀ tries < rounds,
        ∃ txn, self.transactions.get (destination, (self.nextInvokeId + tries) % 256) = some txn := by
  induction rounds generalizing self with
  | zero => simp [allocateInvokeId]
  | succ rounds ih =>
    simp only [allocateInvokeId]
    have first : (self.nextInvokeId + 0) % 256 = self.nextInvokeId := Nat.mod_eq_of_lt small
    split
    · next free =>
        constructor
        · rintro ⟨raised, found⟩
          cases found
        · intro used
          obtain ⟨txn, found⟩ := used 0 (Nat.zero_lt_succ _)
          rw [first, Option.isNone_iff_eq_none.mp free] at found
          cases found
    · next taken =>
        rw [ih (Nat.mod_lt _ (by decide))]
        dsimp only
        have shifted (tries : Nat) : ((self.nextInvokeId + 1) % 256 + tries) % 256
            = (self.nextInvokeId + (tries + 1)) % 256 := by
          omega
        simp only [shifted]
        constructor
        · intro used tries inside
          cases tries with
          | zero =>
            rw [first]
            exact Option.ne_none_iff_exists'.mp (by simpa using taken)
          | succ tries => exact used tries (by omega)
        · intro used tries inside
          exact used (tries + 1) (by omega)

/-- `_allocate_invoke_id` finds none exactly if all 256 are in use. -/
theorem allocateInvokeId_exhausted_iff (small : self.nextInvokeId < 256) (destination : BACnetAddress)
    : (∃ raised, self.allocateInvokeId destination 256 = .error raised)
      ↔ ∀ invokeId < 256, ∃ txn, self.transactions.get (destination, invokeId) = some txn := by
  rw [allocateInvokeId_error_iff small]
  constructor
  · intro used invokeId inside
    obtain ⟨txn, found⟩ := used ((invokeId + 256 - self.nextInvokeId) % 256) (Nat.mod_lt _ (by decide))
    have reached : (self.nextInvokeId + (invokeId + 256 - self.nextInvokeId) % 256) % 256 = invokeId := by
      omega
    rw [reached] at found
    exact ⟨txn, found⟩
  · exact fun used tries _ => used _ (Nat.mod_lt _ (by decide))

/-- The transaction that `send_request` starts with. -/
def newTransaction (self : ClientTSM) (invokeId serviceChoice : Nat) (requestData : Bytes)
    (destination : BACnetAddress) (maxApduOverride : Option Nat)
    : ClientTransaction where
  invokeId
  destination
  serviceChoice
  requestData
  effectiveMaxApdu := maxApduOverride.getD self.maxApduLength

/-- A call raises and leaves the transactions alone, or adds one under a key that was free. -/
theorem sendRequest_cases (small : self.nextInvokeId < 256) (serviceChoice : Nat)
    (requestData : Bytes) (destination : BACnetAddress) (maxApduOverride : Option Nat)
    : (∃ raised counter, counter < 256
        ∧ self.sendRequest serviceChoice requestData destination maxApduOverride
          = (.error raised, { self with nextInvokeId := counter }, []))
      ∨ ∃ invokeId counter txn sent, counter < 256 ∧ invokeId < 256
        ∧ self.transactions.get (destination, invokeId) = none
        ∧ self.transmit (self.newTransaction invokeId serviceChoice requestData destination
            maxApduOverride) = .ok (txn, sent)
        ∧ txn.key = (destination, invokeId)
        ∧ self.sendRequest serviceChoice requestData destination maxApduOverride
          = (.ok invokeId, {
              self with
              nextInvokeId := counter
              transactions := self.transactions.set (destination, invokeId) txn
            }, sent) := by
  unfold sendRequest
  split
  · exact Or.inl ⟨_, _, small, rfl⟩
  · next invokeId counted allocated =>
      obtain ⟨idSmall, counterSmall⟩ := allocateInvokeId_small small allocated
      obtain ⟨free, counter, rfl⟩ := allocateInvokeId_spec allocated
      dsimp only at counterSmall ⊢
      split
      · exact Or.inl ⟨_, counter, counterSmall, rfl⟩
      · next txn sent transmitted =>
          have progress : self.Progress _ (txn, sent) := (Progress.refl self _).transmit transmitted
          have key : txn.key = (destination, invokeId) :=
            Prod.ext progress.destination progress.invokeId
          refine Or.inr ⟨invokeId, counter, txn, sent, counterSmall, idSmall, free, transmitted, key, ?_⟩
          rw [key]

end ClientTSM

end BacPy
