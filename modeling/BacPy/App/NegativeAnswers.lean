import BacPy.App.Application
import BacPy.Encoding.ApduRoundTrip

/-! Negative answers and the requests they terminate.

An Error, Reject or Abort from the destination of an outstanding request ends the request, if
the numbers it carries are members of the enumerations. A proprietary number makes the decoder
raise, and the answer is dropped.
-/

namespace BacPy

open Library

-- Negative answers as octet strings

/-- A syntactically well-formed negative answer to the request with `invokeId`. -/
inductive NegativeAnswer where
  | error (invokeId serviceChoice : UInt8) (errorClass errorCode : EnumeratedContent)
    (errorData : Bytes)
  | reject (invokeId reason : UInt8)
  | abort (invokeId reason : UInt8)

namespace NegativeAnswer

/-- The Error-PDU, Reject-PDU or server Abort-PDU (Clause 20.1.7 to 20.1.9). -/
def octets : NegativeAnswer → Bytes
  | .error invokeId serviceChoice errorClass errorCode errorData =>
    [0x50, invokeId, serviceChoice] ++ errorClass.tagged ++ errorCode.tagged ++ errorData
  | .reject invokeId reason => [0x60, invokeId, reason]
  | .abort invokeId reason => [0x71, invokeId, reason]

def invokeId : NegativeAnswer → Nat
  | .error invokeId .. | .reject invokeId _ | .abort invokeId _ => invokeId.toNat

/-- The numbers of the answer are ones the standard assigns: an error class up to 7 with an error
code up to 138 other than 33, a reject reason up to 9, an abort reason up to 11.
-/
def Assigned : NegativeAnswer → Prop
  | .error _ _ errorClass errorCode _ =>
    errorClass.value ≤ 7 ∧ errorCode.value ≤ 138 ∧ errorCode.value ≠ 33
  | .reject _ reason => reason.toNat ≤ 9
  | .abort _ reason => reason.toNat ≤ 11

instance : DecidablePred Assigned
  | .error _ _ errorClass errorCode _ =>
    inferInstanceAs
      (Decidable (errorClass.value ≤ 7 ∧ errorCode.value ≤ 138 ∧ errorCode.value ≠ 33))
  | .reject _ reason => inferInstanceAs (Decidable (reason.toNat ≤ 9))
  | .abort _ reason => inferInstanceAs (Decidable (reason.toNat ≤ 11))

end NegativeAnswer

-- Decoding

/-- The decoder of an Error-PDU reads both numbers, and raises unless both are members. -/
theorem decodeError_octets (invokeId serviceChoice : UInt8) (errorClass errorCode)
    (errorData : Bytes)
    : decodeError (NegativeAnswer.error invokeId serviceChoice errorClass errorCode
          errorData).octets
      = (enumMember "ErrorClass" ErrorClass.ofNat? errorClass.value).bind fun classMember =>
          (enumMember "ErrorCode" ErrorCode.ofNat? errorCode.value).bind fun codeMember =>
            .ok {
              invokeId := invokeId.toNat
              serviceChoice := serviceChoice.toNat
              errorClass := classMember
              errorCode := codeMember
              errorData
            } := by
  have shape : (NegativeAnswer.error invokeId serviceChoice errorClass errorCode
      errorData).octets
      = [0x50, invokeId, serviceChoice]
        ++ (errorClass.tagged ++ (errorCode.tagged ++ errorData)) := by
    simp [NegativeAnswer.octets]
  rw [shape, decodeError_tagged]

namespace NegativeAnswer

/-- The APDU the answer decodes to, if its numbers are members of the enumerations. -/
def pdu? : NegativeAnswer → Option APDU
  | .error invokeId serviceChoice errorClass errorCode errorData =>
    (ErrorClass.ofNat? errorClass.value).bind fun classMember =>
      (ErrorCode.ofNat? errorCode.value).map fun codeMember =>
        .error {
          invokeId := invokeId.toNat
          serviceChoice := serviceChoice.toNat
          errorClass := classMember
          errorCode := codeMember
          errorData
        }
  | .reject invokeId reason =>
    (RejectReason.ofNat? reason.toNat).map fun rejectReason =>
      .reject { invokeId := invokeId.toNat, rejectReason }
  | .abort invokeId reason =>
    (AbortReason.ofNat? reason.toNat).map fun abortReason =>
      .abort { sentByServer := true, invokeId := invokeId.toNat, abortReason }

/-- The enumerations know exactly the assigned numbers. -/
theorem isSome_pdu?_iff (answer : NegativeAnswer) : answer.pdu?.isSome ↔ answer.Assigned := by
  cases answer with
  | error invokeId serviceChoice errorClass errorCode errorData =>
    simp only [Assigned, ← ErrorClass.isSome_ofNat?, ← ErrorCode.isSome_ofNat?, pdu?]
    cases ErrorClass.ofNat? errorClass.value <;> simp
  | reject invokeId reason =>
    simp only [Assigned, ← RejectReason.isSome_ofNat?, pdu?, Option.isSome_map]
  | abort invokeId reason =>
    simp only [Assigned, ← AbortReason.isSome_ofNat?, pdu?, Option.isSome_map]

/-- Decoding gives the APDU of an answer whose numbers are known, and raises on all others. -/
theorem decodeApdu_octets (answer : NegativeAnswer)
    : (decodeApdu answer.octets).toOption = answer.pdu? := by
  cases answer with
  | error invokeId serviceChoice errorClass errorCode errorData =>
    have dispatched
        : decodeApdu (error invokeId serviceChoice errorClass errorCode
              errorData).octets
          = APDU.error <$> decodeError (error invokeId serviceChoice errorClass
              errorCode errorData).octets :=
      rfl
    rw [dispatched, decodeError_octets]
    simp only [pdu?, enumMember]
    cases ErrorClass.ofNat? errorClass.value with
    | none => rfl
    | some classMember => cases ErrorCode.ofNat? errorCode.value <;> rfl
  | reject invokeId reason =>
    have dispatched : decodeApdu (reject invokeId reason).octets
        = APDU.reject <$> decodeReject (reject invokeId reason).octets :=
      rfl
    have fields : decodeReject (reject invokeId reason).octets
        = (enumMember "RejectReason" RejectReason.ofNat? reason.toNat).map fun rejectReason =>
            { invokeId := invokeId.toNat, rejectReason } :=
      rfl
    rw [dispatched, fields]
    simp only [pdu?, enumMember]
    cases RejectReason.ofNat? reason.toNat <;> rfl
  | abort invokeId reason =>
    have dispatched : decodeApdu (abort invokeId reason).octets
        = APDU.abort <$> decodeAbort (abort invokeId reason).octets :=
      rfl
    have fields : decodeAbort (abort invokeId reason).octets
        = (enumMember "AbortReason" AbortReason.ofNat? reason.toNat).map fun abortReason =>
            { sentByServer := true, invokeId := invokeId.toNat, abortReason } :=
      rfl
    rw [dispatched, fields]
    simp only [pdu?, enumMember]
    cases AbortReason.ofNat? reason.toNat <;> rfl

end NegativeAnswer

-- Termination of the request

def ClientTSM.EndedWithException (self : ClientTSM) (key : Key) : Prop :=
  ∃ txn error, self.transactions.get key = some txn ∧ txn.future = .exception error

/-- The decoded APDU of an answer ends the outstanding request it answers, whatever the state
the transaction is in.
-/
theorem Application.dispatchApdu_answer {self : Application} {answer : NegativeAnswer}
    {source : BACnetAddress} {txn : ClientTransaction} {pdu : APDU}
    (decoded : answer.pdu? = some pdu)
    (outstanding : self.clientTsm.transactions.get (source, answer.invokeId) = some txn)
    (pending : txn.future.done = false)
    : (self.dispatchApdu source pdu).1.clientTsm.EndedWithException (source, answer.invokeId) := by
  have ends (error : BACnetException)
      : (self.clientTsm.update (source, answer.invokeId) fun txn =>
          (ClientTSM.onFailure txn error, [])).1.EndedWithException (source, answer.invokeId) :=
    ⟨_, error, ClientTSM.get_update_self outstanding pending, rfl⟩
  cases answer with
  | error invokeId serviceChoice errorClass errorCode errorData =>
    simp only [NegativeAnswer.pdu?, Option.bind_eq_some_iff, Option.map_eq_some_iff] at decoded
    obtain ⟨classMember, _, codeMember, _, rfl⟩ := decoded
    exact ends (.bacnetError classMember codeMember errorData)
  | reject invokeId reason =>
    obtain ⟨rejectReason, _, rfl⟩ := Option.map_eq_some_iff.mp decoded
    exact ends (.rejectError rejectReason)
  | abort invokeId reason =>
    obtain ⟨abortReason, _, rfl⟩ := Option.map_eq_some_iff.mp decoded
    exact ends (.abortError abortReason)

/-- A negative answer to an outstanding request ends it with an exception exactly when its
numbers are assigned ones: the decoder refuses all others and the application drops the answer.
-/
theorem Application.negativeAnswer_ends_iff {self : Application} {answer : NegativeAnswer}
    {source : BACnetAddress} {txn : ClientTransaction}
    (outstanding : self.clientTsm.transactions.get (source, answer.invokeId) = some txn)
    (pending : txn.future = .pending)
    : (self.onApduReceived answer.octets source).1.clientTsm.EndedWithException
        (source, answer.invokeId)
      ↔ answer.Assigned := by
  have decoding := answer.decodeApdu_octets
  rw [← answer.isSome_pdu?_iff]
  cases known : answer.pdu? with
  | some pdu =>
    have accepted : decodeApdu answer.octets = .ok pdu := by
      cases result : decodeApdu answer.octets with
      | ok value => simpa [result, known, Except.toOption] using decoding
      | error error => simp [result, known, Except.toOption] at decoding
    simp only [onApduReceived, accepted, Option.isSome_some, iff_true]
    exact dispatchApdu_answer known outstanding (by simp [pending, Future.done])
  | none =>
    have dropped : ∃ error, decodeApdu answer.octets = .error error := by
      cases result : decodeApdu answer.octets with
      | ok value => simp [result, known, Except.toOption] at decoding
      | error error => exact ⟨error, rfl⟩
    obtain ⟨error, refused⟩ := dropped
    simp only [onApduReceived, refused, Option.isSome_none, Bool.false_eq_true, iff_false]
    rintro ⟨same, exception, found, ended⟩
    rw [outstanding] at found
    rw [← Option.some.inj found, pending] at ended
    exact Future.noConfusion ended

/-- A device on the local network. -/
def writeTarget : BACnetAddress := { macAddress := [10] }

/-- An application that waits for the answer to a WriteProperty request. -/
def awaitingWrite : Application where
  clientTsm := (({} : ClientTSM).sendRequest 15 [0x0C] writeTarget none).2.1

/-- A Reject with reason UNRECOGNIZED_SERVICE ends the request. -/
theorem Application.reject_ends_write
    : (awaitingWrite.onApduReceived (NegativeAnswer.reject 0 9).octets
        writeTarget).1.clientTsm.EndedWithException
        (writeTarget, (NegativeAnswer.reject 0 9).invokeId) := by
  have outstanding : (awaitingWrite.clientTsm.transactions.get
      (writeTarget, (NegativeAnswer.reject 0 9).invokeId)).isSome := by
    decide +kernel
  obtain ⟨txn, found⟩ := Option.isSome_iff_exists.mp outstanding
  have pending : txn.future = .pending := by
    have futures : (awaitingWrite.clientTsm.transactions.get
        (writeTarget, (NegativeAnswer.reject 0 9).invokeId)).map ClientTransaction.future
        = some .pending := by
      decide +kernel
    simpa [found] using futures
  exact (Application.negativeAnswer_ends_iff found pending).mpr (by decide)

/-- The write is refused with the proprietary error code 256 of class PROPERTY: the future stays
pending, and at the timeout the client sends the write again.
-/
theorem Application.proprietaryError_dropped
    : (awaitingWrite.clientTsm.transactions.get (writeTarget, 0)).map ClientTransaction.future
          = some .pending
      ∧ ¬ (awaitingWrite.onApduReceived
          (NegativeAnswer.error 0 15 ⟨[2], by decide, by decide⟩ ⟨[1, 0], by decide, by decide⟩
            []).octets
          writeTarget).1.clientTsm.EndedWithException (writeTarget, 0)
      ∧ ((awaitingWrite.onApduReceived
          (NegativeAnswer.error 0 15 ⟨[2], by decide, by decide⟩ ⟨[1, 0], by decide, by decide⟩
            []).octets
          writeTarget).1.clientTsm.fireTimer (writeTarget, 0)).map Prod.snd
        = some (({} : ClientTSM).sendRequest 15 [0x0C] writeTarget none).2.2 := by
  refine ⟨by decide +kernel, ?_, by decide +kernel⟩
  rintro ⟨txn, error, found, ended⟩
  have unchanged : ((awaitingWrite.onApduReceived
      (NegativeAnswer.error 0 15 ⟨[2], by decide, by decide⟩ ⟨[1, 0], by decide, by decide⟩
        []).octets
      writeTarget).1.clientTsm.transactions.get (writeTarget, 0)).map ClientTransaction.future
      = some .pending := by
    decide +kernel
  rw [found, Option.map_some, ended] at unchanged
  cases unchanged

end BacPy
