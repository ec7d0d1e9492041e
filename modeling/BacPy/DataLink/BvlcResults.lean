import BacPy.DataLink.BvlcClient
import BacPy.Library.Runs

/-! Which replies of remote BBMDs the operations of a BACnet/IP port get, over whole runs. -/

namespace BacPy

open Library

-- Messages and replies

/-- What the port sends to a BBMD. -/
inductive BvlcMessage where
  | operation (operation : BvlcOperation)
  /-- `_send_registration` -/
  | registration
  /-- `send_distribute_broadcast` -/
  | distribution (npdu : Bytes)
  deriving DecidableEq

/-- What a BBMD answers: the table that is asked for, or a result. -/
inductive BvlcReply where
  | ack (data : Bytes)
  | result (code : BvlcResultCode)
  deriving DecidableEq

def BvlcMessage.results : BvlcMessage → List BvlcResultCode
  | operation .readBdt => [.readBroadcastDistributionTableNak]
  | operation (.writeBdt _) => [.successfulCompletion, .writeBroadcastDistributionTableNak]
  | operation .readFdt => [.readForeignDeviceTableNak]
  | operation (.deleteFdtEntry _) => [.successfulCompletion, .deleteForeignDeviceTableEntryNak]
  | registration => [.successfulCompletion, .registerForeignDeviceNak]
  | distribution _ => [.distributeBroadcastToNetworkNak]

def BvlcMessage.AnsweredBy (message : BvlcMessage) : BvlcReply → Prop
  | .ack _ => message = operation .readBdt ∨ message = operation .readFdt
  | .result code => code ∈ message.results

instance (message : BvlcMessage) (reply : BvlcReply) : Decidable (message.AnsweredBy reply) := by
  cases reply <;> unfold BvlcMessage.AnsweredBy <;> infer_instance

def BvlcMessage.replyFunction (message : BvlcMessage) : BvlcReply → BvlcFunction
  | .ack _ =>
    match message with
    | .operation requested => requested.expectedResponse
    | _ => .bvlcResult
  | .result _ => .bvlcResult

def BvlcReply.data : BvlcReply → Bytes
  | ack data => data
  | result code => toBytes code.toNat 2

def BvlcOperation.settledBy (operation : BvlcOperation) (source : BIPAddress)
    : BvlcReply → BvlcFuture
  | .ack data => .result data
  | .result code =>
    if operation.expectedResponse = .bvlcResult then .result (toBytes code.toNat 2)
    else .nak code.toNat source

-- Runs

/-- A message that has been sent. -/
structure SentBvlc where
  message : BvlcMessage
  destination : BIPAddress

/-- The client, all messages that it has sent, by their numbers, the replies to them that have
arrived, the operations that have ended, and the messages whose replies have changed whether the
foreign device is registered.
-/
structure BvlcRun where
  client : BvlcClient
  sent : List SentBvlc := []
  replies : List (Nat × BvlcReply) := []
  ended : List (Nat × BvlcOutcome) := []
  flagChanges : List BvlcMessage := []

/-- An operation begins; the foreign device registers, or distributes a broadcast; the reply to a
message arrives; or an operation ends, because its future is done, or else by its timeout.
-/
inductive BvlcEvent where
  | request (operation : BvlcOperation) (destination : BIPAddress)
  | register
  | distribute (npdu : Bytes)
  | reply (id : Nat) (reply : BvlcReply)
  | finish (id : Nat)

namespace BvlcRun

def send (run : BvlcRun) (message : BvlcMessage) (destination : BIPAddress) : BvlcRun :=
  { run with sent := run.sent ++ [{ message, destination }] }

/-- Whether the foreign device is registered. -/
def isRegistered (run : BvlcRun) : Option Bool :=
  run.client.foreignDevice.map ForeignDeviceManager.isRegistered

def replied (run : BvlcRun) (id : Nat) (reply : BvlcReply) (message : BvlcMessage)
    (client : BvlcClient)
    : BvlcRun :=
  let next := { run with client, replies := run.replies ++ [(id, reply)] }
  if next.isRegistered = run.isRegistered then next
  else { next with flagChanges := run.flagChanges ++ [message] }

def step (run : BvlcRun) : BvlcEvent → Option BvlcRun
  | .request operation destination =>
    match operation.bvll with
    | .error _ => none
    | .ok _ =>
      some {
        run.send (.operation operation) destination with
        client := run.client.beginRequest run.sent.length operation destination
      }
  | .register =>
    match run.client.foreignDevice with
    | none => none
    | some device => some (run.send .registration device.bbmdAddress)
  | .distribute npdu =>
    match run.client.foreignDevice.filter ForeignDeviceManager.isRegistered,
      encodeBvll .distributeBroadcastToNetwork npdu with
    | some device, .ok _ => some (run.send (.distribution npdu) device.bbmdAddress)
    | _, _ => none
  | .reply id reply =>
    match run.sent[id]? with
    | none => none
    | some sent =>
      -- a port does not hear itself
      if sent.message.AnsweredBy reply ∧ sent.destination ≠ run.client.localAddress then
        some (run.replied id reply sent.message
          (run.client.receive (sent.message.replyFunction reply) reply.data sent.destination))
      else none
  | .finish id =>
    match run.client.requests.get id with
    | none => none
    | some request =>
      some {
        run with
        client := run.client.endRequest id request
        ended := run.ended ++ [(id, request.outcome)]
      }

-- Attribution

/-- The request has not got a reply. -/
def Waits (run : BvlcRun) (id : Nat) (request : BvlcRequest) : Prop :=
  run.client.requests.get id = some request ∧ request.future = .waiting

/-- The operation has been sent under the number, and a reply to it has arrived. -/
def OwnReply (run : BvlcRun) (id : Nat) (operation : BvlcOperation) (destination : BIPAddress)
    (reply : BvlcReply)
    : Prop :=
  run.sent[id]? = some { message := .operation operation, destination } ∧ (id, reply) ∈ run.replies

/-- All operations get the replies to their own messages, and only they; and only registrations and
distributed broadcasts change whether the foreign device is registered.
-/
structure Attributed (run : BvlcRun) : Prop where
  /-- an operation that waits has not had a reply yet, and would get it -/
  waits : ∀ id request, run.Waits id request →
    run.client.pendingBvlc.get request.key = some id ∧ ∀ reply, (id, reply) ∉ run.replies
  settled : ∀ id request, run.client.requests.get id = some request → request.future ≠ .waiting →
    ∃ reply, run.OwnReply id request.operation request.destination reply
      ∧ request.future = request.operation.settledBy request.destination reply
  ended : ∀ entry ∈ run.ended, entry.2 = .timeout
    ∨ ∃ operation destination reply, run.OwnReply entry.1 operation destination reply
      ∧ entry.2 = BvlcRequest.outcome {
          operation, destination, future := operation.settledBy destination reply }
  flags : ∀ message ∈ run.flagChanges, ∀ operation, message ≠ .operation operation

/-- No other request than the one with the number waits under the key. -/
def OnlyWaits (run : BvlcRun) (id : Nat) (key : BvlcFunction × BIPAddress) : Prop :=
  ∀ other request, run.Waits other request → request.key = key → other = id

/-- When a result arrives that no request waits for: it is not taken for one about the registration,
and not for the refusal of another request.
-/
def UnclaimedOk (run : BvlcRun) (id : Nat) (sent : SentBvlc) (code : BvlcResultCode) : Prop :=
  (∀ device, run.client.foreignDevice = some device → device.bbmdAddress = sent.destination →
      (∀ operation, sent.message ≠ .operation operation)
        ∨ device.isRegistered = decide (code = .successfulCompletion))
    ∧ ∀ function, BvlcClient.nakToPendingAck code.toNat = some function →
      run.OnlyWaits id (function, sent.destination)

/-- What keeps the requests apart: a request begins, or ends, while no other one waits under its
key; and a reply arrives while no other request waits under the key of the reply, nor takes it for
its own refusal, nor the foreign device for an answer to its registration.
-/
def Separate (run : BvlcRun) : BvlcEvent → Prop
  | .request operation destination =>
    ∀ id request, run.Waits id request → request.key ≠ (operation.expectedResponse, destination)
  | .register | .distribute _ => True
  | .reply id reply =>
    ∀ sent, run.sent[id]? = some sent →
      run.OnlyWaits id (sent.message.replyFunction reply, sent.destination)
        ∧ ∀ code, reply = .result code →
          (∀ other request, run.Waits other request →
            request.key ≠ (.bvlcResult, sent.destination))
          → run.UnclaimedOk id sent code
  | .finish id =>
    ∀ request, run.client.requests.get id = some request → run.OnlyWaits id request.key

-- The invariant

/-- All replies are attributed, all requests have been sent, and all numbers under keys are those of
requests with these keys.
-/
structure Consistent (run : BvlcRun) : Prop extends Attributed run where
  known : ∀ id request, run.client.requests.get id = some request →
    run.sent[id]? = some {
      message := .operation request.operation, destination := request.destination }
  keyed : ∀ key id, run.client.pendingBvlc.get key = some id →
    ∃ request, run.client.requests.get id = some request ∧ request.key = key
  answered : ∀ entry ∈ run.replies, entry.1 < run.sent.length

variable {run next : BvlcRun} {event : BvlcEvent} {id other : Nat} {request another : BvlcRequest}
  {reply : BvlcReply} {sent : SentBvlc} {client : BvlcClient}

/-- What a message is found by is what waits for it. -/
theorem futureAt_iff (consistent : run.Consistent) {key}
    : run.client.futureAt key = some (id, request) ↔ run.Waits id request ∧ request.key = key := by
  unfold BvlcClient.futureAt
  constructor
  · intro found
    split at found
    · cases found
    · next number there =>
        split at found
        · cases found
        · next candidate held =>
            split at found
            · next waiting =>
                cases found
                obtain ⟨same, stored, keyed⟩ := consistent.keyed key id there
                cases held.symm.trans stored
                exact ⟨⟨held, waiting⟩, keyed⟩
            · cases found
  · rintro ⟨⟨held, waiting⟩, rfl⟩
    rw [(consistent.waits id request ⟨held, waiting⟩).1]
    dsimp only
    rw [held]
    exact if_pos waiting

theorem futureAt_none (consistent : run.Consistent) {key} (nobody : run.client.futureAt key = none)
    : ∀ other another, run.Waits other another → another.key ≠ key := by
  intro other another waits same
  rw [(futureAt_iff consistent).mpr ⟨waits, same⟩] at nobody
  cases nobody

theorem waits_unique (consistent : run.Consistent) (waits : run.Waits id request)
    (also : run.Waits other another) (same : request.key = another.key)
    : id = other := by
  have first := (consistent.waits id request waits).1
  rw [same, (consistent.waits other another also).1] at first
  exact (Option.some.inj first).symm

/-- A reply that has been heard is heard after further messages. -/
theorem OwnReply.mono {operation destination} (own : run.OwnReply id operation destination reply)
    (sent : ∃ more, next.sent = run.sent ++ more) (replies : run.replies ⊆ next.replies)
    : next.OwnReply id operation destination reply := by
  obtain ⟨more, same⟩ := sent
  refine ⟨?_, replies own.2⟩
  have inside := (List.getElem?_eq_some_iff.mp own.1).1
  rw [same, List.getElem?_append_left inside]
  exact own.1

-- Requests begin and end

/-- Sending a message that is no operation changes nothing else. -/
theorem consistent_send (consistent : run.Consistent) (message : BvlcMessage)
    (destination : BIPAddress)
    : (run.send message destination).Consistent := by
  have more : ∃ more, (run.send message destination).sent = run.sent ++ more := ⟨_, rfl⟩
  refine ⟨⟨consistent.waits, fun id request held done => ?_, fun entry member => ?_,
    consistent.flags⟩, fun id request held => ?_, consistent.keyed, fun entry member => ?_⟩
  · obtain ⟨reply, own, same⟩ := consistent.settled id request held done
    exact ⟨reply, own.mono more fun _ listed => listed, same⟩
  · refine (consistent.ended entry member).imp_right ?_
    rintro ⟨operation, destination, reply, own, same⟩
    exact ⟨operation, destination, reply, own.mono more fun _ listed => listed, same⟩
  · have inside := (List.getElem?_eq_some_iff.mp (consistent.known id request held)).1
    exact (List.getElem?_append_left inside).trans (consistent.known id request held)
  · have short := consistent.answered entry member
    have length : (run.send message destination).sent.length = run.sent.length + 1 := by
      simp [send]
    omega

/-- A number that is not in use yet. -/
theorem requests_fresh (consistent : run.Consistent)
    : run.client.requests.get run.sent.length = none := by
  cases held : run.client.requests.get run.sent.length with
  | none => rfl
  | some request =>
    have inside := (List.getElem?_eq_some_iff.mp (consistent.known _ _ held)).1
    omega

/-- A request begins under a key that no other one waits under. -/
theorem consistent_request {operation destination} (consistent : run.Consistent)
    (separate : run.Separate (.request operation destination))
    : Consistent {
        run.send (.operation operation) destination with
        client := run.client.beginRequest run.sent.length operation destination
      } := by
  have sent := consistent_send consistent (.operation operation) destination
  have fresh := requests_fresh consistent
  refine ⟨⟨fun id request waits => ?_, fun id request held done => ?_, sent.ended, sent.flags⟩,
    fun id request held => ?_, fun key id pending => ?_, sent.answered⟩
  · obtain ⟨held, waiting⟩ := waits
    change (run.client.requests.set _ _).get id = _ at held
    rw [Dict.get_set] at held
    split at held
    · next own =>
        cases held
        refine ⟨own ▸ Dict.get_set_self _ _ _, fun reply member => ?_⟩
        have short := consistent.answered _ member
        omega
    · have before := consistent.waits id request ⟨held, waiting⟩
      refine ⟨?_, before.2⟩
      exact (Dict.get_set_ne (separate id request ⟨held, waiting⟩)).trans before.1
  · change (run.client.requests.set _ _).get id = _ at held
    rw [Dict.get_set] at held
    split at held
    · cases held
      exact absurd rfl done
    · exact sent.settled id request held done
  · change (run.client.requests.set _ _).get id = _ at held
    rw [Dict.get_set] at held
    split at held
    · next own =>
        cases held
        rw [own]
        exact List.getElem?_concat_length
    · exact sent.known id request held
  · change (run.client.pendingBvlc.set _ _).get key = _ at pending
    change ∃ request, (run.client.requests.set _ _).get id = some request ∧ _
    rw [Dict.get_set] at pending
    split at pending
    · next same =>
        cases pending
        exact ⟨_, Dict.get_set_self _ _ _, same.symm⟩
    · obtain ⟨request, held, keyed⟩ := consistent.keyed key id pending
      refine ⟨request, ?_, keyed⟩
      rwa [Dict.get_set_ne]
      rintro rfl
      rw [fresh] at held
      cases held

theorem consistent_finish (consistent : run.Consistent)
    (held : run.client.requests.get id = some request) (alone : run.OnlyWaits id request.key)
    : Consistent {
        run with
        client := run.client.endRequest id request
        ended := run.ended ++ [(id, request.outcome)]
      } := by
  refine ⟨⟨fun other another waits => ?_, fun other another stored done => ?_,
    fun entry member => ?_, consistent.flags⟩, fun other another stored => ?_,
    fun key other pending => ?_, consistent.answered⟩
  · obtain ⟨stored, waiting⟩ := waits
    change (run.client.requests.pop id).get other = _ at stored
    rw [Dict.get_pop] at stored
    split at stored
    · cases stored
    · next different =>
        have before := consistent.waits other another ⟨stored, waiting⟩
        refine ⟨?_, before.2⟩
        change (run.client.pendingBvlc.pop request.key).get another.key = _
        rw [Dict.get_pop_ne]
        · exact before.1
        · exact fun same => different (alone other another ⟨stored, waiting⟩ same)
  · change (run.client.requests.pop id).get other = _ at stored
    rw [Dict.get_pop] at stored
    split at stored
    · cases stored
    · exact consistent.settled other another stored done
  · rcases List.mem_append.mp member with before | new
    · exact consistent.ended entry before
    · rw [List.mem_singleton.mp new]
      by_cases done : request.future = .waiting
      · left
        rw [BvlcRequest.outcome, done]
      · obtain ⟨reply, own, same⟩ := consistent.settled id request held done
        refine .inr ⟨_, _, reply, own, ?_⟩
        rw [← same]
  · change (run.client.requests.pop id).get other = _ at stored
    rw [Dict.get_pop] at stored
    split at stored
    · cases stored
    · exact consistent.known other another stored
  · change (run.client.pendingBvlc.pop request.key).get key = _ at pending
    change ∃ another, (run.client.requests.pop id).get other = some another ∧ _
    rw [Dict.get_pop] at pending
    split at pending
    · cases pending
    · next different =>
        obtain ⟨another, stored, keyed⟩ := consistent.keyed key other pending
        refine ⟨another, ?_, keyed⟩
        rw [Dict.get_pop_ne]
        · exact stored
        · rintro rfl
          cases held.symm.trans stored
          exact different keyed.symm

-- Replies

/-- A reply has been heard, which leaves the client with these requests. -/
def heard (run : BvlcRun) (id : Nat) (reply : BvlcReply) (requests : Dict Nat BvlcRequest)
    (foreignDevice : Option ForeignDeviceManager) (flagChanges : List BvlcMessage)
    : BvlcRun :=
  {
    run with
    client := { run.client with requests, foreignDevice }
    replies := run.replies ++ [(id, reply)]
    flagChanges
  }

variable {foreignDevice : Option ForeignDeviceManager} {flagChanges : List BvlcMessage}

theorem OwnReply.heard {operation destination later requests}
    (own : run.OwnReply id operation destination reply)
    : (run.heard other later requests foreignDevice flagChanges).OwnReply id operation destination
        reply :=
  own.mono ⟨[], (List.append_nil _).symm⟩ fun _ listed => List.mem_append_left _ listed

theorem consistent_unheard (consistent : run.Consistent) (inside : id < run.sent.length)
    (finished : ∀ request, ¬ run.Waits id request)
    (flags : ∀ message ∈ flagChanges, ∀ operation, message ≠ .operation operation)
    : (run.heard id reply run.client.requests foreignDevice flagChanges).Consistent := by
  refine ⟨⟨fun other another waits => ?_, fun other another stored done => ?_,
    fun entry member => ?_, flags⟩, consistent.known, consistent.keyed, fun entry member => ?_⟩
  · have before := consistent.waits other another waits
    refine ⟨before.1, fun reply member => ?_⟩
    rcases List.mem_append.mp member with earlier | new
    · exact before.2 reply earlier
    · cases List.mem_singleton.mp new
      exact finished another waits
  · obtain ⟨reply, own, same⟩ := consistent.settled other another stored done
    exact ⟨reply, own.heard, same⟩
  · refine (consistent.ended entry member).imp_right ?_
    rintro ⟨operation, destination, reply, own, same⟩
    exact ⟨operation, destination, reply, own.heard, same⟩
  · rcases List.mem_append.mp member with earlier | new
    · exact consistent.answered entry earlier
    · rw [List.mem_singleton.mp new]
      exact inside

theorem settledBy_ne_waiting (operation : BvlcOperation) (source : BIPAddress) (reply : BvlcReply)
    : operation.settledBy source reply ≠ .waiting := by
  cases reply with
  | ack data => nofun
  | result code =>
    change (if _ then BvlcFuture.result _ else .nak _ _) ≠ _
    split
    · nofun
    · nofun

theorem consistent_completed (consistent : run.Consistent) (waits : run.Waits id request)
    (flags : ∀ message ∈ flagChanges, ∀ operation, message ≠ .operation operation) {future}
    (settled : future = request.operation.settledBy request.destination reply)
    : (run.heard id reply (run.client.requests.set id { request with future }) foreignDevice
        flagChanges).Consistent := by
  have done : future ≠ .waiting := settled ▸ settledBy_ne_waiting _ _ _
  have sent := consistent.known id request waits.1
  refine ⟨⟨fun other another there => ?_, fun other another stored finished => ?_,
    fun entry member => ?_, flags⟩, fun other another stored => ?_, fun key other pending => ?_,
    fun entry member => ?_⟩
  · obtain ⟨stored, waiting⟩ := there
    change (run.client.requests.set id _).get other = _ at stored
    rw [Dict.get_set] at stored
    split at stored
    · cases stored
      exact absurd waiting done
    · next different =>
        have before := consistent.waits other another ⟨stored, waiting⟩
        refine ⟨before.1, fun reply member => ?_⟩
        rcases List.mem_append.mp member with earlier | new
        · exact before.2 reply earlier
        · cases List.mem_singleton.mp new
          exact different rfl
  · change (run.client.requests.set id _).get other = _ at stored
    rw [Dict.get_set] at stored
    split at stored
    · next same =>
        cases stored
        rw [same]
        exact ⟨reply, ⟨sent, List.mem_append_right _ (List.mem_singleton_self _)⟩, settled⟩
    · obtain ⟨reply, own, same⟩ := consistent.settled other another stored finished
      exact ⟨reply, own.heard, same⟩
  · refine (consistent.ended entry member).imp_right ?_
    rintro ⟨operation, destination, reply, own, same⟩
    exact ⟨operation, destination, reply, own.heard, same⟩
  · change (run.client.requests.set id _).get other = _ at stored
    rw [Dict.get_set] at stored
    split at stored
    · next same =>
        cases stored
        rw [same]
        exact sent
    · exact consistent.known other another stored
  · obtain ⟨another, stored, keyed⟩ := consistent.keyed key other pending
    change ∃ another, (run.client.requests.set id _).get other = some another ∧ _
    rw [Dict.get_set]
    split
    · next same =>
        cases waits.1.symm.trans (same ▸ stored)
        exact ⟨_, rfl, keyed⟩
    · exact ⟨another, stored, keyed⟩
  · rcases List.mem_append.mp member with earlier | new
    · exact consistent.answered entry earlier
    · rw [List.mem_singleton.mp new]
      exact (List.getElem?_eq_some_iff.mp sent).1

/-- A request that is settled by the reply to another message has not been answered. -/
theorem misattributed (consistent : run.Consistent) (waits : run.Waits other another)
    (different : other ≠ id) {future} (done : future ≠ .waiting)
    : ¬ (run.heard id reply (run.client.requests.set other { another with future }) foreignDevice
        flagChanges).Attributed := by
  intro attributed
  obtain ⟨wrong, ⟨_, member⟩, _⟩ := attributed.settled other { another with future }
    (Dict.get_set_self _ _ _) done
  rcases List.mem_append.mp member with earlier | new
  · exact (consistent.waits other another waits).2 wrong earlier
  · cases List.mem_singleton.mp new
    exact different rfl

-- What a reply does

theorem nakToPendingAck_ne_result {value function}
    (mapped : BvlcClient.nakToPendingAck value = some function)
    : function ≠ .bvlcResult := by
  unfold BvlcClient.nakToPendingAck at mapped
  split at mapped
  · cases mapped; nofun
  · split at mapped
    · cases mapped; nofun
    · split at mapped
      · cases mapped; nofun
      · split at mapped
        · cases mapped; nofun
        · cases mapped

theorem fromBytes_code (code : BvlcResultCode)
    : fromBytes (slice (toBytes code.toNat 2) 0 2) = code.toNat := by
  have whole : slice (toBytes code.toNat 2) 0 2 = toBytes code.toNat 2 := by simp [slice]
  rw [whole]
  exact fromBytes_toBytes (by cases code <;> decide)

/-- The foreign device takes a result of its BBMD for one about its registration. -/
theorem handleBvlcResult_code (device : ForeignDeviceManager) (code : BvlcResultCode)
    : device.handleBvlcResult (toBytes code.toNat 2)
      = { device with isRegistered := decide (code = .successfulCompletion) } := by
  unfold ForeignDeviceManager.handleBvlcResult
  rw [fromBytes_code, if_neg (by simp)]
  cases code <;> rfl

def notified (run : BvlcRun) (source : BIPAddress) (code : BvlcResultCode)
    : Option ForeignDeviceManager :=
  run.client.foreignDevice.map fun device =>
    if source = device.bbmdAddress then
      { device with isRegistered := decide (code = .successfulCompletion) }
    else device

/-- A reply, by what it finds: the request that waits under its key; if it is a result and there is
no such request, the foreign device, and a request that it refuses.
-/
inductive Effect (run : BvlcRun) (reply : BvlcReply) (sent : SentBvlc)
    (client : BvlcClient) : Prop
  | resolved (other : Nat) (request : BvlcRequest) (waits : run.Waits other request)
      (keyed : request.key = (sent.message.replyFunction reply, sent.destination))
      (same : client = {
        run.client with
        requests := run.client.requests.set other { request with future := .result reply.data }
      })
  | ignored (data : Bytes) (ack : reply = .ack data)
      (nobody : ∀ other request, run.Waits other request →
        request.key ≠ (sent.message.replyFunction reply, sent.destination))
      (same : client = run.client)
  | refused (code : BvlcResultCode) (result : reply = .result code)
      (nobody : ∀ other request, run.Waits other request →
        request.key ≠ (.bvlcResult, sent.destination))
      (other : Nat) (request : BvlcRequest) (waits : run.Waits other request)
      (function : BvlcFunction)
      (mapped : BvlcClient.nakToPendingAck code.toNat = some function)
      (keyed : request.key = (function, sent.destination))
      (same : client = {
        run.client with
        requests := run.client.requests.set other
          { request with future := .nak code.toNat sent.destination }
        foreignDevice := run.notified sent.destination code
      })
  | unclaimed (code : BvlcResultCode) (result : reply = .result code)
      (nobody : ∀ other request, run.Waits other request →
        request.key ≠ (.bvlcResult, sent.destination))
      (unrefused : ∀ function, BvlcClient.nakToPendingAck code.toNat = some function →
        ∀ other request, run.Waits other request → request.key ≠ (function, sent.destination))
      (same : client = {
        run.client with
        foreignDevice := run.notified sent.destination code
      })

theorem effect_result (consistent : run.Consistent) (code : BvlcResultCode)
    (away : sent.destination ≠ run.client.localAddress)
    : run.Effect (.result code) sent
        (run.client.receive .bvlcResult (toBytes code.toNat 2) sent.destination) := by
  have told : run.client.notifyForeignDevice (toBytes code.toNat 2) sent.destination
      = { run.client with foreignDevice := run.notified sent.destination code } := by
    unfold BvlcClient.notifyForeignDevice notified
    simp only [handleBvlcResult_code]
  unfold BvlcClient.receive
  rw [if_neg away]
  dsimp only
  unfold BvlcClient.resolvePendingBvlc
  cases found : run.client.futureAt (.bvlcResult, sent.destination) with
  | some entry =>
    obtain ⟨waits, keyed⟩ := (futureAt_iff consistent).mp found
    exact .resolved entry.1 entry.2 waits keyed rfl
  | none =>
    have nobody := futureAt_none consistent found
    dsimp only [Option.map_none]
    unfold BvlcClient.handleBvlcResult
    rw [told]
    unfold BvlcClient.refuse
    dsimp only
    rw [fromBytes_code, if_neg (by simp)]
    cases mapped : BvlcClient.nakToPendingAck code.toNat with
    | none =>
      refine .unclaimed code rfl nobody (fun function same => ?_) rfl
      rw [mapped] at same
      cases same
    | some function =>
      rw [Option.bind_some]
      have sameFuture : BvlcClient.futureAt
          { run.client with foreignDevice := run.notified sent.destination code }
          (function, sent.destination)
        = run.client.futureAt (function, sent.destination) := rfl
      rw [sameFuture]
      cases refused : run.client.futureAt (function, sent.destination) with
      | some entry =>
        obtain ⟨waits, keyed⟩ := (futureAt_iff consistent).mp refused
        exact .refused code rfl nobody entry.1 entry.2 waits function mapped keyed rfl
      | none =>
        refine .unclaimed code rfl nobody (fun another same => ?_) rfl
        cases mapped.symm.trans same
        exact futureAt_none consistent refused

theorem effect_ack (consistent : run.Consistent) (data : Bytes)
    (answered : sent.message.AnsweredBy (.ack data))
    (away : sent.destination ≠ run.client.localAddress)
    : run.Effect (.ack data) sent
        (run.client.receive (sent.message.replyFunction (.ack data)) data sent.destination) := by
  have received : run.client.receive (sent.message.replyFunction (.ack data)) data sent.destination
      = (run.client.resolvePendingBvlc (sent.message.replyFunction (.ack data)) data
          sent.destination).getD run.client := by
    unfold BvlcClient.receive
    rw [if_neg away]
    rcases answered with read | read <;> rw [read]
      <;> cases run.client.resolvePendingBvlc _ data sent.destination <;> rfl
  rw [received]
  unfold BvlcClient.resolvePendingBvlc
  cases found : run.client.futureAt (sent.message.replyFunction (.ack data), sent.destination) with
  | some entry =>
    obtain ⟨waits, keyed⟩ := (futureAt_iff consistent).mp found
    exact .resolved entry.1 entry.2 waits keyed rfl
  | none => exact .ignored data rfl (futureAt_none consistent found) rfl

theorem effect (consistent : run.Consistent) (answered : sent.message.AnsweredBy reply)
    (away : sent.destination ≠ run.client.localAddress)
    : run.Effect reply sent
        (run.client.receive (sent.message.replyFunction reply) reply.data sent.destination) := by
  cases reply with
  | ack data => exact effect_ack consistent data answered away
  | result code => exact effect_result consistent code away

-- The flag

/-- The messages whose replies have changed the flag, with the one whose reply leaves the foreign
device like this.
-/
def flagChangesAfter (run : BvlcRun) (message : BvlcMessage)
    (foreignDevice : Option ForeignDeviceManager)
    : List BvlcMessage :=
  if foreignDevice.map ForeignDeviceManager.isRegistered = run.isRegistered then run.flagChanges
  else run.flagChanges ++ [message]

theorem replied_eq_heard (message : BvlcMessage) (requests foreignDevice)
    : run.replied id reply message { run.client with requests, foreignDevice }
      = run.heard id reply requests foreignDevice (run.flagChangesAfter message foreignDevice) := by
  unfold replied flagChangesAfter
  by_cases same : foreignDevice.map ForeignDeviceManager.isRegistered = run.isRegistered
  · rw [if_pos same]
    exact if_pos same
  · rw [if_neg same]
    exact if_neg same

/-- An operation has not changed the flag just when the reply to it leaves it as it is. -/
theorem flags_iff (consistent : run.Consistent) {message}
    : (∀ changed ∈ run.flagChangesAfter message foreignDevice, ∀ operation,
          changed ≠ .operation operation)
      ↔ (∀ operation, message ≠ .operation operation)
          ∨ foreignDevice.map ForeignDeviceManager.isRegistered = run.isRegistered := by
  unfold flagChangesAfter
  split
  · next same => exact ⟨fun _ => .inr same, fun _ => consistent.flags⟩
  · next different =>
      constructor
      · intro right
        exact .inl (right message (List.mem_append_right _ (List.mem_singleton_self _)))
      · rintro (other | same)
        · intro changed member
          rcases List.mem_append.mp member with before | new
          · exact consistent.flags changed before
          · exact List.mem_singleton.mp new ▸ other
        · exact absurd same different

/-- The flag after a result that no request waits for. -/
theorem notified_iff {code source} {right : Prop}
    : (∀ device, run.client.foreignDevice = some device → device.bbmdAddress = source →
          right ∨ device.isRegistered = decide (code = .successfulCompletion))
      ↔ right ∨ (run.notified source code).map ForeignDeviceManager.isRegistered
          = run.isRegistered := by
  unfold notified isRegistered
  cases run.client.foreignDevice with
  | none => exact ⟨fun _ => .inr rfl, fun _ device held => nomatch held⟩
  | some device =>
    dsimp only [Option.map_some]
    by_cases here : source = device.bbmdAddress
    · rw [if_pos here]
      constructor
      · intro leaves
        exact (leaves device rfl here.symm).imp_right fun same => congrArg some same.symm
      · rintro leaves _ ⟨⟩ _
        exact leaves.imp_right fun same => (Option.some.inj same).symm
    · rw [if_neg here]
      exact ⟨fun _ => .inr rfl, fun _ _ held there => by
        cases held
        exact absurd there.symm here⟩

-- Replies keep the invariant

/-- The message under the number of a request is the one of its operation. -/
theorem sent_of_waits (consistent : run.Consistent) (there : run.sent[id]? = some sent)
    (waits : run.Waits id request)
    : sent = { message := .operation request.operation, destination := request.destination } :=
  Option.some.inj (there.symm.trans (consistent.known id request waits.1))

theorem refusal_mapped {operation code} (listed : code ∈ (BvlcMessage.operation operation).results)
    : operation.expectedResponse = .bvlcResult
      ∨ BvlcClient.nakToPendingAck code.toNat = some operation.expectedResponse := by
  cases operation with
  | readBdt =>
    right
    rw [List.mem_singleton.mp listed]
    rfl
  | readFdt =>
    right
    rw [List.mem_singleton.mp listed]
    rfl
  | writeBdt entries => exact .inl rfl
  | deleteFdtEntry entryAddress => exact .inl rfl

/-- A reply keeps the invariant if it is separate. -/
theorem consistent_reply (consistent : run.Consistent) (there : run.sent[id]? = some sent)
    (answered : sent.message.AnsweredBy reply) (away : sent.destination ≠ run.client.localAddress)
    (separate : run.Separate (.reply id reply))
    : (run.replied id reply sent.message
        (run.client.receive (sent.message.replyFunction reply) reply.data
          sent.destination)).Consistent := by
  have inside := (List.getElem?_eq_some_iff.mp there).1
  obtain ⟨alone, unclaimed⟩ := separate sent there
  cases effect consistent answered away with
  | resolved other request waits keyed same =>
    obtain rfl := alone other request waits keyed
    obtain rfl := sent_of_waits consistent there waits
    rw [same, replied_eq_heard]
    apply consistent_completed consistent waits ((flags_iff consistent).mpr (.inr rfl))
    cases reply with
    | ack data => rfl
    | result code => exact (if_pos (congrArg Prod.fst keyed)).symm
  | ignored data ack nobody same =>
    have finished : ∀ request, ¬ run.Waits id request := by
      intro request waits
      obtain rfl := sent_of_waits consistent there waits
      subst ack
      exact nobody id request waits rfl
    rw [same]
    refine (congrArg Consistent (replied_eq_heard sent.message run.client.requests
      run.client.foreignDevice)).mpr ?_
    exact consistent_unheard consistent inside finished ((flags_iff consistent).mpr (.inr rfl))
  | refused code result nobody other request waits function mapped keyed same =>
    obtain ⟨flags, unrefused⟩ := unclaimed code result nobody
    obtain rfl := unrefused function mapped other request waits keyed
    rw [same, replied_eq_heard]
    apply consistent_completed consistent waits
      ((flags_iff consistent).mpr (notified_iff.mp flags))
    obtain rfl := sent_of_waits consistent there waits
    subst result
    refine (if_neg fun shared => nakToPendingAck_ne_result mapped ?_).symm
    exact (congrArg Prod.fst keyed).symm.trans shared
  | unclaimed code result nobody unrefused same =>
    obtain ⟨flags, _⟩ := unclaimed code result nobody
    have finished : ∀ request, ¬ run.Waits id request := by
      intro request waits
      obtain rfl := sent_of_waits consistent there waits
      subst result
      rcases refusal_mapped answered with shared | mapped
      · exact nobody id request waits (congrArg (·, request.destination) shared)
      · exact unrefused _ mapped id request waits rfl
    rw [same]
    refine (congrArg Consistent (replied_eq_heard sent.message run.client.requests
      (run.notified sent.destination code))).mpr ?_
    exact consistent_unheard consistent inside finished
      ((flags_iff consistent).mpr (notified_iff.mp flags))

theorem separate_reply (consistent : run.Consistent) (there : run.sent[id]? = some sent)
    (answered : sent.message.AnsweredBy reply) (away : sent.destination ≠ run.client.localAddress)
    (attributed : (run.replied id reply sent.message
      (run.client.receive (sent.message.replyFunction reply) reply.data
        sent.destination)).Attributed)
    : run.Separate (.reply id reply) := by
  rintro found same
  cases there.symm.trans same
  cases effect consistent answered away with
  | resolved other request waits keyed same =>
    rw [same, replied_eq_heard] at attributed
    have own : other = id := by
      by_contra different
      exact misattributed consistent waits different (by nofun) attributed
    refine ⟨fun another claimant also claimed => ?_, fun code result nobody => ?_⟩
    · exact (waits_unique consistent also waits (claimed.trans keyed.symm)).trans own
    · subst result
      exact absurd keyed (nobody other request waits)
  | ignored data ack nobody same =>
    refine ⟨fun other request waits keyed => absurd keyed (nobody other request waits), ?_⟩
    intro code result
    rw [ack] at result
    cases result
  | refused code result nobody other request waits function mapped keyed same =>
    rw [same, replied_eq_heard] at attributed
    have own : other = id := by
      by_contra different
      exact misattributed consistent waits different (by nofun) attributed
    subst result
    refine ⟨fun another claimant also claimed => ?_, ?_⟩
    · exact absurd claimed (nobody another claimant also)
    rintro _ ⟨⟩ _
    refine ⟨notified_iff.mpr ((flags_iff consistent).mp attributed.flags), ?_⟩
    intro wanted found another claimant also claimed
    cases mapped.symm.trans found
    exact (waits_unique consistent also waits (claimed.trans keyed.symm)).trans own
  | unclaimed code result nobody unrefused same =>
    rw [same] at attributed
    have flags := ((congrArg Attributed (replied_eq_heard sent.message run.client.requests
      (run.notified sent.destination code))).mp attributed).flags
    subst result
    refine ⟨fun another claimant also claimed => ?_, ?_⟩
    · exact absurd claimed (nobody another claimant also)
    rintro _ ⟨⟩ _
    refine ⟨notified_iff.mpr ((flags_iff consistent).mp flags), ?_⟩
    intro wanted found another claimant also claimed
    exact absurd claimed (unrefused wanted found another claimant also)

-- Steps

/-- A request that takes over the key of another one leaves it without its reply. -/
theorem separate_request {operation destination} (consistent : run.Consistent)
    (attributed : Attributed {
      run.send (.operation operation) destination with
      client := run.client.beginRequest run.sent.length operation destination
    })
    : run.Separate (.request operation destination) := by
  intro id request waits same
  have different : run.sent.length ≠ id := by
    rintro rfl
    have fresh := requests_fresh consistent
    rw [waits.1] at fresh
    cases fresh
  have stored : (run.client.beginRequest run.sent.length operation destination).requests.get id
      = some request := (Dict.get_set_ne different.symm).trans waits.1
  have found := (attributed.waits id request ⟨stored, waits.2⟩).1
  have taken : (run.client.beginRequest run.sent.length operation destination).pendingBvlc.get
      request.key = some run.sent.length := by
    rw [same]
    exact Dict.get_set_self _ _ _
  exact different (Option.some.inj (taken.symm.trans found))

/-- A request that ends takes the key of another one away with its own. -/
theorem separate_finish
    (held : run.client.requests.get id = some request)
    (attributed : Attributed {
      run with
      client := run.client.endRequest id request
      ended := run.ended ++ [(id, request.outcome)]
    })
    : run.Separate (.finish id) := by
  intro found same other another waits keyed
  cases held.symm.trans same
  by_contra different
  have stored : (run.client.endRequest id request).requests.get other = some another :=
    (Dict.get_pop_ne different).trans waits.1
  have kept := (attributed.waits other another ⟨stored, waits.2⟩).1
  have gone : (run.client.endRequest id request).pendingBvlc.get another.key = none := by
    rw [keyed]
    exact (Dict.get_pop _ _ _).trans (if_pos rfl)
  rw [gone] at kept
  cases kept

/-- A separate step keeps the invariant. -/
theorem consistent_step (consistent : run.Consistent) (separate : run.Separate event)
    (stepped : run.step event = some next)
    : next.Consistent := by
  cases event with
  | request operation destination =>
    dsimp only [step] at stepped
    split at stepped
    · cases stepped
    · cases stepped
      exact consistent_request consistent separate
  | register =>
    dsimp only [step] at stepped
    split at stepped
    · cases stepped
    · cases stepped
      exact consistent_send consistent _ _
  | distribute npdu =>
    dsimp only [step] at stepped
    split at stepped
    · cases stepped
      exact consistent_send consistent _ _
    · cases stepped
  | reply id reply =>
    dsimp only [step] at stepped
    split at stepped
    · cases stepped
    · next sent there =>
        split at stepped
        · next allowed =>
            cases stepped
            exact consistent_reply consistent there allowed.1 allowed.2 separate
        · cases stepped
  | finish id =>
    dsimp only [step] at stepped
    split at stepped
    · cases stepped
    · next request held =>
        cases stepped
        exact consistent_finish consistent held (separate request held)

theorem separate_step (consistent : run.Consistent) (stepped : run.step event = some next)
    (attributed : next.Attributed)
    : run.Separate event := by
  cases event with
  | request operation destination =>
    dsimp only [step] at stepped
    split at stepped
    · cases stepped
    · cases stepped
      exact separate_request consistent attributed
  | register => trivial
  | distribute npdu => trivial
  | reply id reply =>
    dsimp only [step] at stepped
    split at stepped
    · cases stepped
    · next sent there =>
        split at stepped
        · next allowed =>
            cases stepped
            exact separate_reply consistent there allowed.1 allowed.2 attributed
        · cases stepped
  | finish id =>
    dsimp only [step] at stepped
    split at stepped
    · cases stepped
    · next request held =>
        cases stepped
        exact separate_finish held attributed

/-- A port that has not sent anything. -/
theorem consistent_start (localAddress : BIPAddress) (foreignDevice : Option ForeignDeviceManager)
    : Consistent { client := { localAddress, foreignDevice } } where
  waits _ _ waits := nomatch waits.1
  settled _ _ held := nomatch held
  ended _ member := nomatch member
  flags _ member := nomatch member
  known _ _ held := nomatch held
  keyed _ _ pending := nomatch pending
  answered _ member := nomatch member

/-- Every operation gets the reply to its own message, and only those about the registration change
the flag, in the runs that keep the requests apart, and in no others.
-/
theorem attributed_iff_separate (localAddress : BIPAddress)
    (foreignDevice : Option ForeignDeviceManager) (events : List BvlcEvent)
    : Always step Attributed { client := { localAddress, foreignDevice } } events
      ↔ Meets step Separate { client := { localAddress, foreignDevice } } events := by
  apply always_iff_meets (fun consistent => consistent_step consistent)
    (fun consistent => consistent.toAttributed) ?_ (consistent_start localAddress foreignDevice)
  intro run event next consistent together stepped attributed
  exact together (separate_step consistent stepped attributed)

def sampleBbmd : BIPAddress := { host := 0x0A000001, port := 0xBAC0 }

def foreignPort : BvlcRun :=
  {
    client := {
      localAddress := { host := 0x0A000002, port := 0xBAC0 }
      foreignDevice := some { bbmdAddress := sampleBbmd }
    }
  }

/-- The port registers, and writes the table of the same BBMD; the registration succeeds. -/
def registeredWhileWriting : List BvlcEvent :=
  [.register, .request (.writeBdt []) sampleBbmd, .reply 0 (.result .successfulCompletion)]

/-- The result of a registration is the result of a `write_bdt` that waits. -/
theorem registration_answers_writeBdt
    : ¬ ∀ (localAddress : BIPAddress) (foreignDevice : Option ForeignDeviceManager)
        (events : List BvlcEvent),
      Always step Attributed { client := { localAddress, foreignDevice } } events := by
  intro always
  have ran : (Library.run step foreignPort registeredWhileWriting).map
        (fun last => (last.client.requests.get 1, last.replies))
      = some
          (some { operation := .writeBdt [], destination := sampleBbmd, future := .result [0, 0] },
            [(0, .result .successfulCompletion)]) := by decide +kernel
  obtain ⟨last, reached, shown⟩ := Option.map_eq_some_iff.mp ran
  obtain ⟨held, replies⟩ := Prod.mk.inj shown
  have attributed : last.Attributed :=
    always_iff_prefixes.mp (always _ _ registeredWhileWriting) registeredWhileWriting [] last
      (List.append_nil _).symm reached
  obtain ⟨reply, ⟨_, member⟩, _⟩ := attributed.settled 1 _ held (by nofun)
  rw [replies] at member
  cases List.mem_singleton.mp member

end BvlcRun

end BacPy
