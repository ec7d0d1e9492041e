import BacPy.SecureConnect.HubConnector
import BacPy.Library.Runs

/-! Which outcomes of an attempt the loop of the hub connector survives. -/

namespace BacPy

open Library

-- The answer to a Connect-Request

namespace SCConnection

/-- What `initiate` can take as an answer: a timeout or another OSError; octets that are no message; a
Connect-Accept whose payload has 26 octets, a BVLC-Result whose payload is one, or another message.
-/
def Understood (received : Except ScException Bytes) : Prop :=
  match received with
  | .error exception => exception = .osError
  | .ok raw =>
    ∀ response, SCMessage.decode raw = .ok response
      → (response.function = .connectAccept → 26 ≤ response.payload.length)
        ∧ (response.function = .bvlcResult
          → ∃ function result rest, response.payload = function :: result :: rest
            ∧ function ≤ 0x0C ∧ (result = 0 ∨ result = 1 ∧ 5 ≤ rest.length))

/-- Everything else is raised. -/
theorem raised_iff {received}
    : (∃ exception, readResponse received = .raised exception) ↔ ¬ Understood received := by
  cases received with
  | error exception =>
    cases exception with
    | osError => exact iff_of_false (fun ⟨_, same⟩ => nomatch same) (not_not.mpr rfl)
    | connectionClosed => exact iff_of_true ⟨_, rfl⟩ nofun
    | python raised => exact iff_of_true ⟨_, rfl⟩ nofun
    | other => exact iff_of_true ⟨_, rfl⟩ nofun
  | ok raw =>
    unfold readResponse Understood
    dsimp only
    cases decoded : SCMessage.decode raw with
    | error raised =>
      have valueError := SCMessage.onlyValueErrors_decode raw false raised decoded
      simp only [valueError, if_true]
      exact iff_of_false (fun ⟨_, same⟩ => nomatch same) (not_not.mpr nofun)
    | ok response =>
      simp only [Except.ok.injEq, forall_eq']
      cases function : response.function with
      | connectAccept =>
        have accept : (∃ payload, ConnectPayload.decode response.payload = .ok payload) ↔ _ :=
          ConnectPayload.decode_ok_iff
        cases payload : ConnectPayload.decode response.payload with
        | error raised =>
          refine iff_of_true ⟨_, rfl⟩ fun understood => ?_
          obtain ⟨_, same⟩ := accept.mpr (understood.1 rfl)
          cases payload.symm.trans same
        | ok payload' =>
          refine iff_of_false (fun ⟨_, same⟩ => nomatch same) (not_not.mpr ?_)
          exact ⟨fun _ => accept.mp ⟨_, payload⟩, nofun⟩
      | bvlcResult =>
        have result : (∃ payload, BvlcResultPayload.decode response.payload = .ok payload) ↔ _ :=
          BvlcResultPayload.decode_ok_iff
        cases payload : BvlcResultPayload.decode response.payload with
        | error raised =>
          refine iff_of_true ⟨_, rfl⟩ fun understood => ?_
          obtain ⟨_, same⟩ := result.mpr (understood.2 rfl)
          cases payload.symm.trans same
        | ok payload' =>
          refine iff_of_false (fun ⟨_, same⟩ => ?_) (not_not.mpr ?_)
          · dsimp only at same
            split at same <;> cases same
          · exact ⟨nofun, fun _ => result.mp ⟨_, payload⟩⟩
      | _ => exact iff_of_false (fun ⟨_, same⟩ => nomatch same) (not_not.mpr ⟨nofun, nofun⟩)

/-- A Connect-Request can be made exactly if the maximum lengths fit into two octets. -/
theorem connectRequest_cases (conn : SCConnection)
    : (conn.maxBvlc < 65536 ∧ conn.maxNpdu < 65536
        ∧ ∃ frame, conn.connectRequest
          = .ok ({ conn with msgIdCounter := conn.msgIdCounter + 1 }, frame))
      ∨ ¬ (conn.maxBvlc < 65536 ∧ conn.maxNpdu < 65536)
        ∧ ∃ raised, conn.connectRequest = .error raised := by
  unfold connectRequest ConnectPayload.encode packShort
  dsimp only
  by_cases bvlc : conn.maxBvlc < 65536
  · by_cases npdu : conn.maxNpdu < 65536
    · refine .inl ⟨bvlc, npdu, ?_⟩
      rw [if_pos bvlc, if_pos npdu]
      exact ⟨_, rfl⟩
    · refine .inr ⟨fun fits => npdu fits.2, ?_⟩
      rw [if_pos bvlc, if_neg npdu]
      exact ⟨_, rfl⟩
  · refine .inr ⟨fun fits => bvlc fits.1, ?_⟩
    rw [if_neg bvlc]
    exact ⟨_, rfl⟩

end SCConnection

namespace ConnectLoop

-- What the loop survives

/-- An attempt is between its WebSocket handshake and the answer to its Connect-Request. -/
def InHandshake (phase : LoopPhase) : Prop :=
  ∃ status, phase = .sendingRequest status ∨ phase = .awaitingAccept status

/-- No exception has left the loop, it runs until it is stopped, and the connection of an attempt that
has not led to a connection is idle and its WebSocket closed.
-/
structure Survives (loop : ConnectLoop) : Prop where
  notRaised : ∀ exception, loop.phase ≠ .raised exception
  runs : loop.phase = .ended → loop.connector.running = false
  idle : ¬ InHandshake loop.phase → loop.phase ≠ .connected
    → ∀ conn, loop.attempt = some conn → conn.state = .idle ∧ conn.hasWebSocket = false

/-- The outcomes that the loop survives: a WebSocket that connects while the maximum lengths fit into
the Connect-Request, a Connect-Request that is sent, an answer that is understood; and no stop while an
attempt is in its handshake.
-/
def Survivable (loop : ConnectLoop) : Event → Prop
  | .webSocket (.ok ()) =>
    loop.connector.maxBvlcLength < 65536 ∧ loop.connector.maxNpduLength < 65536
  | .sent (.error _) => False
  | .received outcome => SCConnection.Understood outcome
  | .stop => ¬ InHandshake loop.phase
  | _ => True

/-- What holds as long as the outcomes are such. -/
structure Healthy (loop : ConnectLoop) : Prop extends Survives loop where
  handshake : InHandshake loop.phase
    → ∃ conn, loop.attempt = some conn ∧ conn.state = .awaitingAccept
  connected : loop.phase = .connected
    → ∃ conn, loop.attempt = some conn ∧ conn.state = .connected
  running : loop.phase ≠ .ended → loop.connector.running = true

-- One step

variable {loop next : ConnectLoop} {event : Event}

theorem Healthy.between (running : loop.connector.running = true)
    (phase : loop.phase = .sleeping ∨ ∃ status, loop.phase = .connecting status)
    (idle : ∀ conn, loop.attempt = some conn → conn.state = .idle ∧ conn.hasWebSocket = false)
    : Healthy loop := by
  refine ⟨⟨?_, ?_, fun _ _ => idle⟩, ?_, ?_, fun _ => running⟩
  all_goals rcases phase with same | ⟨status, same⟩ <;> rw [same]
  all_goals nofun

/-- The phases that follow a failed attempt. -/
theorem phase_failover (connector : SCHubConnector)
    : connector.failover = .sleeping ∨ ∃ status, connector.failover = .connecting status := by
  unfold SCHubConnector.failover
  split
  · exact .inr ⟨_, rfl⟩
  · exact .inl rfl

theorem phase_nextAfter (connector : SCHubConnector) (status : SCHubConnectionStatus)
    : connector.nextAfter status = .sleeping
      ∨ ∃ status', connector.nextAfter status = .connecting status' := by
  unfold SCHubConnector.nextAfter
  split
  · exact phase_failover connector
  · exact .inl rfl

theorem phase_loopHead {connector : SCHubConnector} (running : connector.running = true)
    : connector.loopHead = .sleeping ∨ ∃ status, connector.loopHead = .connecting status := by
  unfold SCHubConnector.loopHead
  rw [running]
  split
  · contradiction
  · split
    · exact .inr ⟨_, rfl⟩
    · exact phase_failover connector

theorem idle_goIdle {conn : SCConnection} (busy : conn.state ≠ .idle)
    : conn.goIdle.state = .idle ∧ conn.goIdle.hasWebSocket = false := by
  unfold SCConnection.goIdle
  rw [if_neg busy]
  exact ⟨rfl, rfl⟩

theorem Healthy.inHandshake (running : loop.connector.running = true)
    (phase : InHandshake loop.phase) {conn} (attempt : loop.attempt = some conn)
    (state : conn.state = .awaitingAccept)
    : Healthy loop := by
  obtain ⟨status, same⟩ := id phase
  refine ⟨⟨?_, ?_, fun other => absurd phase other⟩, fun _ => ⟨conn, attempt, state⟩, ?_,
    fun _ => running⟩
  all_goals rcases same with same | same <;> rw [same] <;> nofun

theorem Healthy.answered (healthy : Healthy loop) {status : SCHubConnectionStatus}
    (phase : loop.phase = .awaitingAccept status) {conn : SCConnection}
    (attempt : loop.attempt = some conn) {outcome : Except ScException Bytes}
    (understood : SCConnection.Understood outcome)
    : Healthy (loop.answered status conn outcome) := by
  have running := healthy.running (by rw [phase]; nofun)
  obtain ⟨conn', there, state⟩ := healthy.handshake ⟨status, .inr phase⟩
  cases attempt.symm.trans there
  have failed : Healthy (loop.fail status conn) := by
    refine .between running (phase_nextAfter ..) fun other same => ?_
    cases same
    exact idle_goIdle (by rw [state]; nofun)
  unfold ConnectLoop.answered
  split
  · exact failed
  · exact failed
  · next exception raised => exact absurd understood (SCConnection.raised_iff.mp ⟨_, raised⟩)
  · refine ⟨⟨nofun, nofun, fun _ other => absurd rfl other⟩, ?_, fun _ => ⟨_, rfl, rfl⟩,
      fun _ => running⟩
    rintro ⟨_, other | other⟩ <;> cases other

theorem Healthy.begin (running : loop.connector.running = true) (status : SCHubConnectionStatus)
    (fits : loop.connector.maxBvlcLength < 65536 ∧ loop.connector.maxNpduLength < 65536)
    : Healthy (loop.begin status) := by
  unfold ConnectLoop.begin
  dsimp only
  rcases loop.connector.makeConnection.beginInitiate.connectRequest_cases with
    ⟨_, _, frame, made⟩ | ⟨unfit, _⟩
  · rw [made]
    exact .inHandshake running ⟨status, .inl rfl⟩ rfl rfl
  · exact absurd fits unfit

theorem Healthy.afterDisconnect (healthy : Healthy loop) (phase : loop.phase = .connected)
    : Healthy loop.afterDisconnect := by
  have running := healthy.running (by rw [phase]; nofun)
  obtain ⟨conn, attempt, state⟩ := healthy.connected phase
  refine .between running (phase_loopHead running) fun other same => ?_
  rw [ConnectLoop.afterDisconnect, attempt] at same
  cases same
  exact idle_goIdle (by rw [state]; nofun)

/-- A stop that is not in a handshake leaves the last connection idle. -/
theorem Healthy.stop (healthy : Healthy loop) (outside : ¬ InHandshake loop.phase)
    : Healthy loop.stop := by
  have ended : ∀ connector attempt, connector.running = false
      → (∀ conn, attempt = some conn → conn.state = .idle ∧ conn.hasWebSocket = false)
      → Healthy { connector, phase := .ended, attempt } := fun connector attempt stopped idle =>
    ⟨⟨nofun, fun _ => stopped, fun _ _ => idle⟩, nofun, nofun, fun other => absurd rfl other⟩
  unfold ConnectLoop.stop
  dsimp only
  split
  · next exception raised => exact absurd raised (healthy.notRaised exception)
  · next phase =>
      obtain ⟨conn, attempt, state⟩ := healthy.connected phase
      refine ended _ _ rfl fun other same => ?_
      rw [attempt] at same
      cases same
      exact idle_goIdle (by rw [state]; nofun)
  · next connected => exact ended _ _ rfl (healthy.idle outside connected)

theorem Healthy.step (healthy : Healthy loop) (survivable : Survivable loop event)
    (moved : loop.step event = some next)
    : Healthy next := by
  cases event with
  | webSocket outcome =>
    unfold ConnectLoop.step at moved
    dsimp only at moved
    split at moved
    · next status phase =>
        cases moved
        exact .begin (healthy.running (by rw [phase]; nofun)) status survivable
    · next status _ phase =>
        cases moved
        exact .between (healthy.running (by rw [phase]; nofun)) (phase_nextAfter ..) nofun
    · cases moved
  | sent outcome =>
    unfold ConnectLoop.step at moved
    dsimp only at moved
    split at moved
    · next status phase =>
        cases moved
        obtain ⟨conn, attempt, state⟩ := healthy.handshake ⟨status, .inl phase⟩
        exact .inHandshake (healthy.running (by rw [phase]; nofun)) ⟨status, .inr rfl⟩ attempt
          state
    · exact absurd survivable id
    · cases moved
  | received outcome =>
    unfold ConnectLoop.step at moved
    dsimp only at moved
    split at moved
    · next status conn phase attempt =>
        cases moved
        exact healthy.answered phase attempt survivable
    · cases moved
  | disconnected =>
    unfold ConnectLoop.step at moved
    dsimp only at moved
    split at moved
    · next phase =>
        cases moved
        exact healthy.afterDisconnect phase
    · cases moved
  | slept =>
    unfold ConnectLoop.step at moved
    dsimp only at moved
    split at moved
    · next phase =>
        cases moved
        have running := healthy.running (by rw [phase]; nofun)
        refine .between running (phase_loopHead running) ?_
        exact healthy.idle (by rw [phase]; rintro ⟨_, other | other⟩ <;> cases other)
          (by rw [phase]; nofun)
    · cases moved
  | stop =>
    unfold ConnectLoop.step at moved
    dsimp only at moved
    split at moved
    · cases moved
      exact healthy.stop survivable
    · cases moved

/-- Any other outcome is raised out of the loop, or leaves a connection in its handshake behind. -/
theorem Healthy.broken (healthy : Healthy loop) (fatal : ¬ Survivable loop event)
    (moved : loop.step event = some next)
    : ¬ Survives next := by
  cases event with
  | webSocket outcome =>
    unfold ConnectLoop.step at moved
    dsimp only at moved
    split at moved
    · next status phase =>
        cases moved
        intro survives
        rcases loop.connector.makeConnection.beginInitiate.connectRequest_cases with
          ⟨bvlc, npdu, _⟩ | ⟨_, raised, failed⟩
        · exact fatal ⟨bvlc, npdu⟩
        · refine survives.notRaised (.python raised) ?_
          rw [ConnectLoop.begin, failed]
    · exact absurd trivial fatal
    · cases moved
  | sent outcome =>
    unfold ConnectLoop.step at moved
    dsimp only at moved
    split at moved
    · exact absurd trivial fatal
    · next status exception phase =>
        cases moved
        exact fun survives => survives.notRaised exception rfl
    · cases moved
  | received outcome =>
    unfold ConnectLoop.step at moved
    dsimp only at moved
    split at moved
    · cases moved
      obtain ⟨exception, raised⟩ := SCConnection.raised_iff.mpr fatal
      intro survives
      refine survives.notRaised exception ?_
      rw [ConnectLoop.answered, raised]
    · cases moved
  | stop =>
    obtain ⟨status, phase⟩ := not_not.mp fatal
    obtain ⟨conn, attempt, state⟩ := healthy.handshake ⟨status, phase⟩
    unfold ConnectLoop.step at moved
    dsimp only at moved
    split at moved
    · cases moved
      have left : loop.stop.phase = .ended ∧ loop.stop.attempt = some conn := by
        unfold ConnectLoop.stop
        rcases phase with same | same <;> rw [same] <;> exact ⟨rfl, attempt⟩
      intro survives
      have outside : ¬ InHandshake loop.stop.phase := by
        rw [left.1]
        rintro ⟨_, other | other⟩ <;> cases other
      have idle := (survives.idle outside (by rw [left.1]; nofun) conn left.2).1
      cases state.symm.trans idle
    · cases moved
  | disconnected => exact absurd trivial fatal
  | slept => exact absurd trivial fatal

-- Whole runs

def connectorOfHub : SCHubConnector where
  localVmac := .numbered 2
  localUuid := .repeated 2
  primaryHubUri := "wss://hub.example.com:4443"

def attemptWith (answer : Except ScException Bytes) : List Event :=
  [.webSocket (.ok ()), .sent (.ok ()), .received answer]

/-- The loop survives all outcomes of a run exactly if each of them is survivable. -/
theorem survives_iff (connector : SCHubConnector) (events : List Event)
    : Always step Survives connector.start events
      ↔ Meets step Survivable connector.start events :=
  have running : ({ connector with running := true } : SCHubConnector).running = true := rfl
  always_iff_meets Healthy.step (fun healthy => healthy.toSurvives) Healthy.broken
    (.between running (phase_loopHead running) nofun)

/-- A hub that closes the connection instead of an answer, or that answers with an empty Connect-Accept,
ends the loop; the connection stays in its handshake, with an open WebSocket.
-/
theorem loop_left
    : (run step connectorOfHub.start (attemptWith (.error .connectionClosed))).map (fun loop =>
          (loop.phase, loop.connector.running,
            loop.attempt.map fun conn => (conn.state, conn.hasWebSocket)))
        = some (.raised .connectionClosed, true, some (.awaitingAccept, true))
      ∧ (run step connectorOfHub.start (attemptWith (.ok [0x07, 0, 0, 1]))).map (fun loop =>
          (loop.phase, loop.connector.running,
            loop.attempt.map fun conn => (conn.state, conn.hasWebSocket)))
        = some (
            .raised (.python (.valueError "Connect payload too short: need 26 bytes, got 0")),
            true, some (.awaitingAccept, true)) := by
  decide +kernel

/-- So the loop does not survive all runs. -/
theorem not_all_survive
    : ¬ Always step Survives connectorOfHub.start (attemptWith (.error .connectionClosed))
      ∧ ¬ Always step Survives connectorOfHub.start (attemptWith (.ok [0x07, 0, 0, 1])) := by
  constructor
  · intro always
    obtain ⟨loop, ran, seen⟩ := Option.map_eq_some_iff.mp loop_left.1
    have survives := always_iff_prefixes.mp always _ [] loop (List.append_nil _).symm ran
    exact survives.notRaised _ (Prod.mk.inj seen).1
  · intro always
    obtain ⟨loop, ran, seen⟩ := Option.map_eq_some_iff.mp loop_left.2
    have survives := always_iff_prefixes.mp always _ [] loop (List.append_nil _).symm ran
    exact survives.notRaised _ (Prod.mk.inj seen).1

end ConnectLoop

end BacPy
