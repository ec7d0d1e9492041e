import BacPy.SecureConnect.HubFunction
import BacPy.Library.Runs

/-! The hub's table of connections in whole runs: which registrations keep it correct. -/

namespace BacPy.SCHubFunction

open Library
open OrderedDict (get_set_self get_set_ne size_set_of_none get_pop_ne)

/-- What the table of connections says of the connections of a hub. -/
structure TableCorrect (hub : SCHubFunction) : Prop where
  /-- connections that are CONNECTED with one VMAC have one device UUID -/
  vmacUnique : ∀ id other client another, hub.clients id = some client
    → hub.clients other = some another → client.conn.state = .connected
    → another.conn.state = .connected → client.conn.peerVmac = another.conn.peerVmac
    → client.conn.peerUuid = another.conn.peerUuid
  /-- a connection that is CONNECTED is the one registered for its VMAC -/
  registered : ∀ id client, hub.clients id = some client → client.conn.state = .connected
    → ∃ vmac, client.conn.peerVmac = some vmac ∧ hub.connections.get vmac = some id
  /-- `_uuid_map` maps the UUID of a registered connection to its VMAC -/
  mapped : ∀ vmac id client, hub.connections.get vmac = some id → hub.clients id = some client
    → ∃ uuid, client.conn.peerUuid = some uuid
      ∧ hub.uuidMap.get uuid = client.conn.peerVmac
  bounded : hub.connections.size ≤ hub.maxConnections

/-- The handshake that a Connect-Accept completes registers a VMAC that no connection is registered
for, and a UUID that is not in `_uuid_map`, and the table has room for it.
-/
def NewAndRoom (hub : SCHubFunction) : HubEvent → Prop
  | .sent id (.ok ()) =>
    ∀ client, hub.clients id = some client → client.phase = .sendingAccept
      → ∀ vmac uuid, client.conn.peerVmac = some vmac → client.conn.peerUuid = some uuid
        → hub.connections.get vmac = none ∧ hub.uuidMap.get uuid = none
          ∧ hub.connections.size < hub.maxConnections
  | _ => True

-- What holds as long as all registrations are such

/-- A client that the table says nothing of: it is not CONNECTED, and not about to be disconnected. -/
structure Apart (client : HubClient) : Prop where
  state : client.conn.state ≠ .connected
  connecting : client.conn.state ≠ .disconnecting
  unscheduled : client.disconnectScheduled = false
  /-- the peer is known where the Connect-Accept is sent -/
  known : client.phase = .sendingAccept
    → ∃ vmac uuid, client.conn.peerVmac = some vmac ∧ client.conn.peerUuid = some uuid

/-- A client that the hub has registered. -/
structure Registered (client : HubClient) (vmac : SCVMAC) (uuid : DeviceUUID) : Prop where
  state : client.conn.state = .connected
  unscheduled : client.disconnectScheduled = false
  done : client.phase = .over
  peerVmac : client.conn.peerVmac = some vmac
  peerUuid : client.conn.peerUuid = some uuid

/-- The clients are the registered ones and those apart from the table, and `_uuid_map` is the
inverse of the table.
-/
structure InStep (hub : SCHubFunction) : Prop where
  clients : ∀ {id client}, hub.clients id = some client
    → Apart client ∨ ∃ vmac uuid, Registered client vmac uuid ∧ hub.connections.get vmac = some id
  connections : ∀ {vmac id}, hub.connections.get vmac = some id
    → ∃ client uuid, hub.clients id = some client ∧ Registered client vmac uuid
      ∧ hub.uuidMap.get uuid = some vmac
  uuids : ∀ {uuid vmac}, hub.uuidMap.get uuid = some vmac
    → ∃ id client, hub.connections.get vmac = some id ∧ hub.clients id = some client
      ∧ Registered client vmac uuid
  bounded : hub.connections.size ≤ hub.maxConnections

namespace InStep

variable {hub : SCHubFunction} {id : Nat} {client : HubClient}

theorem on_of_connected (inStep : InStep hub) (there : hub.clients id = some client)
    (connected : client.conn.state = .connected)
    : ∃ vmac uuid, Registered client vmac uuid ∧ hub.connections.get vmac = some id := by
  rcases inStep.clients there with apart | registered
  · exact absurd connected apart.state
  · exact registered

/-- A client whose task is not over is apart from the table. -/
theorem apart_of_phase (inStep : InStep hub) (there : hub.clients id = some client)
    (phase : client.phase ≠ .over)
    : Apart client := by
  rcases inStep.clients there with apart | ⟨_, _, on, _⟩
  · exact apart
  · exact absurd on.done phase

theorem tableCorrect (inStep : InStep hub) : TableCorrect hub where
  vmacUnique id other client another there here connected also same := by
    obtain ⟨vmac, uuid, on, registered⟩ := inStep.on_of_connected there connected
    obtain ⟨vmac', uuid', on', registered'⟩ := inStep.on_of_connected here also
    have sameVmac : vmac = vmac' :=
      Option.some.inj (on.peerVmac.symm.trans (same.trans on'.peerVmac))
    subst sameVmac
    cases registered.symm.trans registered'
    rw [Option.some.inj (there.symm.trans here)]
  registered id client there connected := by
    obtain ⟨vmac, uuid, on, registered⟩ := inStep.on_of_connected there connected
    exact ⟨vmac, on.peerVmac, registered⟩
  mapped vmac id client registered there := by
    obtain ⟨known, uuid, here, on, mapped⟩ := inStep.connections registered
    cases there.symm.trans here
    exact ⟨uuid, on.peerUuid, mapped.trans on.peerVmac.symm⟩
  bounded := inStep.bounded

/-- Nothing of it is about the pending VMACs. -/
theorem pending (inStep : InStep hub) (pendingVmacs)
    : InStep { hub with pendingVmacs } :=
  ⟨inStep.clients, inStep.connections, inStep.uuids, inStep.bounded⟩

theorem release (inStep : InStep hub) (vmac : Option SCVMAC) : InStep (hub.release vmac) := by
  cases vmac with
  | none => exact inStep
  | some vmac => exact inStep.pending _

theorem checkVmac (inStep : InStep hub) (now : Rat) (vmac : SCVMAC) (uuid : DeviceUUID)
    : InStep (hub.checkVmac now vmac uuid).1 := by
  unfold SCHubFunction.checkVmac
  dsimp only
  repeat' split
  all_goals exact inStep.pending _

/-- A client apart from the table changes to another such one, or there is a new one. -/
theorem withClient (inStep : InStep hub) (before : ∀ former, hub.clients id = some former → Apart former)
    (after : Apart client)
    : InStep (hub.withClient id client) := by
  have other : ∀ {another former}, hub.clients another = some former
      → former.conn.state = .connected
      → (hub.withClient id client).clients another = some former := by
    intro another former there connected
    have different : another ≠ id := fun same =>
      (before former (same ▸ there)).state connected
    exact (clients_withClient_ne different).trans there
  refine ⟨fun {another former} there => ?_, fun {vmac another} registered => ?_,
    fun {uuid vmac} mapped => ?_, inStep.bounded⟩
  · by_cases same : another = id
    · subst same
      rw [clients_withClient] at there
      exact .inl (Option.some.inj there ▸ after)
    · rw [clients_withClient_ne same] at there
      exact inStep.clients there
  · obtain ⟨former, uuid, there, on, mapped⟩ := inStep.connections registered
    exact ⟨former, uuid, other there on.state, on, mapped⟩
  · obtain ⟨another, former, registered, there, on⟩ := inStep.uuids mapped
    exact ⟨another, former, registered, other there on.state, on⟩

/-- A new registration that the table has room for. -/
theorem register (inStep : InStep hub) {vmac uuid}
    (before : ∀ former, hub.clients id = some former → Apart former)
    (after : Registered client vmac uuid) (newVmac : hub.connections.get vmac = none)
    (newUuid : hub.uuidMap.get uuid = none) (room : hub.connections.size < hub.maxConnections)
    : InStep {
        hub.withClient id client with
        connections := hub.connections.set vmac id
        uuidMap := hub.uuidMap.set uuid vmac
      } := by
  have here : (hub.withClient id client).clients id = some client := clients_withClient ..
  have other : ∀ {another former vmac' uuid'}, hub.clients another = some former
      → Registered former vmac' uuid' → (hub.withClient id client).clients another = some former := by
    intro another former vmac' uuid' there registered
    have different : another ≠ id := fun same =>
      (before former (same ▸ there)).state registered.state
    exact (clients_withClient_ne different).trans there
  refine ⟨fun {another former} there => ?_, fun {vmac' another} registered => ?_,
    fun {uuid' vmac'} mapped => ?_, ?_⟩
  · by_cases same : another = id
    · subst same
      cases here.symm.trans there
      exact .inr ⟨vmac, uuid, after, get_set_self⟩
    · rcases inStep.clients ((clients_withClient_ne same).symm.trans there) with
        apart | ⟨vmac', uuid', registered, found⟩
      · exact .inl apart
      · have different : vmac' ≠ vmac := by
          rintro rfl
          cases newVmac.symm.trans found
        exact .inr ⟨vmac', uuid', registered, (get_set_ne different).trans found⟩
  · by_cases same : vmac' = vmac
    · subst same
      cases OrderedDict.get_set_self.symm.trans registered
      exact ⟨client, uuid, here, after, get_set_self⟩
    · rw [get_set_ne same] at registered
      obtain ⟨former, uuid', there, formerly, mapped⟩ := inStep.connections registered
      have different : uuid' ≠ uuid := by
        rintro rfl
        cases newUuid.symm.trans mapped
      exact ⟨former, uuid', other there formerly, formerly,
        (get_set_ne different).trans mapped⟩
  · by_cases same : uuid' = uuid
    · subst same
      cases OrderedDict.get_set_self.symm.trans mapped
      exact ⟨id, client, get_set_self, here, after⟩
    · rw [get_set_ne same] at mapped
      obtain ⟨another, former, found, there, formerly⟩ := inStep.uuids mapped
      have different : vmac' ≠ vmac := by
        rintro rfl
        cases newVmac.symm.trans found
      exact ⟨another, former, (get_set_ne different).trans found,
        other there formerly, formerly⟩
  · rw [size_set_of_none newVmac]
    exact room

/-- A registration that is taken back. -/
theorem unregister (inStep : InStep hub) {vmac uuid former} (there : hub.clients id = some former)
    (registered : Registered former vmac uuid) (found : hub.connections.get vmac = some id)
    (after : Apart client)
    : InStep {
        hub.withClient id client with
        connections := hub.connections.pop vmac
        uuidMap := hub.uuidMap.pop uuid
      } := by
  have mapped : hub.uuidMap.get uuid = some vmac := by
    obtain ⟨_, uuid', here, formerly, mapped⟩ := inStep.connections found
    cases there.symm.trans here
    rwa [Option.some.inj (registered.peerUuid.symm.trans formerly.peerUuid)]
  have other : ∀ {another former' vmac' uuid'}, vmac' ≠ vmac → hub.clients another = some former'
      → Registered former' vmac' uuid' → another ≠ id := by
    rintro another former' vmac' uuid' different here formerly rfl
    cases there.symm.trans here
    exact different (Option.some.inj (formerly.peerVmac.symm.trans registered.peerVmac))
  refine ⟨fun {another former'} here => ?_, fun {vmac' another} kept => ?_,
    fun {uuid' vmac'} kept => ?_, OrderedDict.size_pop_le.trans inStep.bounded⟩
  · by_cases same : another = id
    · subst same
      exact .inl (Option.some.inj ((clients_withClient ..).symm.trans here) ▸ after)
    · rcases inStep.clients ((clients_withClient_ne same).symm.trans here) with
        apart | ⟨vmac', uuid', formerly, kept⟩
      · exact .inl apart
      · have different : vmac' ≠ vmac := by
          rintro rfl
          exact same (Option.some.inj (kept.symm.trans found))
        exact .inr ⟨vmac', uuid', formerly, (get_pop_ne different).trans kept⟩
  · have different : vmac' ≠ vmac := by
      rintro rfl
      cases OrderedDict.get_pop_self.symm.trans kept
    rw [get_pop_ne different] at kept
    obtain ⟨former', uuid', here, formerly, maps⟩ := inStep.connections kept
    have differentUuid : uuid' ≠ uuid := by
      rintro rfl
      exact different (Option.some.inj (maps.symm.trans mapped))
    exact ⟨former', uuid', (clients_withClient_ne (other different here formerly)).trans here,
      formerly, (get_pop_ne differentUuid).trans maps⟩
  · have differentUuid : uuid' ≠ uuid := by
      rintro rfl
      cases OrderedDict.get_pop_self.symm.trans kept
    rw [get_pop_ne differentUuid] at kept
    obtain ⟨another, former', found', here, formerly⟩ := inStep.uuids kept
    have different : vmac' ≠ vmac := by
      rintro rfl
      cases found'.symm.trans found
      cases there.symm.trans here
      exact differentUuid (Option.some.inj (formerly.peerUuid.symm.trans registered.peerUuid))
    exact ⟨another, former', (get_pop_ne different).trans found',
      (clients_withClient_ne (other different here formerly)).trans here, formerly⟩

/-- A client apart from the table goes idle. -/
theorem goIdle_apart (inStep : InStep hub) (before : ∀ former, hub.clients id = some former → Apart former)
    (apart : Apart client) (phase : client.phase ≠ .sendingAccept)
    : InStep (hub.goIdle id client) := by
  have quiet : client.conn.wasConnected = false := by
    simp [SCConnection.wasConnected, apart.state, apart.connecting]
  rw [SCHubFunction.goIdle, quiet]
  exact inStep.withClient before ⟨by simp, by simp, apart.unscheduled, fun sends => absurd sends phase⟩

theorem goIdle_registered (inStep : InStep hub) {vmac uuid} (there : hub.clients id = some client)
    (registered : Registered client vmac uuid) (found : hub.connections.get vmac = some id)
    : InStep (hub.goIdle id client) := by
  have was : client.conn.wasConnected = true := by
    simp [SCConnection.wasConnected, registered.state]
  have mapped : hub.uuidMap.get uuid = some vmac := by
    obtain ⟨_, uuid', here, formerly, mapped⟩ := inStep.connections found
    cases there.symm.trans here
    rwa [Option.some.inj (registered.peerUuid.symm.trans formerly.peerUuid)]
  have idle : Apart { client with conn := client.conn.goIdle } :=
    ⟨by simp, by simp, registered.unscheduled, fun sends => nomatch registered.done.symm.trans sends⟩
  rw [SCHubFunction.goIdle, was, if_pos rfl,
    onNodeDisconnected_registered (hub.withClient id _) registered.peerVmac registered.peerUuid found
      mapped]
  exact (inStep.unregister there registered found idle).pending _

-- One step

theorem acceptRequest (inStep : InStep hub) (there : hub.clients id = some client)
    (phase : client.phase = .awaitingRequest) (received) (now : Rat)
    : InStep (hub.acceptRequest id client received now) := by
  have apart := inStep.apart_of_phase there (by rw [phase]; decide)
  have before : ∀ former, hub.clients id = some former → Apart former := fun former here =>
    Option.some.inj (there.symm.trans here) ▸ apart
  have finished : Apart { client with phase := .over } :=
    ⟨apart.state, apart.connecting, apart.unscheduled, fun sends => nomatch sends⟩
  unfold SCHubFunction.acceptRequest
  split
  · exact inStep.goIdle_apart before finished fun sends => nomatch sends
  · exact inStep.withClient before finished
  · next payload _ =>
      have checked := inStep.checkVmac now payload.vmac payload.uuid
      have same := hub.clients_checkVmac now payload.vmac payload.uuid
      have before : ∀ former, (hub.checkVmac now payload.vmac payload.uuid).1.clients id = some former
          → Apart former := by
        rw [same]
        exact before
      dsimp only
      split
      · exact checked.withClient before ⟨apart.state, apart.connecting, apart.unscheduled,
          fun _ => ⟨payload.vmac, payload.uuid, rfl, rfl⟩⟩
      · exact checked.withClient before ⟨apart.state, apart.connecting, apart.unscheduled,
          fun sends => nomatch sends⟩

theorem answerSent (inStep : InStep hub) (there : hub.clients id = some client)
    (phase : client.phase = .sendingNak ∨ client.phase = .sendingAccept) {outcome}
    (allowed : NewAndRoom hub (.sent id outcome))
    : InStep (hub.answerSent id client outcome) := by
  have apart := inStep.apart_of_phase there (by rcases phase with same | same <;> rw [same] <;> decide)
  have before : ∀ former, hub.clients id = some former → Apart former := fun former here =>
    Option.some.inj (there.symm.trans here) ▸ apart
  have finished : Apart { client with phase := .over } :=
    ⟨apart.state, apart.connecting, apart.unscheduled, fun sends => nomatch sends⟩
  unfold SCHubFunction.answerSent
  dsimp only
  split
  · exact (inStep.withClient before finished).release _
  · next accepting =>
      obtain ⟨vmac, uuid, peerVmac, peerUuid⟩ := apart.known accepting
      obtain ⟨newVmac, newUuid, room⟩ := allowed client there accepting vmac uuid peerVmac peerUuid
      have after : Registered (connected client) vmac uuid :=
        ⟨rfl, apart.unscheduled, rfl, peerVmac, peerUuid⟩
      rw [onNodeConnected_new (hub.withClient id (connected client)) after.peerVmac after.peerUuid
        newUuid]
      exact ((inStep.register before after newVmac newUuid room).pending _).release _
  · exact (inStep.goIdle_apart before finished fun sends => nomatch sends).release _

variable {next : SCHubFunction} {event : HubEvent}

theorem step (inStep : InStep hub) (allowed : NewAndRoom hub event)
    (moved : hub.step event = some next)
    : InStep next := by
  cases event with
  | arrives id =>
    unfold SCHubFunction.step at moved
    dsimp only at moved
    split at moved
    · cases moved
    · next fresh =>
        split at moved
        · exact Option.some.inj moved ▸ inStep
        · cases moved
          refine inStep.withClient (fun former there => nomatch fresh.symm.trans there) ?_
          exact ⟨nofun, nofun, rfl, nofun⟩
  | upgraded id succeeded =>
    obtain ⟨client, there, moved⟩ := Option.bind_eq_some_iff.mp moved
    split at moved
    · cases moved
    · next phase =>
        have apart := inStep.apart_of_phase there (by rw [not_not.mp phase]; decide)
        have before : ∀ former, hub.clients id = some former → Apart former := fun former here =>
          Option.some.inj (there.symm.trans here) ▸ apart
        split at moved
        · cases moved
          exact inStep.withClient before ⟨nofun, nofun, apart.unscheduled, nofun⟩
        · cases moved
          exact inStep.withClient before
            ⟨apart.state, apart.connecting, apart.unscheduled, nofun⟩
  | received id received now =>
    obtain ⟨client, there, moved⟩ := Option.bind_eq_some_iff.mp moved
    split at moved
    · cases moved
    · next phase =>
        cases moved
        exact inStep.acceptRequest there (not_not.mp phase) received now
  | sent id outcome =>
    obtain ⟨client, there, moved⟩ := Option.bind_eq_some_iff.mp moved
    split at moved
    · cases moved
    · next phase =>
        cases moved
        exact inStep.answerSent there (by tauto) allowed
  | disconnectStarts id =>
    obtain ⟨client, there, moved⟩ := Option.bind_eq_some_iff.mp moved
    split at moved
    · next scheduled =>
        rcases inStep.clients there with apart | ⟨_, _, registered, _⟩
        · cases apart.unscheduled.symm.trans scheduled
        · cases registered.unscheduled.symm.trans scheduled
    · cases moved
  | goesIdle id =>
    obtain ⟨client, there, moved⟩ := Option.bind_eq_some_iff.mp moved
    split at moved
    · next was =>
        cases moved
        rcases inStep.clients there with apart | ⟨vmac, uuid, registered, found⟩
        · simp [SCConnection.wasConnected, apart.state, apart.connecting] at was
        · exact inStep.goIdle_registered there registered found
    · cases moved

/-- A connection that is still CONNECTED and not registered any more. -/
theorem orphaned (inStep : InStep hub) {vmac other} (found : hub.connections.get vmac = some other)
    (same : (next.clients other).map HubClient.conn = (hub.clients other).map HubClient.conn)
    (dropped : next.connections.get vmac ≠ some other)
    : ¬ TableCorrect next := by
  intro correct
  obtain ⟨former, uuid, there, registered, _⟩ := inStep.connections found
  rw [there] at same
  obtain ⟨former', here, sameConn⟩ := Option.map_eq_some_iff.mp same
  obtain ⟨vmac', peerVmac, found'⟩ := correct.registered other former' here
    (by rw [sameConn]; exact registered.state)
  rw [sameConn, registered.peerVmac] at peerVmac
  exact dropped (Option.some.inj peerVmac ▸ found')

/-- A registration of a VMAC or a UUID that is not new, or without room, leaves the table incorrect:
the former connection stays CONNECTED and is not registered any more, or the table is too large.
-/
theorem broken_registration (inStep : InStep hub) (there : hub.clients id = some client)
    (accepting : client.phase = .sendingAccept) {vmac uuid}
    (peerVmac : client.conn.peerVmac = some vmac) (peerUuid : client.conn.peerUuid = some uuid)
    (refused : ¬ (hub.connections.get vmac = none ∧ hub.uuidMap.get uuid = none
      ∧ hub.connections.size < hub.maxConnections))
    : ¬ TableCorrect (hub.answerSent id client (.ok ())) := by
  have apart := inStep.apart_of_phase there (by rw [accepting]; decide)
  have table := connections_answerSent hub id accepting peerVmac peerUuid
  have different : ∀ {former other}, hub.connections.get former = some other → other ≠ id := by
    rintro former other found rfl
    obtain ⟨_, _, here, registered, _⟩ := inStep.connections found
    cases there.symm.trans here
    exact apart.state registered.state
  cases found : hub.connections.get vmac with
  | some other =>
    refine inStep.orphaned found (conn_answerSent hub id accepting (different found)) ?_
    rw [table, get_set_self]
    exact fun same => different found (Option.some.inj same).symm
  | none =>
    cases mapped : hub.uuidMap.get uuid with
    | some former =>
      obtain ⟨other, _, formerly, _⟩ := inStep.uuids mapped
      have moved : former ≠ vmac := by
        rintro rfl
        cases found.symm.trans formerly
      refine inStep.orphaned formerly (conn_answerSent hub id accepting (different formerly)) ?_
      rw [table, get_set_ne moved, get_dropFormer (by rw [uuidMap_release]; exact mapped) moved]
      nofun
    | none =>
      intro correct
      have after : (connected client).conn.peerVmac = some vmac := peerVmac
      have bounded := correct.bounded
      rw [answerSent_accept hub id accepting,
        onNodeConnected_new (hub.withClient id (connected client)) after peerUuid mapped,
        connections_release, maxConnections_release] at bounded
      have full : hub.maxConnections ≤ hub.connections.size :=
        not_lt.mp fun room => refused ⟨found, mapped, room⟩
      have grown : (hub.connections.set vmac id).size = hub.connections.size + 1 :=
        size_set_of_none found
      have most : (hub.connections.set vmac id).size ≤ hub.maxConnections := bounded
      omega

theorem broken (inStep : InStep hub) (refused : ¬ NewAndRoom hub event)
    (moved : hub.step event = some next)
    : ¬ TableCorrect next := by
  cases event with
  | sent id outcome =>
    cases outcome with
    | error _ => exact absurd trivial refused
    | ok =>
      simp only [NewAndRoom, not_forall] at refused
      obtain ⟨client, there, accepting, vmac, uuid, peerVmac, peerUuid, refused⟩ := refused
      obtain ⟨client', here, moved⟩ := Option.bind_eq_some_iff.mp moved
      cases there.symm.trans here
      rw [if_neg (by simp [accepting])] at moved
      cases moved
      exact inStep.broken_registration there accepting peerVmac peerUuid refused
  | arrives id => exact absurd trivial refused
  | upgraded id succeeded => exact absurd trivial refused
  | received id received now => exact absurd trivial refused
  | disconnectStarts id => exact absurd trivial refused
  | goesIdle id => exact absurd trivial refused

end InStep

-- Whole runs

/-- The table of a hub is correct in all states of a run exactly if every handshake that completes
registers a new VMAC with a new UUID and finds room for it.
-/
theorem tableCorrect_iff (hubVmac : SCVMAC) (hubUuid : DeviceUUID)
    (maxConnections maxBvlcLength maxNpduLength : Nat) (events : List HubEvent)
    : Always step TableCorrect
          { hubVmac, hubUuid, maxConnections, maxBvlcLength, maxNpduLength } events
      ↔ Meets step NewAndRoom
          { hubVmac, hubUuid, maxConnections, maxBvlcLength, maxNpduLength } events :=
  always_iff_meets InStep.step InStep.tableCorrect InStep.broken
    ⟨nofun, nofun, nofun, Nat.zero_le _⟩

/-- A hub without connections. -/
def emptyHub : SCHubFunction where
  hubVmac := .numbered 1
  hubUuid := .repeated 1

def device : ConnectPayload where
  vmac := .numbered 2
  uuid := .repeated 2
  maxBvlcLength := 1600
  maxNpduLength := 1497

/-- The handshake of the device on one WebSocket. -/
def handshake (id : Nat) (now : Rat) : List HubEvent :=
  [.arrives id, .upgraded id true,
    .received id (.ok (0x06 :: 0 :: 0 :: 1 :: (device.vmac.address ++ (device.uuid.value
      ++ [0x06, 0x40, 0x05, 0xD9])))) now,
    .sent id (.ok ())]

/-- The device connects again while its former connection is still open: that one stays CONNECTED but
is not registered any more, and when it goes idle, the UUID of the registered one is forgotten.
-/
theorem former_connection_stays
    : ((run step emptyHub (handshake 0 0 ++ handshake 1 60)).map fun hub =>
          ((hub.clients 0).map fun client => (client.conn.state, client.conn.peerVmac),
            hub.connections.get device.vmac, hub.uuidMap.get device.uuid))
        = some (some (.connected, some device.vmac), some 1, some device.vmac)
      ∧ ((run step emptyHub (handshake 0 0 ++ handshake 1 60 ++ [.goesIdle 0])).map fun hub =>
          (hub.connections.get device.vmac, hub.uuidMap.get device.uuid))
        = some (some 1, none) := by
  decide +kernel

/-- So the table is not correct in all runs. -/
theorem table_incorrect
    : ¬ Always step TableCorrect emptyHub (handshake 0 0 ++ handshake 1 60) := by
  intro always
  obtain ⟨hub, ran, seen⟩ := Option.map_eq_some_iff.mp former_connection_stays.1
  have correct := always_iff_prefixes.mp always _ [] hub (List.append_nil _).symm ran
  obtain ⟨client, there, seenClient⟩ := Option.map_eq_some_iff.mp (Prod.mk.inj seen).1
  obtain ⟨state, peerVmac⟩ := Prod.mk.inj seenClient
  obtain ⟨vmac, same, found⟩ := correct.registered 0 client there state
  cases peerVmac.symm.trans same
  cases (Prod.mk.inj (Prod.mk.inj seen).2).1.symm.trans found

end BacPy.SCHubFunction
