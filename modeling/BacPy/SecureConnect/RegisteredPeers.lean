import BacPy.SecureConnect.HubFunction
import BacPy.Library.Runs

/-! The connections of the hub are registered under the VMACs of their peers. -/

namespace BacPy.SCHubFunction

open Library

/-- Each registered connection is registered for the VMAC of its peer, and its handshake is over. -/
def PeersRegistered (hub : SCHubFunction) : Prop :=
  ∀ vmac id, hub.connections.get vmac = some id
    → ∃ client, hub.clients id = some client ∧ client.conn.peerVmac = some vmac
      ∧ client.phase = .over

namespace PeersRegistered

variable {hub next : SCHubFunction} {id : Nat} {client : HubClient} {event : HubEvent}

theorem mono (registered : PeersRegistered hub) (same : next.clients = hub.clients)
    (fewer : ∀ vmac id, next.connections.get vmac = some id → hub.connections.get vmac = some id)
    : PeersRegistered next := by
  intro vmac id found
  rw [same]
  exact registered vmac id (fewer vmac id found)

theorem withClient (registered : PeersRegistered hub)
    (stays : ∀ former, hub.clients id = some former → former.phase = .over
      → client.conn.peerVmac = former.conn.peerVmac ∧ client.phase = .over)
    : PeersRegistered (hub.withClient id client) := by
  intro vmac other found
  obtain ⟨former, there, peer, finished⟩ := registered vmac other found
  by_cases same : other = id
  · subst same
    obtain ⟨samePeer, done⟩ := stays former there finished
    exact ⟨client, clients_withClient .., samePeer.trans peer, done⟩
  · exact ⟨former, (clients_withClient_ne same).trans there, peer, finished⟩

theorem release (registered : PeersRegistered hub) (vmac : Option SCVMAC)
    : PeersRegistered (hub.release vmac) :=
  registered.mono (clients_release ..) fun vmac' id found => by rwa [connections_release] at found

/-- Registrations are only taken back when a connection goes idle. -/
theorem onNodeDisconnected (registered : PeersRegistered hub) (id : Nat) (conn : SCConnection)
    : PeersRegistered (hub.onNodeDisconnected id conn) := by
  have released := registered.release conn.peerVmac
  unfold SCHubFunction.onNodeDisconnected
  dsimp only
  split
  · exact released
  · next vmac _ =>
      have popped : PeersRegistered {
          hub.release conn.peerVmac with
          connections := (hub.release conn.peerVmac).connections.pop vmac
        } := released.mono rfl fun vmac' id found => by
          rw [OrderedDict.get_pop] at found
          split at found
          · cases found
          · exact found
      split
      · split <;> assumption
      · split
        · split <;> exact PeersRegistered.mono (by assumption) rfl fun _ _ found => found
        · split <;> assumption

theorem goIdle (registered : PeersRegistered hub) (there : hub.clients id = some client)
    (phase : AcceptPhase) (finished : client.phase = .over → phase = .over)
    (scheduled : Bool)
    : PeersRegistered
        (hub.goIdle id { client with phase, disconnectScheduled := scheduled }) := by
  have idle : PeersRegistered (hub.withClient id
      { client with phase, disconnectScheduled := scheduled, conn := client.conn.goIdle }) :=
    registered.withClient fun former here done => by
      cases there.symm.trans here
      exact ⟨SCConnection.peerVmac_goIdle _, finished done⟩
  unfold SCHubFunction.goIdle
  dsimp only
  split
  · exact idle.onNodeDisconnected id client.conn
  · exact idle

theorem dropFormer (registered : PeersRegistered hub) (vmac : SCVMAC) (uuid : DeviceUUID)
    : PeersRegistered (hub.dropFormer vmac uuid) := by
  have scheduled : ∀ {hub : SCHubFunction} (id : Nat), PeersRegistered hub
      → PeersRegistered (hub.scheduleDisconnect id) := by
    intro hub id registered
    unfold scheduleDisconnect
    split
    · exact registered
    · next client there =>
        refine registered.withClient fun former here finished => ?_
        cases there.symm.trans here
        exact ⟨rfl, finished⟩
  unfold SCHubFunction.dropFormer
  split
  · exact registered
  · next former _ =>
      split
      · exact registered
      · split
        · exact registered
        · refine scheduled _ (registered.mono rfl fun vmac' id found => ?_)
          rw [OrderedDict.get_pop] at found
          split at found
          · cases found
          · exact found

theorem onNodeConnected (registered : PeersRegistered hub) (there : hub.clients id = some client)
    (finished : client.phase = .over)
    : PeersRegistered (hub.onNodeConnected id client.conn) := by
  have same := map_onNodeConnected (fun client => (client.conn.peerVmac, client.phase))
    (fun _ => rfl) hub id id client.conn
  rw [there] at same
  obtain ⟨after, here, peerAndPhase⟩ := Option.map_eq_some_iff.mp same
  obtain ⟨samePeer, samePhase⟩ := Prod.mk.inj peerAndPhase
  unfold SCHubFunction.onNodeConnected at here ⊢
  split
  · next vmac uuid peerVmac peerUuid =>
      rw [peerVmac, peerUuid] at here
      intro vmac' other found
      rw [OrderedDict.get_set] at found
      split at found
      · next sameVmac =>
          cases found
          exact ⟨after, here, samePeer.trans (sameVmac ▸ peerVmac), samePhase.trans finished⟩
      · exact (registered.release vmac).dropFormer vmac uuid vmac' other found
  · exact registered

theorem acceptRequest (registered : PeersRegistered hub) (there : hub.clients id = some client)
    (phase : client.phase = .awaitingRequest) (received) (now : Rat)
    : PeersRegistered (hub.acceptRequest id client received now) := by
  have stays : ∀ (former : HubClient) (after : HubClient), hub.clients id = some former
      → former.phase = .over
      → after.conn.peerVmac = former.conn.peerVmac ∧ after.phase = .over := by
    intro former after here finished
    cases there.symm.trans here
    cases phase.symm.trans finished
  unfold SCHubFunction.acceptRequest
  split
  · exact registered.goIdle there .over (fun _ => rfl) client.disconnectScheduled
  · exact registered.withClient fun former here finished => stays former _ here finished
  · next payload _ =>
      have same := hub.clients_checkVmac now payload.vmac payload.uuid
      have checked : PeersRegistered (hub.checkVmac now payload.vmac payload.uuid).1 :=
        registered.mono same fun vmac other found => by
          rwa [connections_checkVmac] at found
      dsimp only
      split
      · exact checked.withClient fun former here finished => stays former _ (same ▸ here) finished
      · exact checked.withClient fun former here finished => stays former _ (same ▸ here) finished

theorem answerSent (registered : PeersRegistered hub) (there : hub.clients id = some client)
    (outcome)
    : PeersRegistered (hub.answerSent id client outcome) := by
  have done : ∀ after : HubClient, after.conn.peerVmac = client.conn.peerVmac → after.phase = .over
      → PeersRegistered (hub.withClient id after) := fun after peer finished =>
    registered.withClient fun former here _ =>
      ⟨Option.some.inj (there.symm.trans here) ▸ peer, finished⟩
  unfold SCHubFunction.answerSent
  dsimp only
  split
  · exact (done { client with phase := .over } rfl rfl).release _
  · exact ((done (connected client) rfl rfl).onNodeConnected (clients_withClient ..) rfl).release _
  · exact (registered.goIdle there .over (fun _ => rfl) client.disconnectScheduled).release _

theorem step (registered : PeersRegistered hub) (moved : hub.step event = some next)
    : PeersRegistered next := by
  cases event with
  | arrives id =>
    unfold SCHubFunction.step at moved
    dsimp only at moved
    split at moved
    · cases moved
    · next fresh =>
        split at moved
        · exact Option.some.inj moved ▸ registered
        · cases moved
          exact registered.withClient fun former there => nomatch fresh.symm.trans there
  | upgraded id succeeded =>
    obtain ⟨client, there, moved⟩ := Option.bind_eq_some_iff.mp moved
    split at moved
    · cases moved
    · next phase =>
        have stays : ∀ (former after : HubClient), hub.clients id = some former
            → former.phase = .over
            → after.conn.peerVmac = former.conn.peerVmac ∧ after.phase = .over := by
          intro former after here finished
          cases there.symm.trans here
          cases (not_not.mp phase).symm.trans finished
        split at moved
        · cases moved
          exact registered.withClient fun former here finished => stays former _ here finished
        · cases moved
          exact registered.withClient fun former here finished => stays former _ here finished
  | received id received now =>
    obtain ⟨client, there, moved⟩ := Option.bind_eq_some_iff.mp moved
    split at moved
    · cases moved
    · next phase =>
        cases moved
        exact registered.acceptRequest there (not_not.mp phase) received now
  | sent id outcome =>
    obtain ⟨client, there, moved⟩ := Option.bind_eq_some_iff.mp moved
    split at moved
    · cases moved
    · cases moved
      exact registered.answerSent there outcome
  | disconnectStarts id =>
    obtain ⟨client, there, moved⟩ := Option.bind_eq_some_iff.mp moved
    split at moved
    · cases moved
      unfold beginDisconnect
      dsimp only
      split
      · exact registered.goIdle there client.phase (fun finished => finished) false
      · exact registered.withClient fun former here finished =>
          ⟨Option.some.inj (there.symm.trans here) ▸ rfl,
            Option.some.inj (there.symm.trans here) ▸ finished⟩
    · cases moved
  | goesIdle id =>
    obtain ⟨client, there, moved⟩ := Option.bind_eq_some_iff.mp moved
    split at moved
    · cases moved
      exact registered.goIdle there client.phase (fun done => done) client.disconnectScheduled
    · cases moved

end PeersRegistered

end BacPy.SCHubFunction
