import BacPy.SecureConnect.RegisteredPeers

/-! How the handshakes of the hub end, and the callbacks that its connections make. -/

namespace BacPy

open Library

-- The first message

/-- What `accept` can take as a first message: a timeout or another OSError; octets that are no
message; a Connect-Request whose payload has 26 octets; another message.
-/
def SCConnection.Requests (received : Except ScException Bytes) : Prop :=
  match received with
  | .error exception => exception = .osError
  | .ok raw =>
    ∀ request, SCMessage.decode raw = .ok request → request.function = .connectRequest
      → 26 ≤ request.payload.length

/-- Everything else is raised. -/
theorem SCConnection.raised_request_iff {received}
    : (∃ exception, readRequest received = .raised exception) ↔ ¬ Requests received := by
  cases received with
  | error exception => cases exception <;> simp [readRequest, Requests]
  | ok raw =>
    cases decoded : SCMessage.decode raw with
    | error raised =>
      have valueError := SCMessage.onlyValueErrors_decode raw false raised decoded
      simp [readRequest, Requests, decoded, valueError]
    | ok request =>
      by_cases function : request.function = .connectRequest
      · have long
            : (∃ payload, ConnectPayload.decode request.payload = .ok payload) ↔ _ :=
          ConnectPayload.decode_ok_iff
        cases payload : ConnectPayload.decode request.payload with
        | error raised =>
          have short : ¬ 26 ≤ request.payload.length := fun enough => by
            simpa [payload] using long.mpr enough
          simpa [readRequest, Requests, decoded, function, payload] using short
        | ok payload' =>
          have enough := long.mp ⟨payload', payload⟩
          simpa [readRequest, Requests, decoded, function, payload] using enough
      · simp [readRequest, Requests, decoded, function]

-- The machine

/-- A hub, and how often the callbacks of its clients' connections have been called. -/
structure HubLife where
  hub : SCHubFunction
  onConnected : Nat → Nat := fun _ => 0
  onDisconnected : Nat → Nat := fun _ => 0

/-- The task of the client is in `accept`. -/
def AcceptPhase.inHandshake (phase : AcceptPhase) : Bool :=
  phase = .awaitingRequest ∨ phase = .sendingNak ∨ phase = .sendingAccept

namespace HubLife

open SCHubFunction (clients_withClient clients_withClient_ne clients_release)
open SCConnection (wasConnected)

inductive Event where
  /-- what the tasks of the hub do; `stop` makes the registered connections go idle -/
  | hub (event : SCHubFunction.HubEvent)
  /-- a task is made that disconnects a connection whose handshake is over -/
  | disconnect (id : Nat)
  /-- the task of a handshake is cancelled by `stop` -/
  | cancelled (id : Nat)
  /-- `stop` clears the tables -/
  | stopped

/-- `accept` calls `on_connected` where it has made the connection CONNECTED. -/
def connects (before after : Option HubClient) : Bool :=
  before.any (·.phase = .sendingAccept) ∧ after.any (·.conn.state = .connected)

/-- `_go_idle` calls `on_disconnected` where it was CONNECTED or DISCONNECTING. -/
def disconnects (before after : Option HubClient) : Bool :=
  before.any (·.conn.wasConnected) ∧ after.any (·.conn.state = .idle)

/-- A step of the hub, and the callbacks in it. -/
def record (life : HubLife) (next : SCHubFunction) : HubLife where
  hub := next
  onConnected id :=
    life.onConnected id + (connects (life.hub.clients id) (next.clients id)).toNat
  onDisconnected id :=
    life.onDisconnected id + (disconnects (life.hub.clients id) (next.clients id)).toNat

/-- Whether an event can occur: a Connect-Accept is not sent if the maximum lengths do not fit into it. -/
def possible (hub : SCHubFunction) (event : SCHubFunction.HubEvent) : Bool :=
  match event with
  | .sent id (.ok ()) =>
    (hub.clients id).all fun client =>
      client.phase ≠ .sendingAccept ∨ client.conn.maxBvlc < 65536 ∧ client.conn.maxNpdu < 65536
  | _ => true

def step (life : HubLife) (event : Event) : Option HubLife :=
  match event with
  | .hub event => do
      let next ← life.hub.step event
      if possible life.hub event then some (life.record next) else none
  | .disconnect id => do
      let client ← life.hub.clients id
      if client.phase = .over then some (life.record (life.hub.scheduleDisconnect id)) else none
  | .cancelled id => do
      let client ← life.hub.clients id
      if client.phase.inHandshake then
        some (life.record
          ((life.hub.withClient id { client with phase := .over }).release client.conn.peerVmac))
      else none
  | .stopped => some (life.record { life.hub with connections := {}, uuidMap := {}, pendingVmacs := {} })

-- The property

/-- A VMAC is only reserved for a handshake that goes on. -/
def Reserved (hub : SCHubFunction) : Prop :=
  ∀ vmac, (hub.pendingVmacs.get vmac).isSome
    → ∃ id client, hub.clients id = some client ∧ client.phase = .sendingAccept
      ∧ client.conn.peerVmac = some vmac

/-- `on_disconnected` has been called at most once for each connection, and only after `on_connected`. -/
def InOrder (life : HubLife) : Prop :=
  ∀ id, life.onDisconnected id ≤ life.onConnected id ∧ life.onConnected id ≤ 1

/-- No handshake leaves AWAITING_REQUEST or a reserved VMAC behind: a connection whose handshake is over
is CONNECTED, or disconnecting since, or it is idle and its WebSocket closed.
-/
structure Ends (life : HubLife) : Prop where
  handshake : ∀ id client, life.hub.clients id = some client → client.phase = .over
    → client.conn.wasConnected = true
      ∨ client.conn.state = .idle ∧ client.conn.hasWebSocket = false
  reserved : Reserved life.hub
  callbacks : life.InOrder

/-- The first message can be taken, the answer is sent, and the hub does not stop in the handshake. -/
def Survivable (_ : HubLife) (event : Event) : Prop :=
  match event with
  | .hub (.received _ received _) => SCConnection.Requests received
  | .hub (.sent _ outcome) => outcome = .ok ()
  | .cancelled _ => False
  | _ => True

-- The invariant

/-- The life of a connection, with the calls of its two callbacks. -/
inductive Stage (client : HubClient) : Nat → Nat → Prop where
  | upgrading (phase : client.phase = .upgrading) (idle : client.conn.state = .idle)
    (closed : client.conn.hasWebSocket = false) (unscheduled : client.disconnectScheduled = false)
    : Stage client 0 0
  | shaking (phase : client.phase.inHandshake = true) (awaiting : client.conn.state = .awaitingRequest)
    (unscheduled : client.disconnectScheduled = false)
    : Stage client 0 0
  | failed (isOver : client.phase = .over) (awaiting : client.conn.state = .awaitingRequest)
    : Stage client 0 0
  | refused (isOver : client.phase = .over) (idle : client.conn.state = .idle)
    (closed : client.conn.hasWebSocket = false)
    : Stage client 0 0
  | up (isOver : client.phase = .over) (was : client.conn.wasConnected = true) : Stage client 1 0
  | down (isOver : client.phase = .over) (idle : client.conn.state = .idle)
    (closed : client.conn.hasWebSocket = false)
    : Stage client 1 1

/-- A client to which nothing has happened but that a task is to disconnect it, after its handshake. -/
structure Alike (before after : HubClient) : Prop where
  conn : after.conn = before.conn
  phase : after.phase = before.phase
  scheduled : after.disconnectScheduled = true
    → before.disconnectScheduled = true ∨ before.phase = .over

variable {life next : HubLife} {hub after : SCHubFunction} {id : Nat} {client client' : HubClient}
  {connected disconnected : Nat} {fine : Prop}

theorem Alike.refl (client : HubClient) : Alike client client := ⟨rfl, rfl, .inl⟩

/-- Where nothing else has happened, no callback has been called. -/
theorem Stage.alike (stage : Stage client connected disconnected) (alike : Alike client client')
    : Stage client' (connected + (connects (some client) (some client')).toNat)
        (disconnected + (disconnects (some client) (some client')).toNat) := by
  obtain ⟨conn, phase, scheduled⟩ := alike
  have silent : connects (some client) (some client') = false
      ∧ disconnects (some client) (some client') = false := by
    have idle : client.conn.wasConnected = true → client.conn.state ≠ .idle := by
      intro was
      rcases of_decide_eq_true was with same | same <;> simp [same]
    have waiting : client.phase = .sendingAccept → client.conn.state ≠ .connected := by
      intro sending
      cases stage <;> simp_all [AcceptPhase.inHandshake]
    simp only [connects, disconnects, Option.any_some, conn]
    exact ⟨by simpa using waiting, by simpa using idle⟩
  rw [silent.1, silent.2]
  cases stage with
  | upgrading phase' idle closed unscheduled =>
    refine .upgrading (phase.trans phase') (conn ▸ idle) (conn ▸ closed) ?_
    simpa [unscheduled, phase'] using scheduled
  | shaking phase' awaiting unscheduled =>
    refine .shaking (phase ▸ phase') (conn ▸ awaiting) ?_
    have busy : client.phase ≠ .over := by
      rintro isOver
      simp [isOver, AcceptPhase.inHandshake] at phase'
    simpa [unscheduled, busy] using scheduled
  | failed isOver awaiting => exact .failed (phase.trans isOver) (conn ▸ awaiting)
  | refused isOver idle closed => exact .refused (phase.trans isOver) (conn ▸ idle) (conn ▸ closed)
  | up isOver was => exact .up (phase.trans isOver) (conn ▸ was)
  | down isOver idle closed => exact .down (phase.trans isOver) (conn ▸ idle) (conn ▸ closed)

/-- Before its handshake is over, a connection has called nothing, and no task is to disconnect it. -/
theorem Stage.early (stage : Stage client connected disconnected) (early : client.phase ≠ .over)
    : connected = 0 ∧ disconnected = 0 ∧ client.conn.wasConnected = false
      ∧ client.disconnectScheduled = false := by
  cases stage <;> simp_all [wasConnected]

theorem Stage.awaiting (stage : Stage client connected disconnected)
    (phase : client.phase.inHandshake = true)
    : client.conn.state = .awaitingRequest := by
  cases stage <;> simp_all [AcceptPhase.inHandshake]

theorem Stage.unshaken (stage : Stage client connected disconnected)
    (phase : client.phase = .upgrading)
    : client.conn.state = .idle ∧ client.conn.hasWebSocket = false := by
  cases stage <;> simp_all [AcceptPhase.inHandshake]

/-- While the connection is open, `on_connected` has been called. -/
theorem Stage.opened (stage : Stage client connected disconnected)
    (was : client.conn.wasConnected = true)
    : client.phase = .over ∧ connected = 1 ∧ disconnected = 0 := by
  cases stage <;> simp_all [wasConnected]

/-- No callback is called where the connection is not open before and after. -/
theorem Stage.quiet (stage : Stage client' connected disconnected)
    (before : client.conn.wasConnected = false) (after : client'.conn.state ≠ .connected)
    : Stage client' (connected + (connects (some client) (some client')).toNat)
        (disconnected + (disconnects (some client) (some client')).toNat) := by
  simpa [connects, disconnects, before, after] using stage

/-- Before its handshake is over, a connection moves on without a call. -/
theorem Stage.moves (stage : Stage client connected disconnected) (early : client.phase ≠ .over)
    (moved : Stage client' 0 0)
    : Stage client' (connected + (connects (some client) (some client')).toNat)
        (disconnected + (disconnects (some client) (some client')).toNat) := by
  obtain ⟨rfl, rfl, before, _⟩ := stage.early early
  refine moved.quiet before ?_
  cases moved <;> simp_all

/-- `_go_idle`, by cases on the life of the connection. -/
theorem Stage.goIdle (stage : Stage client connected disconnected)
    (waits : client.phase ≠ .sendingAccept) (conn : client'.conn = client.conn.goIdle)
    (isOver : client'.phase = .over)
    : Stage client' (connected + (connects (some client) (some client')).toNat)
        (disconnected + (disconnects (some client) (some client')).toNat) := by
  have idle : client'.conn.state = .idle := by rw [conn, SCConnection.state_goIdle]
  have away : client'.conn.state ≠ .connected := by simp [idle]
  have closed : client'.conn.hasWebSocket = false := by
    rw [conn, SCConnection.goIdle]
    split
    · cases stage <;> simp_all [wasConnected]
    · rfl
  have never : Stage client' 0 0 := .refused isOver idle closed
  cases stage with
  | upgrading _ before => exact never.quiet (by simp [wasConnected, before]) away
  | shaking _ before => exact never.quiet (by simp [wasConnected, before]) away
  | failed _ before => exact never.quiet (by simp [wasConnected, before]) away
  | refused _ before => exact never.quiet (by simp [wasConnected, before]) away
  | up _ was => simpa [connects, disconnects, waits, was, idle] using Stage.down isOver idle closed
  | down _ before =>
    exact (Stage.down isOver idle closed).quiet (by simp [wasConnected, before]) away

-- One step

/-- What holds of a hub and the calls. -/
structure Lives (life : HubLife) : Prop where
  stages : ∀ id client, life.hub.clients id = some client
    → Stage client (life.onConnected id) (life.onDisconnected id)
  absent : ∀ id, life.hub.clients id = none → life.onConnected id = 0 ∧ life.onDisconnected id = 0
  registered : life.hub.PeersRegistered
  reserved : Reserved life.hub

/-- The handshake has left AWAITING_REQUEST behind. -/
def Failed (client : HubClient) : Prop :=
  client.phase = .over ∧ client.conn.state = .awaitingRequest

def NoneFailed (hub : SCHubFunction) : Prop :=
  ∀ id client, hub.clients id = some client → ¬ Failed client

/-- A step keeps the invariant, and it fails a handshake exactly if it is not `fine`. -/
structure Sound (life : HubLife) (after : SCHubFunction) (fine : Prop) : Prop where
  lives : Lives (life.record after)
  keeps : fine → NoneFailed life.hub → NoneFailed after
  breaks : ¬ fine → ¬ NoneFailed after

/-- A step of one client. -/
structure Moves (life : HubLife) (after : SCHubFunction) (id : Nat) (fine : Prop) : Prop where
  elsewhere : ∀ other, other ≠ id → Option.Rel Alike (life.hub.clients other) (after.clients other)
  stage : ∃ client, after.clients id = some client
    ∧ Stage client ((life.record after).onConnected id) ((life.record after).onDisconnected id)
    ∧ (Failed client ↔ ¬ fine)
  pending : ∀ vmac, (after.pendingVmacs.get vmac).isSome
    → (∃ client, after.clients id = some client ∧ client.phase = .sendingAccept
        ∧ client.conn.peerVmac = some vmac)
      ∨ (life.hub.pendingVmacs.get vmac).isSome ∧ ∀ client, life.hub.clients id = some client
        → client.phase = .sendingAccept → client.conn.peerVmac ≠ some vmac

theorem former_of_rel {before} (alike : Option.Rel Alike before (some client'))
    : ∃ client, before = some client ∧ Alike client client' := by
  cases alike with
  | some alike => exact ⟨_, rfl, alike⟩

theorem later_of_rel {after} (alike : Option.Rel Alike (some client) after)
    : ∃ client', after = some client' ∧ Alike client client' := by
  cases alike with
  | some alike => exact ⟨_, rfl, alike⟩

/-- A step of one client keeps the invariant. -/
theorem Moves.sound (moves : Moves life after id fine) (lives : Lives life)
    (registered : after.PeersRegistered)
    : Sound life after fine := by
  obtain ⟨moved, here, stage, failed⟩ := moves.stage
  refine ⟨⟨?_, ?_, registered, ?_⟩, ?_, fun refused none_ => none_ id moved here (failed.mpr refused)⟩
  · intro other client there
    by_cases same : other = id
    · subst same
      cases there.symm.trans here
      exact stage
    · have alike := moves.elsewhere other same
      simp only [record] at there ⊢
      rw [there] at alike ⊢
      obtain ⟨former, before, alike⟩ := former_of_rel alike
      rw [before]
      exact (lives.stages other former before).alike alike
  · intro other gone
    simp only [record] at gone ⊢
    by_cases same : other = id
    · rw [same, here] at gone
      cases gone
    · have alike := moves.elsewhere other same
      rw [gone] at alike ⊢
      cases before : life.hub.clients other with
      | none => simpa [connects, disconnects] using lives.absent other before
      | some former => simp [before] at alike
  · intro vmac there
    rcases moves.pending vmac there with ⟨client, here, rest⟩ | ⟨before, other⟩
    · exact ⟨id, client, here, rest⟩
    · obtain ⟨holder, client, held, phase, peer⟩ := lives.reserved vmac before
      have different : holder ≠ id := by
        rintro rfl
        exact other client held phase peer
      obtain ⟨client', now, alike⟩ := later_of_rel (held ▸ moves.elsewhere holder different)
      exact ⟨holder, client', now, alike.phase.trans phase, alike.conn ▸ peer⟩
  · intro fine noneFailed other client there failedThere
    by_cases same : other = id
    · subst same
      cases there.symm.trans here
      exact failed.mp failedThere fine
    · obtain ⟨former, before, alike⟩ := former_of_rel (there ▸ moves.elsewhere other same)
      exact noneFailed other former before
        ⟨alike.phase ▸ failedThere.1, alike.conn ▸ failedThere.2⟩

theorem rel_of_eq {other} (same : after.clients other = hub.clients other)
    : Option.Rel Alike (hub.clients other) (after.clients other) := by
  rw [same]
  cases hub.clients other with
  | none => exact .none
  | some client => exact .some (.refl client)

/-- `on_connected` touches other clients only to have them disconnected, after their handshakes. -/
theorem rel_onNodeConnected (registered : hub.PeersRegistered) (id other : Nat) (conn : SCConnection)
    : Option.Rel Alike (hub.clients other) ((hub.onNodeConnected id conn).clients other) := by
  unfold SCHubFunction.onNodeConnected
  split
  · next vmac uuid _ _ =>
      simp only [SCHubFunction.dropFormer, SCHubFunction.connections_release,
        SCHubFunction.uuidMap_release]
      split
      · exact rel_of_eq (by rw [clients_release])
      · next former _ =>
          split
          · exact rel_of_eq (by rw [clients_release])
          · split
            · exact rel_of_eq (by rw [clients_release])
            · next id' found =>
                obtain ⟨client, there, _, isOver⟩ := registered former id' found
                simp only [SCHubFunction.scheduleDisconnect, clients_release, there]
                by_cases same : other = id'
                · subst same
                  rw [clients_withClient, there]
                  exact .some ⟨rfl, rfl, fun _ => .inr isOver⟩
                · refine rel_of_eq ?_
                  rw [clients_withClient_ne same]
  · exact rel_of_eq rfl

theorem clients_onNodeDisconnected (hub : SCHubFunction) (id : Nat) (conn : SCConnection)
    : (hub.onNodeDisconnected id conn).clients = hub.clients := by
  simp only [SCHubFunction.onNodeDisconnected]
  repeat' split
  all_goals rw [clients_release]

/-- A VMAC that is released is not reserved any more. -/
theorem pending_release {vmac released}
    (there : ((hub.release released).pendingVmacs.get vmac).isSome)
    : (hub.pendingVmacs.get vmac).isSome ∧ released ≠ some vmac := by
  cases released with
  | none => exact ⟨there, by simp⟩
  | some other =>
    simp only [SCHubFunction.release, OrderedDict.get_pop] at there
    split at there
    · simp at there
    · next different => exact ⟨there, fun same => different (Option.some.inj same).symm⟩

theorem pending_onNodeConnected {vmac conn}
    (there : ((hub.onNodeConnected id conn).pendingVmacs.get vmac).isSome)
    : (hub.pendingVmacs.get vmac).isSome := by
  unfold SCHubFunction.onNodeConnected at there
  split at there
  · next peer uuid _ _ =>
      have same : ((hub.release peer).dropFormer peer uuid).pendingVmacs
          = (hub.release peer).pendingVmacs := by
        simp only [SCHubFunction.dropFormer, SCHubFunction.scheduleDisconnect]
        repeat' split
        all_goals rfl
      simp only [same] at there
      exact (pending_release there).1
  · exact there

theorem pending_goIdle {vmac} (there : ((hub.goIdle id client).pendingVmacs.get vmac).isSome)
    : (hub.pendingVmacs.get vmac).isSome := by
  simp only [SCHubFunction.goIdle] at there
  split at there
  · have same : ∀ hub : SCHubFunction, (hub.onNodeDisconnected id client.conn).pendingVmacs
        = (hub.release client.conn.peerVmac).pendingVmacs := by
      intro hub
      simp only [SCHubFunction.onNodeDisconnected]
      repeat' split
      all_goals rfl
    rw [same] at there
    exact (pending_release there).1
  · exact there

theorem clients_goIdle (hub : SCHubFunction) (id : Nat) (client : HubClient)
    : (hub.goIdle id client).clients
      = (hub.withClient id { client with conn := client.conn.goIdle }).clients := by
  simp only [SCHubFunction.goIdle]
  split
  · exact clients_onNodeDisconnected ..
  · rfl

/-- A VMAC is reserved by the check that finds it free. -/
theorem pending_checkVmac {now vmac checked uuid}
    (there : ((hub.checkVmac now checked uuid).1.pendingVmacs.get vmac).isSome)
    : (hub.pendingVmacs.get vmac).isSome
      ∨ (hub.checkVmac now checked uuid).2 = true ∧ vmac = checked := by
  have purged : ((hub.purge now).pendingVmacs.get vmac).isSome → (hub.pendingVmacs.get vmac).isSome := by
    intro left
    simp only [SCHubFunction.purge, OrderedDict.get_pop_filter] at left
    cases before : hub.pendingVmacs.get vmac with
    | none => simp [before] at left
    | some _ => rfl
  simp only [SCHubFunction.checkVmac] at there ⊢
  split
  · next refused =>
      rw [if_pos refused] at there
      exact .inl (purged there)
  · next fresh =>
      rw [if_neg fresh] at there
      split
      · next taken =>
          rw [if_pos taken] at there
          exact .inl (purged there)
      · next free =>
          rw [if_neg free] at there
          split
          · next full =>
              rw [if_pos full] at there
              exact .inl (purged there)
          · next room =>
              rw [if_neg room] at there
              simp only [OrderedDict.get_set] at there
              split at there
              · next same => exact .inr ⟨rfl, same⟩
              · exact .inl (purged there)

/-- One client is replaced, and no reservation is new. -/
theorem Moves.replaced {former} (there : life.hub.clients id = some former)
    (here : after.clients id = some client)
    (elsewhere : ∀ other, other ≠ id
      → Option.Rel Alike (life.hub.clients other) (after.clients other))
    (stage : Stage client
      (life.onConnected id + (connects (some former) (some client)).toNat)
      (life.onDisconnected id + (disconnects (some former) (some client)).toNat))
    (failed : Failed client ↔ ¬ fine)
    (pending : ∀ vmac, (after.pendingVmacs.get vmac).isSome
      → (client.phase = .sendingAccept ∧ client.conn.peerVmac = some vmac)
        ∨ (life.hub.pendingVmacs.get vmac).isSome
          ∧ (former.phase = .sendingAccept → former.conn.peerVmac ≠ some vmac))
    : Moves life after id fine where
  elsewhere := elsewhere
  stage := ⟨client, here, by simpa only [record, there, here] using stage, failed⟩
  pending := by
    intro vmac reserved
    rcases pending vmac reserved with ours | ⟨before, other⟩
    · exact .inl ⟨client, here, ours⟩
    · refine .inr ⟨before, ?_⟩
      intro client' there'
      cases there.symm.trans there'
      exact other

/-- Only one client changes, which has no reservation. -/
theorem Moves.withClient {former} (there : life.hub.clients id = some former)
    (waits : former.phase ≠ .sendingAccept)
    (stage : Stage client
      (life.onConnected id + (connects (some former) (some client)).toNat)
      (life.onDisconnected id + (disconnects (some former) (some client)).toNat))
    (failed : Failed client ↔ ¬ fine)
    : Moves life (life.hub.withClient id client) id fine :=
  .replaced there (clients_withClient ..) (fun _ different => rel_of_eq (clients_withClient_ne different))
    stage failed fun _ reserved => .inr ⟨reserved, fun sending => absurd sending waits⟩

/-- A connection goes idle, after its handshake or at the end of it. -/
theorem moves_goIdle (lives : Lives life) {former} (there : life.hub.clients id = some former)
    (conn : client.conn = former.conn) (isOver : client.phase = .over)
    (waits : former.phase ≠ .sendingAccept) (holds : fine)
    : Moves life (life.hub.goIdle id client) id fine := by
  have clients := clients_goIdle life.hub id client
  have here : (life.hub.goIdle id client).clients id
      = some { client with conn := client.conn.goIdle } := by
    rw [clients, clients_withClient]
  refine .replaced there here ?_ ?_ (iff_of_false (by simp [Failed]) (not_not_intro holds)) ?_
  · exact fun other different => rel_of_eq (by rw [clients, clients_withClient_ne different])
  · exact (lives.stages id former there).goIdle waits (congrArg SCConnection.goIdle conn) isOver
  · exact fun vmac reserved => .inr ⟨pending_goIdle reserved, fun sending => absurd sending waits⟩

/-- Another reservation is released. -/
theorem Moves.release (moves : Moves life after id fine) (vmac : Option SCVMAC)
    : Moves life (after.release vmac) id fine where
  elsewhere := by simpa only [clients_release] using moves.elsewhere
  stage := by simpa only [record, clients_release] using moves.stage
  pending := by
    intro vmac' reserved
    simpa only [clients_release] using moves.pending vmac' (pending_release reserved).1

/-- A handshake ends with an exception: the connection stays in AWAITING_REQUEST. -/
theorem moves_failed (lives : Lives life) (there : life.hub.clients id = some client)
    (phase : client.phase.inHandshake = true) (refused : ¬ fine)
    : Moves life ((life.hub.withClient id { client with phase := .over }).release
        client.conn.peerVmac) id fine := by
  have stage := lives.stages id client there
  have awaiting := stage.awaiting phase
  have early : client.phase ≠ .over := fun isOver => by simp [isOver, AcceptPhase.inHandshake] at phase
  refine .replaced there ((congrFun (clients_release ..) id).trans (clients_withClient ..)) ?_
    (stage.moves early (.failed rfl awaiting)) (iff_of_true ⟨rfl, awaiting⟩ refused) ?_
  · exact fun other different =>
      rel_of_eq (by rw [clients_release, clients_withClient_ne different])
  · intro vmac reserved
    obtain ⟨before, other⟩ := pending_release reserved
    exact .inr ⟨before, fun _ => other⟩

theorem moves_acceptRequest (lives : Lives life) (there : life.hub.clients id = some client)
    (phase : client.phase = .awaitingRequest) (received) (now : Rat)
    : Moves life (life.hub.acceptRequest id client received now) id (SCConnection.Requests received) := by
  have stage := lives.stages id client there
  have awaiting := stage.awaiting (by simp [phase, AcceptPhase.inHandshake])
  have early : client.phase ≠ .over := by simp [phase]
  have waits : client.phase ≠ .sendingAccept := by simp [phase]
  have unscheduled := (stage.early early).2.2.2
  have taken : ∀ request, SCConnection.readRequest received = request
      → (∀ exception, request ≠ .raised exception) → SCConnection.Requests received := by
    intro request read other
    by_contra refused
    obtain ⟨exception, raised⟩ := SCConnection.raised_request_iff.mpr refused
    exact other exception (read.symm.trans raised)
  unfold SCHubFunction.acceptRequest
  split
  · next read => exact moves_goIdle lives there rfl rfl waits (taken _ read (by simp))
  · next exception raised =>
      exact .withClient there waits (stage.moves early (.failed rfl awaiting))
        (iff_of_true ⟨rfl, awaiting⟩ (SCConnection.raised_request_iff.mp ⟨exception, raised⟩))
  · next payload read =>
      have fine := taken _ read (by simp)
      have same := life.hub.clients_checkVmac now payload.vmac payload.uuid
      have elsewhere : ∀ client' other, other ≠ id → Option.Rel Alike (life.hub.clients other)
          (((life.hub.checkVmac now payload.vmac payload.uuid).1.withClient id client').clients
            other) :=
        fun client' other different => rel_of_eq (by rw [clients_withClient_ne different, same])
      dsimp only
      split
      · refine .replaced there (clients_withClient ..) (elsewhere _)
          (stage.moves early (.shaking rfl awaiting unscheduled)) (by simp [Failed, fine]) ?_
        intro vmac reserved
        rcases pending_checkVmac reserved with before | ⟨_, rfl⟩
        · exact .inr ⟨before, fun sending => absurd sending waits⟩
        · exact .inl ⟨rfl, rfl⟩
      · next refused =>
          refine .replaced there (clients_withClient ..) (elsewhere _)
            (stage.moves early (.shaking rfl awaiting unscheduled)) (by simp [Failed, fine]) ?_
          intro vmac reserved
          rcases pending_checkVmac reserved with before | ⟨accepted, _⟩
          · exact .inr ⟨before, fun sending => absurd sending waits⟩
          · exact absurd accepted refused

theorem moves_answerSent (lives : Lives life) (there : life.hub.clients id = some client)
    (phase : client.phase = .sendingNak ∨ client.phase = .sendingAccept) (outcome)
    : Moves life (life.hub.answerSent id client outcome) id (outcome = .ok ()) := by
  cases outcome with
  | error exception =>
    refine moves_failed lives there ?_ (by simp)
    rcases phase with same | same <;> simp [same, AcceptPhase.inHandshake]
  | ok _ =>
    rcases phase with nak | accept
    · simp only [SCHubFunction.answerSent, nak]
      have idle : ∀ {fine : Prop}, fine
          → Moves life (life.hub.goIdle id { client with phase := .over }) id fine :=
        moves_goIdle lives there rfl rfl (by simp [nak])
      exact (idle trivial).release _
    · rw [SCHubFunction.answerSent_accept life.hub id accept]
      have registered : (life.hub.withClient id
          (SCHubFunction.connected client)).PeersRegistered :=
        lives.registered.withClient fun former here isOver => by
          cases there.symm.trans here
          simp [accept] at isOver
      have alike := rel_onNodeConnected registered id
      have here := alike id (SCHubFunction.connected client).conn
      rw [clients_withClient] at here
      obtain ⟨client', after, same⟩ := later_of_rel here
      have up : client'.conn.state = .connected := by rw [same.conn]; rfl
      refine .replaced there ((congrFun (clients_release ..) id).trans after) ?_ ?_
        (by simp [Failed, up]) ?_
      · intro other different
        have others := alike other (SCHubFunction.connected client).conn
        rw [clients_withClient_ne different] at others
        rwa [clients_release]
      · have stage : Stage client' 1 0 := .up same.phase (by simp [wasConnected, up])
        obtain ⟨none_, none_', _⟩ := (lives.stages id client there).early (by simp [accept])
        simpa [connects, disconnects, accept, up, none_, none_'] using stage
      · intro vmac reserved
        obtain ⟨before, other⟩ := pending_release reserved
        have kept := pending_onNodeConnected before
        exact .inr ⟨kept, fun _ => other⟩

/-- A task to disconnect starts. -/
theorem moves_beginDisconnect (lives : Lives life) (there : life.hub.clients id = some client)
    (isOver : client.phase = .over) (holds : fine)
    : Moves life (life.hub.beginDisconnect id client) id fine := by
  have waits : client.phase ≠ .sendingAccept := by simp [isOver]
  simp only [SCHubFunction.beginDisconnect]
  split
  · exact moves_goIdle lives there rfl isOver waits holds
  · next open_ =>
      have connected : client.conn.state = .connected := by
        by_contra other
        exact open_ (.inl other)
      refine .withClient there waits ?_ (by simp [Failed, holds])
      obtain ⟨_, one, none_⟩ := (lives.stages id client there).opened
        (by simp [wasConnected, connected])
      have still : Stage {
          client with
          disconnectScheduled := false
          conn := { client.conn with state := .disconnecting }
        } 1 0 :=
        .up isOver rfl
      simpa [connects, disconnects, isOver, one, none_] using still

/-- A step that moves nothing, or that takes back reservations and registrations. -/
theorem Lives.fewer (lives : Lives life) (clients : after.clients = life.hub.clients)
    (registered : after.PeersRegistered)
    (pending : ∀ vmac, (after.pendingVmacs.get vmac).isSome → (life.hub.pendingVmacs.get vmac).isSome)
    : Sound life after True := by
  refine ⟨⟨?_, ?_, registered, ?_⟩, ?_, fun refused => absurd trivial refused⟩
  · intro id client there
    have before : life.hub.clients id = some client := clients ▸ there
    simpa only [record, clients, before] using (lives.stages id client before).alike (.refl client)
  · intro id gone
    have before : life.hub.clients id = none := clients ▸ gone
    simpa [record, clients, before, connects, disconnects] using lives.absent id before
  · intro vmac reserved
    simpa only [record, clients] using lives.reserved vmac (pending vmac reserved)
  · intro _ noneFailed id client there
    exact noneFailed id client (clients ▸ there)

/-- What the tasks of the hub do, by cases on the event. -/
theorem sound_hub (lives : Lives life) {event} (moved : life.hub.step event = some after)
    : Sound life after (life.Survivable (.hub event)) := by
  have registered := lives.registered.step moved
  cases event with
  | arrives id =>
    simp only [SCHubFunction.step] at moved
    cases before : life.hub.clients id with
    | some _ => simp [before] at moved
    | none =>
      simp only [before] at moved
      split at moved
      · cases moved
        exact lives.fewer rfl registered fun _ reserved => reserved
      · cases moved
        refine Moves.sound ⟨fun _ different => rel_of_eq (clients_withClient_ne different),
          ⟨_, clients_withClient .., ?_, by simp [Failed, Survivable]⟩,
          fun vmac reserved => .inr ⟨reserved, fun client there => ?_⟩⟩ lives registered
        · obtain ⟨none_, none_'⟩ := lives.absent id before
          simpa [record, before, connects, disconnects, none_, none_']
            using Stage.upgrading rfl rfl rfl rfl
        · rw [before] at there
          cases there
  | upgraded id succeeded =>
    obtain ⟨client, there, moved⟩ := Option.bind_eq_some_iff.mp moved
    split at moved
    · cases moved
    · next phase =>
        have upgrading := not_not.mp phase
        have stage := lives.stages id client there
        have early : client.phase ≠ .over := by simp [upgrading]
        have waits : client.phase ≠ .sendingAccept := by simp [upgrading]
        obtain ⟨idle, closed⟩ := stage.unshaken upgrading
        split at moved
        · cases moved
          refine (Moves.withClient there waits (stage.moves early ?_)
            (by simp [Failed, Survivable])).sound lives registered
          exact .shaking rfl rfl (stage.early early).2.2.2
        · cases moved
          refine (Moves.withClient there waits (stage.moves early ?_)
            (by simp [Failed, idle, Survivable])).sound lives registered
          exact .refused rfl idle closed
  | received id received now =>
    obtain ⟨client, there, moved⟩ := Option.bind_eq_some_iff.mp moved
    split at moved
    · cases moved
    · next phase =>
        cases moved
        exact (moves_acceptRequest lives there (not_not.mp phase) received now).sound lives registered
  | sent id outcome =>
    obtain ⟨client, there, moved⟩ := Option.bind_eq_some_iff.mp moved
    split at moved
    · cases moved
    · next phase =>
        cases moved
        refine (moves_answerSent lives there ?_ outcome).sound lives registered
        simpa [imp_iff_not_or] using phase
  | disconnectStarts id =>
    obtain ⟨client, there, moved⟩ := Option.bind_eq_some_iff.mp moved
    split at moved
    · next scheduled =>
        cases moved
        have isOver : client.phase = .over := by
          by_contra early
          simp [((lives.stages id client there).early early).2.2.2] at scheduled
        exact (moves_beginDisconnect lives there isOver trivial).sound lives registered
    · cases moved
  | goesIdle id =>
    obtain ⟨client, there, moved⟩ := Option.bind_eq_some_iff.mp moved
    split at moved
    · next was =>
        cases moved
        have isOver := ((lives.stages id client there).opened was).1
        exact (moves_goIdle lives there rfl isOver (by simp [isOver]) trivial).sound lives registered
    · cases moved

/-- One step keeps the invariant, and fails a handshake if and only if it is not survivable. -/
theorem sound_step {event} (lives : Lives life) (moved : life.step event = some next)
    : Lives next ∧ (life.Survivable event → NoneFailed life.hub → NoneFailed next.hub)
      ∧ (¬ life.Survivable event → ¬ NoneFailed next.hub) := by
  cases event with
  | hub event =>
    obtain ⟨after, moved', moved⟩ := Option.bind_eq_some_iff.mp moved
    split at moved
    · cases moved
      have sound := sound_hub lives moved'
      exact ⟨sound.lives, sound.keeps, sound.breaks⟩
    · cases moved
  | disconnect id =>
    obtain ⟨client, there, moved⟩ := Option.bind_eq_some_iff.mp moved
    split at moved
    · next isOver =>
        cases moved
        have alike : Alike client { client with disconnectScheduled := true } :=
          ⟨rfl, rfl, fun _ => .inr isOver⟩
        simp only [SCHubFunction.scheduleDisconnect, there]
        have moves : Moves life
            (life.hub.withClient id { client with disconnectScheduled := true }) id
            (¬ Failed client) :=
          .withClient there (by simp [isOver]) ((lives.stages id client there).alike alike)
            (by simp [Failed])
        have sound := moves.sound lives (lives.registered.withClient fun former here _ =>
          ⟨Option.some.inj (there.symm.trans here) ▸ rfl, isOver⟩)
        exact ⟨sound.lives, fun _ noneFailed => sound.keeps (noneFailed id client there) noneFailed,
          fun refused => absurd trivial refused⟩
    · cases moved
  | cancelled id =>
    obtain ⟨client, there, moved⟩ := Option.bind_eq_some_iff.mp moved
    split at moved
    · next shaking =>
        cases moved
        have moves := moves_failed lives there shaking (not_false : ¬ False)
        have sound := moves.sound lives ((lives.registered.withClient fun former here isOver => by
          cases there.symm.trans here
          simp [isOver, AcceptPhase.inHandshake] at shaking).release _)
        exact ⟨sound.lives, sound.keeps, sound.breaks⟩
    · cases moved
  | stopped =>
    cases moved
    have sound : Sound life { life.hub with connections := {}, uuidMap := {}, pendingVmacs := {} }
        True :=
      lives.fewer rfl (fun vmac id found => by cases found) fun vmac reserved => by cases reserved
    exact ⟨sound.lives, sound.keeps, sound.breaks⟩

-- Runs

/-- The callbacks are in order wherever the invariant holds. -/
theorem Lives.inOrder (lives : Lives life) : life.InOrder := by
  intro id
  cases there : life.hub.clients id with
  | none => simp [lives.absent id there]
  | some client =>
    have stage := lives.stages id client there
    generalize life.onConnected id = connected, life.onDisconnected id = disconnected at stage ⊢
    cases stage <;> simp

/-- Where no handshake has failed, the property holds. -/
theorem Lives.ends (lives : Lives life) (noneFailed : NoneFailed life.hub) : life.Ends where
  handshake := by
    intro id client there isOver
    have awaiting := noneFailed id client there
    have stage := lives.stages id client there
    generalize life.onConnected id = connected, life.onDisconnected id = disconnected at stage
    cases stage with
    | upgrading phase => simp [isOver] at phase
    | shaking phase => simp [isOver, AcceptPhase.inHandshake] at phase
    | failed _ same => exact absurd ⟨isOver, same⟩ awaiting
    | refused _ idle closed => exact .inr ⟨idle, closed⟩
    | up _ was => exact .inl was
    | down _ idle closed => exact .inr ⟨idle, closed⟩
  reserved := lives.reserved
  callbacks := lives.inOrder

/-- A handshake that has failed breaks the property. -/
theorem Ends.noneFailed (ends : life.Ends) : NoneFailed life.hub := by
  rintro id client there ⟨isOver, awaiting⟩
  have left := ends.handshake id client there isOver
  simp [wasConnected, awaiting] at left

/-- A hub without clients. -/
def fresh (hubVmac : SCVMAC) (hubUuid : DeviceUUID)
    (maxConnections maxBvlcLength maxNpduLength : Nat)
    : HubLife where
  hub := { hubVmac, hubUuid, maxConnections, maxBvlcLength, maxNpduLength }

theorem lives_fresh (hubVmac : SCVMAC) (hubUuid : DeviceUUID)
    (maxConnections maxBvlcLength maxNpduLength : Nat)
    : Lives (fresh hubVmac hubUuid maxConnections maxBvlcLength maxNpduLength) := by
  refine ⟨fun id client there => ?_, fun id _ => ⟨rfl, rfl⟩, fun vmac id found => ?_,
    fun vmac reserved => ?_⟩
  · cases there
  · cases found
  · cases reserved

/-- In every run of a hub the callbacks are in order, and the handshakes end as they should exactly if
each first message can be taken, each answer is sent, and the hub does not stop in a handshake.
-/
theorem ends_iff (hubVmac : SCVMAC) (hubUuid : DeviceUUID)
    (maxConnections maxBvlcLength maxNpduLength : Nat) (events : List Event)
    : Always step InOrder (fresh hubVmac hubUuid maxConnections maxBvlcLength maxNpduLength) events
      ∧ (Always step Ends
          (fresh hubVmac hubUuid maxConnections maxBvlcLength maxNpduLength) events
        ↔ Meets step Survivable
          (fresh hubVmac hubUuid maxConnections maxBvlcLength maxNpduLength) events) := by
  have lives := lives_fresh hubVmac hubUuid maxConnections maxBvlcLength maxNpduLength
  have noneFailed : NoneFailed
      (fresh hubVmac hubUuid maxConnections maxBvlcLength maxNpduLength).hub := by
    intro id client there
    cases there
  constructor
  · exact always_of_keeps (fun lives moved => (sound_step lives moved).1) Lives.inOrder lives
  · have keeps : ∀ {life : HubLife} {event next}, Lives life ∧ NoneFailed life.hub
        → life.Survivable event → life.step event = some next
        → Lives next ∧ NoneFailed next.hub := by
      intro life event next inv survivable moved
      obtain ⟨kept, sound, _⟩ := sound_step inv.1 moved
      exact ⟨kept, sound survivable inv.2⟩
    refine always_iff_meets keeps (fun inv => inv.1.ends inv.2) ?_ ⟨lives, noneFailed⟩
    exact fun inv refused moved ends => (sound_step inv.1 moved).2.2 refused ends.noneFailed

/-- A peer that closes the WebSocket instead of a Connect-Request: `recv` raises a ConnectionClosed, which
`accept` does not catch, and the connection stays in AWAITING_REQUEST with its WebSocket.
-/
theorem closed_handshake_stays
    : let events : List Event := [.hub (.arrives 0), .hub (.upgraded 0 true),
        .hub (.received 0 (.error .connectionClosed) 0)]
      ∃ life, run step (fresh (.numbered 1) (.repeated 1) 1000 6000 1497) events = some life
        ∧ ((life.hub.clients 0).map fun client =>
            (client.phase, client.conn.state, client.conn.hasWebSocket))
          = some (.over, .awaitingRequest, true)
        ∧ ¬ life.Ends := by
  refine ⟨_, rfl, rfl, ?_⟩
  intro ends
  have left := ends.handshake 0 _ rfl rfl
  revert left
  decide

end HubLife

end BacPy
