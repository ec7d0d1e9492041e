import BacPy.Network.Router

/-! What a router puts out for one NPDU: every frame is accounted for by the NPDU received. -/

namespace BacPy

open Library
open Stateful (Preserves)

namespace NetworkRouter

/-- A network message of the router itself, to a neighbour or toward a destination. -/
def encodeOwn (msg : NetworkMessage) (destination : Option BACnetAddress)
    : Except PyException Bytes := do
  let data ← encodeNetworkMessage msg
  encodeNpdu {
    isNetworkMessage := true
    messageType := some msg.messageType
    networkMessageData := data
    destination
  }

/-- What an NPDU causes a router to send while it routes it. It is only returned to a source
behind other routers if `returns` holds.
-/
inductive Causes (returns : Prop) (npdu : NPDU) (frame : Bytes) : Prop where
  /-- the NPDU, with one hop less -/
  | onward (source : Option BACnetAddress) (left : 1 < npdu.hopCount)
      (encoded : encodeNpdu { npdu with source, hopCount := npdu.hopCount - 1 } = .ok frame)
  /-- the NPDU, on the network of its destination -/
  | delivery (network : Nat) (mac : Bytes)
      (encoded : encodeNpduLocalDelivery npdu network mac = .ok frame)
  | bareDelivery
      (encoded : encodeNpdu { npdu with destination := none, source := none, hopCount := 255 }
        = .ok frame)
  /-- a Reject-Message to the neighbour -/
  | rejected (reason : RejectMessageReason) (dnet : Nat)
      (encoded : encodeOwn (.rejectMessageToNetwork reason dnet) none = .ok frame)
  /-- a Reject-Message that is itself routed -/
  | returned (reason : RejectMessageReason) (dnet : Nat) (source : BACnetAddress)
      (may : returns) (hasSource : npdu.source = some source)
      (encoded : encodeOwn (.rejectMessageToNetwork reason dnet) (some source) = .ok frame)

/-- No reachable route leads to the network that the NPDU is for, but a route leads back to the
network it is from.
-/
def Returns (table : RoutingTable) (npdu : NPDU) : Prop :=
  ∃ destination source network, npdu.destination = some destination
    ∧ destination.network.getD 0xFFFF ≠ 0xFFFF
    ∧ (∀ port entry, table.getPortForNetwork (destination.network.getD 0xFFFF) = some (port, entry)
      → entry.reachability ≠ .reachable)
    ∧ npdu.source = some source ∧ source.network = some network
    ∧ (table.getPortForNetwork network).isSome

/-- The frames among the outputs are as `good` says. -/
def Sends (good : Bytes → Prop) (output : RouterOutput) : Prop :=
  ∀ portId destination frame, output = .send portId destination frame → good frame

-- Rules

variable {inv : Routing → Prop} {good : Bytes → Prop} {router : NetworkRouter}

/-- The invariant is about the frames that were sent, and they may all be good ones. -/
def Admits (inv : Routing → Prop) (good : Bytes → Prop) : Prop :=
  ∀ routing output, inv routing → Sends good output
    → inv { routing with outputs := routing.outputs ++ [output] }

theorem preserves_send (admits : Admits inv good) {portId destination frame} (fine : good frame)
    : Preserves inv (emit (.send portId destination frame)) := by
  refine .modifies fun routing holds => admits _ _ holds ?_
  intro _ _ another same
  cases same
  exact fine

theorem preserves_deliver (admits : Admits inv good) {apdu source}
    : Preserves inv (emit (.deliver apdu source)) :=
  Preserves.modifies fun _ holds => admits _ _ holds fun _ _ _ same => nomatch same

/-- A message of the router itself is sent as it is encoded. -/
theorem preserves_sendNetworkMessageOnPort (admits : Admits inv good) {portId msg destination}
    (fine : ∀ frame, encodeOwn msg none = .ok frame → good frame)
    : Preserves inv (sendNetworkMessageOnPort portId msg destination) := by
  refine .bind_reads fun _ _ => ?_
  split
  · refine .bind_lift fun data contents => ?_
    refine .bind_lift fun frame encoded => preserves_send admits (fine frame ?_)
    exact bind_eq_ok.mpr ⟨data, contents, encoded⟩
  · exact .pure _

theorem preserves_forwardGlobalBroadcast (admits : Admits inv good) {portId npdu sourceMac}
    (fine : ∀ source frame, 1 < npdu.hopCount
      → encodeNpdu { npdu with source, hopCount := npdu.hopCount - 1 } = .ok frame → good frame)
    : Preserves inv (forwardGlobalBroadcast portId npdu sourceMac) := by
  refine .bind_reads fun _ _ => .bind_lift fun prepared made => ?_
  unfold prepareForwardedNpdu at made
  split at made
  · cases made
    exact .pure ()
  · next left =>
      obtain ⟨source, _, same⟩ := bind_eq_ok.mp made
      cases same
      refine .bind_lift fun frame encoded => ?_
      refine .bind_reads fun _ _ => .forEach fun _ _ => ?_
      exact .when fun _ =>
        preserves_send admits (fine source frame (by omega) encoded)

theorem preserves_deliverToApplication (admits : Admits inv good) {portId npdu sourceMac}
    : Preserves inv (deliverToApplication portId npdu sourceMac) := by
  refine .bind_reads fun _ _ => ?_
  split
  · refine .bind_reads fun _ _ => ?_
    split
    · exact preserves_deliver admits
    · exact .bind_lift fun _ _ => preserves_deliver admits
  · exact .pure _

-- Forwarding

/-- All frames so far are good, and the table is still this one. -/
def At (table : RoutingTable) (good : Bytes → Prop) (routing : Routing) : Prop :=
  routing.router.routingTable = table ∧ ∀ output ∈ routing.outputs, Sends good output

/-- All frames so far are good. -/
def AllSent (good : Bytes → Prop) (routing : Routing) : Prop :=
  ∀ output ∈ routing.outputs, Sends good output

theorem allSent_nothing : AllSent good { router } :=
  fun _ member => absurd member List.not_mem_nil

theorem admits_allSent : Admits (AllSent good) good := by
  intro routing output holds fine another member
  rcases List.mem_append.mp member with before | last
  · exact holds another before
  · exact List.mem_singleton.mp last ▸ fine

theorem admits_at {table} : Admits (At table good) good :=
  fun routing output holds fine => ⟨holds.1, admits_allSent routing output holds.2 fine⟩

section Forwarding

variable {table : RoutingTable} {portId : Nat} {npdu : NPDU} {sourceMac : Bytes}

/-- A Reject-Message goes back to the source or to the neighbour. -/
theorem preserves_sendRejectTowardSource {reason dnet destination}
    (toward : npdu.destination = some destination)
    (single : destination.network.getD 0xFFFF ≠ 0xFFFF)
    (refused : ∀ port entry,
      table.getPortForNetwork (destination.network.getD 0xFFFF) = some (port, entry)
        → entry.reachability ≠ .reachable)
    : Preserves (At table (Causes (Returns table npdu) npdu))
        (sendRejectTowardSource portId npdu sourceMac reason dnet) := by
  have neighbour : Preserves (At table (Causes (Returns table npdu) npdu))
      (sendReject portId sourceMac reason dnet) :=
    preserves_sendNetworkMessageOnPort admits_at fun _ encoded => .rejected _ _ encoded
  unfold sendRejectTowardSource
  cases hasSource : npdu.source with
  | none => exact neighbour
  | some source =>
    refine .bind_lift fun data contents => ?_
    refine .bind_lift fun frame encoded => ?_
    refine .bind_reads fun routing holds => ?_
    rw [holds.1]
    split
    · next route =>
        obtain ⟨network, number, there⟩ := Option.bind_eq_some_iff.mp route
        have back : Returns table npdu :=
          ⟨destination, source, network, toward, single, refused, hasSource, number,
            by rw [there]; rfl⟩
        exact preserves_send admits_at
          (.returned _ _ source back hasSource (bind_eq_ok.mpr ⟨data, contents, encoded⟩))
    · exact neighbour

/-- Every frame that routing an NPDU makes the router send is caused by that NPDU. -/
theorem preserves_forward {destination} (toward : npdu.destination = some destination)
    : Preserves (At table (Causes (Returns table npdu) npdu))
        (forward portId npdu sourceMac destination) := by
  unfold forward
  dsimp only
  split
  · exact preserves_forwardGlobalBroadcast admits_at fun source _ left encoded =>
      .onward source left encoded
  · next single =>
      refine .bind_reads fun routing holds => ?_
      rw [holds.1]
      split
      · next unknown =>
          refine preserves_sendRejectTowardSource toward single fun port entry found => ?_
          rw [unknown] at found
          cases found
      · next destPort entry found =>
          have refusedUnless : entry.reachability ≠ .reachable → ∀ port other,
              table.getPortForNetwork (destination.network.getD 0xFFFF) = some (port, other)
                → other.reachability ≠ .reachable := by
            intro not port other same
            rw [found] at same
            cases same
            exact not
          split
          · next state =>
              exact preserves_sendRejectTowardSource toward single
                (refusedUnless (by rw [state]; exact nofun))
          · next state =>
              exact preserves_sendRejectTowardSource toward single
                (refusedUnless (by rw [state]; exact nofun))
          · split
            · unfold deliverToDirectlyConnected
              rw [toward]
              refine .bind_reads fun _ _ => ?_
              refine .bind_lift fun frame encoded => preserves_send admits_at ?_
              unfold encodeDelivery at encoded
              split at encoded
              · exact .delivery _ _ encoded
              · split at encoded
                · exact .delivery _ _ encoded
                · exact .bareDelivery encoded
            · refine .bind_reads fun _ _ => ?_
              refine .bind_lift fun prepared made => ?_
              unfold prepareForwardedNpdu at made
              split at made
              · cases made
                exact .pure ()
              · next left =>
                  obtain ⟨source, _, same⟩ := bind_eq_ok.mp made
                  cases same
                  refine .bind_lift fun frame encoded => ?_
                  exact preserves_send admits_at (.onward source (by omega) encoded)

end Forwarding

-- Receptions

/-- What a received Reject-Message says of a network is entered before it is routed. -/
def markRejected (table : RoutingTable) (reason : RejectMessageReason) (network : Nat)
    : RoutingTable :=
  match reason with
  | .notDirectlyConnected => table.markUnreachable network
  | .routerBusy => table.markBusy network
  | _ => table

variable {portId : Nat} {npdu : NPDU} {sourceMac : Bytes}

theorem handleRejectMessage_eq {reason network}
    : handleRejectMessage portId reason network npdu sourceMac { router }
      = (match npdu.destination with
        | none => pure ()
        | some destination => forward portId npdu sourceMac destination : RouterAction Unit)
          { router := { router with
              routingTable := markRejected router.routingTable reason network } } := by
  cases reason <;> rfl

theorem sent_handleRejectMessage {reason network}
    : ∀ output ∈ (handleRejectMessage portId reason network npdu sourceMac { router }).2.outputs,
        Sends (Causes (Returns (markRejected router.routingTable reason network) npdu) npdu)
          output := by
  rw [handleRejectMessage_eq]
  cases toward : npdu.destination with
  | none => exact allSent_nothing
  | some destination =>
    exact ((preserves_forward toward).final ⟨rfl, allSent_nothing⟩).2

/-- An NPDU with an APDU is delivered, routed on, or both. -/
theorem sent_processNpdu (application : npdu.isNetworkMessage = false)
    : ∀ output ∈ (processNpdu portId npdu sourceMac { router }).2.outputs,
        Sends (Causes (Returns router.routingTable npdu) npdu) output := by
  suffices kept : Preserves
      (At router.routingTable (Causes (Returns router.routingTable npdu) npdu))
      (processNpdu portId npdu sourceMac) from
    (kept.final ⟨rfl, allSent_nothing⟩).2
  unfold processNpdu
  rw [if_neg (by simp [application])]
  cases toward : npdu.destination with
  | none => exact preserves_deliverToApplication admits_at
  | some destination =>
    exact .bind
      (.when fun _ => preserves_deliverToApplication admits_at)
      fun _ => preserves_forward toward

/-- Every frame is caused by the NPDU, or a message of the router to its neighbours. -/
def Accounted (npdu : NPDU) (frame : Bytes) : Prop :=
  Causes True npdu frame ∨ ∃ msg, encodeOwn msg none = .ok frame

theorem Causes.mono {returns more : Prop} {frame} (weaker : returns → more)
    (causes : Causes returns npdu frame)
    : Causes more npdu frame := by
  cases causes with
  | onward source left encoded => exact .onward source left encoded
  | delivery network mac encoded => exact .delivery network mac encoded
  | bareDelivery encoded => exact .bareDelivery encoded
  | rejected reason dnet encoded => exact .rejected reason dnet encoded
  | returned reason dnet source may hasSource encoded =>
    exact .returned reason dnet source (weaker may) hasSource encoded

theorem Sends.mono {more output} (weaker : ∀ frame, good frame → more frame)
    (sends : Sends good output)
    : Sends more output :=
  fun portId destination frame same => weaker frame (sends portId destination frame same)

theorem preserves_changeTable {change}
    : Preserves (AllSent good) (changeTable change) :=
  Preserves.modifies fun _ holds => holds

theorem preserves_tryTable {change}
    : Preserves (AllSent good) (tryTable change) := by
  apply Preserves.of_final
  intro routing holds
  unfold tryTable
  cases change routing.router.routingTable with
  | ok after => exact holds
  | error raised => exact holds

theorem preserves_own {port msg destination}
    : Preserves (AllSent (Accounted npdu))
        (sendNetworkMessageOnPort port msg destination) :=
  preserves_sendNetworkMessageOnPort admits_allSent fun _ encoded => .inr ⟨msg, encoded⟩

theorem preserves_ownToAll {excluded msg}
    : Preserves (AllSent (Accounted npdu))
        (broadcastNetworkMessageAllExcept excluded msg) :=
  Preserves.bind_reads fun _ _ => .forEach fun _ _ =>
    Preserves.when fun _ => preserves_own

theorem preserves_initializeEntry {portEntry}
    : Preserves (AllSent good) (initializeEntry portEntry) := by
  unfold initializeEntry
  split
  · exact preserves_changeTable
  · exact .bind_reads fun _ _ => .when fun _ =>
      preserves_tryTable

theorem preserves_handleMessage {msg}
    (other : ∀ reason network, msg ≠ .rejectMessageToNetwork reason network)
    : Preserves (AllSent (Accounted npdu)) (handleMessage portId msg npdu sourceMac) := by
  unfold handleMessage
  cases msg with
  | whoIsRouterToNetwork network =>
    refine .bind_reads fun _ _ => ?_
    cases network with
    | none => exact .when fun _ => preserves_own
    | some network =>
      dsimp only
      split
      · exact .when fun _ => preserves_own
      · exact preserves_forwardGlobalBroadcast admits_allSent fun source _ left encoded =>
          .inl (.onward source left encoded)
  | iAmRouterToNetwork networks =>
    exact .bind (.forEach fun _ _ => preserves_tryTable)
      fun _ => preserves_ownToAll
  | rejectMessageToNetwork reason network => exact absurd rfl (other reason network)
  | routerBusyToNetwork networks =>
    exact .bind_reads fun _ _ => .bind
      (.forEach fun _ _ => preserves_changeTable) fun _ => preserves_ownToAll
  | routerAvailableToNetwork networks =>
    exact .bind_reads fun _ _ => .bind
      (.forEach fun _ _ => preserves_changeTable) fun _ => preserves_ownToAll
  | initializeRoutingTable ports =>
    dsimp only
    unfold handleInitRoutingTable
    split
    · exact .bind_reads fun _ _ => preserves_own
    · exact .bind
        (.forEach fun _ _ => preserves_initializeEntry) fun _ => preserves_own
  | whatIsNetworkNumber =>
    dsimp only
    unfold handleWhatIsNetworkNumber
    split
    · exact .pure ()
    · refine .bind_reads fun _ _ => ?_
      split
      · exact .pure ()
      · exact .when fun _ => preserves_own
  | networkNumberIs network configured =>
    dsimp only
    unfold handleNetworkNumberIs
    split
    · exact .pure ()
    · refine .bind_reads fun _ _ => ?_
      split
      · exact .pure ()
      · exact .when fun _ => preserves_tryTable
  | establishConnectionToNetwork network _ => exact preserves_own
  | disconnectConnectionToNetwork network => exact preserves_own
  | initializeRoutingTableAck _ => exact .pure ()
  | iCouldBeRouterToNetwork _ _ => exact .pure ()

theorem accounted_onPortReceive {data} (received : decodeNpdu data = .ok npdu)
    : ∀ output ∈ (router.onPortReceive portId data sourceMac).2,
        Sends (Accounted npdu) output := by
  have asMessage : ∀ msg, ∀ output ∈ (handleMessage portId msg npdu sourceMac { router }).2.outputs,
      Sends (Accounted npdu) output := by
    intro msg
    by_cases reject : ∃ reason network, msg = .rejectMessageToNetwork reason network
    · obtain ⟨reason, network, rfl⟩ := reject
      exact fun output member => (sent_handleRejectMessage output member).mono
        fun _ causes => .inl (causes.mono fun _ => trivial)
    · exact (preserves_handleMessage fun reason network same => reject ⟨reason, network, same⟩).final
        allSent_nothing
  unfold onPortReceive
  rw [received]
  dsimp only
  cases application : npdu.isNetworkMessage with
  | false =>
    exact fun output member => (sent_processNpdu application output member).mono
      fun _ causes => .inl (causes.mono fun _ => trivial)
  | true =>
    unfold processNpdu
    rw [if_pos application]
    unfold handleNetworkMessage
    cases npdu.messageType with
    | none => exact allSent_nothing
    | some messageType =>
      dsimp only
      cases decodeNetworkMessage messageType npdu.networkMessageData with
      | error raised => exact allSent_nothing
      | ok msg => exact asMessage msg

end NetworkRouter

end BacPy
