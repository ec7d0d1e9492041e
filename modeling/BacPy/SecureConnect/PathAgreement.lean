import BacPy.SecureConnect.Transport
import BacPy.SecureConnect.RegisteredPeers

/-! Which source the receiver of a unicast is told, over a direct connection and over the hub. -/

namespace BacPy

open Library
open SCTransport (onHubMessage onDirectMessage hubMessage plain_hubMessage plainOctets_hubMessage
  receiveCall directMessage plain_directMessage runTask overHub sendUnicast)
open SCConnection (passesOn fits sendRaw sendMessage)

/-- Two nodes that are connected to one hub: the transports, with the one of the sender also as it is
when its task runs; the connections of both at the hub; and those of the receiver.
-/
structure ScNodes where
  sender : SCTransport
  receiver : SCTransport
  senderThen : SCTransport
  hub : SCHubFunction
  /-- the connection of the sender at the hub -/
  atHub : SCConnection
  /-- the connection of the receiver at the hub -/
  receiverId : Nat
  /-- the connection of the receiver to the hub -/
  toHub : SCConnection
  /-- the connection of the receiver to the sender, which either of them has accepted -/
  toSender : SCConnection
  different : receiver.vmac ≠ sender.vmac
  senderUp : ∃ conn, senderThen.hubConnection = some conn ∧ conn.canSend
  atHubUp : atHub.canSend
  atHubMode : atHub.hubMode
  atHubPeer : atHub.peerVmac = some sender.vmac
  peers : hub.PeersRegistered
  registered : hub.connections.get receiver.vmac = some receiverId
  receiverUp : hub.canSend receiverId
  toHubUp : toHub.canSend
  toHubMode : toHub.hubMode = false
  toSenderUp : toSender.canSend
  toSenderMode : toSender.hubMode = false

namespace ScNodes

def receivedViaHub (nodes : ScNodes) (frame : Bytes) : List (Bytes × Bytes) :=
  match nodes.atHub.passesOn frame with
  | none => []
  | some msg =>
    ((nodes.hub.onNodeMessage nodes.atHub msg frame).filter fun forwarded =>
      forwarded.1 = nodes.receiverId).filterMap fun forwarded =>
        (nodes.toHub.passesOn forwarded.2).bind onHubMessage

/-- The frame that the sender sends for an NPDU to the receiver, where the WebSocket of a direct
connection does `directWs`.
-/
def sentFrame (nodes : ScNodes) (npdu : Bytes) (directWs : Except ScException Unit) : SentFrame :=
  match nodes.sender.sendUnicast npdu nodes.receiver.vmac.address with
  | .error _ => .nothing
  | .ok (_, task) => nodes.senderThen.runTask directWs (.ok ()) task

/-- The calls of the receiver's callback for an NPDU that the sender sends to it. -/
def received (nodes : ScNodes) (npdu : Bytes) (directWs : Except ScException Unit)
    : List (Bytes × Bytes) :=
  match nodes.sentFrame npdu directWs with
  | .nothing => []
  | .direct frame => ((nodes.toSender.passesOn frame).bind onDirectMessage).toList
  | .viaHub frame => nodes.receivedViaHub frame

/-- The direct connection that the sender finds, both when it is asked to send and when it sends. -/
def DirectFound (nodes : ScNodes) : Prop :=
  (∃ switch, nodes.sender.nodeSwitch = some switch ∧ switch.hasDirect nodes.receiver.vmac)
    ∧ ∃ switch, nodes.senderThen.nodeSwitch = some switch
      ∧ ∃ conn, switch.directConnections.get nodes.receiver.vmac = some conn ∧ conn.canSend

/-- The NPDU goes over the hub: there is no direct connection, or its WebSocket raises an OSError. -/
def OverHub (nodes : ScNodes) (directWs : Except ScException Unit) : Prop :=
  ¬ nodes.DirectFound ∨ directWs = .error .osError

/-- The octets of the header that the hub's messages to the receiver have. -/
def forwardedHeader (nodes : ScNodes) : Nat := if nodes.receiver.vmac.isBroadcast then 16 else 10

-- Over the hub

variable (nodes : ScNodes) {npdu : Bytes}

/-- The message of the sender over the hub. -/
def message (npdu : Bytes) : SCMessage :=
  hubMessage nodes.sender.vmac nodes.receiver.vmac npdu

/-- The hub passes the message on without its payload, if its frame is within the limit. -/
theorem passesOn_atHub (npdu : Bytes)
    : nodes.atHub.passesOn (nodes.message npdu).plainOctets
      = if npdu.length + 16 ≤ nodes.atHub.maxBvlc then
          some { nodes.message npdu with payload := [] }
        else none := by
  have decoded := SCMessage.decode_skipPayload
    (SCMessage.decode_plainOctets (plain_hubMessage nodes.sender.vmac
      nodes.receiver.vmac npdu))
  have length : (nodes.message npdu).plainOctets.length = npdu.length + 16 := by
    rw [message, plainOctets_hubMessage]
    simp [unicastHeader, nodes.sender.vmac.six, nodes.receiver.vmac.six]
    omega
  rw [passesOn, fits, length, nodes.atHubUp, nodes.atHubMode, message, decoded]
  by_cases fits : npdu.length + 16 ≤ nodes.atHub.maxBvlc
  · simp [fits, hubMessage]
  · simp [fits]

/-- The receiver's connection to the hub passes a forwarded message on. -/
theorem passesOn_toHub {frame msg} (decoded : SCMessage.decode frame = .ok msg)
    (function : msg.function = .encapsulatedNpdu)
    : nodes.toHub.passesOn frame
      = if frame.length ≤ nodes.toHub.maxBvlc then some msg else none := by
  rw [passesOn, fits, nodes.toHubUp, nodes.toHubMode, decoded]
  by_cases fits : frame.length ≤ nodes.toHub.maxBvlc
  · simp [fits, function]
  · simp [fits]

/-- The frame of the hub for the receiver. -/
def forwarded (npdu : Bytes) : Bytes :=
  if nodes.receiver.vmac.isBroadcast then
    rewriteForHubBroadcast (nodes.message npdu).plainOctets nodes.sender.vmac.address
  else rewriteForHubUnicast (nodes.message npdu).plainOctets nodes.sender.vmac.address

theorem length_forwarded (npdu : Bytes)
    : (nodes.forwarded npdu).length = npdu.length + nodes.forwardedHeader := by
  have rewritten : ∀ vmacFlags vmacs,
      (rewriteForHub vmacFlags vmacs (nodes.message npdu).plainOctets).length
        = npdu.length + 4 + vmacs.length := by
    intro vmacFlags vmacs
    have flags : ((0x0C : UInt8) &&& 0x0F) &&& 0x08 ≠ 0 ∧ ((0x0C : UInt8) &&& 0x0F) &&& 0x04 ≠ 0 := by
      decide
    rw [message, plainOctets_hubMessage, unicastHeader]
    simp only [rewriteForHub, List.cons_append, List.nil_append, if_pos flags.1, if_pos flags.2]
    simp [nodes.sender.vmac.six, nodes.receiver.vmac.six]
    omega
  unfold forwarded forwardedHeader
  split
  · rw [rewriteForHubBroadcast, rewritten, List.length_append, nodes.sender.vmac.six,
      SCVMAC.broadcast.six]
  · rw [rewriteForHubUnicast, rewritten, nodes.sender.vmac.six]

/-- What the receiver reads in it: the sender's VMAC and the NPDU. -/
theorem decode_forwarded (npdu : Bytes)
    : ∃ destination, SCMessage.decode (nodes.forwarded npdu)
      = .ok { nodes.message npdu with originating := some nodes.sender.vmac, destination } := by
  have decoded := SCMessage.decode_plainOctets (plain_hubMessage nodes.sender.vmac
    nodes.receiver.vmac npdu)
  unfold forwarded
  split
  · exact ⟨_, decode_rewriteForHubBroadcast decoded nodes.sender.vmac⟩
  · exact ⟨_, decode_rewriteForHubUnicast decoded nodes.sender.vmac⟩

theorem only_registration {sends : SCVMAC × Nat → Bool}
    : ∀ entry ∈ nodes.hub.connections.entries,
      (decide (entry.2 = nodes.receiverId) && sends entry) = true
        → entry = (nodes.receiver.vmac, nodes.receiverId) := by
  rintro ⟨vmac, id⟩ member holds
  obtain ⟨same, _⟩ := Bool.and_eq_true_iff.mp holds
  obtain rfl := of_decide_eq_true same
  obtain ⟨client, there, peer, _⟩ := nodes.peers _ _ (OrderedDict.mem_entries.mp member)
  obtain ⟨client', here, peer', _⟩ := nodes.peers _ _ nodes.registered
  cases there.symm.trans here
  rw [Option.some.inj (peer.symm.trans peer')]

/-- The hub sends one frame to the receiver. -/
theorem onNodeMessage_forwards (npdu : Bytes)
    : ((nodes.hub.onNodeMessage nodes.atHub { nodes.message npdu with payload := [] }
          (nodes.message npdu).plainOctets).filter fun forwarded => forwarded.1 = nodes.receiverId)
      = [(nodes.receiverId, nodes.forwarded npdu)] := by
  have originating : ((nodes.message npdu).originating.any fun vmac => vmac ≠ nodes.sender.vmac)
      = false := by
    simp [message, hubMessage]
  have destination : (nodes.message npdu).destination = some nodes.receiver.vmac := rfl
  have there : (nodes.message npdu).plainOctets ≠ [] := List.cons_ne_nil _ _
  unfold SCHubFunction.onNodeMessage forwarded
  rw [nodes.atHubPeer]
  dsimp only
  rw [originating, destination, if_pos there, if_pos there]
  by_cases broadcast : nodes.receiver.vmac.isBroadcast
  · simp only [broadcast, Option.any_some, Bool.not_true, Bool.false_eq_true, if_false, if_true,
      SCHubFunction.broadcast]
    have only := OrderedDict.filter_entries_eq_singleton
      (fun entry => decide (entry.2 = nodes.receiverId)
        && decide (entry.1 ≠ nodes.sender.vmac ∧ nodes.hub.canSend entry.2 = true))
      nodes.registered (by simp [nodes.different, nodes.receiverUp]) nodes.only_registration
    simp only [Except.toOption, bind, Except.bind, Option.getD_some, List.filter_map]
    rw [List.filter_filter]
    exact congrArg (List.map _) only
  · simp only [broadcast, Option.any_some, Bool.not_false, if_true, Bool.false_eq_true, if_false,
      SCHubFunction.unicast, Option.bind_some, nodes.registered, nodes.receiverUp]
    simp

/-- Over the hub the receiver is told the sender's VMAC, if the frames are within the limits. -/
theorem receivedViaHub_message (nonempty : npdu ≠ [])
    : nodes.receivedViaHub (nodes.message npdu).plainOctets
      = if npdu.length + 16 ≤ nodes.atHub.maxBvlc
            ∧ npdu.length + nodes.forwardedHeader ≤ nodes.toHub.maxBvlc then
          [(npdu, nodes.sender.vmac.address)]
        else [] := by
  rw [receivedViaHub, nodes.passesOn_atHub]
  by_cases fits : npdu.length + 16 ≤ nodes.atHub.maxBvlc
  · obtain ⟨destination, decoded⟩ := nodes.decode_forwarded npdu
    rw [if_pos fits]
    dsimp only
    rw [nodes.onNodeMessage_forwards, List.filterMap_cons, List.filterMap_nil,
      nodes.passesOn_toHub decoded rfl, nodes.length_forwarded]
    by_cases fits' : npdu.length + nodes.forwardedHeader ≤ nodes.toHub.maxBvlc
    · simp [fits, fits', onHubMessage, receiveCall, message,
        hubMessage, nonempty]
    · simp [fits']
  · simp [fits]

-- Over a direct connection

/-- Over a direct connection the receiver is told six zero octets. -/
theorem receivedDirect_message (nonempty : npdu ≠ [])
    : ((nodes.toSender.passesOn (directMessage npdu).plainOctets).bind
        onDirectMessage).toList
      = if npdu.length + 4 ≤ nodes.toSender.maxBvlc then [(npdu, List.replicate 6 0)] else [] := by
  have decoded := SCMessage.decode_plainOctets (plain_directMessage npdu)
  have length : (directMessage npdu).plainOctets.length = npdu.length + 4 := by
    simp [SCMessage.plainOctets, directMessage, vmacOctets]
    omega
  rw [passesOn, fits, length, nodes.toSenderUp, nodes.toSenderMode, decoded]
  by_cases fits : npdu.length + 4 ≤ nodes.toSender.maxBvlc
  · simp [fits, onDirectMessage, receiveCall, directMessage,
      nonempty]
  · simp [fits]

-- Which of them

/-- A task without a direct connection sends over the hub. -/
theorem runTask_rawViaHub (data : Bytes) (directWs)
    : nodes.senderThen.runTask directWs (.ok ()) (.rawViaHub data) = .viaHub data := by
  obtain ⟨conn, up, canSend⟩ := nodes.senderUp
  simp only [runTask, up, sendRaw, canSend, if_true]
  rfl

/-- What `send_direct` does with the outcome of the WebSocket. -/
def directOutcome (npdu : Bytes) (directWs : Except ScException Unit)
    : Except ScException (Option Bytes) :=
  match directWs with
  | .ok () => .ok (some (directMessage npdu).plainOctets)
  | .error exception => if exception = .osError then .ok none else .error exception

/-- What `send_direct` comes to. -/
theorem sendDirect_cases (switch : SCNodeSwitch) (npdu : Bytes) (directWs)
    : (∃ conn, switch.directConnections.get nodes.receiver.vmac = some conn ∧ conn.canSend
        ∧ switch.sendDirect nodes.receiver.vmac (directMessage npdu) directWs
          = directOutcome npdu directWs)
      ∨ (¬ ∃ conn, switch.directConnections.get nodes.receiver.vmac = some conn ∧ conn.canSend)
        ∧ switch.sendDirect nodes.receiver.vmac (directMessage npdu) directWs
          = .ok none := by
  have encoded := SCMessage.encode_plain (plain_directMessage npdu)
  unfold SCNodeSwitch.sendDirect
  cases found : switch.directConnections.get nodes.receiver.vmac with
  | none => exact .inr ⟨nofun, rfl⟩
  | some conn =>
    by_cases canSend : conn.canSend
    · refine .inl ⟨conn, rfl, canSend, ?_⟩
      have connected : conn.state = .connected := by
        simp only [SCConnection.canSend, decide_eq_true_eq] at canSend
        exact canSend.1
      simp only [connected, ne_eq, not_true, if_false, sendMessage, canSend, if_true,
        encoded]
      cases directWs with
      | ok => rfl
      | error exception => cases exception <;> rfl
    · refine .inr ⟨fun ⟨other, same, able⟩ => canSend (Option.some.inj same ▸ able), ?_⟩
      dsimp only
      split
      · rfl
      · rw [sendMessage, if_neg canSend]

def directTask (npdu : Bytes) : SendTask :=
  .directOrHub nodes.receiver.vmac (directMessage npdu) (nodes.message npdu)

/-- What the attempt over a direct connection comes to when the task runs. -/
def attempt (npdu : Bytes) (directWs : Except ScException Unit)
    : Except ScException (Option Bytes) :=
  match nodes.senderThen.nodeSwitch with
  | none => .ok none
  | some switch =>
    switch.sendDirect nodes.receiver.vmac (directMessage npdu) directWs

theorem runTask_directTask (npdu : Bytes) (directWs)
    : nodes.senderThen.runTask directWs (.ok ()) (nodes.directTask npdu)
      = match nodes.attempt npdu directWs with
        | .error _ => .nothing
        | .ok (some frame) => .direct frame
        | .ok none => .viaHub (nodes.message npdu).plainOctets := by
  obtain ⟨conn, up, canSend⟩ := nodes.senderUp
  have encoded := SCMessage.encode_plain (plain_hubMessage nodes.sender.vmac
    nodes.receiver.vmac npdu)
  have sent : overHub (conn.sendMessage (nodes.message npdu) (.ok ()))
      = .viaHub (nodes.message npdu).plainOctets := by
    rw [sendMessage, if_pos canSend, message, encoded]
    rfl
  simp only [runTask, directTask, up, sent]
  rfl

theorem sentFrame_cases (npdu : Bytes) (directWs)
    : (nodes.OverHub directWs
        ∧ nodes.sentFrame npdu directWs = .viaHub (nodes.message npdu).plainOctets)
      ∨ (nodes.DirectFound ∧ directWs = .ok ()
        ∧ nodes.sentFrame npdu directWs
          = .direct (directMessage npdu).plainOctets)
      ∨ ¬ nodes.OverHub directWs ∧ directWs ≠ .ok ()
        ∧ nodes.sentFrame npdu directWs = .nothing := by
  have cached : nodes.senderThen.runTask directWs (.ok ())
        (nodes.sender.sendCached npdu nodes.receiver.vmac.address).2
      = .viaHub (nodes.message npdu).plainOctets := by
    rw [SCTransport.sendCached_task, runTask_rawViaHub, message,
      plainOctets_hubMessage]
  cases hasSwitch : nodes.sender.nodeSwitch with
  | none =>
    refine .inl ⟨.inl fun ⟨⟨switch, there, _⟩, _⟩ => ?_, ?_⟩
    · cases hasSwitch.symm.trans there
    · simpa only [sentFrame, sendUnicast, hasSwitch] using cached
  | some switch =>
    by_cases hasDirect : switch.hasDirect nodes.receiver.vmac
    · have sent : nodes.sentFrame npdu directWs
          = nodes.senderThen.runTask directWs (.ok ()) (nodes.directTask npdu) := by
        simp [sentFrame, sendUnicast, hasSwitch, hasDirect, directTask, message, bind,
          Except.bind]
      rw [sent, runTask_directTask]
      cases hasThen : nodes.senderThen.nodeSwitch with
      | none =>
        refine .inl ⟨.inl fun ⟨_, later, there, _⟩ => ?_, ?_⟩
        · cases hasThen.symm.trans there
        · simp only [attempt, hasThen]
      | some later =>
        rcases nodes.sendDirect_cases later npdu directWs with
          ⟨conn, found, canSend, outcome⟩ | ⟨missing, outcome⟩
        · have directFound : nodes.DirectFound :=
            ⟨⟨switch, hasSwitch, hasDirect⟩, later, hasThen, conn, found, canSend⟩
          simp only [attempt, hasThen, outcome, directOutcome]
          cases directWs with
          | ok => exact .inr (.inl ⟨directFound, rfl, rfl⟩)
          | error exception =>
            by_cases osError : exception = .osError
            · exact .inl ⟨.inr (osError ▸ rfl), by simp only [osError, if_true]⟩
            · refine .inr (.inr ⟨?_, nofun, by simp only [osError, if_false]⟩)
              rintro (missing | same)
              · exact missing directFound
              · exact osError (Except.error.inj same)
        · refine .inl ⟨.inl fun ⟨_, later', there, able⟩ => ?_, ?_⟩
          · exact missing (Option.some.inj (hasThen.symm.trans there) ▸ able)
          · simp only [attempt, hasThen, outcome]
    · refine .inl ⟨.inl fun ⟨⟨other, there, able⟩, _⟩ => ?_, ?_⟩
      · exact hasDirect (Option.some.inj (hasSwitch.symm.trans there) ▸ able)
      · simpa [sentFrame, sendUnicast, hasSwitch, hasDirect, bind, Except.bind]
          using cached

-- Two nodes

/-- The VMACs 02:00:00:00:00:02 and 02:00:00:00:00:03. -/
def firstVmac : SCVMAC := .numbered 2

def secondVmac : SCVMAC := .numbered 3

def connection (localVmac peerVmac : SCVMAC) (hubMode : Bool) : SCConnection where
  localVmac
  localUuid := .repeated 1
  hubMode
  state := .connected
  hasWebSocket := true
  peerVmac := some peerVmac

def hubVmac : SCVMAC := .numbered 1

def hubOfSecond : SCHubFunction where
  hubVmac
  hubUuid := .repeated 1
  connections := ({} : OrderedDict SCVMAC Nat).set secondVmac 1
  clients id :=
    if id = 1 then some { conn := connection hubVmac secondVmac true, phase := .over } else none

def first : SCTransport where
  vmac := firstVmac
  nodeSwitch := some {
    directConnections := ({} : OrderedDict SCVMAC SCConnection).set secondVmac
      (connection firstVmac secondVmac false)
  }
  hubConnection := some (connection firstVmac hubVmac false)

def twoNodes : ScNodes where
  sender := first
  receiver := { vmac := secondVmac }
  senderThen := first
  hub := hubOfSecond
  atHub := connection hubVmac firstVmac true
  receiverId := 1
  toHub := connection secondVmac hubVmac false
  toSender := connection secondVmac firstVmac false
  different := by decide
  senderUp := ⟨_, rfl, rfl⟩
  atHubUp := rfl
  atHubMode := rfl
  atHubPeer := rfl
  peers := by
    intro vmac id found
    rw [hubOfSecond, OrderedDict.get_set] at found
    split at found
    · next same =>
        cases found
        exact ⟨_, rfl, same ▸ rfl, rfl⟩
    · cases found
  registered := by decide
  receiverUp := rfl
  toHubUp := rfl
  toHubMode := rfl
  toSenderUp := rfl
  toSenderMode := rfl

-- Both paths

/-- The receiver is told the NPDU and the sender's VMAC exactly if the NPDU goes over the hub, within the
limits of the connections, or over a direct connection from a sender whose VMAC is zero.
-/
theorem received_iff (nodes : ScNodes) {npdu : Bytes} (nonempty : npdu ≠ [])
    (directWs : Except ScException Unit)
    : nodes.received npdu directWs = [(npdu, nodes.sender.vmac.address)]
      ↔ (nodes.OverHub directWs ∧ npdu.length + 16 ≤ nodes.atHub.maxBvlc
          ∧ npdu.length + nodes.forwardedHeader ≤ nodes.toHub.maxBvlc)
        ∨ ¬ nodes.OverHub directWs ∧ directWs = .ok ()
          ∧ nodes.sender.vmac.address = List.replicate 6 0
          ∧ npdu.length + 4 ≤ nodes.toSender.maxBvlc := by
  rcases nodes.sentFrame_cases npdu directWs with
    ⟨overHub, sent⟩ | ⟨found, sends, sent⟩ | ⟨direct, fails, sent⟩
  · simp only [received, sent, nodes.receivedViaHub_message nonempty, overHub, true_and, not_true,
      false_and, or_false]
    split
    · next fits => exact iff_of_true rfl fits
    · next large => exact iff_of_false nofun large
  · subst sends
    have direct : ¬ nodes.OverHub (.ok ()) := by
      rintro (missing | fails)
      · exact missing found
      · cases fails
    simp only [received, sent, nodes.receivedDirect_message nonempty, direct, false_and, false_or,
      not_false_iff, true_and]
    split
    · next fits =>
        simp only [List.cons.injEq, Prod.mk.injEq, true_and, and_true, fits]
        exact eq_comm
    · next large => exact iff_of_false nofun fun allowed => large allowed.2
  · simp only [received, sent]
    exact iff_of_false nofun fun
      | .inl overHub => direct overHub.1
      | .inr sends => fails sends.2.1

theorem received_iff_twoNodes
    : twoNodes.received [0x01, 0x00, 0x10, 0x08] (.ok ())
        = [([0x01, 0x00, 0x10, 0x08], twoNodes.sender.vmac.address)]
      ↔ (twoNodes.OverHub (.ok ()) ∧ 4 + 16 ≤ twoNodes.atHub.maxBvlc
          ∧ 4 + twoNodes.forwardedHeader ≤ twoNodes.toHub.maxBvlc)
        ∨ ¬ twoNodes.OverHub (.ok ()) ∧ (.ok () : Except ScException Unit) = .ok ()
          ∧ twoNodes.sender.vmac.address = List.replicate 6 0
          ∧ 4 + 4 ≤ twoNodes.toSender.maxBvlc :=
  received_iff twoNodes (by decide) (.ok ())

/-- Over the direct connection the second node is told the source 00:00:00:00:00:00, over the hub it is
told the first node's VMAC.
-/
theorem direct_source_is_zero
    : twoNodes.received [0x01, 0x00, 0x10, 0x08] (.ok ())
        = [([0x01, 0x00, 0x10, 0x08], [0, 0, 0, 0, 0, 0])]
      ∧ twoNodes.sender.vmac.address ≠ [0, 0, 0, 0, 0, 0]
      ∧ twoNodes.received [0x01, 0x00, 0x10, 0x08] (.error .osError)
        = [([0x01, 0x00, 0x10, 0x08], twoNodes.sender.vmac.address)] := by
  decide +kernel

end ScNodes

end BacPy
