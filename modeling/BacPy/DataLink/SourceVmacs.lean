import BacPy.DataLink.BroadcastHandling6
import BacPy.Library.Runs

/-! Networks of BACnet/IPv6 ports: which source VMACs are reported for the broadcasts of a node. -/

namespace BacPy

open Library

/-- Who receives what a node sends to an address, multicast groups included, and from which UDP
source.
-/
structure Bip6Network (Node : Type) where
  receivers : Node → BIP6Address → List (Node × BIP6Address)

/-- A datagram on its way to a node. -/
structure Datagram6 (Node : Type) where
  receiver : Node
  data : Bytes
  udpSource : BIP6Address
  /-- the VMAC of the node whose broadcast it is about, if it comes of a broadcast -/
  about : Option Bytes
  /-- the VMAC of the node that has sent it -/
  sentBy : Bytes

/-- A call of the receive callback of a node, and the broadcast that it comes of. -/
structure Delivery6 (Node : Type) where
  node : Node
  npdu : Bytes
  sourceVmac : Bytes
  about : Option Bytes
  deriving DecidableEq

/-- The ports of all nodes, the datagrams in flight, and the deliveries so far. -/
structure Bip6State (Node : Type) where
  transports : Node → BIP6Transport
  inFlight : List (Datagram6 Node) := []
  delivered : List (Delivery6 Node) := []

namespace Bip6Network

variable {Node : Type}

def datagrams (net : Bip6Network Node) (node : Node) (sentBy : Bytes) (about : Option Bytes)
    : Bip6Output → List (Datagram6 Node)
  | .receive .. => []
  | .sendto data destination =>
    (net.receivers node destination).map fun receiver =>
      { receiver := receiver.1, data, udpSource := receiver.2, about, sentBy }

def deliveries (node : Node) (about : Option Bytes) : Bip6Output → List (Delivery6 Node)
  | .receive npdu sourceVmac => [{ node, npdu, sourceVmac, about }]
  | .sendto .. => []

def perform (net : Bip6Network Node) (state : Bip6State Node) (node : Node) (sentBy : Bytes)
    (about : Option Bytes) (outputs : List Bip6Output)
    : Bip6State Node :=
  {
    state with
    inFlight := state.inFlight ++ outputs.flatMap (net.datagrams node sentBy about)
    delivered := state.delivered ++ outputs.flatMap (deliveries node about)
  }

/-- A node sends a broadcast; a datagram arrives; a datagram that is about no broadcast turns up; or
anything else changes at a node, but not its VMAC.
-/
inductive Event (Node : Type) where
  | broadcast (node : Node) (npdu : Bytes) (now : Rat)
  | arrive (index : Nat) (now : Rat)
  | turnUp (receiver : Node) (data : Bytes) (udpSource : BIP6Address)
  | change (node : Node) (transport : BIP6Transport)
      (wellFormed : transport.WellFormed)

def step [DecidableEq Node] (net : Bip6Network Node) (state : Bip6State Node)
    : Event Node → Option (Bip6State Node)
  | .broadcast node npdu now =>
    let vmac := (state.transports node).vmac
    some (net.perform state node vmac (some vmac) ((state.transports node).sendBroadcast npdu now).1)
  | .arrive index now =>
    match state.inFlight[index]? with
    | none => none
    | some datagram =>
      let (transport, outputs) := (state.transports datagram.receiver).onDatagramReceived now
        datagram.data datagram.udpSource
      let arrived := {
        state with
        transports := Function.update state.transports datagram.receiver transport
        inFlight := state.inFlight.eraseIdx index
      }
      some (net.perform arrived datagram.receiver transport.vmac datagram.about outputs)
  | .turnUp receiver data udpSource =>
    some {
      state with
      inFlight := state.inFlight
        ++ [{ receiver, data, udpSource, about := none, sentBy := [] }]
    }
  | .change node transport _ =>
    if transport.vmac = (state.transports node).vmac then
      some { state with transports := Function.update state.transports node transport }
    else none

/-- Every delivery of a broadcast reports the VMAC of the node whose broadcast it is. -/
def SourcesReported (state : Bip6State Node) : Prop :=
  ∀ delivery ∈ state.delivered, ∀ vmac, delivery.about = some vmac → delivery.sourceVmac = vmac

def FromOriginator (state : Bip6State Node) : Event Node → Prop
  | .arrive index _ =>
    ∀ datagram, state.inFlight[index]? = some datagram → ∀ vmac, datagram.about = some vmac
      → ∀ npdu origin, decodeBvll6 datagram.data
        = .ok (readMessage .forwardedNpdu npdu (some datagram.sentBy) none (some origin))
      → (state.transports datagram.receiver).TakesUp datagram.sentBy origin
      → datagram.sentBy = vmac
  | _ => True

-- The datagrams of broadcasts

/-- What is in flight about a broadcast: the broadcast itself, sent by the originator, or a
Forwarded-NPDU or a refusal, with the VMAC of the node that has sent it.
-/
inductive Carries (vmac sentBy data : Bytes) : Prop where
  | original (npdu : Bytes) (same : sentBy = vmac)
      (encoded : encodeBvll6 .originalBroadcastNpdu npdu (some vmac) = .ok data)
  | distribute (npdu : Bytes) (same : sentBy = vmac)
      (encoded : encodeBvll6 .distributeBroadcastNpdu npdu (some vmac) = .ok data)
  | forwarded (npdu : Bytes) (origin : BIP6Address)
      (encoded : encodeBvll6 .forwardedNpdu npdu (some sentBy) none (some origin) = .ok data)
  | refused (result : Bytes)
      (encoded : encodeBvll6 .bvlcResult result (some sentBy) = .ok data)

/-- All ports are well formed, all that is in flight about broadcasts is carried by them, and the
VMACs of the originators have been reported so far.
-/
structure Sourced (state : Bip6State Node) : Prop where
  wellFormed : ∀ node, (state.transports node).WellFormed
  inFlight : ∀ datagram ∈ state.inFlight, ∀ vmac, datagram.about = some vmac
    → Carries vmac datagram.sentBy datagram.data
  reported : SourcesReported state

section Steps

variable {net : Bip6Network Node} {state : Bip6State Node} {node : Node} {sentBy vmac : Bytes}
  {about : Option Bytes} {outputs : List Bip6Output}

theorem mem_perform {datagram}
    (member : datagram ∈ (net.perform state node sentBy about outputs).inFlight)
    : datagram ∈ state.inFlight
      ∨ datagram.about = about ∧ datagram.sentBy = sentBy
        ∧ ∃ dest, .sendto datagram.data dest ∈ outputs := by
  rcases List.mem_append.mp member with before | sent
  · exact .inl before
  · obtain ⟨output, put, sent⟩ := List.mem_flatMap.mp sent
    cases output with
    | receive npdu sourceVmac => cases sent
    | sendto data dest =>
      obtain ⟨receiver, _, rfl⟩ := List.mem_map.mp sent
      exact .inr ⟨rfl, rfl, dest, put⟩

theorem mem_delivered {delivery}
    (member : delivery ∈ (net.perform state node sentBy about outputs).delivered)
    : delivery ∈ state.delivered
      ∨ delivery.about = about ∧ .receive delivery.npdu delivery.sourceVmac ∈ outputs := by
  rcases List.mem_append.mp member with before | new
  · exact .inl before
  · obtain ⟨output, put, new⟩ := List.mem_flatMap.mp new
    cases output with
    | sendto data dest => cases new
    | receive npdu sourceVmac =>
      obtain rfl := List.mem_singleton.mp new
      exact .inr ⟨rfl, put⟩

/-- Outputs that carry the broadcast and report its originator keep everything sourced. -/
theorem Sourced.perform (sourced : Sourced state)
    (sends : ∀ vmac, about = some vmac → ∀ data dest, .sendto data dest ∈ outputs
      → Carries vmac sentBy data)
    (reports : ∀ vmac, about = some vmac → ∀ npdu source, .receive npdu source ∈ outputs
      → source = vmac)
    : Sourced (net.perform state node sentBy about outputs) := by
  refine ⟨sourced.wellFormed, fun datagram member vmac same => ?_,
    fun delivery member vmac same => ?_⟩
  · rcases mem_perform member with before | ⟨sameAbout, sameSender, dest, put⟩
    · exact sourced.inFlight datagram before vmac same
    · rw [sameSender]
      exact sends vmac (sameAbout.symm.trans same) _ dest put
  · rcases mem_delivered member with before | ⟨sameAbout, put⟩
    · exact sourced.reported delivery before vmac same
    · exact reports vmac (sameAbout.symm.trans same) _ _ put

-- One step

/-- What a node sends about a broadcast carries it on under the node's own VMAC. -/
theorem carries_of_outcome {transport : BIP6Transport} {npdu source data : Bytes}
    {dest : BIP6Address} (outcome : transport.Outcome npdu source (.sendto data dest))
    : Carries vmac transport.vmac data := by
  cases outcome with
  | forwarded origin dest frame encoded => exact .forwarded npdu origin encoded
  | refused dest result frame encoded => exact .refused result encoded

/-- What a node reports about a broadcast is the VMAC that the datagram comes with; it is the
originator's unless the node takes up a Forwarded-NPDU of another node.
-/
theorem arrive_carries {transport : BIP6Transport} {source data : Bytes} (now : Rat)
    (addr : BIP6Address) (wellFormed : transport.WellFormed) (carries : Carries vmac source data)
    : (∀ frame dest, .sendto frame dest ∈ (transport.onDatagramReceived now data addr).2
        → Carries vmac transport.vmac frame)
      ∧ ∀ npdu reported, .receive npdu reported ∈ (transport.onDatagramReceived now data addr).2
        → reported = source ∧ (source = vmac ∨ ∃ origin,
          decodeBvll6 data = .ok (readMessage .forwardedNpdu npdu (some source) none (some origin))
          ∧ transport.TakesUp source origin) := by
  have broadcast : ∀ {npdu : Bytes} {function : Bvlc6Function}
      {originatingAddress : Option BIP6Address}, BBMD6Manager.IsBroadcast6 function
      → source.length = 3
      → decodeBvll6 data = .ok (readMessage function npdu (some source) none originatingAddress)
      → (∀ frame dest, .sendto frame dest ∈ (transport.onDatagramReceived now data addr).2
          → Carries vmac transport.vmac frame)
        ∧ ∀ text reported, .receive text reported ∈ (transport.onDatagramReceived now data addr).2
          → reported = source ∧ text = npdu := by
    intro npdu function originatingAddress isBroadcast three decoded
    refine ⟨fun frame dest put => ?_, fun text reported put => ?_⟩
    · exact carries_of_outcome
        (BIP6Transport.outcome_broadcast isBroadcast wellFormed three decoded put)
    · cases BIP6Transport.outcome_broadcast isBroadcast wellFormed three decoded put
      exact ⟨rfl, rfl⟩
  cases carries with
  | original npdu same encoded =>
    subst same
    have outcome := broadcast (.inl rfl) (length_of_encodeBvll6 rfl encoded)
      (decodeBvll6_encoded encoded)
    exact ⟨outcome.1, fun text reported put => ⟨(outcome.2 text reported put).1, .inl rfl⟩⟩
  | distribute npdu same encoded =>
    subst same
    have outcome := broadcast (.inr (.inl rfl)) (length_of_encodeBvll6 rfl encoded)
      (decodeBvll6_encoded encoded)
    exact ⟨outcome.1, fun text reported put => ⟨(outcome.2 text reported put).1, .inl rfl⟩⟩
  | forwarded npdu origin encoded =>
    have outcome := broadcast (.inr (.inr rfl)) (length_of_encodeBvll6 rfl encoded)
      (decodeBvll6_encoded encoded)
    refine ⟨outcome.1, fun text reported put => ?_⟩
    obtain ⟨rfl, rfl⟩ := outcome.2 text reported put
    exact ⟨rfl, .inr ⟨origin, decodeBvll6_encoded encoded,
      (BIP6Transport.reported_forwarded_iff now addr wellFormed encoded).mp put⟩⟩
  | refused result encoded =>
    rw [BIP6Transport.outputs_result (length_of_encodeBvll6 rfl encoded)
      (decodeBvll6_encoded encoded)]
    exact ⟨fun _ _ put => absurd put List.not_mem_nil,
      fun _ _ put => absurd put List.not_mem_nil⟩

variable [DecidableEq Node] {next : Bip6State Node} {event : Event Node}

/-- An arrival, taken apart. -/
theorem arrive_cases {index now} (moved : step net state (.arrive index now) = some next)
    : ∃ datagram transport outputs, state.inFlight[index]? = some datagram
        ∧ (state.transports datagram.receiver).onDatagramReceived now datagram.data
          datagram.udpSource = (transport, outputs)
        ∧ next = net.perform {
            state with
            transports := Function.update state.transports datagram.receiver transport
            inFlight := state.inFlight.eraseIdx index
          } datagram.receiver transport.vmac datagram.about outputs := by
  unfold step at moved
  dsimp only at moved
  split at moved
  · cases moved
  · next datagram there => exact ⟨datagram, _, _, there, rfl, (Option.some.inj moved).symm⟩

/-- A datagram that is taken out of flight leaves everything sourced. -/
theorem Sourced.arrived {receiver : Node} {transport : BIP6Transport} {index : Nat}
    (sourced : Sourced state) (wellFormed : transport.WellFormed)
    : Sourced {
        state with
        transports := Function.update state.transports receiver transport
        inFlight := state.inFlight.eraseIdx index
      } := by
  refine ⟨fun node => ?_, fun datagram member => ?_, sourced.reported⟩
  · by_cases same : node = receiver
    · rw [same]
      simpa using wellFormed
    · simpa [Function.update_of_ne same] using sourced.wellFormed node
  · exact sourced.inFlight datagram (List.mem_of_mem_eraseIdx member)

theorem sourced_step (sourced : Sourced state) (right : FromOriginator state event)
    (moved : step net state event = some next)
    : Sourced next := by
  cases event with
  | broadcast node npdu now =>
    cases moved
    refine sourced.perform (fun vmac same data dest put => ?_) fun vmac same text source put => ?_
    · cases same
      obtain ⟨_, _, output, kinds⟩ :=
        BIP6Transport.outputs_sendBroadcast (sourced.wellFormed node) put
      cases output
      rcases kinds with original | distribute | ⟨origin, forwarded⟩
      · exact .original npdu rfl original
      · exact .distribute npdu rfl distribute
      · exact .forwarded npdu origin forwarded
    · obtain ⟨_, _, same, _⟩ :=
        BIP6Transport.outputs_sendBroadcast (sourced.wellFormed node) put
      cases same
  | arrive index now =>
    obtain ⟨datagram, transport, outputs, there, received, rfl⟩ := arrive_cases moved
    have member := List.mem_of_getElem? there
    have wellFormed := sourced.wellFormed datagram.receiver
    have same := BIP6Transport.sameVmacs_onDatagramReceived
      (state.transports datagram.receiver) now datagram.data datagram.udpSource
    rw [received] at same
    refine (sourced.arrived (wellFormed.same same)).perform (fun vmac about data dest put => ?_)
      fun vmac about text source put => ?_
    · have carried := arrive_carries now datagram.udpSource wellFormed
        (sourced.inFlight datagram member vmac about)
      rw [received] at carried
      rw [same.vmac]
      exact carried.1 data dest put
    · have carried := arrive_carries now datagram.udpSource wellFormed
        (sourced.inFlight datagram member vmac about)
      rw [received] at carried
      obtain ⟨rfl, original | ⟨origin, decoded, takesUp⟩⟩ := carried.2 text source put
      · exact original
      · exact right datagram there vmac about text origin decoded takesUp
  | turnUp receiver data udpSource =>
    cases moved
    refine ⟨sourced.wellFormed, fun datagram member vmac about => ?_, sourced.reported⟩
    rcases List.mem_append.mp member with before | new
    · exact sourced.inFlight datagram before vmac about
    · rw [List.mem_singleton.mp new] at about
      cases about
  | change node transport wellFormed =>
    unfold step at moved
    dsimp only at moved
    split at moved
    · cases moved
      refine ⟨fun other => ?_, sourced.inFlight, sourced.reported⟩
      by_cases same : other = node
      · rw [same]
        simpa using wellFormed
      · simpa [Function.update_of_ne same] using sourced.wellFormed other
    · cases moved

/-- Where a node takes up a Forwarded-NPDU of another node than the originator, it reports that one. -/
theorem misreported_step (sourced : Sourced state) (wrong : ¬ FromOriginator state event)
    (moved : step net state event = some next)
    : ¬ SourcesReported next := by
  cases event with
  | broadcast node npdu now => exact absurd trivial wrong
  | turnUp receiver data udpSource => exact absurd trivial wrong
  | change node transport wellFormed => exact absurd trivial wrong
  | arrive index now =>
    obtain ⟨datagram, transport, outputs, there, received, rfl⟩ := arrive_cases moved
    intro reported
    refine wrong fun another here vmac about npdu origin decoded takesUp => ?_
    cases there.symm.trans here
    have member := List.mem_of_getElem? there
    have wellFormed := sourced.wellFormed datagram.receiver
    obtain ⟨npdu, origin, encoded, takesUp⟩ : ∃ npdu origin,
        encodeBvll6 .forwardedNpdu npdu (some datagram.sentBy) none (some origin)
          = .ok datagram.data
        ∧ (state.transports datagram.receiver).TakesUp datagram.sentBy origin := by
      cases sourced.inFlight datagram member vmac about with
      | original text same encoded =>
        cases (decodeBvll6_encoded encoded).symm.trans decoded
      | distribute text same encoded =>
        cases (decodeBvll6_encoded encoded).symm.trans decoded
      | refused result encoded => cases (decodeBvll6_encoded encoded).symm.trans decoded
      | forwarded text other encoded =>
        cases (decodeBvll6_encoded encoded).symm.trans decoded
        exact ⟨npdu, origin, encoded, takesUp⟩
    have put := (BIP6Transport.reported_forwarded_iff now datagram.udpSource wellFormed
      encoded).mpr takesUp
    rw [received] at put
    exact reported _ (List.mem_append_right _ (List.mem_flatMap.mpr
      ⟨_, put, List.mem_singleton_self _⟩)) vmac about

end Steps

-- Two links

/-- A node with a BBMD on its link, and the BBMD of another link. -/
inductive Station where
  | node
  | bbmd
  | remote
  deriving DecidableEq

namespace Station

def vmac : Station → Bytes
  | .node => [0, 0, 1]
  | .bbmd => [0, 0, 2]
  | .remote => [0, 0, 3]

/-- fd00:1::1, fd00:1::2 and fd00:2::1 -/
def address : Station → BIP6Address
  | .node => { host := 0xFD000001000000000000000000000001#128, port := 0xBAC0 }
  | .bbmd => { host := 0xFD000001000000000000000000000002#128, port := 0xBAC0 }
  | .remote => { host := 0xFD000002000000000000000000000001#128, port := 0xBAC0 }

/-- A port at the link-local multicast group ff02::bac0. -/
def port (station : Station) : BIP6Transport where
  localAddress := station.address
  vmac := station.vmac
  multicastAddress := 0xFF02000000000000000000000000BAC0#128
  port := 0xBAC0

/-- The BBMDs have each other in their tables. -/
def transport (station : Station) : BIP6Transport :=
  match station with
  | .node => station.port
  | _ =>
    {
      station.port with
      bbmd := some (station.port.makeBbmd [⟨Station.bbmd.address⟩, ⟨Station.remote.address⟩])
    }

theorem wellFormed_transport (station : Station) : station.transport.WellFormed := by
  refine ⟨by cases station <;> rfl, fun bbmd attached => ?_, fun device registers => ?_⟩
  · cases station with
    | node => cases attached
    | bbmd => rw [← Option.some.inj attached]; rfl
    | remote => rw [← Option.some.inj attached]; rfl
  · cases station <;> cases registers

end Station

/-- Multicasts stay on the link. -/
def twoLinks : Bip6Network Station where
  receivers sender dest :=
    let reached : List Station :=
      if dest = sender.port.multicastGroup then
        match sender with
        | .remote => [.remote]
        | _ => [.node, .bbmd]
      else [Station.node, .bbmd, .remote].filter fun station => dest = station.address
    reached.map (·, sender.address)

/-- The start: nothing has been sent. -/
def twoLinksStart : Bip6State Station where
  transports := Station.transport

/-- The node broadcasts a Who-Is; it reaches the BBMD, and from there the other one. -/
def broadcastToRemote : List (Event Station) :=
  [.broadcast .node [0x01, 0x00, 0x10, 0x08] 0, .arrive 1 0, .arrive 1 0]

def replyTo (state : Bip6State Station) (station : Station) (vmac : Bytes) : List Bip6Output :=
  match (state.transports station).sendUnicast [0x01, 0x00, 0x10, 0x00] vmac 0 with
  | .error _ => []
  | .ok (_, outputs) => outputs

-- Whole runs

/-- In a run every delivery of a broadcast reports the VMAC of the node whose broadcast it is exactly
if no node takes up a Forwarded-NPDU about it from a node with another VMAC: a BBMD puts its own VMAC
into the Forwarded-NPDUs that it makes.
-/
theorem sourcesReported_iff [DecidableEq Node] {net : Bip6Network Node} {start : Bip6State Node} (nothing : start.inFlight = [])
    (fresh : start.delivered = [])
    (wellFormed : ∀ node, (start.transports node).WellFormed) (events : List (Event Node))
    : Always (step net) SourcesReported start events
      ↔ Meets (step net) FromOriginator start events := by
  have sourced : Sourced start := by
    refine ⟨wellFormed, fun datagram member => ?_, fun delivery member => ?_⟩
    · rw [nothing] at member
      cases member
    · rw [fresh] at member
      cases member
  exact always_iff_meets sourced_step Sourced.reported misreported_step sourced

theorem sourcesReported_iff_twoLinks
    : Always (step twoLinks) SourcesReported twoLinksStart broadcastToRemote
      ↔ Meets (step twoLinks) FromOriginator twoLinksStart broadcastToRemote :=
  sourcesReported_iff rfl rfl Station.wellFormed_transport broadcastToRemote

/-- The other BBMD reports the VMAC of the BBMD for the broadcast of the node, and a reply to it goes
to the BBMD.
-/
theorem bbmd_reported_as_source
    : ((run (step twoLinks) twoLinksStart broadcastToRemote).map fun state =>
        (state.delivered.filter fun delivery => delivery.node = .remote,
          replyTo state .remote Station.bbmd.vmac))
      = some (
          [{
            node := .remote
            npdu := [0x01, 0x00, 0x10, 0x08]
            sourceVmac := Station.bbmd.vmac
            about := some Station.node.vmac
          }],
          [.sendto [0x82, 0x01, 0, 0x0E, 0, 0, 3, 0, 0, 2, 0x01, 0x00, 0x10, 0x00]
            Station.bbmd.address]) := by
  decide +kernel

end Bip6Network

end BacPy
