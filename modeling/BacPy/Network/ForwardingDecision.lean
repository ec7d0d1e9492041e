import BacPy.Network.LastHop
import BacPy.Network.RouterMessages

/-! Where a router sends an NPDU with an APDU, for each kind of destination, and what it changes in
the copies.
-/

namespace BacPy

open Library
open Stateful (bind_apply pure_apply reads_apply lift_apply Preserves)
open NetworkRouter (table)

/-- The copy of an NPDU for the next routers, with its source and one hop less. -/
def NPDU.onward (npdu : NPDU) (source : BACnetAddress) : NPDU :=
  { npdu with source := some source, hopCount := npdu.hopCount - 1 }

namespace NetworkRouter

-- What is sent

/-- The frames among the outputs, each with its port and the station it is for, if it is not a
broadcast.
-/
def framesOf (outputs : List RouterOutput) : List (Nat × Option Bytes × Bytes) :=
  outputs.filterMap fun output =>
    match output with
    | .send portId destination frame => some (portId, destination, frame)
    | .deliver _ _ => none

def otherPorts (table : RoutingTable) (portId : Nat) : List RouterPort :=
  table.getAllPorts.filter fun port => port.portId ≠ portId

/-- The source that the copies of an NPDU carry: its own, or its sender on the network of the
arrival port.
-/
def Origin (arrival : RouterPort) (npdu : NPDU) (sourceMac : Bytes) (source : BACnetAddress)
    : Prop :=
  npdu.source = some source
    ∨ npdu.source = none ∧ source.network = some arrival.networkNumber
      ∧ source.macAddress = sourceMac

/-- A sender that a source specifier can name. -/
structure Nameable (arrival : RouterPort) (sourceMac : Bytes) : Prop where
  network : 1 ≤ arrival.networkNumber ∧ arrival.networkNumber ≤ 65534
  something : sourceMac ≠ []
  short : sourceMac.length ≤ 255

variable {router : NetworkRouter} {arrival : RouterPort} {npdu : NPDU} {sourceMac data : Bytes}
  {source destination : BACnetAddress} {portId : Nat} {table : RoutingTable}

-- Sources

/-- The copies have a source that they can carry. -/
theorem exists_origin (received : decodeNpdu data = .ok npdu)
    (nameable : npdu.source = none → Nameable arrival sourceMac)
    : ∃ source, Origin arrival npdu sourceMac source ∧ ValidSource source := by
  cases named : npdu.source with
  | some source =>
    exact ⟨source, .inl named, (wellFormed_of_received received).source source named⟩
  | none =>
    obtain ⟨⟨least, most⟩, something, short⟩ := nameable named
    refine ⟨{ network := some arrival.networkNumber, macAddress := sourceMac, inRange := ?_ },
      .inr ⟨named, rfl, rfl⟩, rfl, ?_, something, short⟩
    · intro number same
      cases same
      exact .inr ⟨least, most⟩
    · intro same
      have number := Option.some.inj same
      omega

theorem injectSource_of_origin (known : table.getPort portId = some arrival)
    (origin : Origin arrival npdu sourceMac source)
    : injectSource table portId npdu sourceMac = .ok (some source) := by
  rw [injectSource]
  rcases origin with named | ⟨unnamed, network, mac⟩
  · rw [named]
  · rw [unnamed, stationOn, known]
    dsimp only
    rw [BACnetAddress.make_eq_ok.mpr ⟨network, mac⟩]
    rfl

theorem originOf_of_origin (known : table.getPort portId = some arrival)
    (origin : Origin arrival npdu sourceMac source) (valid : ValidSource source)
    : ∃ network, originOf table portId npdu sourceMac = some (network, source.macAddress)
      ∧ BACnetAddress.make network source.macAddress = .ok source := by
  obtain ⟨network, numbered⟩ := Option.isSome_iff_exists.mp valid.1
  refine ⟨network, ?_, BACnetAddress.make_eq_ok.mpr ⟨numbered, rfl⟩⟩
  rw [originOf, known]
  rcases origin with named | ⟨unnamed, number, mac⟩
  · rw [named, Option.bind_some, numbered]
    rfl
  · rw [unnamed, mac, Option.some.inj (numbered.symm.trans number)]
    rfl

-- Copies

/-- The copy for the next routers is read as it was made. -/
theorem exists_onward (received : decodeNpdu data = .ok npdu)
    (addressed : npdu.destination = some destination) (valid : ValidSource source)
    : ∃ frame, encodeNpdu (npdu.onward source) = .ok frame
      ∧ decodeNpdu frame = .ok (npdu.onward source) := by
  have whole := wellFormed_of_received received
  have hops := whole.hopCount
  rw [addressed, if_pos Option.isSome_some] at hops
  refine bind_eq_ok.mp (roundTrip_iff.mpr ⟨whole.destination, ?_, ?_, whole.payload⟩)
  · intro other same
    exact Option.some.inj same ▸ valid
  · rw [show (npdu.onward source).destination = some destination from addressed,
      if_pos Option.isSome_some]
    exact Nat.lt_of_le_of_lt (Nat.sub_le _ _) hops

/-- The copy for the last hop is read without its destination. -/
theorem exists_localCopy (received : decodeNpdu data = .ok npdu) (valid : ValidSource source)
    : ∃ frame, encodeNpdu (npdu.localCopy source) = .ok frame
      ∧ decodeNpdu frame = .ok (npdu.lastHop source) := by
  obtain ⟨_, _, _, _, payload, _, _, _, _, _, message, _⟩ := decodeNpdu_parts received
  have contents : (checkMessageType (npdu.localCopy source) >>= encodePayload (npdu.localCopy source))
      = .ok payload := by
    obtain ⟨type, checked, packed⟩ := bind_eq_ok.mp message
    refine bind_eq_ok.mpr ⟨type, checked, ?_⟩
    rw [← packed]
    cases type with
    | none => rfl
    | some number => rfl
  have named : ∀ other ∈ (npdu.localCopy source).source, ValidSource other :=
    fun other same => Option.some.inj same ▸ valid
  obtain ⟨frame, encoded⟩ := encodeNpdu_ok_iff.mpr ⟨⟨[], rfl⟩, encodeSource_ok_iff.mpr named,
    ⟨[], rfl⟩, ⟨payload, contents⟩⟩
  exact ⟨frame, encoded, decodeNpdu_localCopy received encoded⟩

theorem prepareForwardedNpdu_eq (known : table.getPort portId = some arrival)
    (origin : Origin arrival npdu sourceMac source) (left : 1 < npdu.hopCount)
    : prepareForwardedNpdu table portId npdu sourceMac = .ok (some (npdu.onward source)) := by
  rw [prepareForwardedNpdu, if_neg (Nat.not_le.mpr left), injectSource_of_origin known origin]
  rfl

-- The decision

/-- A broadcast goes out once on every port but one, by induction on the ports. -/
theorem broadcastAllExcept_apply (portId : Nat) (frame : Bytes) (routing : Routing)
    : broadcastAllExcept portId frame routing = (.ok (), { routing with
        outputs := routing.outputs ++ (otherPorts routing.router.routingTable portId).map
          fun port => .send port.portId none frame }) := by
  have loop : ∀ (ports : List RouterPort) (routing : Routing),
      Stateful.forEach (fun port : RouterPort =>
        Stateful.when (port.portId ≠ portId) (emit (.send port.portId none frame))) ports routing
      = (.ok (), { routing with
          outputs := routing.outputs ++ (ports.filter fun port => port.portId ≠ portId).map
            fun port => .send port.portId none frame }) := by
    intro ports
    induction ports with
    | nil =>
      intro routing
      rw [List.filter_nil, List.map_nil, List.append_nil]
      rfl
    | cons port rest ih =>
      intro routing
      rw [Stateful.forEach, bind_apply, Stateful.when]
      by_cases other : port.portId ≠ portId
      · rw [if_pos other, emit, Stateful.modifies_apply]
        dsimp only
        rw [ih, List.filter_cons, if_pos (decide_eq_true other), List.map_cons,
          List.append_assoc, List.singleton_append]
      · rw [if_neg other, pure_apply]
        dsimp only
        rw [ih, List.filter_cons, if_neg (by simpa using other)]
  exact loop _ routing

theorem framesOf_append (first second)
    : framesOf (first ++ second) = framesOf first ++ framesOf second :=
  List.filterMap_append

theorem framesOf_broadcasts (ports : List RouterPort) (frame : Bytes)
    : framesOf (ports.map fun port => .send port.portId none frame)
      = ports.map fun port => (port.portId, none, frame) := by
  rw [framesOf, List.filterMap_map]
  exact congrFun List.filterMap_eq_map ports

/-- The application of the router gets its copy without a frame being sent. -/
theorem deliverToApplication_apply (known : router.routingTable.getPort portId = some arrival)
    (origin : Origin arrival npdu sourceMac source)
    : ∃ outputs, deliverToApplication portId npdu sourceMac { router }
        = (.ok (), { router, outputs }) ∧ framesOf outputs = [] := by
  rw [deliverToApplication, bind_apply, reads_apply]
  dsimp only
  cases router.hasApplication with
  | false => exact ⟨[], rfl, rfl⟩
  | true =>
    rcases origin with named | ⟨unnamed, network, mac⟩
    · refine ⟨[.deliver npdu.apdu source], ?_, rfl⟩
      rw [if_pos rfl, table, bind_apply, reads_apply, named]
      rfl
    · refine ⟨[.deliver npdu.apdu source], ?_, rfl⟩
      rw [if_pos rfl, table, bind_apply, reads_apply, unnamed]
      dsimp only
      rw [stationOn, known]
      dsimp only
      rw [BACnetAddress.make_eq_ok.mpr ⟨network, mac⟩]
      rfl

/-- A global broadcast goes out once on every port but the one it came through. -/
theorem frames_globalBroadcast (known : router.routingTable.getPort portId = some arrival)
    (received : decodeNpdu data = .ok npdu) (application : npdu.isNetworkMessage = false)
    (addressed : npdu.destination = some destination)
    (everywhere : destination.network = some 0xFFFF)
    (origin : Origin arrival npdu sourceMac source) (valid : ValidSource source)
    (left : 1 < npdu.hopCount)
    : ∃ frame, decodeNpdu frame = .ok (npdu.onward source)
      ∧ framesOf (router.onPortReceive portId data sourceMac).2
        = (otherPorts router.routingTable portId).map fun port => (port.portId, none, frame) := by
  obtain ⟨frame, encoded, read⟩ := exists_onward received addressed valid
  obtain ⟨outputs, delivered, nothing⟩ := deliverToApplication_apply known origin
  refine ⟨frame, read, ?_⟩
  have number : destination.network.getD 0xFFFF = 0xFFFF := by rw [everywhere]; rfl
  have went : forward portId npdu sourceMac destination { router, outputs }
      = broadcastAllExcept portId frame { router, outputs } := by
    rw [forward, if_pos number, forwardGlobalBroadcast, table, bind_apply,
      reads_apply]
    dsimp only
    rw [prepareForwardedNpdu_eq known origin left, bind_apply, lift_apply]
    dsimp only
    rw [encoded]
    rfl
  rw [onPortReceive, received]
  dsimp only
  rw [processNpdu, if_neg (by rw [application]; exact Bool.false_ne_true), addressed]
  dsimp only
  rw [bind_apply, Stateful.when, if_pos number, delivered]
  dsimp only
  rw [went, broadcastAllExcept_apply]
  dsimp only
  rw [framesOf_append, nothing, framesOf_broadcasts, List.nil_append]

theorem onPortReceive_single (received : decodeNpdu data = .ok npdu)
    (application : npdu.isNetworkMessage = false) (addressed : npdu.destination = some destination)
    {dnet} (single : destination.network = some dnet) (notAll : dnet ≠ 0xFFFF)
    : (router.onPortReceive portId data sourceMac).2
      = (forwardToNetwork portId npdu sourceMac dnet { router }).2.outputs := by
  have number : destination.network.getD 0xFFFF = dnet := by rw [single]; rfl
  rw [onPortReceive, received]
  dsimp only
  rw [processNpdu, if_neg (by rw [application]; exact Bool.false_ne_true), addressed]
  dsimp only
  rw [number, Stateful.when, if_neg notAll, bind_apply, pure_apply]
  dsimp only
  rw [forward, number, if_neg notAll]

theorem frames_direct (known : router.routingTable.getPort portId = some arrival)
    (received : decodeNpdu data = .ok npdu) (addressed : npdu.destination = some destination)
    (origin : Origin arrival npdu sourceMac source) (valid : ValidSource source) {dnet port entry}
    (route : router.routingTable.getPortForNetwork dnet = some (port, entry))
    (reachable : entry.reachability = .reachable) (direct : entry.nextRouterMac = none)
    : ∃ frame, decodeNpdu frame = .ok (npdu.lastHop source)
      ∧ framesOf (forwardToNetwork portId npdu sourceMac dnet { router }).2.outputs
        = [(port.portId,
            if destination.macAddress.isEmpty then none else some destination.macAddress, frame)] := by
  obtain ⟨frame, encoded, read⟩ := exists_localCopy received valid
  obtain ⟨network, station, made⟩ := originOf_of_origin known origin valid
  refine ⟨frame, read, ?_⟩
  rw [forwardToNetwork, table, bind_apply, reads_apply]
  dsimp only
  rw [route]
  dsimp only
  rw [reachable]
  dsimp only
  rw [direct]
  dsimp only
  rw [deliverToDirectlyConnected, addressed]
  dsimp only
  rw [table, bind_apply, reads_apply]
  dsimp only
  rw [encodeDelivery_of_origin station, encodeNpduLocalDelivery_eq made encoded]
  rfl

theorem frames_nextHop (known : router.routingTable.getPort portId = some arrival)
    (received : decodeNpdu data = .ok npdu) (addressed : npdu.destination = some destination)
    (origin : Origin arrival npdu sourceMac source) (valid : ValidSource source)
    {dnet port entry next} (route : router.routingTable.getPortForNetwork dnet = some (port, entry))
    (reachable : entry.reachability = .reachable) (behind : entry.nextRouterMac = some next)
    (left : 1 < npdu.hopCount)
    : ∃ frame, decodeNpdu frame = .ok (npdu.onward source)
      ∧ framesOf (forwardToNetwork portId npdu sourceMac dnet { router }).2.outputs
        = [(port.portId, some next, frame)] := by
  obtain ⟨frame, encoded, read⟩ := exists_onward received addressed valid
  refine ⟨frame, read, ?_⟩
  rw [forwardToNetwork, table, bind_apply, reads_apply]
  dsimp only
  rw [route]
  dsimp only
  rw [reachable]
  dsimp only
  rw [behind]
  dsimp only
  rw [forwardViaNextHop, table, bind_apply, reads_apply]
  dsimp only
  rw [prepareForwardedNpdu_eq known origin left, bind_apply, lift_apply]
  dsimp only
  rw [encoded]
  rfl

theorem frames_unknown {dnet} (small : dnet < 65536)
    (unknown : router.routingTable.getPortForNetwork dnet = none)
    : ∀ sent ∈ framesOf (forwardToNetwork portId npdu sourceMac dnet { router }).2.outputs,
        messageOf sent.2.2 = some (.rejectMessageToNetwork .notDirectlyConnected dnet) := by
  have fits : (NetworkMessage.rejectMessageToNetwork .notDirectlyConnected dnet).Encodable := small
  have neighbour : Preserves (AllSent fun frame =>
      messageOf frame = some (.rejectMessageToNetwork .notDirectlyConnected dnet))
      (sendReject portId sourceMac .notDirectlyConnected dnet) :=
    preserves_sendNetworkMessageOnPort admits_allSent fun _ encoded =>
      messageOf_encodeOwn fits encoded
  have kept : Preserves (AllSent fun frame =>
      messageOf frame = some (.rejectMessageToNetwork .notDirectlyConnected dnet))
      (sendRejectTowardSource portId npdu sourceMac .notDirectlyConnected dnet) := by
    rw [sendRejectTowardSource]
    split
    · exact neighbour
    · next source _ =>
        refine Stateful.Preserves.bind_lift fun data contents => ?_
        refine Stateful.Preserves.bind_lift fun frame encoded => ?_
        refine Stateful.Preserves.bind_reads fun _ _ => ?_
        split
        · exact preserves_send admits_allSent
            (messageOf_encodeOwn fits (bind_eq_ok.mpr ⟨data, contents, encoded⟩))
        · exact neighbour
  have went : forwardToNetwork portId npdu sourceMac dnet { router }
      = sendRejectTowardSource portId npdu sourceMac .notDirectlyConnected dnet { router } := by
    rw [forwardToNetwork, table, bind_apply, reads_apply]
    dsimp only
    rw [unknown]
  rw [went]
  intro sent member
  obtain ⟨output, there, same⟩ := List.mem_filterMap.mp member
  cases output with
  | send port station frame =>
    cases same
    exact kept.final allSent_nothing _ there port station frame rfl
  | deliver apdu source => cases same

-- Reachable routers

/-- The frames are the copies of an NPDU that its destination asks for, with this source. -/
structure Forwarded (router : NetworkRouter) (portId : Nat) (npdu : NPDU)
    (destination source : BACnetAddress) (frames : List (Nat × Option Bytes × Bytes))
    : Prop where
  everywhere : destination.network = some 0xFFFF → 1 < npdu.hopCount
    → ∃ frame, decodeNpdu frame = .ok (npdu.onward source)
      ∧ frames = (otherPorts router.routingTable portId).map fun port => (port.portId, none, frame)
  direct : ∀ {dnet port entry}, destination.network = some dnet → dnet ≠ 0xFFFF
    → router.routingTable.getPortForNetwork dnet = some (port, entry)
    → entry.reachability = .reachable → entry.nextRouterMac = none
    → ∃ frame, decodeNpdu frame = .ok (npdu.lastHop source)
      ∧ frames = [(port.portId,
          if destination.macAddress.isEmpty then none else some destination.macAddress, frame)]
  nextHop : ∀ {dnet port entry next}, destination.network = some dnet → dnet ≠ 0xFFFF
    → router.routingTable.getPortForNetwork dnet = some (port, entry)
    → entry.reachability = .reachable → entry.nextRouterMac = some next → 1 < npdu.hopCount
    → ∃ frame, decodeNpdu frame = .ok (npdu.onward source)
      ∧ frames = [(port.portId, some next, frame)]

theorem forwarded_onPortReceive (known : router.routingTable.getPort portId = some arrival)
    (received : decodeNpdu data = .ok npdu) (application : npdu.isNetworkMessage = false)
    (addressed : npdu.destination = some destination)
    (origin : Origin arrival npdu sourceMac source) (valid : ValidSource source)
    : Forwarded router portId npdu destination source
        (framesOf (router.onPortReceive portId data sourceMac).2) where
  everywhere all left :=
    frames_globalBroadcast known received application addressed all origin valid left
  direct single notAll route reachable direct := by
    rw [onPortReceive_single received application addressed single notAll]
    exact frames_direct known received addressed origin valid route reachable direct
  nextHop single notAll route reachable behind left := by
    rw [onPortReceive_single received application addressed single notAll]
    exact frames_nextHop known received addressed origin valid route reachable behind left

/-- Ports under their own numbers have different numbers. -/
theorem nodup_portIds {ports} (keyed : PortsKeyed ports)
    : (ports.values.map RouterPort.portId).Nodup := by
  have same : ports.values.map RouterPort.portId = ports.keys := by
    rw [OrderedDict.values, OrderedDict.keys, List.map_map]
    refine List.map_congr_left fun entry member => ?_
    exact keyed entry.1 entry.2 (OrderedDict.mem_entries.mp member)
  rw [same]
  exact ports.distinct

/-- In every state that a router reaches, an NPDU with an APDU and a destination is not forwarded if
its network is unknown. Else its copies go once to every other port, to the port of its reachable
network without a destination, or to the next router of its reachable network, the first and the
last kind only while more than one hop is left; and a copy differs in its specifiers alone.
-/
theorem forwarding_decision {ports : List RouterPort} {applicationPortId : Option Nat}
    {hasApplication : Bool} {final : NetworkRouter} {events : List Event}
    (created : create ports applicationPortId hasApplication = .ok router)
    (ran : run step router events = some final)
    : (final.routingTable.getAllPorts.map RouterPort.portId).Nodup
      ∧ ∀ portId data sourceMac npdu destination, decodeNpdu data = .ok npdu
        → npdu.isNetworkMessage = false → npdu.destination = some destination
        → (∀ dnet, destination.network = some dnet → dnet ≠ 0xFFFF
            → final.routingTable.getPortForNetwork dnet = none
            → ∀ sent ∈ framesOf (final.onPortReceive portId data sourceMac).2,
              messageOf sent.2.2 = some (.rejectMessageToNetwork .notDirectlyConnected dnet))
          ∧ ∀ arrival, final.routingTable.getPort portId = some arrival
            → (npdu.source = none → Nameable arrival sourceMac)
            → ∃ source, Origin arrival npdu sourceMac source
              ∧ Forwarded final portId npdu destination source
                (framesOf (final.onPortReceive portId data sourceMac).2) := by
  have keyed := invariant_every_run keyed_step (create_keyed created) ran
  refine ⟨nodup_portIds keyed, ?_⟩
  intro portId data sourceMac npdu destination received application addressed
  constructor
  · intro dnet single notAll unknown
    rw [onPortReceive_single received application addressed single notAll]
    refine frames_unknown ?_ unknown
    rcases destination.inRange dnet single with all | ⟨_, inside⟩
    · exact absurd all notAll
    · omega
  · intro arrival known nameable
    obtain ⟨source, origin, valid⟩ := exists_origin received nameable
    exact ⟨source, origin,
      forwarded_onPortReceive known received application addressed origin valid⟩

/-- A broadcast to all networks, from station 9 on the first of two ports. -/
theorem forwarding_decision_broadcast
    : (betweenTwo.routingTable.getAllPorts.map RouterPort.portId).Nodup
      ∧ ∃ frame, decodeNpdu frame = .ok {
          destination := some { network := some 0xFFFF }
          source := some { network := some 1, macAddress := [9] }
          hopCount := 4, apdu := [0x10, 8] }
        ∧ framesOf (betweenTwo.onPortReceive 1 [1, 0x20, 0xFF, 0xFF, 0, 5, 0x10, 8] [9]).2
          = [(2, none, frame)] := by
  obtain ⟨once, decided⟩ :=
    @forwarding_decision betweenTwo _ _ _ betweenTwo [] create_betweenTwo rfl
  refine ⟨once, ?_⟩
  obtain ⟨source, origin, forwarded⟩ :=
    (decided 1 [1, 0x20, 0xFF, 0xFF, 0, 5, 0x10, 8] [9] _ _ rfl rfl rfl).2 _ rfl
      fun _ => ⟨by decide, by decide, by decide⟩
  obtain ⟨frame, read, sent⟩ := forwarded.everywhere rfl (by decide)
  refine ⟨frame, ?_, sent⟩
  obtain ⟨number, mac, _⟩ := source
  rcases origin with named | ⟨_, network, address⟩
  · cases named
  · obtain rfl : number = some 1 := network
    obtain rfl : mac = [9] := address
    exact read

/-- With its last hop an NPDU is not sent on to the router of its reachable network; a network of
the router itself gets none while it is marked busy, but the sender a Reject-Message; and a sender
without an address cannot be named in a copy.
-/
theorem forwarding_refused
    : create [{ portId := 1, networkNumber := 1, macAddress := [10] },
        { portId := 2, networkNumber := 2, macAddress := [20] }] = .ok betweenTwo
      ∧ ((run step betweenTwo [.receive 2 [1, 0x80, 1, 0, 7] [21]]).bind fun router =>
          (router.routingTable.getPortForNetwork 7).map fun route =>
            (route.2.reachability, route.2.nextRouterMac)) = some (.reachable, some [21])
      ∧ (run step betweenTwo [.receive 2 [1, 0x80, 1, 0, 7] [21]]).map (fun router =>
          framesOf (router.onPortReceive 1 [1, 0x20, 0, 7, 1, 5, 1, 0x10, 8] [9]).2) = some []
      ∧ (run step betweenTwo [.receive 1 [1, 0x80, 4, 0, 2] [11]]).map (fun router =>
          framesOf (router.onPortReceive 1 [1, 0x20, 0, 2, 1, 5, 9, 0x10, 8] [9]).2)
        = some [(1, some [9], [1, 0x80, 3, 2, 0, 2])]
      ∧ framesOf (betweenTwo.onPortReceive 1 [1, 0x20, 0xFF, 0xFF, 0, 5, 0x10, 8] []).2 = [] := by
  refine ⟨rfl, ?_, ?_, ?_, ?_⟩ <;> decide +kernel

end NetworkRouter

end BacPy
