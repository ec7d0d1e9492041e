import BacPy.Network.Forwarding
import BacPy.Network.RoutingInvariant

/-! The messages that a router makes of its routing table: at its start, and for the messages it
receives. They all arrive as they were meant as long as the table fits an
Initialize-Routing-Table-Ack.
-/

namespace BacPy

open Library
open RoutingTable (getPort getAllEntries ports_mark addPort)

namespace NetworkRouter

-- The messages

/-- A message of the router itself, the port it goes out on, and the station it is for, if it is
not a broadcast.
-/
structure OwnMessage where
  portId : Nat
  destination : Option Bytes
  msg : NetworkMessage

def OwnMessage.send (own : OwnMessage) : RouterAction Unit :=
  sendNetworkMessageOnPort own.portId own.msg own.destination

def advertisement (portId : Nat) (networks : List Nat) : List OwnMessage :=
  if networks = [] then [] else [⟨portId, none, .iAmRouterToNetwork networks⟩]

/-- The number of its network that a port hears of, if it is configured. -/
def numberOf (port : RouterPort) : List OwnMessage :=
  if port.networkNumberConfigured then
    [⟨port.portId, none, .networkNumberIs port.networkNumber true⟩]
  else []

def relays (ports : OrderedDict Nat RouterPort) (portId : Nat) (msg : NetworkMessage)
    : List OwnMessage :=
  (ports.values.filter fun port => port.portId ≠ portId).map fun port => ⟨port.portId, none, msg⟩

/-- The broadcasts of `start`, when the transports run. -/
def announce : RouterAction Unit := do
  let table ← table
  Stateful.forEach (fun port => do
    Stateful.when port.networkNumberConfigured
      (sendNetworkMessageOnPort port.portId (.networkNumberIs port.networkNumber true) none)
    let networks := table.getReachableNetworks port.portId
    Stateful.when (networks ≠ [])
      (sendNetworkMessageOnPort port.portId (.iAmRouterToNetwork networks) none))
    table.getAllPorts

def announcements (table : RoutingTable) : List OwnMessage :=
  table.getAllPorts.flatMap fun port =>
    numberOf port ++ advertisement port.portId (table.getReachableNetworks port.portId)

/-- The messages that a received one makes the router build. A Who-Is-Router-To-Network for an
unknown network and a Reject-Message-To-Network are only forwarded.
-/
def answers (table : RoutingTable) (portId : Nat) (npdu : NPDU) (sourceMac : Bytes)
    : NetworkMessage → List OwnMessage
  | .whoIsRouterToNetwork (some network) =>
    match table.getPortForNetwork network with
    | some (_, entry) => if entry.portId = portId then [] else advertisement portId [network]
    | none => []
  | .whoIsRouterToNetwork none => advertisement portId (table.getReachableNetworks portId true)
  | .iAmRouterToNetwork networks => relays table.ports portId (.iAmRouterToNetwork networks)
  | .routerBusyToNetwork networks => relays table.ports portId (.routerBusyToNetwork networks)
  | .routerAvailableToNetwork networks =>
    relays table.ports portId (.routerAvailableToNetwork networks)
  | .initializeRoutingTable [] => [⟨portId, some sourceMac, .initializeRoutingTableAck
      (table.getAllEntries.map fun entry =>
        { network := entry.networkNumber, portId := entry.portId })⟩]
  | .initializeRoutingTable (_ :: _) =>
    [⟨portId, some sourceMac, .initializeRoutingTableAck []⟩]
  | .whatIsNetworkNumber =>
    if npdu.source.isSome ∨ npdu.destination.isSome then []
    else
      match table.getPort portId with
      | none => []
      | some port => numberOf { port with portId }
  | .establishConnectionToNetwork network _ =>
    [⟨portId, some sourceMac, .rejectMessageToNetwork .other network⟩]
  | .disconnectConnectionToNetwork network =>
    [⟨portId, some sourceMac, .rejectMessageToNetwork .other network⟩]
  | .rejectMessageToNetwork .. => []
  | .initializeRoutingTableAck _ => []
  | .networkNumberIs .. => []
  | .iCouldBeRouterToNetwork .. => []

/-- A message is among the frames that were sent, and is decoded as it was built. -/
def Delivered (outputs : List RouterOutput) (own : OwnMessage) : Prop :=
  ∃ frame, .send own.portId own.destination frame ∈ outputs ∧ messageOf frame = some own.msg

/-- Every message that the router may build next is delivered: at a start, and for every network
message that a port of the router receives.
-/
def MessagesArrive (router : NetworkRouter) : Prop :=
  (∀ own ∈ announcements router.routingTable, Delivered (announce { router }).2.outputs own)
    ∧ ∀ portId data sourceMac npdu msg, (router.routingTable.getPort portId).isSome
      → decodeNpdu data = .ok npdu → messageOf data = some msg
      → ∀ own ∈ answers router.routingTable portId npdu sourceMac msg,
        Delivered (router.onPortReceive portId data sourceMac).2 own

/-- All entries have room in an Initialize-Routing-Table-Ack, and the configured networks in a
Network-Number-Is.
-/
structure FitsWire (table : RoutingTable) : Prop where
  entries : table.entries.size ≤ 255
  networks : ∀ network entry, table.entries.get network = some entry → entry.networkNumber ≤ 65535
  portIds : ∀ network entry, table.entries.get network = some entry → entry.portId ≤ 255
  numbers : ∀ portId port, table.ports.get portId = some port → port.networkNumberConfigured
    → port.networkNumber ≤ 65535

-- Sending

variable {ports : OrderedDict Nat RouterPort} {own : OwnMessage} {sent more : List OwnMessage}
  {program next : RouterAction Unit} {table : RoutingTable} {portId : Nat} {msg : NetworkMessage}

def ownNpdu (msg : NetworkMessage) (data : Bytes) : NPDU where
  isNetworkMessage := true
  messageType := some msg.messageType
  networkMessageData := data

/-- A frame of the router itself says what was encoded, wherever it goes. -/
theorem messageOf_encodeOwn {destination frame} (fits : msg.Encodable)
    (encoded : encodeOwn msg destination = .ok frame)
    : messageOf frame = some msg := by
  obtain ⟨data, contents, framed⟩ := bind_eq_ok.mp encoded
  obtain ⟨same, again, decoded⟩ := networkMessage_roundTrips_iff.mpr fits
  cases contents.symm.trans again
  rw [messageOf, decodeNpdu_encodeNpdu framed]
  dsimp only [NPDU.carried]
  rw [if_pos rfl, if_pos rfl, if_pos rfl]
  dsimp only
  rw [decoded]
  rfl

/-- A message that has room is sent as a frame that says the same. -/
theorem encodeOwn_eq_ok (fits : msg.Encodable)
    : ∃ data frame, encodeNetworkMessage msg = .ok data
      ∧ encodeNpdu (ownNpdu msg data) = .ok frame ∧ messageOf frame = some msg := by
  obtain ⟨data, encoded, decoded⟩ := networkMessage_roundTrips_iff.mpr fits
  obtain ⟨frame, framed⟩ : ∃ frame, encodeNpdu (ownNpdu msg data) = .ok frame := by
    cases msg <;> exact ⟨_, rfl⟩
  exact ⟨data, frame, encoded, framed,
    messageOf_encodeOwn fits (bind_eq_ok.mpr ⟨data, encoded, framed⟩)⟩

/-- The frames so far deliver these messages, through these ports. -/
def HasSent (ports : OrderedDict Nat RouterPort) (sent : List OwnMessage) (routing : Routing)
    : Prop :=
  routing.router.routingTable.ports = ports ∧ ∀ own ∈ sent, Delivered routing.outputs own

/-- The computation ends well, and delivers these messages. -/
def Delivers (ports : OrderedDict Nat RouterPort) (sent : List OwnMessage)
    (program : RouterAction Unit)
    : Prop :=
  ∀ before, Stateful.Triple (HasSent ports before) program
    (fun _ => HasSent ports (before ++ sent)) fun _ => False

theorem Delivers.final {routing} (delivers : Delivers ports sent program)
    (through : routing.router.routingTable.ports = ports) (own : OwnMessage) (member : own ∈ sent)
    : Delivered (program routing).2.outputs own := by
  have ended := delivers [] routing ⟨through, fun _ none => absurd none List.not_mem_nil⟩
  rcases outcome : program routing with ⟨_ | _, final⟩
  · rw [outcome] at ended
    exact absurd ended id
  · rw [outcome] at ended
    exact ended.2 own member

theorem Delivers.pure : Delivers ports [] (pure ()) := by
  intro before
  rw [List.append_nil]
  exact Stateful.Triple.pure fun _ holds => holds

/-- What two computations deliver one after the other. -/
theorem Delivers.bind (first : Delivers ports sent program) (later : Delivers ports more next)
    : Delivers ports (sent ++ more) (program >>= fun _ => next) := by
  intro before
  rw [← List.append_assoc]
  exact Stateful.Triple.bind _ (first before) fun _ => later (before ++ sent)

theorem Delivers.when {condition : Prop} [Decidable condition]
    (body : condition → Delivers ports sent program)
    : Delivers ports (if condition then sent else []) (Stateful.when condition program) := by
  rw [Stateful.when]
  split
  · next holds => exact body holds
  · exact .pure

/-- A loop delivers what its rounds do, by induction on the items. -/
theorem Delivers.forEach {Item : Type} {body : Item → RouterAction Unit}
    {made : Item → List OwnMessage} {items : List Item}
    (each : ∀ item ∈ items, Delivers ports (made item) (body item))
    : Delivers ports (items.flatMap made) (Stateful.forEach body items) := by
  induction items with
  | nil => exact .pure
  | cons item rest ih =>
    rw [List.flatMap_cons]
    exact (each item List.mem_cons_self).bind
      (ih fun other member => each other (List.mem_cons_of_mem _ member))

/-- A look at the table, of which only the ports are known. -/
theorem Delivers.bind_table {next}
    (later : ∀ table, table.ports = ports → Delivers ports sent (next table))
    : Delivers ports sent (NetworkRouter.table >>= next) :=
  fun before routing holds => later routing.router.routingTable holds.1 before routing holds

theorem Delivers.changeTable {change} (same : ∀ table, (change table).ports = table.ports)
    : Delivers ports [] (changeTable change) := by
  intro before
  rw [List.append_nil]
  exact Stateful.Triple.modifies fun routing holds => ⟨(same _).trans holds.1, holds.2⟩

theorem Delivers.tryTable {change}
    (same : ∀ table, table.ports = ports → ∃ after, change table = .ok after ∧ after.ports = ports)
    : Delivers ports [] (tryTable change) := by
  intro before routing holds
  obtain ⟨after, changed, unchanged⟩ := same routing.router.routingTable holds.1
  rw [List.append_nil, NetworkRouter.tryTable, changed]
  exact ⟨unchanged, holds.2⟩

/-- A message with room in its encoding goes out on a port of the router. -/
theorem Delivers.send (known : (ports.get own.portId).isSome) (fits : own.msg.Encodable)
    : Delivers ports [own] own.send := by
  intro before routing holds
  obtain ⟨data, frame, encoded, framed, said⟩ := encodeOwn_eq_ok fits
  have went : own.send routing = (.ok (), { routing with
      outputs := routing.outputs ++ [.send own.portId own.destination frame] }) := by
    have present : (routing.router.routingTable.getPort own.portId).isSome := by
      rw [getPort, holds.1]
      exact known
    rw [OwnMessage.send, sendNetworkMessageOnPort]
    change (if (routing.router.routingTable.getPort own.portId).isSome then _ else _ : RouterAction Unit)
      routing = _
    rw [if_pos present, encoded]
    change (Stateful.lift (encodeNpdu (ownNpdu own.msg data)) >>= _) routing = _
    rw [framed]
    rfl
  rw [went]
  refine ⟨holds.1, ?_⟩
  intro other member
  rcases List.mem_append.mp member with earlier | last
  · obtain ⟨another, there, same⟩ := holds.2 other earlier
    exact ⟨another, List.mem_append_left _ there, same⟩
  · obtain rfl := List.mem_singleton.mp last
    exact ⟨frame, List.mem_append_right _ List.mem_cons_self, said⟩

/-- The same for a message that is given by its parts. -/
theorem delivers_message {destination} (known : (ports.get portId).isSome) (fits : msg.Encodable)
    : Delivers ports [⟨portId, destination, msg⟩]
        (sendNetworkMessageOnPort portId msg destination) :=
  @Delivers.send ports ⟨portId, destination, msg⟩ known fits

-- The start, and the answers

/-- A loop that delivers nothing in any round. -/
theorem Delivers.forEach_nothing {Item : Type} {body : Item → RouterAction Unit}
    {items : List Item} (each : ∀ item ∈ items, Delivers ports [] (body item))
    : Delivers ports [] (Stateful.forEach body items) := by
  have delivers := @Delivers.forEach ports Item body (fun _ => []) items each
  rwa [List.flatMap_eq_nil_iff.mpr fun _ _ => rfl] at delivers

theorem delivers_reject {reason network destMac} (known : (ports.get portId).isSome)
    (fits : network < 65536)
    : Delivers ports [⟨portId, some destMac, .rejectMessageToNetwork reason network⟩]
        (sendReject portId destMac reason network) :=
  delivers_message known fits

theorem delivers_advertisement {networks} (known : (ports.get portId).isSome)
    (fits : EncodableList networks)
    : Delivers ports (advertisement portId networks)
        (Stateful.when (networks ≠ [])
          (sendNetworkMessageOnPort portId (.iAmRouterToNetwork networks) none)) := by
  rw [advertisement, ← ite_not]
  exact .when fun _ => delivers_message known fits

theorem delivers_numberOf {port} (known : (ports.get port.portId).isSome)
    (fits : port.networkNumberConfigured → port.networkNumber < 65536)
    : Delivers ports (numberOf port)
        (Stateful.when port.networkNumberConfigured
          (sendNetworkMessageOnPort port.portId (.networkNumberIs port.networkNumber true) none)) :=
  .when fun configured => delivers_message known (fits configured)

/-- Every port is registered under its own number. -/
def PortsKeyed (ports : OrderedDict Nat RouterPort) : Prop :=
  ∀ portId port, ports.get portId = some port → port.portId = portId

theorem PortsKeyed.known (keyed : PortsKeyed ports) {port : RouterPort} (member : port ∈ ports.values)
    : (ports.get port.portId).isSome := by
  obtain ⟨portId, there⟩ := OrderedDict.mem_values.mp member
  rw [keyed portId port there, there]
  rfl

theorem relays_eq_flatMap
    : relays ports portId msg = ports.values.flatMap fun port =>
        if port.portId ≠ portId then [⟨port.portId, none, msg⟩] else [] := by
  rw [relays]
  induction ports.values with
  | nil => rfl
  | cons port rest ih =>
    rw [List.flatMap_cons, ← ih, List.filter_cons]
    by_cases other : port.portId ≠ portId
    · rw [if_pos (decide_eq_true other), if_pos other]
      rfl
    · rw [if_neg (by simpa using other), if_neg other]
      rfl

theorem delivers_relays (keyed : PortsKeyed ports) (fits : msg.Encodable)
    : Delivers ports (relays ports portId msg) (broadcastNetworkMessageAllExcept portId msg) := by
  refine .bind_table fun table same => ?_
  rw [RoutingTable.getAllPorts, same, relays_eq_flatMap]
  refine .forEach fun port member => .when fun _ => ?_
  exact delivers_message (keyed.known member) fits

/-- A route through a port of the router can be entered, and changes no port. -/
theorem updateRoute_known {dnet nextRouterMac} (known : (table.ports.get portId).isSome)
    : ∃ after, table.updateRoute dnet portId nextRouterMac = .ok after
      ∧ after.ports = table.ports := by
  obtain ⟨after, entered⟩ : ∃ after, table.updateRoute dnet portId nextRouterMac = .ok after := by
    rw [RoutingTable.updateRoute, if_neg (by simpa [Option.isSome_iff_ne_none] using known)]
    split
    · exact ⟨_, rfl⟩
    · split
      · exact ⟨_, rfl⟩
      · exact ⟨_, rfl⟩
  exact ⟨after, entered, ports_updateRoute entered⟩

theorem delivers_initializeEntry (portEntry : RoutingTablePort)
    : Delivers ports [] (initializeEntry portEntry) := by
  rw [initializeEntry]
  split
  · exact .changeTable fun _ => rfl
  · refine .bind_table fun table same => ?_
    rw [Stateful.when]
    split
    · next known =>
        refine .tryTable fun now unchanged => ?_
        have registered : (now.ports.get portEntry.portId).isSome := by
          rw [unchanged, ← same]
          exact known
        obtain ⟨after, entered, kept⟩ := updateRoute_known registered
        exact ⟨after, entered, kept.trans unchanged⟩
    · exact .pure

section Answers

variable {router : NetworkRouter} {npdu : NPDU} {sourceMac : Bytes}

/-- The networks of a table that fits have room in an I-Am-Router-To-Network. -/
theorem FitsWire.reachable (fits : FitsWire table) (includeBusy : Bool)
    : EncodableList (table.getReachableNetworks portId includeBusy) where
  length := by
    have few := fits.entries
    rw [RoutingTable.getReachableNetworks, List.length_map, getAllEntries,
      OrderedDict.values]
    refine Nat.le_trans (List.length_filter_le _ _) ?_
    rw [List.length_map]
    exact Nat.le_trans few (by decide)
  numbers network member := by
    obtain ⟨entry, chosen, rfl⟩ := List.mem_map.mp member
    obtain ⟨key, there⟩ := OrderedDict.mem_values.mp (List.mem_of_mem_filter chosen)
    exact Nat.lt_succ_of_le (fits.networks key entry there)

/-- The start of a router whose table fits delivers its broadcasts. -/
theorem delivered_announce (fits : FitsWire router.routingTable)
    (keyed : PortsKeyed router.routingTable.ports)
    : ∀ own ∈ announcements router.routingTable, Delivered (announce { router }).2.outputs own := by
  have delivers : Delivers router.routingTable.ports (announcements router.routingTable)
      (Stateful.forEach (fun port => do
        Stateful.when port.networkNumberConfigured
          (sendNetworkMessageOnPort port.portId (.networkNumberIs port.networkNumber true) none)
        Stateful.when (router.routingTable.getReachableNetworks port.portId ≠ [])
          (sendNetworkMessageOnPort port.portId
            (.iAmRouterToNetwork (router.routingTable.getReachableNetworks port.portId)) none))
        router.routingTable.getAllPorts) := by
    refine .forEach fun port member => ?_
    have known := keyed.known member
    refine .bind (delivers_numberOf known fun configured => ?_)
      (delivers_advertisement known (fits.reachable false))
    obtain ⟨portId, there⟩ := OrderedDict.mem_values.mp member
    exact Nat.lt_succ_of_le (fits.numbers portId port there configured)
  exact fun own member => delivers.final rfl own member

theorem delivers_marked {change : RoutingTable → Nat → RoutingTable} {dnets : List Nat}
    (keyed : PortsKeyed ports) (same : ∀ table dnet, (change table dnet).ports = table.ports)
    (fits : msg.Encodable)
    : Delivers ports (relays ports portId msg) (do
        Stateful.forEach (fun dnet => changeTable fun table => change table dnet) dnets
        broadcastNetworkMessageAllExcept portId msg) :=
  (Delivers.forEach_nothing fun dnet _ => .changeTable fun table => same table dnet).bind
    (delivers_relays keyed fits)

theorem delivered_answers (fits : FitsWire router.routingTable)
    (keyed : PortsKeyed router.routingTable.ports)
    (known : (router.routingTable.getPort portId).isSome) (received : msg.Encodable)
    : ∀ own ∈ answers router.routingTable portId npdu sourceMac msg,
        Delivered (handleMessage portId msg npdu sourceMac { router }).2.outputs own := by
  cases msg with
  | whoIsRouterToNetwork network =>
    cases network with
    | none =>
      exact fun own member =>
        (delivers_advertisement known (fits.reachable true)).final rfl own member
    | some network =>
      rw [answers]
      cases found : router.routingTable.getPortForNetwork network with
      | none => exact fun _ member => absurd member List.not_mem_nil
      | some route =>
        obtain ⟨port, entry⟩ := route
        dsimp only
        rw [← ite_not]
        have delivers : Delivers router.routingTable.ports
            (if ¬ entry.portId = portId then advertisement portId [network] else [])
            (Stateful.when (entry.portId ≠ portId)
              (sendNetworkMessageOnPort portId (.iAmRouterToNetwork [network]) none)) :=
          .when fun _ => delivers_message known ⟨Nat.le_of_ble_eq_true rfl,
            by simpa using received network rfl⟩
        simp only [handleMessage, handleWhoIsRouter, table, Stateful.bind_apply,
          Stateful.reads_apply, found]
        exact fun own member => delivers.final rfl own member
  | iAmRouterToNetwork networks =>
    have entered : ∀ dnet ∈ networks, Delivers router.routingTable.ports []
        (tryTable fun table => table.updateRoute dnet portId (some sourceMac)) := by
      intro dnet _
      refine .tryTable fun table same => ?_
      obtain ⟨after, updated, kept⟩ := @updateRoute_known table portId dnet (some sourceMac)
        (same ▸ known)
      exact ⟨after, updated, kept.trans same⟩
    exact fun own member => ((Delivers.forEach_nothing entered).bind
      (delivers_relays keyed received)).final rfl own member
  | routerBusyToNetwork networks =>
    exact fun own member => (delivers_marked keyed (fun table dnet =>
      ports_mark table dnet .busy (some dnet)) received).final rfl own member
  | routerAvailableToNetwork networks =>
    exact fun own member => (delivers_marked keyed (fun table dnet =>
      ports_mark table dnet .reachable none) received).final rfl own member
  | initializeRoutingTable ports =>
    cases ports with
    | nil =>
      refine fun own member => (delivers_message known ?_).final rfl own member
      refine ⟨?_, fun port member => ?_⟩
      · rw [List.length_map, getAllEntries, OrderedDict.values, List.length_map]
        exact Nat.lt_succ_of_le fits.entries
      · obtain ⟨entry, listed, rfl⟩ := List.mem_map.mp member
        obtain ⟨key, there⟩ := OrderedDict.mem_values.mp listed
        exact ⟨Nat.lt_succ_of_le (fits.networks key entry there),
          Nat.lt_succ_of_le (fits.portIds key entry there), Nat.zero_lt_succ 255⟩
    | cons first rest =>
      have entered : Delivers router.routingTable.ports []
          (Stateful.forEach initializeEntry (first :: rest)) :=
        .forEach_nothing fun portEntry _ => delivers_initializeEntry portEntry
      refine fun own member => (entered.bind (delivers_message known ?_)).final rfl own member
      exact ⟨by decide, fun _ member => absurd member List.not_mem_nil⟩
  | whatIsNetworkNumber =>
    rw [answers]
    split
    · exact fun _ member => absurd member List.not_mem_nil
    · next unrouted =>
        cases found : router.routingTable.getPort portId with
        | none => exact fun _ member => absurd member List.not_mem_nil
        | some port =>
          have delivers : Delivers router.routingTable.ports (numberOf { port with portId })
              (Stateful.when port.networkNumberConfigured
                (sendNetworkMessageOnPort portId (.networkNumberIs port.networkNumber true)
                  none)) :=
            .when fun configured => delivers_message known
              (Nat.lt_succ_of_le (fits.numbers portId port found configured))
          simp only [handleMessage, handleWhatIsNetworkNumber, if_neg unrouted,
            table, Stateful.bind_apply, Stateful.reads_apply, found]
          exact fun own member => delivers.final rfl own member
  | establishConnectionToNetwork network _ =>
    exact fun own member => (delivers_reject known received.1).final rfl own member
  | disconnectConnectionToNetwork network =>
    exact fun own member => (delivers_reject known received).final rfl own member
  | rejectMessageToNetwork reason network => exact fun _ member => absurd member List.not_mem_nil
  | initializeRoutingTableAck ports => exact fun _ member => absurd member List.not_mem_nil
  | networkNumberIs network configured => exact fun _ member => absurd member List.not_mem_nil
  | iCouldBeRouterToNetwork network performanceIndex =>
    exact fun _ member => absurd member List.not_mem_nil

end Answers

-- Runs

/-- The ports of the table are registered under their own numbers. -/
def Keyed (table : RoutingTable) : Prop := PortsKeyed table.ports

theorem Keyed.updatePortNetworkNumber {after network} (keyed : Keyed table)
    (updated : table.updatePortNetworkNumber portId network = .ok after)
    : Keyed after := by
  rw [RoutingTable.updatePortNetworkNumber] at updated
  split at updated
  · exact Except.ok.inj updated ▸ keyed
  · next port there =>
      split at updated
      · exact Except.ok.inj updated ▸ keyed
      · split at updated
        · cases updated
        · rw [← Except.ok.inj updated]
          intro another other found
          rw [OrderedDict.get_set] at found
          split at found
          · next same =>
              rw [← Option.some.inj found, same]
              exact keyed portId port there
          · exact keyed another other found

/-- Every step keeps the ports under their numbers. -/
theorem keyed_step {router next event} (keyed : Keyed router.routingTable)
    (moved : step router event = some next)
    : Keyed next.routingTable := by
  have same : ∀ {table after : RoutingTable}, Keyed table → after.ports = table.ports
      → Keyed after := by
    intro table after holds unchanged
    rw [Keyed, unchanged]
    exact holds
  have marks : KeptByMarks Keyed := fun _ _ _ _ holds => same holds (ports_mark ..)
  cases event with
  | receive portId data sourceMac =>
    rw [← Option.some.inj moved]
    refine keeps_onPortReceive marks ?_ keyed
    intro msg _
    cases msg with
    | iAmRouterToNetwork networks =>
      exact fun _ _ _ _ holds updated => same holds (ports_updateRoute updated)
    | initializeRoutingTable ports =>
      intro portEntry _ table holds
      split
      · exact holds
      · exact fun _ updated => same holds (ports_updateRoute updated)
    | networkNumberIs network configured =>
      exact fun _ _ holds updated => holds.updatePortNetworkNumber updated
    | _ => trivial
  | busyTimeout network =>
    rw [step] at moved
    split at moved
    · rw [← Option.some.inj moved]
      exact marks _ _ _ _ keyed
    · cases moved

/-- The ports of a new router are under their numbers, by induction on them. -/
theorem create_keyed {ports applicationPortId hasApplication router}
    (created : create ports applicationPortId hasApplication = .ok router)
    : Keyed router.routingTable := by
  obtain ⟨routingTable, added, same⟩ := bind_eq_ok.mp created
  rw [← Except.ok.inj same]
  have all : ∀ (ports : List RouterPort) (start final : RoutingTable), Keyed start
      → ports.foldlM addPort start = .ok final → Keyed final := by
    intro ports
    induction ports with
    | nil => exact fun start final keyed added => Except.ok.inj added ▸ keyed
    | cons port rest ih =>
      intro start final keyed added
      rw [List.foldlM_cons] at added
      obtain ⟨next, first, later⟩ := bind_eq_ok.mp added
      refine ih next final ?_ later
      rw [addPort] at first
      split at first
      · cases first
      · split at first
        · cases first
        · rw [← Except.ok.inj first]
          intro another other found
          rw [OrderedDict.get_set] at found
          split at found
          · next here => rw [← Option.some.inj found, here]
          · exact keyed another other found
  exact all ports {} routingTable (fun _ _ found => by cases found) added

/-- What a frame says has room in its encoding. -/
theorem encodable_of_messageOf {data} (said : messageOf data = some msg) : msg.Encodable := by
  rw [messageOf] at said
  split at said
  · cases said
  · split at said
    · split at said
      · cases said
      · next messageType _ =>
          cases decoded : decodeNetworkMessage messageType _ with
          | error raised =>
            rw [decoded] at said
            cases said
          | ok other =>
            rw [decoded] at said
            cases said
            exact (encodable_of_decoded decoded).1
    · cases said

theorem messageOf_queries
    : messageOf [1, 0x80, 6, 0] = some (.initializeRoutingTable [])
      ∧ messageOf [1, 0x80, 0x12] = some .whatIsNetworkNumber :=
  ⟨rfl, rfl⟩

/-- A router whose messages all arrive has a table that fits: an Initialize-Routing-Table-Ack tells
all its entries, and a Network-Number-Is the number of a port.
-/
theorem fitsWire_of_arrive {router : NetworkRouter} (sound : router.routingTable.Sound)
    (arrive : router.MessagesArrive)
    : FitsWire router.routingTable := by
  have table : ∀ portId, (router.routingTable.getPort portId).isSome
      → EncodableTable (router.routingTable.getAllEntries.map fun entry =>
          { network := entry.networkNumber, portId := entry.portId }) := by
    intro portId known
    obtain ⟨frame, _, said⟩ := arrive.2 portId [1, 0x80, 6, 0] [] _ _ known rfl messageOf_queries.1 _
      List.mem_cons_self
    exact encodable_of_messageOf said
  have entryFits : ∀ network entry, router.routingTable.entries.get network = some entry
      → entry.networkNumber < 65536 ∧ entry.portId < 256 := by
    intro network entry there
    have fits := (table entry.portId (sound.registered network entry there)).entries _
      (List.mem_map_of_mem (OrderedDict.mem_values.mpr ⟨network, there⟩))
    exact ⟨fits.network, fits.portId⟩
  refine ⟨?_, fun network entry there => Nat.le_of_lt_succ (entryFits network entry there).1,
    fun network entry there => Nat.le_of_lt_succ (entryFits network entry there).2, ?_⟩
  · cases listed : router.routingTable.entries.entries with
    | nil =>
      rw [OrderedDict.size, listed]
      exact Nat.zero_le _
    | cons first rest =>
      have there : router.routingTable.entries.get first.1 = some first.2 :=
        OrderedDict.mem_entries.mp (by rw [listed]; exact List.mem_cons_self)
      have few := (table first.2.portId (sound.registered first.1 first.2 there)).length
      rw [List.length_map, getAllEntries, OrderedDict.values, List.length_map] at few
      exact Nat.le_of_lt_succ few
  · intro portId port there configured
    have known : (router.routingTable.getPort portId).isSome := by
      rw [getPort, there]
      rfl
    have told : ⟨portId, none, .networkNumberIs port.networkNumber true⟩
        ∈ answers router.routingTable portId {
          isNetworkMessage := true, messageType := some 0x12, hopCount := 255 } []
          .whatIsNetworkNumber := by
      simp only [answers, getPort, there, numberOf, configured]
      simp
    obtain ⟨frame, _, said⟩ := arrive.2 portId [1, 0x80, 0x12] [] _ _ known rfl messageOf_queries.2 _
      told
    exact Nat.le_of_lt_succ (encodable_of_messageOf said)

theorem onPortReceive_message {router : NetworkRouter} {data sourceMac : Bytes} {npdu : NPDU}
    (decoded : decodeNpdu data = .ok npdu) (said : messageOf data = some msg)
    : (router.onPortReceive portId data sourceMac).2
      = (handleMessage portId msg npdu sourceMac { router }).2.outputs := by
  rw [messageOf, decoded] at said
  dsimp only at said
  rw [onPortReceive, decoded]
  dsimp only
  rw [processNpdu]
  split at said
  · next network =>
      rw [if_pos network, handleNetworkMessage]
      cases type : npdu.messageType with
      | none =>
        rw [type] at said
        cases said
      | some messageType =>
        rw [type] at said
        dsimp only at said ⊢
        cases message : decodeNetworkMessage messageType npdu.networkMessageData with
        | error raised =>
          rw [message] at said
          cases said
        | ok other =>
          rw [message] at said
          cases said
          rfl
  · cases said

-- No other messages

section NoOthers

variable {router : NetworkRouter} {npdu : NPDU} {sourceMac : Bytes} {built : List OwnMessage}

end NoOthers

-- Reachable tables

/-- In every state that a router reaches, all messages that it may build next arrive as they were
built exactly if its routing table has at most 255 entries, of ports up to 255 and of networks up
to 65535, as the configured networks of its ports are.
-/
theorem messagesArrive_iff {ports : List RouterPort} {applicationPortId : Option Nat}
    {hasApplication : Bool} {router final : NetworkRouter} {events : List Event}
    (created : create ports applicationPortId hasApplication = .ok router)
    (ran : run step router events = some final)
    : final.MessagesArrive ↔ FitsWire final.routingTable := by
  have sound := invariant_every_run sound_step (create_sound created).1 ran
  have keyed := invariant_every_run keyed_step (create_keyed created) ran
  constructor
  · exact fitsWire_of_arrive sound
  · intro fits
    refine ⟨delivered_announce fits keyed, ?_⟩
    intro portId data sourceMac npdu msg known decoded said own member
    rw [onPortReceive_message decoded said]
    exact delivered_answers fits keyed known (encodable_of_messageOf said) own member

theorem fitsWire_of_entries (few : table.entries.size ≤ 255)
    (entries : ∀ entry ∈ table.entries.entries,
      entry.2.networkNumber ≤ 65535 ∧ entry.2.portId ≤ 255)
    (numbers : ∀ port ∈ table.ports.entries, port.2.networkNumber ≤ 65535)
    : FitsWire table where
  entries := few
  networks _ _ there := (entries _ (OrderedDict.mem_entries.mpr there)).1
  portIds _ _ there := (entries _ (OrderedDict.mem_entries.mpr there)).2
  numbers _ _ there _ := numbers _ (OrderedDict.mem_entries.mpr there)

/-- A router between two networks that has heard of a third one. -/
theorem messagesArrive_betweenTwo
    : (betweenTwo.onPortReceive 2 [1, 0x80, 1, 0, 7] [21]).1.MessagesArrive :=
  (@messagesArrive_iff _ _ _ _ _ [.receive 2 [1, 0x80, 1, 0, 7] [21]] create_betweenTwo rfl).mpr
    (fitsWire_of_entries (by decide) (by decide) (by decide))

/-- An I-Am-Router-To-Network for the networks 3 to 256. -/
def manyNetworks : Bytes :=
  1 :: 0x80 :: 1 :: (List.range 254).flatMap fun network => toBytes (network + 3) 2

/-- With 256 entries the router does not answer a query for its routing table. -/
theorem query_of_256_entries_unanswered
    : create [{ portId := 1, networkNumber := 1, macAddress := [10] },
        { portId := 2, networkNumber := 2, macAddress := [20] }] = .ok betweenTwo
      ∧ (run step betweenTwo [.receive 1 manyNetworks [11]]).map (fun router =>
          (router.routingTable.entries.size,
            (router.onPortReceive 2 [1, 0x80, 6, 0] [21]).2)) = some (256, []) :=
  ⟨rfl, by decide +kernel⟩

end NetworkRouter

end BacPy
