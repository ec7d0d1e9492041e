import BacPy.Library.OrderedDict
import BacPy.Library.Stateful
import BacPy.Network.Messages
import BacPy.Network.Npdu

/-! `RoutingTable`: what a router knows about all networks (Clause 6.6.1). -/

namespace BacPy

open Library

/-- `RouterPort`, without its transport. -/
structure RouterPort where
  portId : Nat
  networkNumber : Nat
  macAddress : Bytes
  networkNumberConfigured : Bool := true
  deriving DecidableEq

inductive NetworkReachability where
  | reachable | busy | unreachable
  deriving DecidableEq

structure RoutingTableEntry where
  networkNumber : Nat
  portId : Nat
  nextRouterMac : Option Bytes := none
  reachability : NetworkReachability := .reachable
  /-- the network that a running congestion timer makes available again -/
  busyTimeout : Option Nat := none
  deriving DecidableEq

structure RoutingTable where
  ports : OrderedDict Nat RouterPort := {}
  entries : OrderedDict Nat RoutingTableEntry := {}
  deriving DecidableEq

namespace RoutingTable

def maxEntries : Nat := 2048

-- Ports and queries

def addPort (table : RoutingTable) (port : RouterPort) : Except PyException RoutingTable :=
  if (table.ports.get port.portId).isSome then
    .error (.valueError s!"Port {port.portId} already registered")
  else if (table.entries.get port.networkNumber).isSome then
    .error (.valueError s!"Network {port.networkNumber} already in routing table")
  else
    let entry := { networkNumber := port.networkNumber, portId := port.portId }
    .ok {
      ports := table.ports.set port.portId port
      entries := table.entries.set port.networkNumber entry
    }

def getPort (table : RoutingTable) (portId : Nat) : Option RouterPort := table.ports.get portId

def getAllPorts (table : RoutingTable) : List RouterPort := table.ports.values

def getAllEntries (table : RoutingTable) : List RoutingTableEntry := table.entries.values

def getPortForNetwork (table : RoutingTable) (dnet : Nat)
    : Option (RouterPort × RoutingTableEntry) := do
  let entry ← table.entries.get dnet
  let port ← table.ports.get entry.portId
  some (port, entry)

/-- `get_reachable_networks` with `exclude_port`. -/
def getReachableNetworks (table : RoutingTable) (excludePort : Nat) (includeBusy : Bool := false)
    : List Nat :=
  (table.getAllEntries.filter fun entry =>
    entry.reachability ≠ .unreachable
      ∧ (entry.reachability = .busy → includeBusy)
      ∧ entry.portId ≠ excludePort).map RoutingTableEntry.networkNumber

-- Routes

def updateRoute (table : RoutingTable) (dnet portId : Nat) (nextRouterMac : Option Bytes)
    : Except PyException RoutingTable :=
  if (table.ports.get portId).isNone then .error (.valueError s!"Unknown port {portId}")
  else
    match table.entries.get dnet with
    | some existing =>
      let entry := { existing with
        portId, nextRouterMac, reachability := .reachable, busyTimeout := none }
      .ok { table with entries := table.entries.set dnet entry }
    | none =>
      if maxEntries ≤ table.entries.size then .ok table
      else
        let entry := { networkNumber := dnet, portId, nextRouterMac }
        .ok { table with entries := table.entries.set dnet entry }

def removeEntry (table : RoutingTable) (dnet : Nat) : RoutingTable :=
  { table with entries := table.entries.pop dnet }

def updatePortNetworkNumber (table : RoutingTable) (portId newNetwork : Nat)
    : Except PyException RoutingTable :=
  match table.ports.get portId with
  | none => .ok table
  | some port =>
    if port.networkNumber = newNetwork then .ok table
    else if (table.entries.get newNetwork).isSome then
      .error (.valueError s!"Network {newNetwork} already in routing table")
    else
      let entry :=
        match table.entries.get port.networkNumber with
        | some old => { old with networkNumber := newNetwork }
        | none => { networkNumber := newNetwork, portId }
      .ok {
        ports := table.ports.set portId { port with networkNumber := newNetwork }
        entries := (table.entries.pop port.networkNumber).set newNetwork entry
      }

-- Reachability

/-- An entry with another reachability and timer, if there is one. -/
def mark (table : RoutingTable) (dnet : Nat) (reachability : NetworkReachability)
    (busyTimeout : Option Nat)
    : RoutingTable :=
  match table.entries.get dnet with
  | none => table
  | some entry =>
    { table with entries := table.entries.set dnet { entry with reachability, busyTimeout } }

/-- `mark_busy`, with a timer that makes the network available again. -/
def markBusy (table : RoutingTable) (dnet : Nat) : RoutingTable := table.mark dnet .busy (some dnet)

def markAvailable (table : RoutingTable) (dnet : Nat) : RoutingTable :=
  table.mark dnet .reachable none

def markUnreachable (table : RoutingTable) (dnet : Nat) : RoutingTable :=
  table.mark dnet .unreachable none

end RoutingTable

end BacPy

/-! `NetworkRouter`: what a router makes of every NPDU it receives (Clauses 6.5 and 6.6.3). -/

namespace BacPy

open Library

structure NetworkRouter where
  routingTable : RoutingTable := {}
  applicationPortId : Option Nat := none
  /-- `_application_callback is not None` -/
  hasApplication : Bool := false
  deriving DecidableEq

/-- What a router puts out. -/
inductive RouterOutput where
  /-- a frame on the link of a port, to one station or as a broadcast -/
  | send (portId : Nat) (destination : Option Bytes) (frame : Bytes)
  /-- a call of the application callback -/
  | deliver (apdu : Bytes) (source : BACnetAddress)
  deriving DecidableEq

/-- A router at work, with what it has put out so far. -/
structure Routing where
  router : NetworkRouter
  outputs : List RouterOutput := []

/-- What a handler does; whatever it raises is caught and logged in the end. -/
abbrev RouterAction := Stateful PyException Routing

namespace NetworkRouter

/-- The constructor. -/
def create (ports : List RouterPort) (applicationPortId : Option Nat := none)
    (hasApplication : Bool := false)
    : Except PyException NetworkRouter := do
  let routingTable ← ports.foldlM RoutingTable.addPort {}
  .ok { routingTable, applicationPortId, hasApplication }

def table : RouterAction RoutingTable := Stateful.reads fun routing => routing.router.routingTable

/-- Put something out. -/
def emit (output : RouterOutput) : RouterAction Unit :=
  Stateful.modifies fun routing => { routing with outputs := routing.outputs ++ [output] }

def changeTable (change : RoutingTable → RoutingTable) : RouterAction Unit :=
  Stateful.modifies fun routing =>
    { routing with
      router := { routing.router with routingTable := change routing.router.routingTable } }

def tryTable (change : RoutingTable → Except PyException RoutingTable) : RouterAction Unit :=
  fun routing =>
    match change routing.router.routingTable with
    | .ok table => (.ok (), { routing with router := { routing.router with routingTable := table } })
    | .error raised => (.error raised, routing)

-- Messages of the router itself

/-- `_send_network_message_on_port`, to one station or as a broadcast. -/
def sendNetworkMessageOnPort (portId : Nat) (msg : NetworkMessage) (destination : Option Bytes)
    : RouterAction Unit := do
  let table ← table
  if (table.getPort portId).isSome then
    let data ← Stateful.lift (encodeNetworkMessage msg)
    let encoded ← Stateful.lift (encodeNpdu {
      isNetworkMessage := true
      messageType := some msg.messageType
      networkMessageData := data
    })
    emit (.send portId destination encoded)

def broadcastNetworkMessageAllExcept (excludePortId : Nat) (msg : NetworkMessage)
    : RouterAction Unit := do
  let table ← table
  Stateful.forEach (fun port =>
    Stateful.when (port.portId ≠ excludePortId) (sendNetworkMessageOnPort port.portId msg none))
    table.getAllPorts

def sendReject (portId : Nat) (destMac : Bytes) (reason : RejectMessageReason) (dnet : Nat)
    : RouterAction Unit :=
  sendNetworkMessageOnPort portId (.rejectMessageToNetwork reason dnet) (some destMac)

/-- The station or the next router that an entry leads to. -/
def RoutingTableEntry.towards (entry : RoutingTableEntry) (mac : Bytes) : Option Bytes :=
  match entry.nextRouterMac with
  | some next => some next
  | none => if mac.isEmpty then none else some mac

def sendRejectTowardSource (arrivalPortId : Nat) (npdu : NPDU) (sourceMac : Bytes)
    (reason : RejectMessageReason) (dnet : Nat)
    : RouterAction Unit :=
  match npdu.source with
  | none => sendReject arrivalPortId sourceMac reason dnet
  | some source => do
      let msg := NetworkMessage.rejectMessageToNetwork reason dnet
      let data ← Stateful.lift (encodeNetworkMessage msg)
      let encoded ← Stateful.lift (encodeNpdu {
        isNetworkMessage := true
        messageType := some msg.messageType
        networkMessageData := data
        destination := some source
        hopCount := 255
      })
      let table ← table
      match source.network.bind table.getPortForNetwork with
      | some (outPort, entry) =>
        emit (.send outPort.portId (RoutingTableEntry.towards entry source.macAddress) encoded)
      -- also where the source has no network number
      | none => sendReject arrivalPortId sourceMac reason dnet

-- Forwarding

def stationOn (table : RoutingTable) (portId : Nat) (mac : Bytes)
    : Except PyException (Option BACnetAddress) :=
  match table.getPort portId with
  | none => .ok none
  | some port => some <$> BACnetAddress.make port.networkNumber mac

def injectSource (table : RoutingTable) (arrivalPortId : Nat) (npdu : NPDU) (sourceMac : Bytes)
    : Except PyException (Option BACnetAddress) :=
  match npdu.source with
  | some source => .ok (some source)
  | none => stationOn table arrivalPortId sourceMac

def prepareForwardedNpdu (table : RoutingTable) (arrivalPortId : Nat) (npdu : NPDU)
    (sourceMac : Bytes)
    : Except PyException (Option NPDU) :=
  if npdu.hopCount ≤ 1 then .ok none
  else do
    let source ← injectSource table arrivalPortId npdu sourceMac
    .ok (some { npdu with source, hopCount := npdu.hopCount - 1 })

def broadcastAllExcept (excludePortId : Nat) (encoded : Bytes) : RouterAction Unit := do
  let table ← table
  Stateful.forEach (fun port =>
    Stateful.when (port.portId ≠ excludePortId) (emit (.send port.portId none encoded)))
    table.getAllPorts

/-- `_forward_global_broadcast`, and the end of `_handle_who_is_router`. -/
def forwardGlobalBroadcast (arrivalPortId : Nat) (npdu : NPDU) (sourceMac : Bytes)
    : RouterAction Unit := do
  let table ← table
  match ← Stateful.lift (prepareForwardedNpdu table arrivalPortId npdu sourceMac) with
  | none => pure ()
  | some forwarded =>
    let encoded ← Stateful.lift (encodeNpdu forwarded)
    broadcastAllExcept arrivalPortId encoded

/-- The frame of `_deliver_to_directly_connected`: without the destination, and with a source. -/
def encodeDelivery (table : RoutingTable) (arrivalPortId : Nat) (npdu : NPDU) (sourceMac : Bytes)
    : Except PyException Bytes :=
  match npdu.source.bind fun source => source.network.map (·, source.macAddress) with
  | some (network, mac) => encodeNpduLocalDelivery npdu network mac
  | none =>
    match table.getPort arrivalPortId with
    | some port => encodeNpduLocalDelivery npdu port.networkNumber sourceMac
    | none => encodeNpdu { npdu with destination := none, source := none, hopCount := 255 }

def deliverToDirectlyConnected (arrivalPortId : Nat) (npdu : NPDU) (sourceMac : Bytes)
    (destPort : RouterPort)
    : RouterAction Unit :=
  match npdu.destination with
  | none => pure ()
  | some destination => do
      let table ← table
      let encoded ← Stateful.lift (encodeDelivery table arrivalPortId npdu sourceMac)
      emit (.send destPort.portId
        (if destination.macAddress.isEmpty then none else some destination.macAddress) encoded)

def forwardViaNextHop (arrivalPortId : Nat) (npdu : NPDU) (sourceMac : Bytes)
    (destPort : RouterPort) (nextRouterMac : Bytes)
    : RouterAction Unit := do
  let table ← table
  match ← Stateful.lift (prepareForwardedNpdu table arrivalPortId npdu sourceMac) with
  | none => pure ()
  | some forwarded =>
    let encoded ← Stateful.lift (encodeNpdu forwarded)
    emit (.send destPort.portId (some nextRouterMac) encoded)

def forwardToNetwork (arrivalPortId : Nat) (npdu : NPDU) (sourceMac : Bytes) (dnet : Nat)
    : RouterAction Unit := do
  let table ← table
  match table.getPortForNetwork dnet with
  | none => sendRejectTowardSource arrivalPortId npdu sourceMac .notDirectlyConnected dnet
  | some (destPort, entry) =>
    match entry.reachability with
    | .unreachable =>
      sendRejectTowardSource arrivalPortId npdu sourceMac .notDirectlyConnected dnet
    | .busy => sendRejectTowardSource arrivalPortId npdu sourceMac .routerBusy dnet
    | .reachable =>
      match entry.nextRouterMac with
      | none => deliverToDirectlyConnected arrivalPortId npdu sourceMac destPort
      | some next => forwardViaNextHop arrivalPortId npdu sourceMac destPort next

/-- The routing of an NPDU with a destination: to all networks, or to one. -/
def forward (arrivalPortId : Nat) (npdu : NPDU) (sourceMac : Bytes) (destination : BACnetAddress)
    : RouterAction Unit :=
  let dnet := destination.network.getD 0xFFFF
  if dnet = 0xFFFF then forwardGlobalBroadcast arrivalPortId npdu sourceMac
  else forwardToNetwork arrivalPortId npdu sourceMac dnet

-- Network messages

def handleWhoIsRouter (portId : Nat) (network : Option Nat) (npdu : NPDU) (sourceMac : Bytes)
    : RouterAction Unit := do
  let table ← table
  match network with
  | some network =>
    match table.getPortForNetwork network with
    | some (_, entry) =>
      Stateful.when (entry.portId ≠ portId)
        (sendNetworkMessageOnPort portId (.iAmRouterToNetwork [network]) none)
    | none => forwardGlobalBroadcast portId npdu sourceMac
  | none =>
    let networks := table.getReachableNetworks portId true
    Stateful.when (networks ≠ [])
      (sendNetworkMessageOnPort portId (.iAmRouterToNetwork networks) none)

def handleIAmRouter (portId : Nat) (networks : List Nat) (sourceMac : Bytes)
    : RouterAction Unit := do
  Stateful.forEach (fun dnet => tryTable fun table =>
    table.updateRoute dnet portId (some sourceMac)) networks
  broadcastNetworkMessageAllExcept portId (.iAmRouterToNetwork networks)

def handleRejectMessage (portId : Nat) (reason : RejectMessageReason) (network : Nat) (npdu : NPDU)
    (sourceMac : Bytes)
    : RouterAction Unit := do
  match reason with
  | .notDirectlyConnected => changeTable fun table => table.markUnreachable network
  | .routerBusy => changeTable fun table => table.markBusy network
  | _ => pure ()
  match npdu.destination with
  | none => pure ()
  | some destination => forward portId npdu sourceMac destination

def handleRouterBusy (portId : Nat) (networks : List Nat) (sourceMac : Bytes)
    : RouterAction Unit := do
  let table ← table
  let dnets :=
    if networks.isEmpty then
      (table.getAllEntries.filter fun entry =>
        entry.portId = portId ∧ entry.nextRouterMac = some sourceMac).map
          RoutingTableEntry.networkNumber
    else networks
  Stateful.forEach (fun dnet => changeTable fun table => table.markBusy dnet) dnets
  broadcastNetworkMessageAllExcept portId (.routerBusyToNetwork networks)

def handleRouterAvailable (portId : Nat) (networks : List Nat) : RouterAction Unit := do
  let table ← table
  let dnets :=
    if networks.isEmpty then
      (table.getAllEntries.filter fun entry =>
        entry.reachability = .busy ∧ entry.portId = portId).map RoutingTableEntry.networkNumber
    else networks
  Stateful.forEach (fun dnet => changeTable fun table => table.markAvailable dnet) dnets
  broadcastNetworkMessageAllExcept portId (.routerAvailableToNetwork networks)

def initializeEntry (portEntry : RoutingTablePort) : RouterAction Unit := do
  if portEntry.portId = 0 then changeTable fun table => table.removeEntry portEntry.network
  else
    let table ← table
    Stateful.when ((table.getPort portEntry.portId).isSome) (tryTable fun table =>
      table.updateRoute portEntry.network portEntry.portId none)

def handleInitRoutingTable (portId : Nat) (ports : List RoutingTablePort) (sourceMac : Bytes)
    : RouterAction Unit := do
  if ports.isEmpty then
    let table ← table
    let replyPorts := table.getAllEntries.map fun entry =>
      { network := entry.networkNumber, portId := entry.portId }
    sendNetworkMessageOnPort portId (.initializeRoutingTableAck replyPorts) (some sourceMac)
  else
    Stateful.forEach initializeEntry ports
    sendNetworkMessageOnPort portId (.initializeRoutingTableAck []) (some sourceMac)

def handleWhatIsNetworkNumber (portId : Nat) (npdu : NPDU) : RouterAction Unit :=
  if npdu.source.isSome ∨ npdu.destination.isSome then pure ()
  else do
    let table ← table
    match table.getPort portId with
    | none => pure ()
    | some port =>
      Stateful.when port.networkNumberConfigured
        (sendNetworkMessageOnPort portId (.networkNumberIs port.networkNumber true) none)

def handleNetworkNumberIs (portId network : Nat) (configured : Bool) (npdu : NPDU)
    : RouterAction Unit :=
  if npdu.source.isSome ∨ npdu.destination.isSome then pure ()
  else do
    let table ← table
    match table.getPort portId with
    | none => pure ()
    | some port =>
      Stateful.when (port.networkNumberConfigured = false ∧ configured = true)
        (tryTable fun table => table.updatePortNetworkNumber portId network)

/-- The dispatch of `_handle_network_message`. -/
def handleMessage (portId : Nat) (msg : NetworkMessage) (npdu : NPDU) (sourceMac : Bytes)
    : RouterAction Unit :=
  match msg with
  | .whoIsRouterToNetwork network => handleWhoIsRouter portId network npdu sourceMac
  | .iAmRouterToNetwork networks => handleIAmRouter portId networks sourceMac
  | .rejectMessageToNetwork reason network =>
    handleRejectMessage portId reason network npdu sourceMac
  | .routerBusyToNetwork networks => handleRouterBusy portId networks sourceMac
  | .routerAvailableToNetwork networks => handleRouterAvailable portId networks
  | .initializeRoutingTable ports => handleInitRoutingTable portId ports sourceMac
  | .initializeRoutingTableAck _ => pure ()
  | .whatIsNetworkNumber => handleWhatIsNetworkNumber portId npdu
  | .networkNumberIs network configured => handleNetworkNumberIs portId network configured npdu
  | .iCouldBeRouterToNetwork .. => pure ()
  | .establishConnectionToNetwork network _ => sendReject portId sourceMac .other network
  | .disconnectConnectionToNetwork network => sendReject portId sourceMac .other network

/-- `_handle_network_message`; a message that cannot be decoded is dropped. -/
def handleNetworkMessage (portId : Nat) (npdu : NPDU) (sourceMac : Bytes) : RouterAction Unit :=
  match npdu.messageType with
  | none => pure ()
  | some messageType =>
    match decodeNetworkMessage messageType npdu.networkMessageData with
    | .error _ => pure ()
    | .ok msg => handleMessage portId msg npdu sourceMac

-- Receiving and sending

def deliverToApplication (portId : Nat) (npdu : NPDU) (sourceMac : Bytes)
    : RouterAction Unit := do
  let hasApplication ← Stateful.reads fun routing : Routing => routing.router.hasApplication
  if hasApplication then
    let table ← table
    match npdu.source with
    | some source => emit (.deliver npdu.apdu source)
    | none =>
      let station ← Stateful.lift (stationOn table portId sourceMac)
      emit (.deliver npdu.apdu (station.getD { macAddress := sourceMac }))

def processNpdu (portId : Nat) (npdu : NPDU) (sourceMac : Bytes) : RouterAction Unit :=
  if npdu.isNetworkMessage then handleNetworkMessage portId npdu sourceMac
  else
    match npdu.destination with
    | none => deliverToApplication portId npdu sourceMac
    | some destination => do
        Stateful.when (destination.network.getD 0xFFFF = 0xFFFF)
          (deliverToApplication portId npdu sourceMac)
        forward portId npdu sourceMac destination

/-- `_on_port_receive`: the router afterwards, and what it has put out. -/
def onPortReceive (router : NetworkRouter) (portId : Nat) (data sourceMac : Bytes)
    : NetworkRouter × List RouterOutput :=
  match decodeNpdu data with
  | .error _ => (router, [])
  | .ok npdu =>
    let routing := (processNpdu portId npdu sourceMac { router }).2
    (routing.router, routing.outputs)

end NetworkRouter

end BacPy
