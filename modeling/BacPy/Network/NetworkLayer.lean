import BacPy.Library.OrderedDict
import BacPy.Library.Stateful
import BacPy.Network.Messages
import BacPy.Network.Npdu
import Mathlib.Algebra.Order.Ring.Unbundled.Rat

/-! `NetworkLayer`: the network layer of a device that is not a router (Clause 6).

The clock is a sequence of readings, of which the layer takes the next one whenever the code
calls `time.monotonic()`.
-/

namespace BacPy

open Library

structure RouterCacheEntry where
  network : Nat
  routerMac : Bytes
  lastSeen : Rat
  deriving DecidableEq

/-- What became of the routes in a cache. -/
inductive RouteRecord where
  /-- a router is stored for a network -/
  | stored (network : Nat) (routerMac : Bytes) (time : Rat)
  /-- the router that is stored for a network is seen again -/
  | refreshed (network : Nat) (time : Rat)
  /-- entries go to make room, and others stay -/
  | evicted (gone left : List RouterCacheEntry)
  deriving DecidableEq

structure NetworkLayer where
  networkNumber : Option Nat := none
  networkNumberConfigured : Bool := false
  routerCache : OrderedDict Nat RouterCacheEntry := {}
  cacheTtl : Rat := 300
  /-- how often the clock has been read -/
  readings : Nat := 0
  /-- the history of the cache, its latest record first; no operation reads it -/
  records : List RouteRecord := []
  deriving DecidableEq

/-- What a network layer puts out. -/
inductive LayerOutput where
  | unicast (destination frame : Bytes)
  | broadcast (frame : Bytes)
  /-- a call of the receive callback -/
  | deliver (apdu : Bytes) (source : BACnetAddress)
  /-- the calls of the listeners that are registered for a message type -/
  | dispatch (messageType : Nat) (msg : NetworkMessage) (sourceMac : Bytes)

/-- A network layer at work, with what it has put out so far. -/
structure Layering where
  layer : NetworkLayer
  outputs : List LayerOutput := []

/-- What an operation of the layer does, or raises. -/
abbrev LayerAction := Stateful PyException Layering

namespace NetworkLayer

def maxRouterCache : Nat := 1024

-- The router cache

/-- `_evict_stale_cache_entries`, at a reading of the clock. -/
def evictStaleCacheEntries (layer : NetworkLayer) (now : Rat) : NetworkLayer :=
  let stale := layer.routerCache.entries.filter fun entry =>
    layer.cacheTtl < now - entry.2.lastSeen
  { layer with routerCache := (stale.map Prod.fst).foldl OrderedDict.pop layer.routerCache }

/-- The cache without the entry that was seen first. -/
def evictOldest (layer : NetworkLayer) : NetworkLayer :=
  match layer.routerCache.entries.argmin fun entry => entry.2.lastSeen with
  | none => layer
  | some oldest => { layer with routerCache := layer.routerCache.pop oldest.1 }

/-- The room `_ensure_cache_capacity` makes in a full cache. -/
def makeRoom (layer : NetworkLayer) (now : Rat) : NetworkLayer :=
  let layer := layer.evictStaleCacheEntries now
  if maxRouterCache ≤ layer.routerCache.size then layer.evictOldest else layer

variable (clock : Nat → Rat)

def monotonic (layer : NetworkLayer) : Rat := clock layer.readings

def tick (layer : NetworkLayer) : NetworkLayer := { layer with readings := layer.readings + 1 }

def ensureCacheCapacity (layer : NetworkLayer) : NetworkLayer :=
  if layer.routerCache.size < maxRouterCache then layer
  else
    let after := layer.tick.makeRoom (layer.monotonic clock)
    let gone := layer.routerCache.entries.filter fun entry =>
      (after.routerCache.get entry.1).isNone
    { after with
      records := .evicted (gone.map Prod.snd) after.routerCache.values :: after.records }

/-- `self._router_cache[network] = RouterCacheEntry(...)` -/
def store (layer : NetworkLayer) (network : Nat) (routerMac : Bytes) (lastSeen : Rat)
    : NetworkLayer :=
  { layer with
    routerCache := layer.routerCache.set network { network, routerMac, lastSeen }
    records := .stored network routerMac lastSeen :: layer.records }

def ensureRoomFor (layer : NetworkLayer) (network : Nat) : NetworkLayer :=
  if (layer.routerCache.get network).isNone then layer.ensureCacheCapacity clock else layer

def addRoute (layer : NetworkLayer) (network : Nat) (routerMac : Bytes) : NetworkLayer :=
  let layer := layer.ensureCacheCapacity clock
  layer.tick.store network routerMac (layer.monotonic clock)

/-- `get_router_for_network`: the router, and the layer without an entry that is stale. -/
def getRouterForNetwork (layer : NetworkLayer) (dnet : Nat) : Option Bytes × NetworkLayer :=
  match layer.routerCache.get dnet with
  | none => (none, layer)
  | some entry =>
    if layer.cacheTtl < layer.monotonic clock - entry.lastSeen then
      (none, { layer.tick with routerCache := layer.routerCache.pop dnet })
    else (some entry.routerMac, layer.tick)

def handleIAmRouter (layer : NetworkLayer) (networks : List Nat) (sourceMac : Bytes)
    : NetworkLayer :=
  let now := layer.monotonic clock
  networks.foldl (fun layer dnet => (layer.ensureRoomFor clock dnet).store dnet sourceMac now)
    layer.tick

/-- The end of `_learn_router_from_source`, where no fresh entry was found. -/
def storeSource (layer : NetworkLayer) (snet : Nat) (sourceMac : Bytes) : NetworkLayer :=
  let layer := layer.ensureRoomFor clock snet
  layer.tick.store snet sourceMac (layer.monotonic clock)

def learnRouterFromSource (layer : NetworkLayer) (snet : Nat) (sourceMac : Bytes)
    : NetworkLayer :=
  match layer.routerCache.get snet with
  | none => layer.storeSource clock snet sourceMac
  | some existing =>
    let now := layer.monotonic clock
    if now - existing.lastSeen ≤ layer.cacheTtl then
      { layer.tick with
        routerCache := layer.routerCache.set snet { existing with lastSeen := now }
        records := .refreshed snet now :: layer.records }
    else layer.tick.storeSource clock snet sourceMac

-- Sending

/-- Put something out. -/
def emit (output : LayerOutput) : LayerAction Unit :=
  Stateful.modifies fun layering => { layering with outputs := layering.outputs ++ [output] }

def change (update : NetworkLayer → NetworkLayer) : LayerAction Unit :=
  Stateful.modifies fun layering => { layering with layer := update layering.layer }

def broadcastMessage (msg : NetworkMessage) : LayerAction Unit := do
  let data ← Stateful.lift (encodeNetworkMessage msg)
  let encoded ← Stateful.lift (encodeNpdu {
    isNetworkMessage := true
    messageType := some msg.messageType
    networkMessageData := data
  })
  emit (.broadcast encoded)

def sendWhoIsRouter (dnet : Nat) : LayerAction Unit :=
  broadcastMessage (.whoIsRouterToNetwork (some dnet))

def sendNetworkNumberIs : LayerAction Unit := do
  let layer ← Stateful.reads Layering.layer
  match layer.networkNumber with
  | none => pure ()
  | some network => broadcastMessage (.networkNumberIs network layer.networkNumberConfigured)

def lookup (dnet : Nat) : LayerAction (Option Bytes) := fun layering =>
  let (router, layer) := layering.layer.getRouterForNetwork clock dnet
  (.ok router, { layering with layer })

def sendRemote (encoded : Bytes) (destination : BACnetAddress) : LayerAction Unit :=
  match destination.network with
  | none =>
    Stateful.raise
      (.valueError "Cannot send to remote destination without network number")
  | some dnet => do
      match ← lookup clock dnet with
      | some routerMac => emit (.unicast routerMac encoded)
      | none =>
        emit (.broadcast encoded)
        sendWhoIsRouter dnet

def send (apdu : Bytes) (destination : BACnetAddress) (expectingReply : Bool)
    (priority : NetworkPriority)
    : LayerAction Unit := do
  let encoded ← Stateful.lift (encodeNpdu {
    expectingReply
    priority
    destination := if destination.isLocal then none else some destination
    hopCount := 255
    apdu
  })
  if destination.isGlobalBroadcast then emit (.broadcast encoded)
  else if destination.isLocal ∧ destination.isBroadcast then emit (.broadcast encoded)
  else if destination.isLocal then emit (.unicast destination.macAddress encoded)
  else sendRemote clock encoded destination

def sendNetworkMessage (messageType : Nat) (data : Bytes) (destination : Option BACnetAddress)
    : LayerAction Unit := do
  let routed := destination.filter fun address =>
    address.isBroadcast || address.isGlobalBroadcast || address.network.isSome
  let encoded ← Stateful.lift (encodeNpdu {
    isNetworkMessage := true
    messageType := some messageType
    networkMessageData := data
    destination := routed
    hopCount := if routed.isSome then 255 else 0
  })
  match destination with
  | none => emit (.broadcast encoded)
  | some address =>
    if address.isBroadcast ∨ address.isGlobalBroadcast then emit (.broadcast encoded)
    else emit (.unicast address.macAddress encoded)

-- Receiving

def handleWhatIsNetworkNumber (npdu : NPDU) : LayerAction Unit :=
  if npdu.source.isSome ∨ npdu.destination.isSome then pure ()
  else do
    let layer ← Stateful.reads Layering.layer
    Stateful.when (layer.networkNumber.isSome ∧ layer.networkNumberConfigured)
      sendNetworkNumberIs

def handleNetworkNumberIs (network : Nat) (configured : Bool) (npdu : NPDU) : LayerAction Unit :=
  if npdu.source.isSome ∨ npdu.destination.isSome then pure ()
  else if configured = false then pure ()
  else
    change fun layer =>
      if layer.networkNumberConfigured then layer else { layer with networkNumber := some network }

/-- What `_handle_network_message` does itself with a message. -/
def handleMessage (msg : NetworkMessage) (npdu : NPDU) (sourceMac : Bytes) : LayerAction Unit :=
  match msg with
  | .iAmRouterToNetwork networks =>
    change fun layer => layer.handleIAmRouter clock networks sourceMac
  | .networkNumberIs network configured => handleNetworkNumberIs network configured npdu
  | .whatIsNetworkNumber => handleWhatIsNetworkNumber npdu
  | _ => pure ()

/-- `_handle_network_message`; a message that cannot be decoded is dropped. -/
def handleNetworkMessage (npdu : NPDU) (sourceMac : Bytes) : LayerAction Unit :=
  match npdu.messageType with
  | none => pure ()
  | some messageType =>
    match decodeNetworkMessage messageType npdu.networkMessageData with
    | .error _ => pure ()
    | .ok msg => do
        handleMessage clock msg npdu sourceMac
        emit (.dispatch messageType msg sourceMac)

/-- The learning of a router from the source of an APDU. -/
def learnFrom (source : BACnetAddress) (sourceMac : Bytes) : LayerAction Unit :=
  match source.network with
  | none => pure ()
  | some snet =>
    Stateful.when (snet ≠ 0xFFFF)
      (change fun layer => layer.learnRouterFromSource clock snet sourceMac)

/-- `_on_npdu_received`; an NPDU that cannot be decoded is dropped. -/
def onNpduReceived (data sourceMac : Bytes) : LayerAction Unit :=
  match decodeNpdu data with
  | .error _ => pure ()
  | .ok npdu =>
    if npdu.isNetworkMessage then handleNetworkMessage clock npdu sourceMac
    else
      match npdu.source with
      | some source => do
          learnFrom clock source sourceMac
          emit (.deliver npdu.apdu source)
      | none => emit (.deliver npdu.apdu { macAddress := sourceMac })

-- Runs

/-- What happens to a network layer. -/
inductive Event where
  | addRoute (network : Nat) (routerMac : Bytes)
  | getRouterForNetwork (dnet : Nat)
  | send (apdu : Bytes) (destination : BACnetAddress) (expectingReply : Bool)
    (priority : NetworkPriority)
  | sendNetworkMessage (messageType : Nat) (data : Bytes) (destination : Option BACnetAddress)
  | receive (data sourceMac : Bytes)

/-- One step of a network layer; what an operation raises does not undo what it did before. -/
def step (layer : NetworkLayer) : Event → Option NetworkLayer
  | .addRoute network routerMac => some (layer.addRoute clock network routerMac)
  | .getRouterForNetwork dnet => some (layer.getRouterForNetwork clock dnet).2
  | .send apdu destination expectingReply priority =>
    some (send clock apdu destination expectingReply priority { layer }).2.layer
  | .sendNetworkMessage messageType data destination =>
    some (sendNetworkMessage messageType data destination { layer }).2.layer
  | .receive data sourceMac => some (onNpduReceived clock data sourceMac { layer }).2.layer

end NetworkLayer

end BacPy
