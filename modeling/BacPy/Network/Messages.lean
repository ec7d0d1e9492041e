import BacPy.Encoding.Octets

/-! Network layer messages: the data that follows the message type (Clause 6.4). -/

namespace BacPy

inductive RejectMessageReason where
  | other | notDirectlyConnected | routerBusy | unknownMessageType | messageTooLong
  | securityError | addressingError

/-- The number of each `RejectMessageReason`. -/
def RejectMessageReason.toNat : RejectMessageReason → Nat
  | .other => 0
  | .notDirectlyConnected => 1
  | .routerBusy => 2
  | .unknownMessageType => 3
  | .messageTooLong => 4
  | .securityError => 5
  | .addressingError => 6

/-- `RejectMessageReason(value)` -/
def RejectMessageReason.ofNumber (value : Nat) : Except PyException RejectMessageReason :=
  match value with
  | 0 => .ok .other
  | 1 => .ok .notDirectlyConnected
  | 2 => .ok .routerBusy
  | 3 => .ok .unknownMessageType
  | 4 => .ok .messageTooLong
  | 5 => .ok .securityError
  | 6 => .ok .addressingError
  | _ => .error (.valueError s!"{value} is not a valid RejectMessageReason")

structure RoutingTablePort where
  network : Nat
  portId : Nat
  portInfo : Bytes := []

/-- `NetworkMessage`: the union of all network messages. -/
inductive NetworkMessage where
  | whoIsRouterToNetwork (network : Option Nat)
  | iAmRouterToNetwork (networks : List Nat)
  | iCouldBeRouterToNetwork (network performanceIndex : Nat)
  | rejectMessageToNetwork (reason : RejectMessageReason) (network : Nat)
  | routerBusyToNetwork (networks : List Nat)
  | routerAvailableToNetwork (networks : List Nat)
  | initializeRoutingTable (ports : List RoutingTablePort)
  | initializeRoutingTableAck (ports : List RoutingTablePort)
  | establishConnectionToNetwork (network terminationTime : Nat)
  | disconnectConnectionToNetwork (network : Nat)
  | whatIsNetworkNumber
  | networkNumberIs (network : Nat) (configured : Bool)

/-- `_message_type_for`: the `NetworkMessageType` of a message. -/
def NetworkMessage.messageType : NetworkMessage → Nat
  | .whoIsRouterToNetwork .. => 0x00
  | .iAmRouterToNetwork .. => 0x01
  | .iCouldBeRouterToNetwork .. => 0x02
  | .rejectMessageToNetwork .. => 0x03
  | .routerBusyToNetwork .. => 0x04
  | .routerAvailableToNetwork .. => 0x05
  | .initializeRoutingTable .. => 0x06
  | .initializeRoutingTableAck .. => 0x07
  | .establishConnectionToNetwork .. => 0x08
  | .disconnectConnectionToNetwork .. => 0x09
  | .whatIsNetworkNumber => 0x12
  | .networkNumberIs .. => 0x13

-- Encoding

/-- `network.to_bytes(2, "big")` -/
def encodeNetwork (network : Nat) : Except PyException Bytes :=
  if network < 65536 then .ok (toBytes network 2)
  else .error (.valueError "int too big to convert")

def encodeNetworkList (networks : List Nat) : Except PyException Bytes := do
  let encoded ← networks.mapM encodeNetwork
  .ok encoded.flatten

/-- One entry of `_encode_routing_table`. -/
def RoutingTablePort.encode (port : RoutingTablePort) : Except PyException Bytes := do
  let network ← encodeNetwork port.network
  .ok (network ++ [UInt8.ofNat port.portId, UInt8.ofNat port.portInfo.length] ++ port.portInfo)

def encodeRoutingTable (ports : List RoutingTablePort) : Except PyException Bytes := do
  let count ← octet ports.length
  let encoded ← ports.mapM RoutingTablePort.encode
  .ok (count :: encoded.flatten)

def encodeNetworkMessage : NetworkMessage → Except PyException Bytes
  | .whoIsRouterToNetwork none => .ok []
  | .whoIsRouterToNetwork (some network) => encodeNetwork network
  | .iAmRouterToNetwork networks => encodeNetworkList networks
  | .iCouldBeRouterToNetwork network performanceIndex => do
      let network ← encodeNetwork network
      .ok (network ++ [UInt8.ofNat performanceIndex])
  | .rejectMessageToNetwork reason network => do
      let network ← encodeNetwork network
      .ok (UInt8.ofNat reason.toNat :: network)
  | .routerBusyToNetwork networks => encodeNetworkList networks
  | .routerAvailableToNetwork networks => encodeNetworkList networks
  | .initializeRoutingTable ports => encodeRoutingTable ports
  | .initializeRoutingTableAck ports => encodeRoutingTable ports
  | .establishConnectionToNetwork network terminationTime => do
      let network ← encodeNetwork network
      .ok (network ++ [UInt8.ofNat terminationTime])
  | .disconnectConnectionToNetwork network => encodeNetwork network
  | .whatIsNetworkNumber => .ok []
  | .networkNumberIs network configured => do
      let network ← encodeNetwork network
      .ok (network ++ [if configured then 1 else 0])

-- Decoding

def maxNetworkList : Nat := 512

/-- The two-octet numbers that data of even length consists of. -/
def networksOf : Bytes → List Nat
  | first :: second :: rest => fromBytes [first, second] :: networksOf rest
  | _ => []

def decodeNetworkList (data : Bytes) : Except PyException (List Nat) :=
  if data.length % 2 ≠ 0 then
    .error (.valueError "Network list data length must be a multiple of 2")
  else if maxNetworkList < data.length / 2 then
    .error (.valueError
      s!"Network list too large: {data.length / 2} entries (max {maxNetworkList})")
  else .ok (networksOf data)

/-- The loop of `_decode_routing_table`, over what is left of the data. -/
def decodeRoutingTablePorts : Nat → Bytes → Except PyException (List RoutingTablePort)
  | 0, _ => .ok []
  | count + 1, first :: second :: portId :: length :: rest =>
    if rest.length < length.toNat then
      .error (.valueError "Routing table port info data truncated")
    else do
      let port := {
        network := fromBytes [first, second]
        portId := portId.toNat
        portInfo := rest.take length.toNat
      }
      let later ← decodeRoutingTablePorts count (rest.drop length.toNat)
      .ok (port :: later)
  | _ + 1, _ => .error (.valueError "Routing table data truncated")

def decodeRoutingTable (data : Bytes) : Except PyException (List RoutingTablePort) :=
  match data with
  | [] => .error (.valueError "Routing table data too short")
  | count :: rest => decodeRoutingTablePorts count.toNat rest

def decodeNetworkMessage (messageType : Nat) (data : Bytes) : Except PyException NetworkMessage :=
  match messageType with
  | 0x00 =>
    match data with
    | [] => .ok (.whoIsRouterToNetwork none)
    | [_] => .error (.valueError "Who-Is-Router-To-Network data too short")
    | first :: second :: _ => .ok (.whoIsRouterToNetwork (some (fromBytes [first, second])))
  | 0x01 => .iAmRouterToNetwork <$> decodeNetworkList data
  | 0x02 =>
    match data with
    | first :: second :: index :: _ =>
      .ok (.iCouldBeRouterToNetwork (fromBytes [first, second]) index.toNat)
    | _ => .error (.valueError "I-Could-Be-Router-To-Network data too short")
  | 0x03 =>
    match data with
    | reason :: first :: second :: _ =>
      (NetworkMessage.rejectMessageToNetwork · (fromBytes [first, second]))
        <$> RejectMessageReason.ofNumber reason.toNat
    | _ => .error (.valueError "Reject-Message-To-Network data too short")
  | 0x04 => .routerBusyToNetwork <$> decodeNetworkList data
  | 0x05 => .routerAvailableToNetwork <$> decodeNetworkList data
  | 0x06 => .initializeRoutingTable <$> decodeRoutingTable data
  | 0x07 => .initializeRoutingTableAck <$> decodeRoutingTable data
  | 0x08 =>
    match data with
    | first :: second :: time :: _ =>
      .ok (.establishConnectionToNetwork (fromBytes [first, second]) time.toNat)
    | _ => .error (.valueError "Establish-Connection-To-Network data too short")
  | 0x09 =>
    match data with
    | first :: second :: _ => .ok (.disconnectConnectionToNetwork (fromBytes [first, second]))
    | _ => .error (.valueError "Disconnect-Connection-To-Network data too short")
  | 0x12 => .ok .whatIsNetworkNumber
  | 0x13 =>
    match data with
    | first :: second :: configured :: _ =>
      .ok (.networkNumberIs (fromBytes [first, second]) (configured ≠ 0))
    | _ => .error (.valueError "Network-Number-Is data too short")
  | _ => .error (.valueError s!"Unsupported network message type: {messageType}")

theorem decode_rejectMessage {reason network data}
    (encoded : encodeNetworkMessage (.rejectMessageToNetwork reason network) = .ok data)
    : decodeNetworkMessage 0x03 data = .ok (.rejectMessageToNetwork reason network) := by
  obtain ⟨octets, fits, same⟩ := bind_eq_ok.mp encoded
  cases same
  unfold encodeNetwork at fits
  split at fits
  · next small =>
      cases fits
      have number := fromBytes_toBytes (show network < 256 ^ 2 by omega)
      have read : ∀ first second : UInt8, decodeNetworkMessage 0x03
          (UInt8.ofNat reason.toNat :: [first, second])
            = .ok (.rejectMessageToNetwork reason (fromBytes [first, second])) := by
        intro first second
        cases reason <;> rfl
      exact (read _ _).trans (congrArg (fun value => Except.ok
        (NetworkMessage.rejectMessageToNetwork reason value)) number)
  · cases fits

end BacPy

/-! Network messages over the wire: which of them are decoded as they were encoded. -/

namespace BacPy

-- What has room in an encoding

/-- The fields of an entry have room in their octets. -/
structure RoutingTablePort.Encodable (port : RoutingTablePort) : Prop where
  network : port.network < 65536
  portId : port.portId < 256
  portInfo : port.portInfo.length < 256

/-- The networks have room in two octets each, and a decoder takes so many. -/
structure EncodableList (networks : List Nat) : Prop where
  length : networks.length ≤ maxNetworkList
  numbers : ∀ network ∈ networks, network < 65536

/-- The entries have room, and so has their number. -/
structure EncodableTable (ports : List RoutingTablePort) : Prop where
  length : ports.length < 256
  entries : ∀ port ∈ ports, port.Encodable

/-- Everything a message says has room in its encoding. -/
def NetworkMessage.Encodable : NetworkMessage → Prop
  | .whoIsRouterToNetwork network => ∀ number ∈ network, number < 65536
  | .iAmRouterToNetwork networks => EncodableList networks
  | .iCouldBeRouterToNetwork network performanceIndex => network < 65536 ∧ performanceIndex < 256
  | .rejectMessageToNetwork _ network => network < 65536
  | .routerBusyToNetwork networks => EncodableList networks
  | .routerAvailableToNetwork networks => EncodableList networks
  | .initializeRoutingTable ports => EncodableTable ports
  | .initializeRoutingTableAck ports => EncodableTable ports
  | .establishConnectionToNetwork network terminationTime => network < 65536 ∧ terminationTime < 256
  | .disconnectConnectionToNetwork network => network < 65536
  | .whatIsNetworkNumber => True
  | .networkNumberIs network _ => network < 65536

/-- A message is encoded, and decoded as it was. -/
def NetworkMessage.RoundTrips (msg : NetworkMessage) : Prop :=
  ∃ data, encodeNetworkMessage msg = .ok data
    ∧ decodeNetworkMessage msg.messageType data = .ok msg

variable {data : Bytes} {networks : List Nat} {ports : List RoutingTablePort}

-- What a decoder returns

theorem fromTwo_lt (first second : UInt8) : fromBytes [first, second] < 65536 := by
  simpa using fromBytes_lt [first, second]

/-- Two octets make one network, by induction on the pairs. -/
theorem encodable_networksOf (data : Bytes)
    : 2 * (networksOf data).length ≤ data.length ∧ ∀ network ∈ networksOf data, network < 65536 := by
  induction data using List.twoStepInduction with
  | nil | singleton _ => exact ⟨Nat.zero_le _, fun _ member => absurd member List.not_mem_nil⟩
  | cons_cons first second rest ih _ =>
    obtain ⟨shorter, small⟩ := ih
    rw [networksOf]
    refine ⟨?_, List.forall_mem_cons.mpr ⟨fromTwo_lt first second, small⟩⟩
    simp only [List.length_cons]
    omega

theorem encodable_of_decodedList (decoded : decodeNetworkList data = .ok networks)
    : EncodableList networks := by
  rw [decodeNetworkList] at decoded
  split at decoded
  · cases decoded
  · split at decoded
    · cases decoded
    · next few =>
        cases decoded
        obtain ⟨shorter, small⟩ := encodable_networksOf data
        exact ⟨by omega, small⟩

/-- So many entries are read as were asked for, by induction on their number. -/
theorem encodable_of_decodedPorts {count} (decoded : decodeRoutingTablePorts count data = .ok ports)
    : ports.length = count ∧ ∀ port ∈ ports, port.Encodable := by
  induction count generalizing data ports with
  | zero =>
    cases decoded
    exact ⟨rfl, fun _ member => absurd member List.not_mem_nil⟩
  | succ count ih =>
    rcases data with _ | ⟨first, _ | ⟨second, _ | ⟨portId, _ | ⟨length, rest⟩⟩⟩⟩
    · cases decoded
    · cases decoded
    · cases decoded
    · cases decoded
    · rw [decodeRoutingTablePorts] at decoded
      split at decoded
      · cases decoded
      · obtain ⟨later, decodedLater, same⟩ := bind_eq_ok.mp decoded
        cases same
        obtain ⟨counted, fits⟩ := ih decodedLater
        refine ⟨by rw [List.length_cons, counted], List.forall_mem_cons.mpr ⟨?_, fits⟩⟩
        refine ⟨fromTwo_lt first second, portId.toNat_lt, ?_⟩
        exact Nat.lt_of_le_of_lt (List.length_take_le _ _) length.toNat_lt

theorem encodable_of_decodedTable (decoded : decodeRoutingTable data = .ok ports)
    : EncodableTable ports := by
  cases data with
  | nil => cases decoded
  | cons count rest =>
    obtain ⟨counted, fits⟩ := encodable_of_decodedPorts decoded
    exact ⟨counted ▸ count.toNat_lt, fits⟩

/-- A message that was decoded has room in an encoding of its own type. -/
theorem encodable_of_decoded {messageType msg}
    (decoded : decodeNetworkMessage messageType data = .ok msg)
    : msg.Encodable ∧ msg.messageType = messageType := by
  rw [decodeNetworkMessage.eq_def] at decoded
  split at decoded
  · split at decoded
    · cases decoded
      exact ⟨fun _ none => absurd none (by simp), rfl⟩
    · cases decoded
    · cases decoded
      exact ⟨fun number same => Option.some.inj same ▸ fromTwo_lt _ _, rfl⟩
  · obtain ⟨networks, listed, rfl⟩ := map_eq_ok.mp decoded
    exact ⟨encodable_of_decodedList listed, rfl⟩
  · split at decoded
    · cases decoded
      exact ⟨⟨fromTwo_lt _ _, UInt8.toNat_lt _⟩, rfl⟩
    · cases decoded
  · split at decoded
    · obtain ⟨reason, _, rfl⟩ := map_eq_ok.mp decoded
      exact ⟨fromTwo_lt _ _, rfl⟩
    · cases decoded
  · obtain ⟨networks, listed, rfl⟩ := map_eq_ok.mp decoded
    exact ⟨encodable_of_decodedList listed, rfl⟩
  · obtain ⟨networks, listed, rfl⟩ := map_eq_ok.mp decoded
    exact ⟨encodable_of_decodedList listed, rfl⟩
  · obtain ⟨ports, listed, rfl⟩ := map_eq_ok.mp decoded
    exact ⟨encodable_of_decodedTable listed, rfl⟩
  · obtain ⟨ports, listed, rfl⟩ := map_eq_ok.mp decoded
    exact ⟨encodable_of_decodedTable listed, rfl⟩
  · split at decoded
    · cases decoded
      exact ⟨⟨fromTwo_lt _ _, UInt8.toNat_lt _⟩, rfl⟩
    · cases decoded
  · split at decoded
    · cases decoded
      exact ⟨fromTwo_lt _ _, rfl⟩
    · cases decoded
  · cases decoded
    exact ⟨trivial, rfl⟩
  · split at decoded
    · cases decoded
      exact ⟨fromTwo_lt _ _, rfl⟩
    · cases decoded
  · cases decoded

-- What an encoder makes of it

/-- A network is two octets that say its number. -/
theorem encodeNetwork_eq_ok {network} (small : network < 65536)
    : ∃ first second, encodeNetwork network = .ok [first, second]
      ∧ fromBytes [first, second] = network :=
  ⟨_, _, if_pos small, fromBytes_toBytes (show network < 256 ^ 2 by omega)⟩

/-- A list of networks is their octets one after the other, by induction on the list. -/
theorem encodeNetworkList_eq_ok (small : ∀ network ∈ networks, network < 65536)
    : ∃ data, encodeNetworkList networks = .ok data ∧ networksOf data = networks
      ∧ data.length = 2 * networks.length := by
  induction networks with
  | nil => exact ⟨[], rfl, rfl, rfl⟩
  | cons network rest ih =>
    obtain ⟨here, later⟩ := List.forall_mem_cons.mp small
    obtain ⟨first, second, encoded, number⟩ := encodeNetwork_eq_ok here
    obtain ⟨data, listed, read, length⟩ := ih later
    obtain ⟨octets, each, same⟩ := bind_eq_ok.mp listed
    cases same
    refine ⟨first :: second :: octets.flatten, ?_, ?_, ?_⟩
    · rw [encodeNetworkList, List.mapM_cons, encoded, each]
      rfl
    · rw [networksOf, number, read]
    · simp only [List.length_cons, length]
      omega

theorem decodeNetworkList_eq_ok (fits : EncodableList networks)
    : ∃ data, encodeNetworkList networks = .ok data ∧ decodeNetworkList data = .ok networks := by
  obtain ⟨data, encoded, read, length⟩ := encodeNetworkList_eq_ok fits.numbers
  have few := fits.length
  refine ⟨data, encoded, ?_⟩
  rw [decodeNetworkList, if_neg (by omega), if_neg (by omega), read]

/-- The entries of a table are read one after the other, by induction on them. -/
theorem decodeRoutingTablePorts_eq_ok (fits : ∀ port ∈ ports, port.Encodable)
    : ∃ encoded, ports.mapM RoutingTablePort.encode = .ok encoded
      ∧ decodeRoutingTablePorts ports.length encoded.flatten = .ok ports := by
  induction ports with
  | nil => exact ⟨[], rfl, rfl⟩
  | cons port rest ih =>
    obtain ⟨here, later⟩ := List.forall_mem_cons.mp fits
    obtain ⟨first, second, encoded, number⟩ := encodeNetwork_eq_ok here.network
    obtain ⟨others, each, read⟩ := ih later
    have portId : (UInt8.ofNat port.portId).toNat = port.portId :=
      Nat.mod_eq_of_lt here.portId
    have length : (UInt8.ofNat port.portInfo.length).toNat = port.portInfo.length :=
      Nat.mod_eq_of_lt here.portInfo
    refine ⟨([first, second] ++ [UInt8.ofNat port.portId, UInt8.ofNat port.portInfo.length]
      ++ port.portInfo) :: others, ?_, ?_⟩
    · rw [List.mapM_cons, RoutingTablePort.encode, encoded, each]
      rfl
    · change decodeRoutingTablePorts (rest.length + 1) (first :: second :: _ :: _
        :: (port.portInfo ++ others.flatten)) = _
      rw [decodeRoutingTablePorts, if_neg (by rw [length, List.length_append]; omega), length,
        List.take_left, List.drop_left, read, number, portId]
      rfl

theorem decodeRoutingTable_eq_ok (fits : EncodableTable ports)
    : ∃ data, encodeRoutingTable ports = .ok data ∧ decodeRoutingTable data = .ok ports := by
  obtain ⟨encoded, each, read⟩ := decodeRoutingTablePorts_eq_ok fits.entries
  have count : (UInt8.ofNat ports.length).toNat = ports.length := Nat.mod_eq_of_lt fits.length
  refine ⟨UInt8.ofNat ports.length :: encoded.flatten, ?_, ?_⟩
  · rw [encodeRoutingTable, octet_ok fits.length, each]
    rfl
  · rw [decodeRoutingTable, count, read]

/-- A message is decoded as it was encoded exactly if everything it says has room. -/
theorem networkMessage_roundTrips_iff {msg : NetworkMessage} : msg.RoundTrips ↔ msg.Encodable := by
  constructor
  · rintro ⟨data, _, decoded⟩
    exact (encodable_of_decoded decoded).1
  · intro fits
    cases msg with
    | whoIsRouterToNetwork network =>
      cases network with
      | none => exact ⟨[], rfl, rfl⟩
      | some network =>
        obtain ⟨first, second, encoded, number⟩ := encodeNetwork_eq_ok (fits network rfl)
        exact ⟨[first, second], encoded, number ▸ rfl⟩
    | iAmRouterToNetwork networks =>
      obtain ⟨data, encoded, decoded⟩ := decodeNetworkList_eq_ok fits
      exact ⟨data, encoded, map_eq_ok.mpr ⟨networks, decoded, rfl⟩⟩
    | routerBusyToNetwork networks =>
      obtain ⟨data, encoded, decoded⟩ := decodeNetworkList_eq_ok fits
      exact ⟨data, encoded, map_eq_ok.mpr ⟨networks, decoded, rfl⟩⟩
    | routerAvailableToNetwork networks =>
      obtain ⟨data, encoded, decoded⟩ := decodeNetworkList_eq_ok fits
      exact ⟨data, encoded, map_eq_ok.mpr ⟨networks, decoded, rfl⟩⟩
    | initializeRoutingTable ports =>
      obtain ⟨data, encoded, decoded⟩ := decodeRoutingTable_eq_ok fits
      exact ⟨data, encoded, map_eq_ok.mpr ⟨ports, decoded, rfl⟩⟩
    | initializeRoutingTableAck ports =>
      obtain ⟨data, encoded, decoded⟩ := decodeRoutingTable_eq_ok fits
      exact ⟨data, encoded, map_eq_ok.mpr ⟨ports, decoded, rfl⟩⟩
    | iCouldBeRouterToNetwork network performanceIndex =>
      obtain ⟨first, second, encoded, number⟩ := encodeNetwork_eq_ok fits.1
      refine ⟨[first, second, UInt8.ofNat performanceIndex],
        bind_eq_ok.mpr ⟨_, encoded, rfl⟩, ?_⟩
      change Except.ok (NetworkMessage.iCouldBeRouterToNetwork _ _) = _
      rw [number, UInt8.toNat_ofNat', Nat.mod_eq_of_lt fits.2]
    | establishConnectionToNetwork network terminationTime =>
      obtain ⟨first, second, encoded, number⟩ := encodeNetwork_eq_ok fits.1
      refine ⟨[first, second, UInt8.ofNat terminationTime],
        bind_eq_ok.mpr ⟨_, encoded, rfl⟩, ?_⟩
      change Except.ok (NetworkMessage.establishConnectionToNetwork _ _) = _
      rw [number, UInt8.toNat_ofNat', Nat.mod_eq_of_lt fits.2]
    | rejectMessageToNetwork reason network =>
      obtain ⟨first, second, encoded, _⟩ := encodeNetwork_eq_ok fits
      have whole : encodeNetworkMessage (.rejectMessageToNetwork reason network)
          = .ok [UInt8.ofNat reason.toNat, first, second] := bind_eq_ok.mpr ⟨_, encoded, rfl⟩
      exact ⟨_, whole, decode_rejectMessage whole⟩
    | disconnectConnectionToNetwork network =>
      obtain ⟨first, second, encoded, number⟩ := encodeNetwork_eq_ok fits
      exact ⟨[first, second], encoded, number ▸ rfl⟩
    | whatIsNetworkNumber => exact ⟨[], rfl, rfl⟩
    | networkNumberIs network configured =>
      obtain ⟨first, second, encoded, number⟩ := encodeNetwork_eq_ok fits
      refine ⟨[first, second, if configured then 1 else 0],
        bind_eq_ok.mpr ⟨_, encoded, rfl⟩, ?_⟩
      change Except.ok (NetworkMessage.networkNumberIs _ _) = _
      rw [number]
      cases configured <;> rfl

end BacPy
