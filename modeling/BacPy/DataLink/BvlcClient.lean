import BacPy.DataLink.Bip
import BacPy.Library.Dict

/-! The client side of `BIPTransport`: operations on remote BBMDs, whose replies are found by their
function and their source.
-/

namespace BacPy

open Library

-- Operations

/-- `read_bdt`, `write_bdt`, `read_fdt` and `delete_fdt_entry`. -/
inductive BvlcOperation where
  | readBdt
  | writeBdt (entries : List BDTEntry)
  | readFdt
  | deleteFdtEntry (entryAddress : BIPAddress)
  deriving DecidableEq

namespace BvlcOperation

/-- The message that the operation sends. -/
def bvll : BvlcOperation → Except PyException Bytes
  | readBdt => encodeBvll .readBroadcastDistributionTable []
  | writeBdt entries =>
    encodeBvll .writeBroadcastDistributionTable (entries.map BDTEntry.encode).flatten
  | readFdt => encodeBvll .readForeignDeviceTable []
  | deleteFdtEntry entryAddress =>
    encodeBvll .deleteForeignDeviceTableEntry entryAddress.encode

def expectedResponse : BvlcOperation → BvlcFunction
  | readBdt => .readBroadcastDistributionTableAck
  | readFdt => .readForeignDeviceTableAck
  | writeBdt _ | deleteFdtEntry _ => .bvlcResult

end BvlcOperation

/-- The future of a request: it waits for its result, or it is done. -/
inductive BvlcFuture where
  | waiting
  | result (data : Bytes)
  /-- `BvlcNakError` -/
  | nak (resultCode : Nat) (source : BIPAddress)
  deriving DecidableEq

/-- A call of `_bvlc_request` that has not ended. -/
structure BvlcRequest where
  operation : BvlcOperation
  destination : BIPAddress
  future : BvlcFuture := .waiting
  deriving DecidableEq

/-- The key of the request in `_pending_bvlc`. -/
def BvlcRequest.key (request : BvlcRequest) : BvlcFunction × BIPAddress :=
  (request.operation.expectedResponse, request.destination)

-- Ends of operations

/-- The way an operation ends. -/
inductive BvlcOutcome where
  | bdt (entries : List BDTEntry)
  /-- the addresses and the times to live -/
  | fdt (entries : List (BIPAddress × Nat))
  | code (resultCode : BvlcResultCode)
  | nak (resultCode : Nat) (source : BIPAddress)
  | raised (exception : PyException)
  | timeout

/-- The entries of a table; octets behind the last whole one are ignored. -/
def tableEntries {Entry : Type} (size : Nat) (decode : Bytes → Except PyException Entry)
    (data : Bytes)
    : Except PyException (List Entry) :=
  (List.range (data.length / size)).mapM fun index =>
    decode (slice data (index * size) (index * size + size))

/-- An entry of a foreign device table as it is read from a remote BBMD. -/
def decodeRemoteFdtEntry (data : Bytes) : Except PyException (BIPAddress × Nat) := do
  let address ← BIPAddress.decode (slice data 0 6)
  .ok (address, fromBytes (slice data 6 8))

/-- `BvlcResultCode(value)` -/
def BvlcResultCode.ofNat? (value : Nat) : Option BvlcResultCode :=
  [
    .successfulCompletion, .writeBroadcastDistributionTableNak, .readBroadcastDistributionTableNak,
    .registerForeignDeviceNak, .readForeignDeviceTableNak, .deleteForeignDeviceTableEntryNak,
    .distributeBroadcastToNetworkNak
  ].find? fun code => code.toNat = value

/-- The result code in a reply; a reply without one counts as a refusal. -/
def resultCode (refusal : BvlcResultCode) (data : Bytes) : BvlcOutcome :=
  if data.length < 2 then .code refusal
  else
    match BvlcResultCode.ofNat? (fromBytes (slice data 0 2)) with
    | some code => .code code
    | none => .raised (.valueError "not a valid BvlcResultCode")

/-- What an operation makes of the octets of its reply. -/
def BvlcOperation.returns (operation : BvlcOperation) (data : Bytes) : BvlcOutcome :=
  match operation with
  | readBdt =>
    match tableEntries 10 BDTEntry.decode data with
    | .ok entries => .bdt entries
    | .error exception => .raised exception
  | readFdt =>
    match tableEntries 10 decodeRemoteFdtEntry data with
    | .ok entries => .fdt entries
    | .error exception => .raised exception
  | writeBdt _ => resultCode .writeBroadcastDistributionTableNak data
  | deleteFdtEntry _ => resultCode .deleteForeignDeviceTableEntryNak data

/-- How a request whose future is done ends. -/
def BvlcRequest.outcome (request : BvlcRequest) : BvlcOutcome :=
  match request.future with
  | .waiting => .timeout
  | .result data => request.operation.returns data
  | .nak resultCode source => .nak resultCode source

-- The client

/-- What `BIPTransport` has for its operations: `_pending_bvlc`, with numbers for the futures, the
requests that have not ended, and the foreign device.
-/
structure BvlcClient where
  localAddress : BIPAddress
  pendingBvlc : Dict (BvlcFunction × BIPAddress) Nat := Dict.empty
  requests : Dict Nat BvlcRequest := Dict.empty
  foreignDevice : Option ForeignDeviceManager := none

namespace BvlcClient

/-- `_bvlc_request` up to the point where it waits. -/
def beginRequest (client : BvlcClient) (id : Nat) (operation : BvlcOperation)
    (destination : BIPAddress)
    : BvlcClient :=
  let request : BvlcRequest := { operation, destination }
  {
    client with
    pendingBvlc := client.pendingBvlc.set request.key id
    requests := client.requests.set id request
  }

/-- The end of `_bvlc_request`: whatever is under the key goes. -/
def endRequest (client : BvlcClient) (id : Nat) (request : BvlcRequest) : BvlcClient :=
  {
    client with
    pendingBvlc := client.pendingBvlc.pop request.key
    requests := client.requests.pop id
  }

/-- `self._pending_bvlc.get(key)`, if that is not done. -/
def futureAt (client : BvlcClient) (key : BvlcFunction × BIPAddress) : Option (Nat × BvlcRequest) :=
  match client.pendingBvlc.get key with
  | none => none
  | some id =>
    match client.requests.get id with
    | none => none
    | some request => if request.future = .waiting then some (id, request) else none

/-- `future.set_result` or `future.set_exception` -/
def complete (client : BvlcClient) (id : Nat) (request : BvlcRequest) (future : BvlcFuture)
    : BvlcClient :=
  { client with requests := client.requests.set id { request with future } }

/-- `_resolve_pending_bvlc`: the client afterwards, if there is a future to be resolved. -/
def resolvePendingBvlc (client : BvlcClient) (function : BvlcFunction) (data : Bytes)
    (source : BIPAddress)
    : Option BvlcClient :=
  (client.futureAt (function, source)).map fun (id, request) =>
    client.complete id request (.result data)

def nakToPendingAck (resultCode : Nat) : Option BvlcFunction :=
  if resultCode = 0x20 then some .readBroadcastDistributionTableAck
  else if resultCode = 0x40 then some .readForeignDeviceTableAck
  else if resultCode = 0x10 then some .writeBroadcastDistributionTable
  else if resultCode = 0x50 then some .deleteForeignDeviceTableEntry
  else none

/-- The part of `_handle_bvlc_result` for the foreign device. -/
def notifyForeignDevice (client : BvlcClient) (data : Bytes) (source : BIPAddress) : BvlcClient :=
  {
    client with
    foreignDevice := client.foreignDevice.map fun device =>
      if source = device.bbmdAddress then device.handleBvlcResult data else device
  }

/-- The part of `_handle_bvlc_result` for a request that is refused. No request waits for a code
that is unknown, so it does not matter that the foreign device raises then.
-/
def refuse (client : BvlcClient) (data : Bytes) (source : BIPAddress) : BvlcClient :=
  let code := fromBytes (slice data 0 2)
  if data.length < 2 then client
  else
    match (nakToPendingAck code).bind fun function => client.futureAt (function, source) with
    | none => client
    | some (id, request) => client.complete id request (.nak code source)

def handleBvlcResult (client : BvlcClient) (data : Bytes) (source : BIPAddress) : BvlcClient :=
  (client.notifyForeignDevice data source).refuse data source

/-- The normal receive path of `_on_datagram_received`, as far as it is about operations. -/
def receive (client : BvlcClient) (function : BvlcFunction) (data : Bytes) (source : BIPAddress)
    : BvlcClient :=
  if source = client.localAddress then client
  else
    match function with
    | .bvlcResult =>
      match client.resolvePendingBvlc function data source with
      | some resolved => resolved
      | none => client.handleBvlcResult data source
    | .readBroadcastDistributionTableAck | .readForeignDeviceTableAck =>
      match client.resolvePendingBvlc function data source with
      | some resolved => resolved
      | none => client
    | _ => client

end BvlcClient

end BacPy
