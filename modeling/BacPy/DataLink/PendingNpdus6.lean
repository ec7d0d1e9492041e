import BacPy.DataLink.AddressResolution6

/-! NPDUs that wait at a BACnet/IPv6 port for the address of their destination, over whole runs: the
address cache learns from every message with a source VMAC, while only an Address-Resolution-ACK ends
the waiting.
-/

namespace BacPy

open Library

/-- What happens at a port: an NPDU is sent to a VMAC, which has three octets, or as a broadcast, or a
datagram arrives.
-/
inductive Bip6Event where
  | unicast (now : Rat) (npdu vmac : Bytes) (three : vmac.length = 3)
  | broadcast (now : Rat) (npdu : Bytes)
  | datagram (now : Rat) (data : Bytes) (addr : BIP6Address)

/-- What becomes of an NPDU that has waited. -/
inductive PendingFate where
  | sent (address : BIP6Address)
  | overflowed
  | expired

def PendingFate.address? : PendingFate → Option BIP6Address
  | sent address => some address
  | overflowed | expired => none

namespace BIP6Transport

/-- The port after an event, and what it has done. What raises leaves it as it was. -/
def handle (transport : BIP6Transport) : Bip6Event → BIP6Transport × List Bip6Output
  | .unicast now npdu vmac _ =>
    match transport.sendUnicast npdu vmac now with
    | .error _ => (transport, [])
    | .ok result => result
  | .broadcast now npdu => (transport, (transport.sendBroadcast npdu now).1)
  | .datagram now data addr => transport.onDatagramReceived now data addr

/-- The same as a step of a run. -/
def proceed (transport : BIP6Transport) (event : Bip6Event) : Option BIP6Transport :=
  some (transport.handle event).1

-- What waits and what becomes of it

/-- The VMAC whose Address-Resolution-ACK arrives from another node. -/
def acknowledged (transport : BIP6Transport) (data : Bytes) : Option Bytes :=
  match decodeBvll6 data with
  | .error _ => none
  | .ok msg =>
    if msg.function = .addressResolutionAck ∧ msg.source ≠ some transport.vmac then msg.source
    else none

/-- Whether an NPDU for a VMAC is to wait: the port has no address that is fresh, and NPDUs for the
VMAC wait already or those for less than 1024 VMACs do.
-/
def HasToWait (transport : BIP6Transport) (now : Rat) (vmac : Bytes) : Prop :=
  (transport.vmacCache.get now vmac).1 = none
  ∧ ¬ ((transport.pendingResolutions.get vmac).isNone
    ∧ 1024 ≤ transport.pendingResolutions.size)

instance (transport : BIP6Transport) (now : Rat) (vmac : Bytes)
    : Decidable (transport.HasToWait now vmac) :=
  inferInstanceAs (Decidable (_ ∧ _))

def queued (transport : BIP6Transport) (vmac : Bytes) : Bip6Event → List PendingResolution
  | .unicast now npdu dest _ =>
    if dest = vmac ∧ transport.HasToWait now vmac then [{ npdu, created := now }] else []
  | .broadcast _ _ => []
  | .datagram _ _ _ => []

/-- What ends to wait for a VMAC with an event: the first NPDU makes room if 16 wait, and all of them
end with an Address-Resolution-ACK, those that have waited for more than 30 seconds without being
sent.
-/
def settled (transport : BIP6Transport) (vmac : Bytes)
    : Bip6Event → List (PendingResolution × PendingFate)
  | .unicast now _ dest _ =>
    if (dest = vmac ∧ transport.HasToWait now vmac)
        ∧ 16 ≤ (transport.waitingFor vmac).length then
      ((transport.waitingFor vmac).take 1).map fun item => (item, .overflowed)
    else []
  | .broadcast _ _ => []
  | .datagram now data addr =>
    if transport.acknowledged data = some vmac then
      (transport.waitingFor vmac).map fun item =>
        (item, if 30 < now - item.created then .expired else .sent addr)
    else []

/-- An NPDU for a VMAC on its way to an address. -/
structure Dispatch where
  npdu : Bytes
  vmac : Bytes
  address : BIP6Address

/-- The NPDUs for single nodes that are sent with an event: one whose address is known, or those that
end to wait and are sent.
-/
def dispatched (transport : BIP6Transport) : Bip6Event → List Dispatch
  | .unicast now npdu vmac _ =>
    match (transport.vmacCache.get now vmac).1 with
    | none => []
    | some address => [{ npdu, vmac, address }]
  | .broadcast _ _ => []
  | .datagram now data addr =>
    match transport.acknowledged data with
    | none => []
    | some vmac => (transport.settled vmac (.datagram now data addr)).filterMap fun entry =>
      entry.2.address?.map fun address => { npdu := entry.1.npdu, vmac, address }

/-- A datagram with an NPDU for a single node. -/
def IsUnicast (data : Bytes) : Prop :=
  ∃ msg, decodeBvll6 data = .ok msg ∧ msg.function = .originalUnicastNpdu

/-- A datagram that carries an NPDU to the node with the VMAC, at its address. -/
def Delivers (transport : BIP6Transport) (output : Bip6Output) (dispatch : Dispatch) : Prop :=
  ∃ data, output = .sendto data dispatch.address
    ∧ decodeBvll6 data = .ok (unicastMessage dispatch.npdu transport.vmac dispatch.vmac)

/-- No datagram with an NPDU for a single node is among what is done. -/
def NoUnicast (outputs : List Bip6Output) : Prop :=
  ∀ data dest, .sendto data dest ∈ outputs → ¬ IsUnicast data

/-- What an event does about the NPDUs for single nodes: those that have waited or start to wait for a
VMAC end to wait in this order or go on to wait, what is sent is in its order, for once, and to the
address that the port then has for the VMAC, and what else is done sends none.
-/
structure Accounts (transport : BIP6Transport) (event : Bip6Event) : Prop where
  conserved : ∀ vmac, transport.waitingFor vmac ++ transport.queued vmac event
    = (transport.settled vmac event).map Prod.fst ++ (transport.handle event).1.waitingFor vmac
  sent : ∃ unicasts, List.Forall₂ transport.Delivers unicasts (transport.dispatched event)
    ∧ ((transport.handle event).2 = unicasts
      ∨ unicasts = [] ∧ NoUnicast (transport.handle event).2)
  resolved : ∀ dispatch ∈ transport.dispatched event,
    (transport.handle event).1.resolved dispatch.vmac = some dispatch.address

end BIP6Transport

-- The cache

namespace VMACCache

variable {cache : VMACCache} {now : Rat} {vmac other : Bytes} {addr : BIP6Address}

/-- Room is made by deletions only. -/
theorem get_makeRoom (absent : cache.entries.get vmac = none)
    : (cache.makeRoom now).entries.get vmac = none := by
  have evicted : (cache.evictStale now).entries.get vmac = none := by
    unfold evictStale
    dsimp only
    rw [OrderedDict.get_foldl_pop, absent, ite_self]
  unfold makeRoom
  dsimp only
  split
  · unfold dropOldest
    split
    · exact evicted
    · dsimp only
      rw [OrderedDict.get_pop, evicted, ite_self]
  · exact evicted

/-- A cache that learns of one VMAC knows no other one that it did not know. -/
theorem get_put (different : vmac ≠ other) (absent : cache.entries.get vmac = none)
    : (cache.put now other addr).entries.get vmac = none := by
  unfold put
  dsimp only
  rw [OrderedDict.get_set_ne different]
  split
  · exact get_makeRoom absent
  · exact absent

/-- A lookup deletes at most what it looks for. -/
theorem get_get (absent : cache.entries.get vmac = none)
    : (cache.get now other).2.entries.get vmac = none := by
  unfold get
  split
  · exact absent
  · split
    · dsimp only
      rw [OrderedDict.get_pop, absent, ite_self]
    · exact absent

/-- A cache without an entry has no address. -/
theorem get_of_absent (absent : cache.entries.get vmac = none)
    : cache.get now vmac = (none, cache) := by
  unfold get
  rw [absent]

end VMACCache

namespace BIP6Transport

variable {transport next : BIP6Transport} {now : Rat} {vmac other npdu data : Bytes}
  {addr : BIP6Address} {msg : Bvll6Message}

-- Messages that end no waiting

/-- The port afterwards waits for the same, and knows no VMAC but the named one that it did not
know.
-/
structure Learns (named : Option Bytes) (transport next : BIP6Transport) : Prop where
  vmac : next.vmac = transport.vmac
  pending : next.pendingResolutions = transport.pendingResolutions
  absent : ∀ vmac, named ≠ some vmac → transport.vmacCache.entries.get vmac = none
    → next.vmacCache.entries.get vmac = none

theorem Learns.refl (named : Option Bytes) (transport : BIP6Transport)
    : Learns named transport transport :=
  ⟨rfl, rfl, fun _ _ absent => absent⟩

theorem Learns.trans {named last} (first : Learns named transport next)
    (second : Learns named next last)
    : Learns named transport last :=
  ⟨second.vmac.trans first.vmac, second.pending.trans first.pending,
    fun vmac different absent => second.absent vmac different (first.absent vmac different absent)⟩

theorem learns_remember (transport : BIP6Transport) (now : Rat) (vmac : Bytes) (addr : BIP6Address)
    : Learns (some vmac) transport (transport.remember now vmac addr) :=
  ⟨rfl, rfl, fun _ different absent =>
    VMACCache.get_put (fun same => different (congrArg some same.symm)) absent⟩

theorem learns_handleAddressResolution {payload}
    : Learns (some vmac) transport (transport.handleAddressResolution now vmac payload addr).1 := by
  unfold handleAddressResolution
  split
  · exact .refl _ _
  · exact learns_remember transport now vmac addr

theorem learns_handleBvlc6Result (named : Option Bytes)
    : Learns named transport (transport.handleBvlc6Result data addr) := by
  unfold handleBvlc6Result
  split
  · exact .refl _ _
  · split
    · exact ⟨rfl, rfl, fun _ _ absent => absent⟩
    · exact .refl _ _

/-- Only an Address-Resolution-ACK of a node ends the waiting. -/
def EndsNoWaiting (msg : Bvll6Message) : Prop :=
  msg.function = .addressResolutionAck → msg.source = none

theorem learns_receiveMessage (endsNone : EndsNoWaiting msg)
    : Learns msg.source transport (transport.receiveMessage now msg addr).1 := by
  unfold receiveMessage
  split
  · exact .refl _ _
  · exact .refl _ _
  · exact .refl _ _
  · next named => rw [named]; exact learns_handleAddressResolution
  · next named => rw [named]; exact learns_handleAddressResolution
  · next ack named => cases (endsNone ack).symm.trans named
  · next named => rw [named]; exact learns_remember _ _ _ _
  · next named => rw [named]; exact learns_remember _ _ _ _
  · exact learns_handleBvlc6Result _
  · exact .refl _ _
  · exact .refl _ _
  · exact .refl _ _
  · exact .refl _ _

theorem learns_receiveWithBbmd {bbmd} (endsNone : EndsNoWaiting msg)
    : Learns msg.source transport (transport.receiveWithBbmd bbmd now msg addr).1 := by
  unfold receiveWithBbmd
  dsimp only
  split
  · exact .refl _ _
  · next after outputs handled handles =>
      have attached : Learns msg.source transport { transport with bbmd := some after } :=
        ⟨rfl, rfl, fun _ _ absent => absent⟩
      split
      · exact attached
      · exact attached.trans (learns_receiveMessage endsNone)

/-- What a port learns before it looks at a message. -/
theorem learns_source (transport : BIP6Transport) (now : Rat) (msg : Bvll6Message)
    (addr : BIP6Address)
    : Learns msg.source transport
        ((msg.source.map fun vmac => transport.remember now vmac addr).getD transport) := by
  cases msg.source with
  | none => exact .refl _ _
  | some vmac => exact learns_remember transport now vmac addr

theorem acknowledged_cases (decoded : decodeBvll6 data = .ok msg)
    (other : msg.source ≠ some transport.vmac)
    : (msg.function = .addressResolutionAck ∧ transport.acknowledged data = msg.source)
      ∨ EndsNoWaiting msg ∧ transport.acknowledged data = none := by
  unfold acknowledged
  rw [decoded]
  dsimp only
  by_cases ack : msg.function = .addressResolutionAck
  · rw [if_pos ⟨ack, other⟩]
    exact .inl ⟨ack, rfl⟩
  · rw [if_neg fun both => ack both.1]
    exact .inr ⟨fun same => absurd same ack, rfl⟩

/-- A datagram that is no Address-Resolution-ACK of another node ends no waiting. -/
theorem learns_onDatagramReceived (unacknowledged : transport.acknowledged data = none)
    : ∃ named, Learns named transport (transport.onDatagramReceived now data addr).1
        ∧ ∀ vmac, named = some vmac → ∃ msg, decodeBvll6 data = .ok msg
          ∧ msg.source = some vmac ∧ vmac ≠ transport.vmac
          ∧ msg.function ≠ .addressResolutionAck := by
  unfold onDatagramReceived
  cases decoded : decodeBvll6 data with
  | error raised => exact ⟨none, Learns.refl _ _, nofun⟩
  | ok msg =>
    dsimp only
    by_cases own : msg.source = some transport.vmac
    · rw [if_pos own]
      exact ⟨none, Learns.refl _ _, nofun⟩
    · have endsNone : EndsNoWaiting msg := by
        rcases acknowledged_cases decoded own with ⟨_, same⟩ | ⟨endsNone, _⟩
        · exact fun _ => same.symm.trans unacknowledged
        · exact endsNone
      rw [if_neg own]
      refine ⟨msg.source, ?_, fun vmac named => ⟨msg, rfl, named, ?_, fun ack => ?_⟩⟩
      · split
        · exact (learns_source transport now msg addr).trans (learns_receiveMessage endsNone)
        · exact (learns_source transport now msg addr).trans (learns_receiveWithBbmd endsNone)
      · rintro rfl
        exact own named
      · cases (endsNone ack).symm.trans named

-- Messages that carry no NPDU to a single node

/-- What is encoded for another function is no NPDU for a single node. -/
theorem not_isUnicast {function payload source dest origin}
    (encoded : encodeBvll6 function payload source dest origin = .ok data)
    (otherwise : function ≠ .originalUnicastNpdu)
    : ¬ IsUnicast data := by
  rintro ⟨msg, decoded, unicast⟩
  cases Except.ok.inj ((decodeBvll6_encoded encoded).symm.trans decoded)
  exact otherwise unicast

theorem noUnicast_nil : NoUnicast [] := nofun

theorem noUnicast_append {first second} (one : NoUnicast first) (another : NoUnicast second)
    : NoUnicast (first ++ second) :=
  fun data dest member => (List.mem_append.mp member).elim (one data dest) (another data dest)

theorem noUnicast_deliver : NoUnicast (transport.deliver npdu vmac) :=
  fun _ _ member => absurd member sendto_not_mem_deliver

theorem noUnicast_sendTo {function payload source dest origin}
    (otherwise : function ≠ .originalUnicastNpdu) (addr : BIP6Address)
    : NoUnicast (sendTo (encodeBvll6 function payload source dest origin) addr) := by
  intro data dest member
  unfold sendTo at member
  split at member
  · cases member
  · next bvll encoded =>
      cases List.mem_singleton.mp member
      exact not_isUnicast encoded otherwise

theorem noUnicast_handleAddressResolution {payload}
    : NoUnicast (transport.handleAddressResolution now vmac payload addr).2 := by
  unfold handleAddressResolution
  split
  · exact noUnicast_nil
  · dsimp only
    split
    · exact noUnicast_sendTo (by decide) addr
    · exact noUnicast_nil

theorem noUnicast_sendBvlc6Nak {code}
    : NoUnicast (transport.sendBvlc6Nak code addr) := by
  unfold sendBvlc6Nak
  split
  · exact noUnicast_sendTo (by decide) addr
  · exact noUnicast_nil

theorem noUnicast_receiveMessage (endsNone : EndsNoWaiting msg)
    : NoUnicast (transport.receiveMessage now msg addr).2 := by
  unfold receiveMessage
  split
  · exact noUnicast_deliver
  · exact noUnicast_deliver
  · exact noUnicast_deliver
  · exact noUnicast_handleAddressResolution
  · exact noUnicast_handleAddressResolution
  · next ack named => cases (endsNone ack).symm.trans named
  · exact noUnicast_sendTo (by decide) addr
  · exact noUnicast_nil
  · exact noUnicast_nil
  · exact noUnicast_sendBvlc6Nak
  · exact noUnicast_sendBvlc6Nak
  · exact noUnicast_sendBvlc6Nak
  · exact noUnicast_nil

end BIP6Transport

-- What a BBMD sends

namespace BBMD6Manager

variable {manager next : BBMD6Manager} {outputs : List Bbmd6Output} {handled : Bool} {now : Rat}
  {npdu data sourceVmac : Bytes} {addr : BIP6Address}

/-- No datagram with an NPDU for a single node is among what a BBMD does. -/
def NoUnicast (outputs : List Bbmd6Output) : Prop :=
  (∀ data dest, .send data dest ∈ outputs → ¬ BIP6Transport.IsUnicast data)
  ∧ ∀ data, .multicast data ∈ outputs → ¬ BIP6Transport.IsUnicast data

theorem NoUnicast.append {first second} (one : NoUnicast first) (another : NoUnicast second)
    : NoUnicast (first ++ second) :=
  ⟨fun data dest member => (List.mem_append.mp member).elim (one.1 data dest) (another.1 data dest),
    fun data member => (List.mem_append.mp member).elim (one.2 data) (another.2 data)⟩

theorem noUnicast_sends {frame} (dests : List BIP6Address)
    (otherwise : ¬ BIP6Transport.IsUnicast frame)
    : NoUnicast (dests.map fun dest => .send frame dest) := by
  constructor
  · intro data dest member
    obtain ⟨_, _, same⟩ := List.mem_map.mp member
    cases same
    exact otherwise
  · intro data member
    obtain ⟨_, _, same⟩ := List.mem_map.mp member
    cases same

theorem noUnicast_multicastSend {frame} (otherwise : ¬ BIP6Transport.IsUnicast frame)
    : NoUnicast (manager.multicastSend frame) := by
  unfold multicastSend
  split
  · refine ⟨fun data dest member => ?_, fun data member => ?_⟩
    · cases List.mem_singleton.mp member
    · cases List.mem_singleton.mp member
      exact otherwise
  · exact ⟨nofun, nofun⟩

theorem noUnicast_localBroadcast : NoUnicast (manager.localBroadcast npdu sourceVmac) := by
  unfold localBroadcast
  split
  · refine ⟨fun data dest member => ?_, fun data member => ?_⟩
    · cases List.mem_singleton.mp member
    · cases List.mem_singleton.mp member
  · exact ⟨nofun, nofun⟩

theorem noUnicast_sendResult {code} (sent : manager.sendResult code addr = .ok (next, outputs))
    : NoUnicast outputs := by
  obtain ⟨frame, encoded, same⟩ := bind_eq_ok.mp sent
  cases same
  exact noUnicast_sends [addr] (BIP6Transport.not_isUnicast encoded (by decide))

theorem noUnicast_forwardToPeersAndFds {excludeFd}
    (forwards : manager.forwardToPeersAndFds npdu addr sourceVmac excludeFd = .ok outputs)
    : NoUnicast outputs := by
  obtain ⟨frame, encoded, same⟩ := bind_eq_ok.mp forwards
  cases same
  exact noUnicast_sends _ (BIP6Transport.not_isUnicast encoded (by decide))

theorem noUnicast_forwardedNpdu
    (handles : manager.handleForwardedNpdu npdu addr sourceVmac = .ok outputs)
    : NoUnicast outputs := by
  unfold handleForwardedNpdu at handles
  split at handles
  · cases handles
    exact ⟨nofun, nofun⟩
  · obtain ⟨frame, encoded, same⟩ := bind_eq_ok.mp handles
    cases same
    have otherwise := BIP6Transport.not_isUnicast encoded (by decide)
    exact ((noUnicast_sends _ otherwise).append (noUnicast_multicastSend otherwise)).append
      noUnicast_localBroadcast

theorem noUnicast_distributeBroadcast
    (handles : manager.handleDistributeBroadcast npdu addr sourceVmac = .ok outputs)
    : NoUnicast outputs := by
  unfold handleDistributeBroadcast at handles
  split at handles
  · obtain ⟨⟨_, sent⟩, refused, same⟩ := bind_eq_ok.mp handles
    cases same
    exact noUnicast_sendResult refused
  · obtain ⟨sent, forwards, handles⟩ := bind_eq_ok.mp handles
    obtain ⟨frame, encoded, same⟩ := bind_eq_ok.mp handles
    cases same
    have otherwise := BIP6Transport.not_isUnicast encoded (by decide)
    exact ((noUnicast_forwardToPeersAndFds forwards).append
      (noUnicast_multicastSend otherwise)).append noUnicast_localBroadcast

theorem noUnicast_handleBvlc {function sourceVmac}
    (handles : manager.handleBvlc now function data addr sourceVmac = .ok (next, outputs, handled))
    : NoUnicast outputs := by
  have kept : ∀ {result : Except PyException (List Bbmd6Output)} {consumed : Bool},
      manager.unchanged result consumed = .ok (next, outputs, handled)
      → result = .ok outputs := by
    intro result consumed unchanged
    obtain ⟨_, done, same⟩ := bind_eq_ok.mp unchanged
    cases same
    exact done
  have tables : ∀ {result : Except PyException (BBMD6Manager × List Bbmd6Output)},
      managed result = .ok (next, outputs, handled) → result = .ok (next, outputs) := by
    intro result managed
    obtain ⟨⟨_, _⟩, done, same⟩ := bind_eq_ok.mp managed
    cases same
    exact done
  unfold handleBvlc at handles
  cases function with
  | registerForeignDevice =>
    have done := tables handles
    unfold handleRegisterForeignDevice at done
    dsimp only at done
    split at done
    · exact noUnicast_sendResult done
    · split at done
      · exact noUnicast_sendResult done
      · exact noUnicast_sendResult done
  | deleteForeignDeviceTableEntry =>
    have done := tables handles
    unfold handleDeleteFdtEntry at done
    split at done
    · exact noUnicast_sendResult done
    · obtain ⟨_, _, done⟩ := bind_eq_ok.mp done
      split at done
      · exact noUnicast_sendResult done
      · exact noUnicast_sendResult done
  | originalBroadcastNpdu => exact noUnicast_forwardToPeersAndFds (kept handles)
  | forwardedNpdu => exact noUnicast_forwardedNpdu (kept handles)
  | distributeBroadcastNpdu => exact noUnicast_distributeBroadcast (kept handles)
  | addressResolution =>
    obtain ⟨frame, encoded, same⟩ := bind_eq_ok.mp (kept handles)
    cases same
    exact noUnicast_sends _ (BIP6Transport.not_isUnicast encoded (by decide))
  | _ => cases handles; exact ⟨nofun, nofun⟩

end BBMD6Manager

namespace BIP6Transport

variable {transport next : BIP6Transport} {now : Rat} {vmac other npdu data : Bytes}
  {addr : BIP6Address} {msg : Bvll6Message}

theorem noUnicast_perform {outputs} (otherwise : BBMD6Manager.NoUnicast outputs)
    : NoUnicast (outputs.flatMap transport.perform) := by
  intro data dest member
  obtain ⟨output, listed, performed⟩ := List.mem_flatMap.mp member
  cases output with
  | send frame destination =>
    cases List.mem_singleton.mp performed
    exact otherwise.1 _ _ listed
  | multicast frame =>
    cases List.mem_singleton.mp performed
    exact otherwise.2 _ listed
  | localBroadcast npdu sourceVmac => exact absurd performed sendto_not_mem_deliver

theorem noUnicast_receiveWithBbmd {bbmd} (endsNone : EndsNoWaiting msg)
    : NoUnicast (transport.receiveWithBbmd bbmd now msg addr).2 := by
  unfold receiveWithBbmd
  dsimp only
  split
  · exact noUnicast_nil
  · next after outputs handled handles =>
      have performed : NoUnicast (outputs.flatMap
          ({ transport with bbmd := some after } : BIP6Transport).perform) :=
        noUnicast_perform (BBMD6Manager.noUnicast_handleBvlc handles)
      split
      · exact performed
      · exact noUnicast_append performed (noUnicast_receiveMessage endsNone)

/-- Nothing that waits is sent for any other datagram. -/
theorem noUnicast_onDatagramReceived (unacknowledged : transport.acknowledged data = none)
    : NoUnicast (transport.onDatagramReceived now data addr).2 := by
  unfold onDatagramReceived
  cases decoded : decodeBvll6 data with
  | error raised => exact noUnicast_nil
  | ok msg =>
    dsimp only
    by_cases own : msg.source = some transport.vmac
    · rw [if_pos own]
      exact noUnicast_nil
    · have endsNone : EndsNoWaiting msg := by
        rcases acknowledged_cases decoded own with ⟨_, same⟩ | ⟨endsNone, _⟩
        · exact fun _ => same.symm.trans unacknowledged
        · exact endsNone
      rw [if_neg own]
      split
      · exact noUnicast_receiveMessage endsNone
      · exact noUnicast_receiveWithBbmd endsNone

theorem noUnicast_sendBroadcast : NoUnicast (transport.sendBroadcast npdu now).1 := by
  have single {function : Bvlc6Function} {frame : Bytes} {source : Option Bytes}
      (encoded : encodeBvll6 function npdu source = .ok frame)
      (otherwise : function ≠ .originalUnicastNpdu) (dest : BIP6Address)
      : NoUnicast [.sendto frame dest] := by
    intro data dest member
    cases List.mem_singleton.mp member
    exact not_isUnicast encoded otherwise
  unfold sendBroadcast
  split
  · split
    · exact noUnicast_nil
    · next encoded => exact single encoded (by decide) _
  · split
    · exact noUnicast_nil
    · next encoded =>
        have own := single encoded (by decide) transport.multicastGroup
        split
        · exact own
        · next forwarded forwards =>
            refine noUnicast_append own ?_
            unfold forwardOwnBroadcast at forwards
            split at forwards
            · cases forwards
              exact noUnicast_nil
            · obtain ⟨⟨_, outputs, _⟩, handles, same⟩ := bind_eq_ok.mp forwards
              cases same
              exact noUnicast_perform (BBMD6Manager.noUnicast_handleBvlc handles)

-- An acknowledgement

/-- An Address-Resolution-ACK of another node: the port has its address, nothing waits for it any
more, and what has waited is sent.
-/
theorem received_acknowledged (acknowledged : transport.acknowledged data = some vmac)
    : (transport.onDatagramReceived now data addr).2
          = transport.sendPending now vmac addr (transport.waitingFor vmac)
        ∧ (transport.onDatagramReceived now data addr).1.resolved vmac = some addr
        ∧ (transport.onDatagramReceived now data addr).1.vmac = transport.vmac
        ∧ (transport.onDatagramReceived now data addr).1.pendingResolutions
          = transport.pendingResolutions.pop vmac
        ∧ ∀ other, vmac ≠ other → transport.vmacCache.entries.get other = none
          → (transport.onDatagramReceived now data addr).1.vmacCache.entries.get other = none := by
  unfold BIP6Transport.acknowledged at acknowledged
  cases decoded : decodeBvll6 data with
  | error raised =>
    rw [decoded] at acknowledged
    cases acknowledged
  | ok msg =>
    rw [decoded] at acknowledged
    dsimp only at acknowledged
    split at acknowledged
    · next both =>
        obtain ⟨ack, different⟩ := both
        have other : vmac ≠ transport.vmac := fun same =>
          different (acknowledged.trans (congrArg some same))
        rw [received_left decoded acknowledged other (.inr (.inl ack))]
        unfold receiveMessage
        rw [acknowledged, ack]
        have same : ((transport.remember now vmac addr).remember now vmac addr).vmac
            = transport.vmac := rfl
        refine ⟨?_, ?_, rfl, rfl, fun another apart absent => ?_⟩
        · exact sendPending_vmac same _
        · exact resolved_remember (transport.remember now vmac addr) now vmac addr
        · exact VMACCache.get_put (Ne.symm apart) (VMACCache.get_put (Ne.symm apart) absent)
    · cases acknowledged

/-- The NPDUs that end to wait and are sent are those that are not too old. -/
theorem filterMap_settled (now : Rat) (vmac : Bytes) (addr : BIP6Address) (pending)
    : (pending.map fun item =>
          (item, if 30 < now - item.created then PendingFate.expired else .sent addr)).filterMap
        (fun entry : PendingResolution × PendingFate =>
          entry.2.address?.map fun address => ({ npdu := entry.1.npdu, vmac, address } : Dispatch))
      = (fresh now pending).map fun item => { npdu := item.npdu, vmac, address := addr } := by
  induction pending with
  | nil => rfl
  | cons item rest ih =>
    rw [List.map_cons, fresh]
    by_cases old : 30 < now - item.created
    · rw [if_pos old, List.filterMap_cons,
        List.filter_cons_of_neg (by rw [decide_eq_true_iff, not_not]; exact old)]
      exact ih
    · rw [if_neg old, List.filterMap_cons,
        List.filter_cons_of_pos (by rw [decide_eq_true_iff]; exact old), List.map_cons]
      exact congrArg _ ih

-- An NPDU for a single node

/-- An address that is found leaves the cache as it was. -/
theorem get_eq_of_found {cache : VMACCache} (found : (cache.get now vmac).1 = some addr)
    : cache.get now vmac = (some addr, cache) := by
  unfold VMACCache.get at found ⊢
  split at found
  · cases found
  · split at found
    · cases found
    · next fresh =>
        rw [if_neg fresh]
        exact Prod.ext found rfl

theorem resolved_of_found (found : (transport.vmacCache.get now vmac).1 = some addr)
    : transport.resolved vmac = some addr := by
  unfold VMACCache.get at found
  split at found
  · cases found
  · next entry there =>
      split at found
      · cases found
      · rw [resolved, there]
        exact found

theorem exists_resolution (threeSource : transport.vmac.length = 3) (threeTarget : vmac.length = 3)
    : ∃ frame, encodeBvll6 .addressResolution vmac (some transport.vmac) = .ok frame := by
  have small : packLength (4 + (transport.vmac ++ ([] ++ ([] ++ vmac))).length)
      = .ok (toBytes (4 + (transport.vmac ++ ([] ++ ([] ++ vmac))).length) 2) := by
    refine packLength_ok ?_
    simp only [List.length_append, List.length_nil]
    omega
  exact ⟨_, bind_eq_ok.mpr ⟨transport.vmac, encodeVmac_ok threeSource _, bind_eq_ok.mpr ⟨[], rfl,
    bind_eq_ok.mpr ⟨[], rfl, bind_eq_ok.mpr ⟨_, small, rfl⟩⟩⟩⟩⟩

theorem handle_of_sendUnicast {three result}
    (sent : transport.sendUnicast npdu vmac now = .ok result)
    : transport.handle (.unicast now npdu vmac three) = result := by
  unfold handle
  dsimp only
  rw [sent]

/-- An NPDU whose address is known is sent. -/
theorem handle_found {three : vmac.length = 3} (own : transport.vmac.length = 3)
    (small : npdu.length ≤ 65525) (found : (transport.vmacCache.get now vmac).1 = some addr)
    : ∃ frame, decodeBvll6 frame = .ok (unicastMessage npdu transport.vmac vmac)
        ∧ transport.handle (.unicast now npdu vmac three) = (transport, [.sendto frame addr]) := by
  obtain ⟨frame, encoded, decoded⟩ := exists_unicastMessage own three small
  refine ⟨frame, decoded, handle_of_sendUnicast ?_⟩
  unfold sendUnicast
  rw [get_eq_of_found found]
  dsimp only
  rw [encoded]
  rfl

/-- An NPDU that has to wait is queued, and its address is asked for. -/
theorem handle_waits {three} (own : transport.vmac.length = 3)
    (waits : transport.HasToWait now vmac)
    : ∃ frame, ¬ IsUnicast frame
        ∧ transport.handle (.unicast now npdu vmac three)
          = (
            {
              transport with
              vmacCache := (transport.vmacCache.get now vmac).2
              pendingResolutions := transport.pendingResolutions.set vmac
                (enqueue (transport.waitingFor vmac) npdu now)
            },
            [.sendto frame transport.multicastGroup]) := by
  obtain ⟨frame, encoded⟩ := exists_resolution own three
  refine ⟨frame, not_isUnicast encoded (by decide), handle_of_sendUnicast ?_⟩
  unfold sendUnicast
  dsimp only
  rw [waits.1]
  dsimp only
  unfold queue
  dsimp only
  rw [if_neg waits.2, encoded]
  rfl

/-- An NPDU that finds too many VMACs waited for is dropped. -/
theorem handle_full {three} (missing : (transport.vmacCache.get now vmac).1 = none)
    (full : (transport.pendingResolutions.get vmac).isNone
      ∧ 1024 ≤ transport.pendingResolutions.size)
    : transport.handle (.unicast now npdu vmac three)
      = ({ transport with vmacCache := (transport.vmacCache.get now vmac).2 }, []) := by
  refine handle_of_sendUnicast ?_
  unfold sendUnicast
  dsimp only
  rw [missing]
  dsimp only
  unfold queue
  dsimp only
  rw [if_pos full]

-- Steps

/-- No NPDU waits for a VMAC that the cache has an entry for, nor more NPDUs or for more VMACs than
are allowed, and all of them can be sent.
-/
structure Orderly (transport : BIP6Transport) : Prop where
  three : transport.vmac.length = 3
  unresolved : ∀ vmac, transport.waitingFor vmac ≠ []
    → transport.vmacCache.entries.get vmac = none
  few : ∀ vmac, (transport.waitingFor vmac).length ≤ 16
  waits : ∀ vmac, ∀ item ∈ transport.waitingFor vmac,
    vmac.length = 3 ∧ item.npdu.length ≤ 65525
  size : transport.pendingResolutions.size ≤ 1024

/-- An NPDU that is sent fits a datagram, and a datagram from a node that NPDUs wait for is its
Address-Resolution-ACK.
-/
def Prompt (transport : BIP6Transport) : Bip6Event → Prop
  | .unicast _ npdu _ _ => npdu.length ≤ 65525
  | .broadcast _ _ => True
  | .datagram _ data _ =>
    ∀ msg vmac, decodeBvll6 data = .ok msg → msg.source = some vmac → vmac ≠ transport.vmac
      → msg.function ≠ .addressResolutionAck → transport.waitingFor vmac = []

/-- A port that waits for the same and has learnt of no VMAC that NPDUs wait for. -/
theorem Orderly.learns {named} (orderly : transport.Orderly) (learns : Learns named transport next)
    (prompt : ∀ vmac, named = some vmac → transport.waitingFor vmac = [])
    : next.Orderly := by
  have same (vmac : Bytes) : next.waitingFor vmac = transport.waitingFor vmac := by
    rw [waitingFor, learns.pending, waitingFor]
  refine ⟨learns.vmac ▸ orderly.three, fun vmac waiting => ?_, fun vmac => ?_, fun vmac => ?_, ?_⟩
  · rw [same] at waiting
    exact learns.absent vmac (fun here => waiting (prompt vmac here)) (orderly.unresolved vmac waiting)
  · rw [same]
    exact orderly.few vmac
  · rw [same]
    exact orderly.waits vmac
  · rw [learns.pending]
    exact orderly.size

theorem length_enqueue {pending} (few : pending.length ≤ 16)
    : (enqueue pending npdu now).length ≤ 16 := by
  unfold enqueue
  split
  · rw [List.length_append, List.length_drop, List.length_singleton]
    omega
  · rw [List.length_append, List.length_singleton]
    omega

theorem mem_enqueue {pending item} (member : item ∈ enqueue pending npdu now)
    : item ∈ pending ∨ item = { npdu, created := now } := by
  unfold enqueue at member
  refine (List.mem_append.mp member).imp (fun before => ?_) List.mem_singleton.mp
  split at before
  · exact List.mem_of_mem_drop before
  · exact before

/-- What waits for a VMAC when an NPDU for one is queued. -/
theorem waitingFor_set (pending : List PendingResolution) (cache : VMACCache) (other : Bytes)
    : ({ transport with
          vmacCache := cache
          pendingResolutions := transport.pendingResolutions.set vmac pending }
        : BIP6Transport).waitingFor other
      = if other = vmac then pending else transport.waitingFor other := by
  rw [waitingFor, OrderedDict.get_set]
  split
  · rfl
  · rfl

theorem Orderly.enqueued (orderly : transport.Orderly) (three : vmac.length = 3)
    (small : npdu.length ≤ 65525) (waits : transport.HasToWait now vmac)
    : ({ transport with
          vmacCache := (transport.vmacCache.get now vmac).2
          pendingResolutions := transport.pendingResolutions.set vmac
            (enqueue (transport.waitingFor vmac) npdu now) } : BIP6Transport).Orderly := by
  refine ⟨orderly.three, fun other waiting => ?_, fun other => ?_, fun other item member => ?_, ?_⟩
  · by_cases same : other = vmac
    · rw [same]
      exact VMACCache.get_unresolved waits.1
    · rw [waitingFor_set, if_neg same] at waiting
      exact VMACCache.get_get (orderly.unresolved other waiting)
  · rw [waitingFor_set]
    split
    · exact length_enqueue (orderly.few vmac)
    · exact orderly.few other
  · rw [waitingFor_set] at member
    split at member
    · next same =>
        rw [same]
        rcases mem_enqueue member with before | rfl
        · exact orderly.waits vmac item before
        · exact ⟨three, small⟩
    · exact orderly.waits other item member
  · change (transport.pendingResolutions.set vmac _).size ≤ 1024
    have size := orderly.size
    cases there : transport.pendingResolutions.get vmac with
    | none =>
      have room : ¬ 1024 ≤ transport.pendingResolutions.size := fun full =>
        waits.2 ⟨by rw [there]; rfl, full⟩
      rw [OrderedDict.size_set_of_none there]
      omega
    | some pending =>
      rw [OrderedDict.size_set_of_some (by rw [there]; rfl)]
      exact size

/-- Nothing is sent to an address that is not known. -/
theorem dispatched_unresolved {three} (missing : (transport.vmacCache.get now vmac).1 = none)
    : transport.dispatched (.unicast now npdu vmac three) = [] := by
  unfold dispatched
  dsimp only
  rw [missing]

/-- What has just started to wait, or made room for it. -/
theorem accounts_waits {three} (orderly : transport.Orderly) (waits : transport.HasToWait now vmac)
    : transport.Accounts (.unicast now npdu vmac three) := by
  obtain ⟨frame, otherwise, handled⟩ : ∃ frame, ¬ IsUnicast frame
      ∧ transport.handle (.unicast now npdu vmac three) = (_, [.sendto frame _]) :=
    handle_waits orderly.three waits
  have nothing : transport.dispatched (.unicast now npdu vmac three) = [] :=
    dispatched_unresolved waits.1
  refine ⟨fun other => ?_, ⟨[], ?_, .inr ⟨rfl, ?_⟩⟩, ?_⟩
  · rw [handled, waitingFor_set, queued, settled]
    by_cases same : vmac = other
    · subst same
      rw [if_pos ⟨rfl, waits⟩, if_pos rfl, enqueue]
      by_cases full : 16 ≤ (transport.waitingFor vmac).length
      · rw [if_pos ⟨⟨rfl, waits⟩, full⟩, if_pos full, List.map_map, ← List.append_assoc]
        have back : ((transport.waitingFor vmac).take 1).map
            (Prod.fst ∘ fun item => (item, PendingFate.overflowed))
            = (transport.waitingFor vmac).take 1 := List.map_id _
        rw [back, List.take_append_drop]
      · rw [if_neg fun both => full both.2, if_neg full]
        rfl
    · rw [if_neg fun both => same both.1, if_neg fun both => same both.1.1, if_neg (Ne.symm same),
        List.append_nil]
      rfl
  · rw [nothing]
    exact .nil
  · rw [handled]
    intro data dest member
    cases List.mem_singleton.mp member
    exact otherwise
  · rw [nothing]
    exact nofun

/-- An event that changes nothing about what waits, and sends no NPDU to a single node. -/
theorem accounts_quiet {event}
    (same : (transport.handle event).1.pendingResolutions = transport.pendingResolutions)
    (queues : ∀ vmac, transport.queued vmac event = [])
    (settles : ∀ vmac, transport.settled vmac event = []) (sends : transport.dispatched event = [])
    (otherwise : NoUnicast (transport.handle event).2)
    : transport.Accounts event := by
  refine ⟨fun vmac => ?_, ⟨[], ?_, .inr ⟨rfl, otherwise⟩⟩, ?_⟩
  · rw [queues, settles, List.append_nil, waitingFor, waitingFor, same]
    rfl
  · rw [sends]
    exact .nil
  · rw [sends]
    exact nofun

theorem accounts_unicast {three} (orderly : transport.Orderly) (small : npdu.length ≤ 65525)
    : transport.Accounts (.unicast now npdu vmac three)
        ∧ (transport.handle (.unicast now npdu vmac three)).1.Orderly := by
  have idle (passes : ¬ transport.HasToWait now vmac) (other : Bytes)
      : transport.queued other (.unicast now npdu vmac three) = []
        ∧ transport.settled other (.unicast now npdu vmac three) = [] := by
    have apart : ¬ (vmac = other ∧ transport.HasToWait now other) := by
      rintro ⟨rfl, waits⟩
      exact passes waits
    exact ⟨if_neg apart, if_neg fun both => apart both.1⟩
  cases found : (transport.vmacCache.get now vmac).1 with
  | some address =>
    have passes : ¬ transport.HasToWait now vmac := fun waits => by
      cases found.symm.trans waits.1
    obtain ⟨frame, decoded, handled⟩ : ∃ frame, _ ∧
        transport.handle (.unicast now npdu vmac three) = (transport, [.sendto frame address]) :=
      handle_found orderly.three small found
    have sends : transport.dispatched (.unicast now npdu vmac three)
        = [{ npdu, vmac, address }] := by
      unfold dispatched
      dsimp only
      rw [found]
    refine ⟨⟨fun other => ?_, ⟨[.sendto frame address], ?_, .inl ?_⟩, ?_⟩, ?_⟩
    · rw [(idle passes other).1, (idle passes other).2, handled, List.append_nil]
      rfl
    · rw [sends]
      exact .cons ⟨frame, rfl, decoded⟩ .nil
    · rw [handled]
    · rw [sends, handled]
      intro dispatch member
      cases List.mem_singleton.mp member
      exact resolved_of_found found
    · rw [handled]
      exact orderly
  | none =>
    by_cases waits : transport.HasToWait now vmac
    · refine ⟨accounts_waits orderly waits, ?_⟩
      obtain ⟨frame, _, handled⟩ : ∃ frame, ¬ IsUnicast frame
          ∧ transport.handle (.unicast now npdu vmac three) = (_, [.sendto frame _]) :=
        handle_waits orderly.three waits
      rw [handled]
      exact orderly.enqueued three small waits
    · have full : (transport.pendingResolutions.get vmac).isNone
          ∧ 1024 ≤ transport.pendingResolutions.size :=
        not_not.mp fun room => waits ⟨found, room⟩
      have handled : transport.handle (.unicast now npdu vmac three) = (_, []) :=
        handle_full found full
      constructor
      · refine accounts_quiet ?_ (fun other => (idle waits other).1)
          (fun other => (idle waits other).2) (dispatched_unresolved found) ?_
        · rw [handled]
        · rw [handled]
          exact noUnicast_nil
      · rw [handled]
        have learns : Learns none transport
            { transport with vmacCache := (transport.vmacCache.get now vmac).2 } :=
          ⟨rfl, rfl, fun other _ absent => VMACCache.get_get absent⟩
        exact orderly.learns learns nofun

/-- An Address-Resolution-ACK of another node. -/
theorem accounts_acknowledged (orderly : transport.Orderly)
    (acknowledged : transport.acknowledged data = some vmac)
    : transport.Accounts (.datagram now data addr)
        ∧ (transport.handle (.datagram now data addr)).1.Orderly := by
  obtain ⟨outputs, known, own, pending, absent⟩ :
      (transport.onDatagramReceived now data addr).2
        = transport.sendPending now vmac addr (transport.waitingFor vmac) ∧ _ :=
    received_acknowledged acknowledged
  have waiting (other : Bytes)
      : (transport.onDatagramReceived now data addr).1.waitingFor other
        = if other = vmac then [] else transport.waitingFor other := by
    rw [waitingFor, pending, OrderedDict.get_pop]
    split
    · rfl
    · rfl
  have sends : transport.dispatched (.datagram now data addr)
      = (fresh now (transport.waitingFor vmac)).map fun item =>
          { npdu := item.npdu, vmac, address := addr } := by
    unfold dispatched
    dsimp only
    rw [acknowledged]
    dsimp only
    rw [settled, if_pos acknowledged, filterMap_settled]
  constructor
  · refine ⟨fun other => ?_, ?_, ?_⟩
    · change _ = _ ++ (transport.onDatagramReceived now data addr).1.waitingFor other
      rw [waiting, queued, settled, List.append_nil, acknowledged]
      by_cases same : other = vmac
      · rw [if_pos same, if_pos (congrArg some same.symm), List.append_nil, List.map_map]
        exact (List.map_id _).symm
      · rw [if_neg same, if_neg fun here => same (Option.some.inj here).symm]
        rfl
    · change ∃ unicasts, _ ∧ ((transport.onDatagramReceived now data addr).2 = unicasts ∨ _)
      rw [outputs, sends]
      by_cases empty : transport.waitingFor vmac = []
      · rw [empty]
        exact ⟨[], .nil, .inl rfl⟩
      · obtain ⟨first, rest, some⟩ := List.exists_cons_of_ne_nil empty
        have threeTarget := (orderly.waits vmac first (by rw [some]; exact List.mem_cons_self)).1
        obtain ⟨frames, sent, each⟩ := sendPending_fresh orderly.three threeTarget
          (fun item member => (orderly.waits vmac item member).2) now addr
        refine ⟨_, ?_, .inl rfl⟩
        rw [sent, List.forall₂_map_left_iff, List.forall₂_map_right_iff]
        exact each.imp fun frame item decoded => ⟨frame, rfl, decoded⟩
    · rw [sends]
      intro dispatch member
      obtain ⟨item, _, rfl⟩ := List.mem_map.mp member
      exact known
  · change (transport.onDatagramReceived now data addr).1.Orderly
    refine ⟨own ▸ orderly.three, fun other waits => ?_, fun other => ?_, fun other item member => ?_,
      ?_⟩
    · rw [waiting] at waits
      split at waits
      · exact absurd rfl waits
      · next different =>
          exact absent other (Ne.symm different) (orderly.unresolved other waits)
    · rw [waiting]
      split
      · exact Nat.zero_le 16
      · exact orderly.few other
    · rw [waiting] at member
      split at member
      · cases member
      · exact orderly.waits other item member
    · rw [pending]
      exact Nat.le_trans OrderedDict.size_pop_le orderly.size

theorem accounts_step {event} (orderly : transport.Orderly) (prompt : transport.Prompt event)
    : transport.Accounts event ∧ (transport.handle event).1.Orderly := by
  cases event with
  | unicast now npdu vmac three => exact accounts_unicast orderly prompt
  | broadcast now npdu =>
    exact ⟨accounts_quiet rfl (fun _ => rfl) (fun _ => rfl) rfl noUnicast_sendBroadcast, orderly⟩
  | datagram now data addr =>
    cases acknowledged : transport.acknowledged data with
    | some vmac => exact accounts_acknowledged orderly acknowledged
    | none =>
      obtain ⟨named, learns, sources⟩ : ∃ named, Learns named transport
          (transport.onDatagramReceived now data addr).1 ∧ _ :=
        learns_onDatagramReceived acknowledged
      have nothing : transport.dispatched (.datagram now data addr) = [] := by
        unfold dispatched
        dsimp only
        rw [acknowledged]
      have settles (vmac : Bytes) : transport.settled vmac (.datagram now data addr) = [] := by
        rw [settled, acknowledged]
        rfl
      refine ⟨accounts_quiet learns.pending (fun _ => rfl) settles nothing
        (noUnicast_onDatagramReceived acknowledged), orderly.learns learns fun vmac here => ?_⟩
      obtain ⟨msg, decoded, source, other, notAck⟩ := sources vmac here
      exact prompt msg vmac decoded source other notAck

-- Runs

/-- What starts to wait for a VMAC in a run. -/
def allQueued (vmac : Bytes) : BIP6Transport → List Bip6Event → List PendingResolution
  | _, [] => []
  | transport, event :: rest =>
    transport.queued vmac event ++ allQueued vmac (transport.handle event).1 rest

/-- What ends to wait for a VMAC in a run. -/
def allSettled (vmac : Bytes)
    : BIP6Transport → List Bip6Event → List (PendingResolution × PendingFate)
  | _, [] => []
  | transport, event :: rest =>
    transport.settled vmac event ++ allSettled vmac (transport.handle event).1 rest

/-- In a run whose steps account for what waits, all that has been queued has ended to wait in its
order or still waits, by induction on the events.
-/
theorem conserved_run {final events} (accounts : Meets proceed Accounts transport events)
    (ran : run proceed transport events = some final) (vmac : Bytes)
    : transport.waitingFor vmac ++ allQueued vmac transport events
      = (allSettled vmac transport events).map Prod.fst ++ final.waitingFor vmac := by
  induction events generalizing transport with
  | nil =>
    cases ran
    exact List.append_nil _
  | cons event rest ih =>
    obtain ⟨here, later⟩ := accounts _ rfl
    have rest := ih later ran
    rw [allQueued, allSettled, ← List.append_assoc, here.conserved, List.append_assoc, rest,
      List.map_append, List.append_assoc]

/-- What holds of a port after a run: no NPDU waits for a VMAC that it has a fresh address for, all
that was queued for a VMAC has ended to wait in its order or still waits, within the limits, and each
step has sent what ended to wait.
-/
structure AnswersInOrder (start : BIP6Transport) (events : List Bip6Event) (final : BIP6Transport)
    : Prop where
  noneWaits : ∀ now vmac address, (final.vmacCache.get now vmac).1 = some address
    → final.waitingFor vmac = []
  conserved : ∀ vmac, allQueued vmac start events
    = (allSettled vmac start events).map Prod.fst ++ final.waitingFor vmac
  few : ∀ vmac, (final.waitingFor vmac).length ≤ 16
  size : final.pendingResolutions.size ≤ 1024
  steps : Meets proceed Accounts start events

/-- In every run in which NPDUs fit a datagram and a node that NPDUs wait for is heard of with its
Address-Resolution-ACK first, nothing waits for an address that is known.
-/
theorem answersInOrder_of_prompt {start final : BIP6Transport} {events : List Bip6Event}
    (three : start.vmac.length = 3) (idle : start.pendingResolutions = {})
    (prompt : Meets proceed Prompt start events) (ran : run proceed start events = some final)
    : AnswersInOrder start events final := by
  have none (vmac : Bytes) : start.waitingFor vmac = [] := by
    rw [waitingFor, idle]
    rfl
  have orderly : start.Orderly := by
    refine ⟨three, fun vmac waiting => absurd (none vmac) waiting, fun vmac => ?_, fun vmac => ?_, ?_⟩
    · rw [none]
      exact Nat.zero_le 16
    · rw [none]
      exact nofun
    · rw [idle]
      exact Nat.zero_le 1024
  have keeps {transport next : BIP6Transport} {event : Bip6Event} (orderly : transport.Orderly)
      (prompt : transport.Prompt event) (moved : transport.proceed event = some next)
      : next.Orderly :=
    Option.some.inj moved ▸ (accounts_step orderly prompt).2
  have ended := invariant_run keeps orderly prompt ran
  have steps : Meets proceed Accounts start events := by
    clear idle none three ended ran
    induction events generalizing start with
    | nil => trivial
    | cons event rest ih =>
      intro next moved
      obtain ⟨here, later⟩ := prompt next moved
      exact ⟨(accounts_step orderly here).1, ih later (keeps orderly here moved)⟩
  refine ⟨fun now vmac address found => ?_, fun vmac => ?_, ended.few, ended.size, steps⟩
  · by_contra waiting
    rw [VMACCache.get_of_absent (ended.unresolved vmac waiting)] at found
    cases found
  · have conserved := conserved_run steps ran vmac
    rwa [none, List.nil_append] at conserved

/-- A port that has just been started. -/
def freshPort : BIP6Transport where
  localAddress := { host := 1, port := 0xBAC0 }
  vmac := [0, 0, 1]
  multicastAddress := 0xFF02000000000000000000000000BAC0
  port := 0xBAC0

/-- The address of another node, with VMAC 2. -/
def neighbor : BIP6Address := { host := 2, port := 0xBAC0 }

def toNeighbor : Bip6Event := .unicast 0 [1, 0] [0, 0, 2] rfl

/-- The Address-Resolution-ACK of the neighbor. -/
def neighborAnswers : Bip6Event := .datagram 1 [0x82, 5, 0, 10, 0, 0, 2, 0, 0, 1] neighbor

def neighborBroadcasts : Bip6Event := .datagram 1 [0x82, 2, 0, 9, 0, 0, 2, 1, 0] neighbor

theorem answersInOrder_of_prompt_neighbor
    : ∃ final, run proceed freshPort [toNeighbor, neighborAnswers] = some final
        ∧ AnswersInOrder freshPort [toNeighbor, neighborAnswers] final := by
  refine ⟨_, rfl, answersInOrder_of_prompt rfl rfl ?_ rfl⟩
  refine fun _ moved => ⟨show ([1, 0] : Bytes).length ≤ 65525 by decide, ?_⟩
  cases moved
  refine fun _ _ => ⟨fun msg vmac decoded source other notAck => ?_, trivial⟩
  have function : (decodeBvll6 [0x82, 5, 0, 10, 0, 0, 2, 0, 0, 1]).toOption.map
      Bvll6Message.function = some .addressResolutionAck := by
    decide +kernel
  rw [decoded] at function
  exact absurd (Option.some.inj function) notAck

/-- The broadcast of a node tells its address, and the NPDU for it goes on to wait. -/
theorem npdu_waits_for_known_address
    : (run proceed freshPort [toNeighbor, neighborBroadcasts]).map (fun final =>
          ((final.vmacCache.get 1 [0, 0, 2]).1,
            (final.waitingFor [0, 0, 2]).map PendingResolution.npdu))
        = some (some neighbor, [[1, 0]]) := by
  decide +kernel

end BIP6Transport

end BacPy
