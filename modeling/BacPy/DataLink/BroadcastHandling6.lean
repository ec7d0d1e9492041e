import BacPy.DataLink.Bip6

/-! What a BACnet/IPv6 port does about broadcasts: whom it sends them on to, and what it reports. -/

namespace BacPy

open Library

variable {npdu data vmac : Bytes} {origin addr : BIP6Address} {now : Rat}

-- Messages

/-- A message with a source VMAC is only encoded with one of three octets. -/
theorem length_of_encodeBvll6 {function encoded originatingAddress}
    (has : function.hasSourceVmac = true)
    (encodes : encodeBvll6 function npdu (some vmac) none originatingAddress = .ok encoded)
    : vmac.length = 3 := by
  obtain ⟨source, sourceEncodes, _⟩ := bind_eq_ok.mp encodes
  rw [has] at sourceEncodes
  exact (encodeVmac_ok_iff.mp sourceEncodes).1

/-- What fits into a Forwarded-NPDU with one source VMAC fits into one with any other. -/
theorem encodeBvll6_forwarded_again {another encoded} (three : another.length = 3)
    (other : BIP6Address)
    (encodes : encodeBvll6 .forwardedNpdu npdu (some vmac) none (some origin) = .ok encoded)
    : ∃ again, encodeBvll6 .forwardedNpdu npdu (some another) none (some other) = .ok again := by
  obtain ⟨source, sourceEncodes, rest⟩ := bind_eq_ok.mp encodes
  obtain ⟨dest, destEncodes, rest⟩ := bind_eq_ok.mp rest
  obtain ⟨address, addressEncodes, rest⟩ := bind_eq_ok.mp rest
  obtain ⟨total, packed, _⟩ := bind_eq_ok.mp rest
  have sourceLength : source.length = 3 := by
    obtain ⟨length, rfl⟩ := encodeVmac_ok_iff.mp sourceEncodes
    exact length
  have sameDest : dest = [] := (Except.ok.inj destEncodes).symm
  have sameAddress : address = origin.encode := (Except.ok.inj addressEncodes).symm
  have fits : packLength (4 + (another ++ ([] ++ (other.encode ++ npdu))).length) = .ok total := by
    rw [← packed]
    congr 1
    simp [sameDest, sameAddress, three, sourceLength]
  exact ⟨_, bind_eq_ok.mpr ⟨another, encodeVmac_ok_iff.mpr ⟨three, rfl⟩, bind_eq_ok.mpr ⟨[], rfl,
    bind_eq_ok.mpr ⟨other.encode, rfl, bind_eq_ok.mpr ⟨total, fits, rfl⟩⟩⟩⟩⟩

namespace BIP6Transport

variable {transport : BIP6Transport} {output : Bip6Output}

-- Ports whose managers have the VMAC of the port

/-- The VMAC of a port has three octets, and its BBMD and its foreign device manager have the same. -/
structure WellFormed (transport : BIP6Transport) : Prop where
  three : transport.vmac.length = 3
  bbmd : ∀ bbmd, transport.bbmd = some bbmd → bbmd.localVmac = transport.vmac
  foreignDevice : ∀ device, transport.foreignDevice = some device
    → device.localVmac = transport.vmac

end BIP6Transport

namespace BBMD6Manager

variable {manager next : BBMD6Manager} {outputs : List Bbmd6Output} {handled : Bool}

theorem localVmac_sendResult {resultCode destination}
    (sends : manager.sendResult resultCode destination = .ok (next, outputs))
    : next.localVmac = manager.localVmac := by
  obtain ⟨_, _, same⟩ := bind_eq_ok.mp sends
  cases same
  rfl

/-- A BBMD keeps its VMAC. -/
theorem localVmac_handleBvlc {function sourceVmac}
    (handles : manager.handleBvlc now function data addr sourceVmac = .ok (next, outputs, handled))
    : next.localVmac = manager.localVmac := by
  have kept : ∀ {result : Except PyException (List Bbmd6Output)} {consumed : Bool},
      manager.unchanged result consumed = .ok (next, outputs, handled)
      → next.localVmac = manager.localVmac := by
    intro result consumed unchanged
    obtain ⟨_, _, same⟩ := bind_eq_ok.mp unchanged
    cases same
    rfl
  have tables : ∀ {result : Except PyException (BBMD6Manager × List Bbmd6Output)},
      managed result = .ok (next, outputs, handled) → result = .ok (next, outputs) := by
    intro result managed
    obtain ⟨⟨_, _⟩, done, same⟩ := bind_eq_ok.mp managed
    cases same
    exact done
  unfold handleBvlc at handles
  cases function with
  | registerForeignDevice =>
    have done := tables handles
    unfold handleRegisterForeignDevice at done
    dsimp only at done
    split at done
    · exact localVmac_sendResult done
    · split at done
      · exact localVmac_sendResult done
      · exact (localVmac_sendResult done).trans rfl
  | deleteForeignDeviceTableEntry =>
    have done := tables handles
    unfold handleDeleteFdtEntry at done
    split at done
    · exact localVmac_sendResult done
    · obtain ⟨_, _, done⟩ := bind_eq_ok.mp done
      split at done
      · exact (localVmac_sendResult done).trans rfl
      · exact localVmac_sendResult done
  | originalBroadcastNpdu => exact kept handles
  | forwardedNpdu => exact kept handles
  | distributeBroadcastNpdu => exact kept handles
  | addressResolution => exact kept handles
  | _ => cases handles; rfl

/-- What a BBMD does about a broadcast that comes with a source VMAC. -/
inductive Outcome (manager : BBMD6Manager) (npdu vmac : Bytes) : Bbmd6Output → Prop where
  | forwarded (origin dest : BIP6Address) (frame : Bytes)
      (encoded : manager.encodeForwarded npdu origin = .ok frame)
      : Outcome manager npdu vmac (.send frame dest)
  | multicast (origin : BIP6Address) (frame : Bytes)
      (encoded : manager.encodeForwarded npdu origin = .ok frame)
      : Outcome manager npdu vmac (.multicast frame)
  | refused (dest : BIP6Address) (result frame : Bytes)
      (encoded : encodeBvll6 .bvlcResult result (some manager.localVmac) = .ok frame)
      : Outcome manager npdu vmac (.send frame dest)
  | reported : Outcome manager npdu vmac (.localBroadcast npdu vmac)

variable {output : Bbmd6Output}

theorem outcome_sends {dests : List BIP6Address} {frame : Bytes}
    (encoded : manager.encodeForwarded npdu origin = .ok frame)
    (member : output ∈ dests.map fun dest => Bbmd6Output.send frame dest)
    : Outcome manager npdu vmac output := by
  obtain ⟨dest, _, rfl⟩ := List.mem_map.mp member
  exact .forwarded origin dest frame encoded

theorem outcome_multicastSend {frame} (encoded : manager.encodeForwarded npdu origin = .ok frame)
    (member : output ∈ manager.multicastSend frame)
    : Outcome manager npdu vmac output := by
  unfold multicastSend at member
  split at member
  · rw [List.mem_singleton.mp member]
    exact .multicast origin frame encoded
  · cases member

theorem outcome_localBroadcast (member : output ∈ manager.localBroadcast npdu vmac)
    : Outcome manager npdu vmac output := by
  unfold localBroadcast at member
  split at member
  · rw [List.mem_singleton.mp member]
    exact .reported
  · cases member

/-- Among all that comes of a Forwarded-NPDU, only the callback hands it on. -/
theorem localBroadcast_mem_iff {dests : List BIP6Address} {frame : Bytes}
    : .localBroadcast npdu vmac ∈ dests.map (fun dest => Bbmd6Output.send frame dest)
        ++ manager.multicastSend frame ++ manager.localBroadcast npdu vmac
      ↔ manager.hasLocalBroadcast = true := by
  unfold multicastSend localBroadcast
  cases manager.hasLocalBroadcast <;> cases manager.hasMulticastSend <;> simp

theorem outcome_forwardToPeersAndFds {sourceVmac : Bytes} {excludeFd : Option BIP6Address}
    (forwards : manager.forwardToPeersAndFds npdu addr sourceVmac excludeFd = .ok outputs)
    (member : output ∈ outputs)
    : Outcome manager npdu vmac output := by
  obtain ⟨frame, encoded, same⟩ := bind_eq_ok.mp forwards
  rw [← Except.ok.inj same] at member
  exact outcome_sends encoded member

theorem outcome_forwardedNpdu
    (handles : manager.handleForwardedNpdu npdu origin vmac = .ok outputs)
    (member : output ∈ outputs)
    : Outcome manager npdu vmac output := by
  unfold handleForwardedNpdu at handles
  split at handles
  · rw [← Except.ok.inj handles] at member
    cases member
  · obtain ⟨frame, encoded, same⟩ := bind_eq_ok.mp handles
    rw [← Except.ok.inj same] at member
    rcases List.mem_append.mp member with sent | delivered
    · rcases List.mem_append.mp sent with toFds | toGroup
      · exact outcome_sends encoded toFds
      · exact outcome_multicastSend encoded toGroup
    · exact outcome_localBroadcast delivered

theorem outcome_distributeBroadcast
    (handles : manager.handleDistributeBroadcast npdu addr vmac = .ok outputs)
    (member : output ∈ outputs)
    : Outcome manager npdu vmac output := by
  unfold handleDistributeBroadcast at handles
  split at handles
  · obtain ⟨⟨_, _⟩, sends, same⟩ := bind_eq_ok.mp handles
    obtain ⟨result, encoded, made⟩ := bind_eq_ok.mp sends
    cases made
    cases same
    rw [List.mem_singleton.mp member]
    exact .refused addr _ result encoded
  · obtain ⟨forwards, forwarded, rest⟩ := bind_eq_ok.mp handles
    obtain ⟨frame, encoded, same⟩ := bind_eq_ok.mp rest
    rw [← Except.ok.inj same] at member
    rcases List.mem_append.mp member with sent | delivered
    · rcases List.mem_append.mp sent with toAll | toGroup
      · exact outcome_forwardToPeersAndFds forwarded toAll
      · exact outcome_multicastSend encoded toGroup
    · exact outcome_localBroadcast delivered

/-- The messages that broadcasts consist of. -/
def IsBroadcast6 (function : Bvlc6Function) : Prop :=
  function = .originalBroadcastNpdu ∨ function = .distributeBroadcastNpdu
    ∨ function = .forwardedNpdu

theorem outcome_handleBvlc {function} (broadcast : IsBroadcast6 function)
    (handles : manager.handleBvlc now function npdu addr (some vmac) = .ok (next, outputs, handled))
    (member : output ∈ outputs)
    : Outcome manager npdu vmac output := by
  have done : ∀ {result : Except PyException (List Bbmd6Output)} {consumed : Bool},
      manager.unchanged result consumed = .ok (next, outputs, handled) → result = .ok outputs := by
    intro result consumed unchanged
    obtain ⟨_, done, same⟩ := bind_eq_ok.mp unchanged
    cases same
    exact done
  rcases broadcast with rfl | rfl | rfl
  · exact outcome_forwardToPeersAndFds (done handles) member
  · exact outcome_distributeBroadcast (done handles) member
  · exact outcome_forwardedNpdu (done handles) member

end BBMD6Manager

namespace BIP6Transport

variable {transport next : BIP6Transport} {msg : Bvll6Message} {output : Bip6Output}

/-- The VMACs of a port and of its managers are as they were. -/
structure SameVmacs (transport next : BIP6Transport) : Prop where
  vmac : next.vmac = transport.vmac
  bbmd : next.bbmd.map BBMD6Manager.localVmac = transport.bbmd.map BBMD6Manager.localVmac
  foreignDevice : next.foreignDevice.map ForeignDevice6Manager.localVmac
    = transport.foreignDevice.map ForeignDevice6Manager.localVmac

theorem SameVmacs.refl (transport : BIP6Transport) : SameVmacs transport transport :=
  ⟨rfl, rfl, rfl⟩

theorem SameVmacs.trans {last} (first : SameVmacs transport next) (second : SameVmacs next last)
    : SameVmacs transport last :=
  ⟨second.vmac.trans first.vmac, second.bbmd.trans first.bbmd,
    second.foreignDevice.trans first.foreignDevice⟩

theorem WellFormed.same (wellFormed : WellFormed transport) (same : SameVmacs transport next)
    : WellFormed next := by
  refine ⟨same.vmac ▸ wellFormed.three, fun bbmd attached => ?_, fun device registers => ?_⟩
  · have mapped := same.bbmd
    rw [attached] at mapped
    obtain ⟨before, there, equal⟩ := Option.map_eq_some_iff.mp mapped.symm
    rw [← equal, same.vmac, wellFormed.bbmd before there]
  · have mapped := same.foreignDevice
    rw [registers] at mapped
    obtain ⟨before, there, equal⟩ := Option.map_eq_some_iff.mp mapped.symm
    rw [← equal, same.vmac, wellFormed.foreignDevice before there]

theorem localVmac_handleBvlcResult (device : ForeignDevice6Manager) (data : Bytes)
    : (device.handleBvlcResult data).localVmac = device.localVmac := by
  unfold ForeignDevice6Manager.handleBvlcResult
  split
  · rfl
  · split <;> rfl

theorem sameVmacs_handleBvlc6Result
    : SameVmacs transport (transport.handleBvlc6Result data addr) := by
  unfold handleBvlc6Result
  split
  · exact .refl transport
  · next device registers =>
      split
      · refine ⟨rfl, rfl, ?_⟩
        rw [registers]
        exact congrArg some (localVmac_handleBvlcResult device data)
      · exact .refl transport

theorem sameVmacs_handleAddressResolution {payload}
    : SameVmacs transport (transport.handleAddressResolution now vmac payload addr).1 := by
  unfold handleAddressResolution
  split
  · exact .refl transport
  · exact ⟨rfl, rfl, rfl⟩

theorem sameVmacs_receiveMessage
    : SameVmacs transport (transport.receiveMessage now msg addr).1 := by
  unfold receiveMessage
  split
  all_goals first
    | exact sameVmacs_handleAddressResolution
    | exact sameVmacs_handleBvlc6Result
    | exact ⟨rfl, rfl, rfl⟩

theorem sameVmacs_receiveWithBbmd {bbmd} (attached : transport.bbmd = some bbmd)
    : SameVmacs transport (transport.receiveWithBbmd bbmd now msg addr).1 := by
  unfold receiveWithBbmd
  dsimp only
  split
  · exact .refl transport
  · next after outputs handled handles =>
      have same : SameVmacs transport { transport with bbmd := some after } := by
        refine ⟨rfl, ?_, rfl⟩
        rw [attached]
        exact congrArg some (BBMD6Manager.localVmac_handleBvlc handles)
      split
      · exact same
      · exact same.trans sameVmacs_receiveMessage

/-- Whatever a port receives, the VMACs stay the same. -/
theorem sameVmacs_onDatagramReceived (transport : BIP6Transport) (now : Rat) (data : Bytes)
    (addr : BIP6Address)
    : SameVmacs transport (transport.onDatagramReceived now data addr).1 := by
  unfold onDatagramReceived
  split
  · exact .refl transport
  · next msg decoded =>
      split
      · exact .refl transport
      · have remembered : SameVmacs transport
            ((msg.source.map fun vmac => transport.remember now vmac addr).getD transport) := by
          cases msg.source with
          | none => exact .refl transport
          | some vmac => exact ⟨rfl, rfl, rfl⟩
        dsimp only
        split
        · exact remembered.trans sameVmacs_receiveMessage
        · next bbmd attached => exact remembered.trans (sameVmacs_receiveWithBbmd attached)

-- What comes of broadcasts

/-- What a port does about a broadcast that comes with a source VMAC: it reports that VMAC, and
whatever it sends on has its own one.
-/
inductive Outcome (transport : BIP6Transport) (npdu vmac : Bytes) : Bip6Output → Prop where
  /-- a BBMD forwards the NPDU -/
  | forwarded (origin dest : BIP6Address) (frame : Bytes)
      (encoded : encodeBvll6 .forwardedNpdu npdu (some transport.vmac) none (some origin) = .ok frame)
      : Outcome transport npdu vmac (.sendto frame dest)
  /-- a broadcast of a device that is not registered is refused -/
  | refused (dest : BIP6Address) (result frame : Bytes)
      (encoded : encodeBvll6 .bvlcResult result (some transport.vmac) = .ok frame)
      : Outcome transport npdu vmac (.sendto frame dest)
  /-- the NPDU is handed to the application -/
  | reported : Outcome transport npdu vmac (.receive npdu vmac)

theorem Outcome.of_vmac (outcome : Outcome next npdu vmac output)
    (same : next.vmac = transport.vmac)
    : Outcome transport npdu vmac output := by
  cases outcome with
  | forwarded origin dest frame encoded => exact .forwarded origin dest frame (same ▸ encoded)
  | refused dest result frame encoded => exact .refused dest result frame (same ▸ encoded)
  | reported => exact .reported

/-- The port gets Forwarded-NPDUs of the originator and hands them to the application. -/
structure TakesUp (transport : BIP6Transport) (vmac : Bytes) (origin : BIP6Address) : Prop where
  callback : transport.hasReceiveCallback = true
  other : vmac ≠ transport.vmac
  bbmd : ∀ bbmd, transport.bbmd = some bbmd
    → bbmd.hasLocalBroadcast = true ∧ origin ≠ bbmd.localAddress

theorem source_eq {function} (has : function.hasSourceVmac = true) {originatingAddress}
    (three : vmac.length = 3)
    : (readMessage function npdu (some vmac) none originatingAddress).source = some vmac := by
  have some_ : vmac ≠ [] := fun empty => by rw [empty] at three; cases three
  simp [readMessage, has, Bvll6Message.source, some_]

theorem outcome_deliver (member : output ∈ transport.deliver npdu vmac)
    : Outcome transport npdu vmac output := by
  unfold deliver at member
  split at member
  · rw [List.mem_singleton.mp member]
    exact .reported
  · cases member

/-- What a port does about a message that is not its own. -/
theorem onDatagramReceived_other {function originatingAddress} (has : function.hasSourceVmac = true)
    (three : vmac.length = 3)
    (decoded : decodeBvll6 data = .ok (readMessage function npdu (some vmac) none originatingAddress))
    (other : vmac ≠ transport.vmac)
    : transport.onDatagramReceived now data addr
      = match transport.bbmd with
        | none => (transport.remember now vmac addr).receiveMessage now
            (readMessage function npdu (some vmac) none originatingAddress) addr
        | some bbmd => (transport.remember now vmac addr).receiveWithBbmd bbmd now
            (readMessage function npdu (some vmac) none originatingAddress) addr := by
  unfold onDatagramReceived
  rw [decoded]
  dsimp only
  rw [source_eq has three, if_neg (fun same => other (Option.some.inj same))]
  rfl

theorem onDatagramReceived_own {function originatingAddress} (has : function.hasSourceVmac = true)
    (three : vmac.length = 3)
    (decoded : decodeBvll6 data = .ok (readMessage function npdu (some vmac) none originatingAddress))
    (own : vmac = transport.vmac)
    : transport.onDatagramReceived now data addr = (transport, []) := by
  unfold onDatagramReceived
  rw [decoded]
  dsimp only
  rw [source_eq has three, if_pos (congrArg some own)]

theorem outcome_perform {bbmd : BBMD6Manager} {outputs : List Bbmd6Output}
    (same : bbmd.localVmac = transport.vmac)
    (each : ∀ output ∈ outputs, bbmd.Outcome npdu vmac output)
    (member : output ∈ outputs.flatMap transport.perform)
    : Outcome transport npdu vmac output := by
  obtain ⟨performed, listed, within⟩ := List.mem_flatMap.mp member
  cases each performed listed with
  | forwarded origin dest frame encoded =>
    rw [List.mem_singleton.mp within]
    exact .forwarded origin dest frame (same ▸ encoded)
  | multicast origin frame encoded =>
    rw [List.mem_singleton.mp within]
    exact .forwarded origin transport.multicastGroup frame (same ▸ encoded)
  | refused dest result frame encoded =>
    rw [List.mem_singleton.mp within]
    exact .refused dest result frame (same ▸ encoded)
  | reported => exact outcome_deliver within

/-- The normal path hands a broadcast to the application, or refuses it. -/
theorem outcome_receiveMessage {function originatingAddress}
    (broadcast : BBMD6Manager.IsBroadcast6 function) (three : vmac.length = 3)
    (member : output ∈ (transport.receiveMessage now
      (readMessage function npdu (some vmac) none originatingAddress) addr).2)
    : Outcome transport npdu vmac output := by
  unfold receiveMessage at member
  rcases broadcast with rfl | rfl | rfl
  · rw [source_eq rfl three] at member
    exact outcome_deliver member
  · dsimp only [readMessage] at member
    unfold sendBvlc6Nak sendTo at member
    split at member
    · split at member
      · cases member
      · next frame encoded =>
          rw [List.mem_singleton.mp member]
          exact .refused addr _ frame encoded
    · cases member
  · rw [source_eq rfl three] at member
    exact outcome_deliver member

/-- What a port does about a broadcast. -/
theorem outcome_broadcast {function : Bvlc6Function} {originatingAddress : Option BIP6Address}
    (broadcast : BBMD6Manager.IsBroadcast6 function) (wellFormed : WellFormed transport)
    (three : vmac.length = 3)
    (decoded : decodeBvll6 data = .ok (readMessage function npdu (some vmac) none originatingAddress))
    (member : output ∈ (transport.onDatagramReceived now data addr).2)
    : Outcome transport npdu vmac output := by
  have has : function.hasSourceVmac = true := by
    rcases broadcast with rfl | rfl | rfl <;> rfl
  by_cases own : vmac = transport.vmac
  · rw [onDatagramReceived_own has three decoded own] at member
    cases member
  · rw [onDatagramReceived_other has three decoded own] at member
    cases attached : transport.bbmd with
    | none =>
      rw [attached] at member
      have outcome := outcome_receiveMessage broadcast three member
      exact outcome.of_vmac rfl
    | some bbmd =>
      rw [attached] at member
      dsimp only at member
      unfold receiveWithBbmd at member
      dsimp only at member
      have given : (readMessage function npdu (some vmac) none originatingAddress).sourceVmac
          = some vmac := if_pos has
      rw [given] at member
      split at member
      · cases member
      · next after outputs handled handles =>
          have same := wellFormed.bbmd bbmd attached
          have performs : ∀ output ∈ outputs, bbmd.Outcome npdu vmac output := fun _ listed =>
            BBMD6Manager.outcome_handleBvlc broadcast handles listed
          split at member
          · exact (outcome_perform same performs member).of_vmac rfl
          · rcases List.mem_append.mp member with performed | delivered
            · exact (outcome_perform same performs performed).of_vmac rfl
            · have outcome := outcome_receiveMessage broadcast three delivered
              exact outcome.of_vmac rfl

/-- The BBMD's part of a delivery, and the port's part. -/
theorem reported_perform_iff {outputs : List Bbmd6Output}
    : .receive npdu vmac ∈ outputs.flatMap transport.perform
      ↔ .localBroadcast npdu vmac ∈ outputs ∧ transport.hasReceiveCallback = true := by
  constructor
  · intro member
    obtain ⟨performed, listed, within⟩ := List.mem_flatMap.mp member
    cases performed with
    | send frame dest => cases List.mem_singleton.mp within
    | multicast frame => cases List.mem_singleton.mp within
    | localBroadcast another source =>
      change _ ∈ transport.deliver another source at within
      unfold deliver at within
      split at within
      · next callback =>
          cases List.mem_singleton.mp within
          exact ⟨listed, callback⟩
      · cases within
  · rintro ⟨listed, callback⟩
    refine List.mem_flatMap.mpr ⟨_, listed, ?_⟩
    change _ ∈ transport.deliver npdu vmac
    rw [deliver, if_pos callback]
    exact List.mem_cons_self

theorem reported_forwarded_iff (now : Rat) (addr : BIP6Address)
    (wellFormed : WellFormed transport)
    (encoded : encodeBvll6 .forwardedNpdu npdu (some vmac) none (some origin) = .ok data)
    : .receive npdu vmac ∈ (transport.onDatagramReceived now data addr).2
      ↔ TakesUp transport vmac origin := by
  have three := length_of_encodeBvll6 rfl encoded
  have decoded := decodeBvll6_encoded encoded
  by_cases own : vmac = transport.vmac
  · rw [onDatagramReceived_own rfl three decoded own]
    exact iff_of_false List.not_mem_nil fun takesUp => takesUp.other own
  · rw [onDatagramReceived_other rfl three decoded own]
    cases attached : transport.bbmd with
    | none =>
      dsimp only
      unfold receiveMessage
      rw [source_eq rfl three]
      change _ ∈ transport.deliver npdu vmac ↔ _
      unfold deliver
      split
      · next callback =>
          exact iff_of_true List.mem_cons_self ⟨callback, own, fun bbmd there => by
            rw [attached] at there; cases there⟩
      · next callback =>
          exact iff_of_false List.not_mem_nil fun takesUp => callback takesUp.callback
    | some bbmd =>
      dsimp only
      have again := encodeBvll6_forwarded_again
        ((wellFormed.bbmd bbmd attached).symm ▸ wellFormed.three) origin encoded
      obtain ⟨frame, encodedAgain⟩ := again
      have handles : bbmd.handleBvlc now .forwardedNpdu npdu origin (some vmac)
          = .ok (bbmd, if origin = bbmd.localAddress then [] else
              ((bbmd.foreignDevices.filter fun fd => fd ≠ origin).map fun fd => .send frame fd)
                ++ bbmd.multicastSend frame ++ bbmd.localBroadcast npdu vmac, false) := by
        change bbmd.unchanged (bbmd.handleForwardedNpdu npdu origin vmac) false = _
        unfold BBMD6Manager.handleForwardedNpdu
        by_cases self_ : origin = bbmd.localAddress
        · rw [if_pos self_, if_pos self_]
          rfl
        · rw [if_neg self_, if_neg self_, BBMD6Manager.encodeForwarded, encodedAgain]
          rfl
      rw [receiveWithBbmd_of_ok handles (.inr rfl)]
      dsimp only
      rw [reported_perform_iff]
      constructor
      · rintro ⟨listed, callback⟩
        refine ⟨callback, own, fun another there => ?_⟩
        cases attached.symm.trans there
        split at listed
        · cases listed
        · next elsewhere => exact ⟨BBMD6Manager.localBroadcast_mem_iff.mp listed, elsewhere⟩
      · intro takesUp
        obtain ⟨locally, elsewhere⟩ := takesUp.bbmd bbmd attached
        rw [if_neg elsewhere]
        exact ⟨BBMD6Manager.localBroadcast_mem_iff.mpr locally, takesUp.callback⟩

/-- A result only concerns the foreign device manager. -/
theorem outputs_result (three : vmac.length = 3)
    (decoded : decodeBvll6 data = .ok (readMessage .bvlcResult npdu (some vmac) none none))
    : (transport.onDatagramReceived now data addr).2 = [] := by
  by_cases own : vmac = transport.vmac
  · rw [onDatagramReceived_own rfl three decoded own]
  · rw [onDatagramReceived_other rfl three decoded own]
    cases transport.bbmd with
    | none => rfl
    | some bbmd => rfl

/-- What a port sends with a broadcast of its own has its VMAC. -/
theorem outputs_sendBroadcast (wellFormed : WellFormed transport)
    (member : output ∈ (transport.sendBroadcast npdu now).1)
    : ∃ data dest, output = .sendto data dest
        ∧ (encodeBvll6 .originalBroadcastNpdu npdu (some transport.vmac) = .ok data
          ∨ encodeBvll6 .distributeBroadcastNpdu npdu (some transport.vmac) = .ok data
          ∨ ∃ origin, encodeBvll6 .forwardedNpdu npdu (some transport.vmac) none (some origin)
            = .ok data) := by
  unfold sendBroadcast at member
  split at member
  · next device registered =>
      have same := wellFormed.foreignDevice device (Option.filter_eq_some_iff.mp registered).1
      split at member
      · cases member
      · next data encoded =>
          rw [List.mem_singleton.mp member]
          exact ⟨data, _, rfl, .inr (.inl (same ▸ encoded))⟩
  · split at member
    · cases member
    · next data encoded =>
        have own : ∃ data' dest, Bip6Output.sendto data transport.multicastGroup = .sendto data' dest
            ∧ (encodeBvll6 .originalBroadcastNpdu npdu (some transport.vmac) = .ok data'
              ∨ encodeBvll6 .distributeBroadcastNpdu npdu (some transport.vmac) = .ok data'
              ∨ ∃ origin, encodeBvll6 .forwardedNpdu npdu (some transport.vmac) none (some origin)
                = .ok data') := ⟨data, _, rfl, .inl encoded⟩
        split at member
        · rw [List.mem_singleton.mp member]
          exact own
        · next forwarded forwards =>
            rcases List.mem_cons.mp member with rfl | further
            · exact own
            · unfold forwardOwnBroadcast at forwards
              split at forwards
              · rw [← Except.ok.inj forwards] at further
                cases further
              · next bbmd attached =>
                  obtain ⟨⟨_, outputs, _⟩, handles, same⟩ := bind_eq_ok.mp forwards
                  obtain ⟨sends, sent, done⟩ := bind_eq_ok.mp handles
                  obtain ⟨frame, encodedFrame, made⟩ := bind_eq_ok.mp sent
                  cases done
                  rw [← Except.ok.inj same, ← Except.ok.inj made] at further
                  obtain ⟨performed, listed, within⟩ := List.mem_flatMap.mp further
                  obtain ⟨dest, _, rfl⟩ := List.mem_map.mp listed
                  rw [List.mem_singleton.mp within]
                  rw [BBMD6Manager.encodeForwarded, wellFormed.bbmd bbmd attached] at encodedFrame
                  exact ⟨frame, dest, rfl, .inr (.inr ⟨_, encodedFrame⟩)⟩

end BIP6Transport

end BacPy
