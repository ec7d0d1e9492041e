import BacPy.DataLink.BroadcastHandling
import BacPy.Encoding.Apdu
import BacPy.Network.Npdu

/-! The check that keeps confirmed requests out of broadcasts: it skips the addresses of an NPDU by
itself, and finds the octet that the decoders find.
-/

namespace BacPy

open Library

def NPDU.IsConfirmedRequest (npdu : NPDU) : Prop :=
  npdu.isNetworkMessage = false
    ∧ ∃ first ∈ npdu.apdu.head?,
        PduType.ofNat? ((first >>> 4) &&& 0x0F).toNat = some .confirmedRequest

variable {data : Bytes} {npdu : NPDU}

-- The check

theorem confirmedRequest_iff (first : UInt8)
    : PduType.ofNat? ((first >>> 4) &&& 0x0F).toNat = some .confirmedRequest ↔ first >>> 4 = 0 := by
  obtain ⟨bits⟩ := first
  revert bits
  decide +kernel

theorem octetAt_eq_ok {offset value} (read : octetAt data offset = .ok value)
    : data[offset]? = some value := by
  unfold octetAt at read
  split at read
  · next found => rw [found, Except.ok.inj read]
  · cases read

/-- The check skips what the decoder reads as a destination. -/
theorem skipAddress_destination {present destination offset next}
    (decoded : decodeIf present decodeDestination data offset = .ok (destination, next))
    : skipAddress data present offset = some next := by
  cases present with
  | false =>
    obtain ⟨_, rfl⟩ := Prod.mk.inj (Except.ok.inj decoded)
    rfl
  | true =>
    obtain ⟨⟨address, behind⟩, read, same⟩ := bind_eq_ok.mp decoded
    obtain ⟨_, rfl⟩ := Prod.mk.inj (Except.ok.inj same)
    unfold decodeDestination at read
    split at read
    · cases read
    · obtain ⟨length, here, later⟩ := bind_eq_ok.mp read
      dsimp only at later
      split at later
      · cases later
      · obtain ⟨made, _, same⟩ := bind_eq_ok.mp later
        obtain ⟨_, rfl⟩ := Prod.mk.inj (Except.ok.inj same)
        rw [skipAddress, if_pos rfl, octetAt_eq_ok here]
        rfl

/-- The check skips what the decoder reads as a source. -/
theorem skipAddress_source {present source offset next}
    (decoded : decodeIf present decodeSource data offset = .ok (source, next))
    : skipAddress data present offset = some next := by
  cases present with
  | false =>
    obtain ⟨_, rfl⟩ := Prod.mk.inj (Except.ok.inj decoded)
    rfl
  | true =>
    obtain ⟨⟨address, behind⟩, read, same⟩ := bind_eq_ok.mp decoded
    obtain ⟨_, rfl⟩ := Prod.mk.inj (Except.ok.inj same)
    unfold decodeSource at read
    split at read
    · cases read
    · dsimp only at read
      split at read
      · cases read
      · split at read
        · cases read
        · obtain ⟨length, here, later⟩ := bind_eq_ok.mp read
          split at later
          · cases later
          · split at later
            · cases later
            · obtain ⟨made, _, same⟩ := bind_eq_ok.mp later
              obtain ⟨_, rfl⟩ := Prod.mk.inj (Except.ok.inj same)
              rw [skipAddress, if_pos rfl, octetAt_eq_ok here]
              rfl

theorem behind_hopCount {present hops offset next}
    (decoded : decodeIf present decodeHopCount data offset = .ok (hops, next))
    : (if present then offset + 1 else offset) = next := by
  cases present with
  | false => exact (Prod.mk.inj (Except.ok.inj decoded)).2
  | true =>
    obtain ⟨⟨count, behind⟩, read, same⟩ := bind_eq_ok.mp decoded
    obtain ⟨_, rfl⟩ := Prod.mk.inj (Except.ok.inj same)
    unfold decodeHopCount at read
    split at read
    · cases read
    · obtain ⟨octet, _, same⟩ := bind_eq_ok.mp read
      exact (Prod.mk.inj (Except.ok.inj same)).2

theorem le_of_skipAddress {present offset next}
    (skipped : skipAddress data present offset = some next)
    : offset ≤ next := by
  cases present with
  | false => exact Nat.le_of_eq (Option.some.inj skipped)
  | true =>
    obtain ⟨length, _, rfl⟩ := Option.map_eq_some_iff.mp skipped
    omega

/-- The check looks at the octet behind the addresses and the hop count. -/
theorem isConfirmedRequestNpdu_behind {version control rest afterDest afterSrc}
    (apdu : control &&& 0x80 = 0)
    (skipDest : skipAddress (version :: control :: rest) (control &&& 0x20 ≠ 0) 2 = some afterDest)
    (skipSrc : skipAddress (version :: control :: rest) (control &&& 0x08 ≠ 0) afterDest
      = some afterSrc)
    : isConfirmedRequestNpdu (version :: control :: rest)
      ↔ ∃ first ∈ (version :: control :: rest)[if control &&& 0x20 ≠ 0 then afterSrc + 1
          else afterSrc]?, first >>> 4 = 0 := by
  cases rest with
  | nil =>
    have within : 2 ≤ if control &&& 0x20 ≠ 0 then afterSrc + 1 else afterSrc := by
      have first := le_of_skipAddress skipDest
      have second := le_of_skipAddress skipSrc
      split <;> omega
    have outside : [version, control][if control &&& 0x20 ≠ 0 then afterSrc + 1
        else afterSrc]? = none := List.getElem?_eq_none within
    rw [outside]
    exact iff_of_false Bool.false_ne_true fun ⟨_, found, _⟩ => Option.not_mem_none _ found
  | cons third rest =>
    unfold isConfirmedRequestNpdu
    simp only [ne_eq, apdu, not_true_eq_false, if_false, decide_not] at skipDest skipSrc ⊢
    simp only [skipDest, Option.bind_some, skipSrc, Bool.not_eq_true', decide_eq_false_iff_not]
    cases (version :: control :: third :: rest)[if ¬ control &&& 0x20 = 0 then afterSrc + 1
        else afterSrc]? with
    | none => simp
    | some first => simp

/-- The check finds a confirmed request in octets exactly if the decoder does. -/
theorem isConfirmedRequestNpdu_iff (decoded : decodeNpdu data = .ok npdu)
    : isConfirmedRequestNpdu data ↔ npdu.IsConfirmedRequest := by
  unfold decodeNpdu at decoded
  split at decoded
  · cases decoded
  · obtain ⟨version, versionRead, later⟩ := bind_eq_ok.mp decoded
    split at later
    · cases later
    · obtain ⟨control, controlRead, later⟩ := bind_eq_ok.mp later
      obtain ⟨⟨destination, afterDest⟩, destRead, later⟩ := bind_eq_ok.mp later
      obtain ⟨⟨source, afterSrc⟩, srcRead, later⟩ := bind_eq_ok.mp later
      obtain ⟨⟨hops, afterHops⟩, hopsRead, later⟩ := bind_eq_ok.mp later
      dsimp only at destRead srcRead hopsRead later
      have header : data = version :: control :: data.drop 2 := by
        have start := drop_eq_cons versionRead
        rw [List.drop_zero, drop_eq_cons controlRead] at start
        exact start
      have skipDest := skipAddress_destination destRead
      have skipSrc := skipAddress_source srcRead
      have skipHops := behind_hopCount hopsRead
      split at later
      · next message =>
          -- a network message, which the control octet says
          obtain ⟨⟨type, vendor, contents⟩, _, same⟩ := bind_eq_ok.mp later
          cases same
          refine iff_of_false ?_ fun confirmed => ?_
          · rw [header]
            unfold isConfirmedRequestNpdu
            split
            · next octet _ _ shape =>
                obtain ⟨rfl, _⟩ := List.cons.inj (List.cons.inj shape).2
                rw [if_pos (of_decide_eq_true message)]
                exact Bool.false_ne_true
            · exact Bool.false_ne_true
          · exact absurd (confirmed.1.symm.trans message) Bool.false_ne_true
      · next apdu =>
          cases later
          have bit : control &&& 0x80 = 0 := by simpa [Control.decode] using apdu
          rw [header] at skipDest skipSrc
          have found := isConfirmedRequestNpdu_behind bit skipDest skipSrc
          have offset : (if control &&& 0x20 ≠ 0 then afterSrc + 1 else afterSrc) = afterHops := by
            simpa [Control.decode] using skipHops
          rw [← header, offset] at found
          have head : (data.drop afterHops).head? = data[afterHops]? := List.head?_drop
          rw [found, NPDU.IsConfirmedRequest]
          simp only [head, confirmedRequest_iff, Bool.eq_false_of_not_eq_true apdu, true_and]

-- The receive callback

/-- A message for all stations, of any kind. -/
def BvllMessage.IsBroadcast (msg : BvllMessage) : Prop :=
  msg.function = .originalBroadcastNpdu ∨ msg.function = .forwardedNpdu
    ∨ msg.function = .distributeBroadcastToNetwork

/-- A call of the receive callback. -/
def BipOutput.received : BipOutput → Option (Bytes × Bytes)
  | .receive npdu sourceMac => some (npdu, sourceMac)
  | .sendto .. => none

namespace BIPTransport

variable {transport : BIPTransport} {bbmd : BBMDManager} {now : Rat} {addr : BIPAddress}

/-- The calls of the receive callback that a datagram causes. -/
def received (transport : BIPTransport) (now : Rat) (data : Bytes) (addr : BIPAddress)
    : List (Bytes × Bytes) :=
  (transport.onDatagramReceived now data addr).2.filterMap BipOutput.received

/-- The station in whose name the NPDU of a broadcast is handed over, where no check holds it back.
A BBMD hands over only what it can also forward.
-/
def origin (transport : BIPTransport) (msg : BvllMessage) (addr : BIPAddress) : Option BIPAddress :=
  if addr = transport.localAddress then none
  else
    match transport.bbmd with
    | none =>
      if msg.function = .originalBroadcastNpdu then some addr else msg.originatingAddress
    | some bbmd =>
      if 65525 < msg.data.length then none
      else if msg.function = .originalBroadcastNpdu then some addr
      else if msg.function = .forwardedNpdu then
        msg.originatingAddress.bind fun origin =>
          if origin = bbmd.localAddress ∨ some origin = bbmd.globalAddress then none
          else if bbmd.hasLocalBroadcast then some origin
          else none
      else if (bbmd.fdt.get addr).isSome ∧ bbmd.hasLocalBroadcast then some addr
      else none

/-- The call of the receive callback for an NPDU from a station, if there is one. -/
def handedOver (transport : BIPTransport) (npdu : Bytes) (origin : Option BIPAddress)
    : List (Bytes × Bytes) :=
  if transport.hasReceiveCallback then origin.toList.map fun source => (npdu, source.encode)
  else []

theorem handedOver_none (npdu : Bytes) : transport.handedOver npdu none = [] := ite_self []

theorem received_sendAll (data : Bytes) (destinations)
    : (sendAll data destinations).filterMap BipOutput.received = [] := by
  rw [sendAll, List.filterMap_map]
  exact List.filterMap_eq_nil_iff.mpr fun _ _ => rfl

theorem received_deliverBroadcast (npdu : Bytes) (source : BIPAddress)
    : (transport.deliverBroadcast npdu source).filterMap BipOutput.received
      = if isConfirmedRequestNpdu npdu then [] else transport.handedOver npdu (some source) := by
  unfold deliverBroadcast deliver handedOver
  split
  · rfl
  · split <;> rfl

theorem received_deliverByBbmd (npdu : Bytes) (source : BIPAddress)
    : (transport.deliverByBbmd bbmd npdu source).filterMap BipOutput.received
      = if isConfirmedRequestNpdu npdu then []
        else transport.handedOver npdu (if bbmd.hasLocalBroadcast then some source else none) := by
  unfold deliverByBbmd
  split
  · exact received_deliverBroadcast npdu source
  · rw [handedOver_none, ite_self]
    rfl

/-- What is delivered besides is delivered if a Forwarded-NPDU has room for the NPDU. -/
theorem received_forwardAll {delivered} (npdu : Bytes) (origin : BIPAddress) (destinations)
    : (forwardAll npdu origin destinations delivered).filterMap BipOutput.received
      = if 65525 < npdu.length then [] else delivered.filterMap BipOutput.received := by
  unfold forwardAll
  cases encodes : encodeBvll .forwardedNpdu npdu (some origin) with
  | ok forwarded =>
    have fits := encodeBvll_forwarded_ok.mp ⟨forwarded, encodes⟩
    rw [if_neg (Nat.not_lt.mpr fits), List.filterMap_append, received_sendAll, List.nil_append]
  | error raised =>
    have large : 65525 < npdu.length := by
      by_contra fits
      obtain ⟨forwarded, encoded⟩ :=
        (@encodeBvll_forwarded_ok npdu origin).mpr (Nat.not_lt.mp fits)
      rw [encodes] at encoded
      cases encoded
    rw [if_pos large]
    rfl

/-- A BBMD hands a broadcast over unless the check drops it. -/
theorem received_withBbmd {msg} (attached : transport.bbmd = some bbmd)
    (decoded : decodeBvll data = .ok msg) (broadcast : msg.IsBroadcast)
    (other : addr ≠ transport.localAddress)
    : transport.received now data addr
      = if isConfirmedRequestNpdu msg.data then []
        else transport.handedOver msg.data (transport.origin msg addr) := by
  have address := originatingAddress_of_decoded decoded
  obtain ⟨function, npdu, originatingAddress⟩ := msg
  unfold received origin
  rw [if_neg other]
  simp only [attached]
  rcases broadcast with rfl | rfl | rfl
  · rw [if_neg (by simp)] at address
    obtain rfl := address
    rw [receive_original attached other decoded, received_forwardAll, received_deliverBroadcast]
    by_cases large : 65525 < npdu.length
    · rw [if_pos large, if_pos large, handedOver_none, ite_self]
    · rw [if_neg large, if_neg large, if_pos rfl]
  · rw [if_pos rfl] at address
    obtain ⟨source, rfl⟩ := Option.isSome_iff_exists.mp address
    rw [receive_forwarded attached other decoded]
    simp only [reduceCtorEq, if_false, if_true, Option.bind_some]
    by_cases own : source = bbmd.localAddress ∨ some source = bbmd.globalAddress
    · rw [if_pos own, if_pos own, ite_self, handedOver_none, ite_self]
      rfl
    · rw [if_neg own, if_neg own, received_forwardAll, received_deliverByBbmd]
      by_cases large : 65525 < npdu.length
      · rw [if_pos large, if_pos large, handedOver_none, ite_self]
      · rw [if_neg large, if_neg large]
  · rw [if_neg (by simp)] at address
    obtain rfl := address
    cases registered : (bbmd.fdt.get addr).isSome with
    | false =>
      have unknown : (bbmd.fdt.get addr).isNone := by simpa using registered
      rw [receive_distribute_unknown attached other unknown decoded]
      simp only [reduceCtorEq, if_false, false_and, Bool.false_eq_true, ite_self,
        handedOver_none]
      unfold sendBvlcNak
      split <;> rfl
    | true =>
      rw [receive_distribute attached other registered decoded, received_forwardAll,
        received_deliverByBbmd]
      by_cases large : 65525 < npdu.length
      · rw [if_pos large, if_pos large, handedOver_none, ite_self]
      · simp only [if_neg large, reduceCtorEq, if_false, true_and]

theorem received_withoutBbmd {msg} (alone : transport.bbmd = none)
    (decoded : decodeBvll data = .ok msg) (broadcast : msg.IsBroadcast)
    (other : addr ≠ transport.localAddress)
    : transport.received now data addr
      = if isConfirmedRequestNpdu msg.data then []
        else transport.handedOver msg.data (transport.origin msg addr) := by
  have address := originatingAddress_of_decoded decoded
  obtain ⟨function, npdu, originatingAddress⟩ := msg
  unfold received origin onDatagramReceived
  rw [if_neg other]
  simp only [alone, decoded, if_neg other]
  rcases broadcast with rfl | rfl | rfl
  · exact received_deliverBroadcast npdu addr
  · rw [if_pos rfl] at address
    obtain ⟨source, rfl⟩ := Option.isSome_iff_exists.mp address
    exact received_deliverBroadcast npdu source
  · rw [if_neg (by simp)] at address
    obtain rfl := address
    simp only [reduceCtorEq, if_false, handedOver_none, ite_self, receiveWithoutBbmd, bvlcNakMap,
      sendBvlcNak]
    split <;> rfl

/-- The receive callback is called for a broadcast as it would be without the check, but for the
NPDUs that the check finds.
-/
theorem received_broadcast {msg} (decoded : decodeBvll data = .ok msg) (broadcast : msg.IsBroadcast)
    : transport.received now data addr
      = if isConfirmedRequestNpdu msg.data then []
        else transport.handedOver msg.data (transport.origin msg addr) := by
  by_cases own : addr = transport.localAddress
  · unfold received origin onDatagramReceived
    simp only [decoded, if_pos own, handedOver_none, ite_self]
    rfl
  · cases attached : transport.bbmd with
    | none => exact received_withoutBbmd attached decoded broadcast own
    | some bbmd => exact received_withBbmd attached decoded broadcast own

/-- The check agrees with the decoder, so that a broadcast reaches the receive callback exactly if it
is no confirmed request, and would reach it without the check.
-/
theorem broadcastFilter_exact
    : (∀ data npdu, decodeNpdu data = .ok npdu
        → (isConfirmedRequestNpdu data ↔ npdu.IsConfirmedRequest))
      ∧ ∀ (transport : BIPTransport) now data addr msg npdu, decodeBvll data = .ok msg
        → msg.IsBroadcast → decodeNpdu msg.data = .ok npdu
        → (npdu.IsConfirmedRequest → transport.received now data addr = [])
          ∧ (¬ npdu.IsConfirmedRequest → transport.received now data addr
              = transport.handedOver msg.data (transport.origin msg addr)) := by
  refine ⟨fun _ _ decoded => isConfirmedRequestNpdu_iff decoded, ?_⟩
  intro transport now data addr msg npdu decoded broadcast npduDecoded
  have agrees := isConfirmedRequestNpdu_iff npduDecoded
  rw [received_broadcast decoded broadcast]
  exact ⟨fun confirmed => if_pos (agrees.mpr confirmed),
    fun unconfirmed => if_neg fun found => unconfirmed (agrees.mp found)⟩

/-- A confirmed request with both addresses, as a broadcast of a station without BBMDs. -/
theorem broadcastFilter_routed
    : isConfirmedRequestNpdu [1, 0x28, 0, 5, 0, 0, 2, 1, 9, 255, 0, 5]
      ∧ (received { localAddress := ⟨1, 47808⟩, port := 47808, broadcastAddress := 7 } 0
          [0x81, 0x0B, 0, 16, 1, 0x28, 0, 5, 0, 0, 2, 1, 9, 255, 0, 5] ⟨2, 47808⟩) = [] := by
  have confirmed : NPDU.IsConfirmedRequest {
      destination := some { network := some 5 }, source := some { network := some 2, macAddress := [9] }
      apdu := [0, 5] } := ⟨rfl, 0, rfl, rfl⟩
  have decoded : decodeNpdu [1, 0x28, 0, 5, 0, 0, 2, 1, 9, 255, 0, 5] = .ok {
      destination := some { network := some 5 }, source := some { network := some 2, macAddress := [9] }
      apdu := [0, 5] } := by decide +kernel
  have datagram : decodeBvll [0x81, 0x0B, 0, 16, 1, 0x28, 0, 5, 0, 0, 2, 1, 9, 255, 0, 5] = .ok {
      function := .originalBroadcastNpdu, data := [1, 0x28, 0, 5, 0, 0, 2, 1, 9, 255, 0, 5] } := by
    decide +kernel
  exact ⟨(broadcastFilter_exact.1 _ _ decoded).mpr confirmed,
    (broadcastFilter_exact.2 _ _ _ _ _ _ datagram (Or.inl rfl) decoded).1 confirmed⟩

end BIPTransport

end BacPy
