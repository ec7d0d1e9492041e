import BacPy.DataLink.BroadcastNetwork

/-! Everything that comes of a broadcast, and that it is the same in every run. -/

namespace BacPy

open Library

-- Everything that comes of a broadcast

/-- An Original-Broadcast-NPDU or a Forwarded-NPDU. -/
def IsBroadcast (data : Bytes) : Prop :=
  (∃ npdu, decodeBvll data = .ok { function := .originalBroadcastNpdu, data := npdu })
    ∨ ∃ npdu origin, decodeBvll data
      = .ok { function := .forwardedNpdu, data := npdu, originatingAddress := some origin }

theorem IsBroadcast.broadcasting {data} (broadcast : IsBroadcast data)
    : BipNetwork.Broadcasting data := by
  intro msg decoded
  rcases broadcast with ⟨npdu, original⟩ | ⟨npdu, origin, forwarded⟩
  · rw [original] at decoded
    exact .inl (congrArg BvllMessage.function (Except.ok.inj decoded).symm)
  · rw [forwarded] at decoded
    exact .inr (.inr (.inl (congrArg BvllMessage.function (Except.ok.inj decoded).symm)))

theorem isBroadcast_forwarded {npdu data origin}
    (encoded : encodeBvll .forwardedNpdu npdu (some origin) = .ok data)
    : IsBroadcast data :=
  .inr ⟨npdu, origin, decodeBvll_forwarded encoded⟩

namespace BIPTransport

variable {transport : BIPTransport} {data npdu : Bytes} {addr origin : BIPAddress}

theorem receive_own (own : addr = transport.localAddress) (now : Rat)
    : transport.onDatagramReceived now data addr = (transport, []) := by
  unfold onDatagramReceived
  split
  · rfl
  · exact if_pos own

/-- A node without a BBMD passes nothing on. -/
theorem receive_plain (plain : transport.bbmd = none) (broadcast : IsBroadcast data) (now : Rat)
    : ∃ delivered, transport.onDatagramReceived now data addr = (transport, delivered)
        ∧ destinations delivered = [] := by
  by_cases own : addr = transport.localAddress
  · exact ⟨[], receive_own own now, rfl⟩
  · have quiet : ∀ npdu source, destinations (transport.deliverBroadcast npdu source) = [] := by
      intro npdu source
      rw [deliverBroadcast_eq]
      split <;> rfl
    unfold onDatagramReceived
    rcases broadcast with ⟨npdu, decoded⟩ | ⟨npdu, origin, decoded⟩
    · simp only [decoded, if_neg own, plain]
      exact ⟨_, rfl, quiet npdu addr⟩
    · simp only [decoded, if_neg own, plain]
      exact ⟨_, rfl, quiet npdu origin⟩

/-- Time plays no part in broadcasts, and they leave the port as it is. -/
theorem receive_anytime (broadcast : IsBroadcast data) (now : Rat)
    : transport.onDatagramReceived now data addr
      = (transport, (transport.onDatagramReceived 0 data addr).2) := by
  by_cases own : addr = transport.localAddress
  · rw [receive_own own, receive_own own]
  · cases attached : transport.bbmd with
    | none =>
      unfold onDatagramReceived
      rcases broadcast with ⟨npdu, decoded⟩ | ⟨npdu, origin, decoded⟩
      · simp only [decoded, if_neg own, attached]
        rfl
      · simp only [decoded, if_neg own, attached]
        rfl
    | some bbmd =>
      rcases broadcast with ⟨npdu, decoded⟩ | ⟨npdu, origin, decoded⟩
      · rw [receive_original attached own decoded, receive_original attached own decoded]
      · rw [receive_forwarded attached own decoded, receive_forwarded attached own decoded]

theorem forwardOwnBroadcast_of_bbmd {bbmd frame now} (attached : transport.bbmd = some bbmd)
    (encoded : encodeBvll .forwardedNpdu npdu (some (bbmd.globalAddress.getD transport.localAddress))
      = .ok frame)
    : transport.forwardOwnBroadcast npdu now
      = .ok (forwardAll npdu (bbmd.globalAddress.getD transport.localAddress)
          (bbmd.recipients transport.localAddress none) []) := by
  unfold forwardOwnBroadcast forwardAll
  rw [attached]
  simp only [BBMDManager.handleBvlc, BBMDManager.unchanged, BBMDManager.handleOriginalBroadcast,
    BBMDManager.forwardToPeersAndFds, reduceCtorEq, false_and, if_false, bind, Except.bind, encoded,
    flatMap_send, List.append_nil]

end BIPTransport

namespace BipNetwork

section Cascades

variable {Node : Type} {net : BipNetwork Node} {start : Node → BIPTransport}

def caused (net : BipNetwork Node) (start : Node → BIPTransport) (datagram : Datagram Node)
    : List (Datagram Node) :=
  ((start datagram.receiver).onDatagramReceived 0 datagram.data datagram.udpSource).2.flatMap
    (net.datagrams datagram.receiver)

/-- A datagram, and everything that comes of it. -/
def spread (net : BipNetwork Node) (start : Node → BIPTransport)
    : Datagram Node → List (Datagram Node) :=
  cascade (caused net start) (rank start)

theorem lowersIn_caused (noBbmd : NoBbmdRegistered net start) (one : OneBbmdPerSubnet net start)
    : LowersIn (fun datagram => IsBroadcast datagram.data) (caused net start) (rank start) := by
  intro datagram broadcast another member
  refine ⟨?_, rank_caused noBbmd one rfl rfl broadcast.broadcasting member⟩
  obtain ⟨dest, receiver, put, _⟩ := mem_caused member
  obtain ⟨msg, decoded, sends⟩ := (BIPTransport.receive_broadcasting (start datagram.receiver) 0
    datagram.udpSource broadcast.broadcasting).2.2 another.data dest put
  cases sends with
  | forwarded origin npdu attached fromWhere encoded => exact isBroadcast_forwarded encoded
  | further bbmd origin npdu attached fromPeer other within encoded =>
    exact isBroadcast_forwarded encoded
  | refused resultCode distribute encoded =>
    rcases broadcast with ⟨npdu, original⟩ | ⟨npdu, origin, forwarded⟩
    · rw [original] at decoded
      rw [← Except.ok.inj decoded] at distribute
      cases distribute
    · rw [forwarded] at decoded
      rw [← Except.ok.inj decoded] at distribute
      cases distribute

variable [DecidableEq Node]

/-- Broadcasts are all that is in flight, and the ports are as they were. -/
structure Broadcasts (start : Node → BIPTransport) (state : BipState Node) : Prop where
  transports : state.transports = start
  inFlight : ∀ datagram ∈ state.inFlight, IsBroadcast datagram.data

/-- All that has arrived or still will. -/
def whole (net : BipNetwork Node) (start : Node → BIPTransport) (state : BipState Node)
    : List (Datagram Node) :=
  state.arrived ++ state.inFlight.flatMap (spread net start)

/-- An arrival only brings about what was to be expected. -/
theorem broadcasts_step {state next arrival} (noBbmd : NoBbmdRegistered net start)
    (one : OneBbmdPerSubnet net start) (broadcasts : Broadcasts start state)
    (moved : step net state arrival = some next)
    : Broadcasts start next ∧ (whole net start next).Perm (whole net start state) := by
  obtain ⟨datagram, there, rfl⟩ := caused_of_step moved
  have lowers := lowersIn_caused noBbmd one
  have broadcast := broadcasts.inFlight datagram (List.mem_of_getElem? there)
  have handled : handle state datagram arrival.now
      = (start datagram.receiver,
          ((start datagram.receiver).onDatagramReceived 0 datagram.data datagram.udpSource).2) := by
    rw [handle, broadcasts.transports]
    exact BIPTransport.receive_anytime broadcast arrival.now
  rw [handled]
  refine ⟨⟨?_, ?_⟩, lowers.perm_cascade there broadcast⟩
  · exact (congrArg (Function.update · _ _) broadcasts.transports).trans
      (Function.update_eq_self ..)
  · intro another member
    rcases List.mem_append.mp member with before | sent
    · exact broadcasts.inFlight another (List.mem_of_mem_eraseIdx before)
    · exact (lowers datagram broadcast another sent).1

end Cascades

end BipNetwork

end BacPy
