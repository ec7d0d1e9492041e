import BacPy.DataLink.BroadcastHandling
import BacPy.Library.Cascades

/-! Networks of BACnet/IP ports: datagrams in flight, and how far a broadcast can spread. -/

namespace BacPy

open Library

/-- Who receives what a node sends to an address, and from which UDP source. -/
structure BipNetwork (Node : Type) where
  receivers : Node → BIPAddress → List (Node × BIPAddress)

/-- A datagram on its way to a node. -/
structure Datagram (Node : Type) where
  receiver : Node
  data : Bytes
  udpSource : BIPAddress
  deriving DecidableEq

/-- The ports of all nodes, the datagrams in flight, and those that have arrived. -/
structure BipState (Node : Type) where
  transports : Node → BIPTransport
  inFlight : List (Datagram Node)
  arrived : List (Datagram Node) := []

namespace BipNetwork

variable {Node : Type}

def datagrams (net : BipNetwork Node) (sender : Node) : BipOutput → List (Datagram Node)
  | .receive .. => []
  | .sendto data destination =>
    (net.receivers sender destination).map fun receiver =>
      { receiver := receiver.1, data, udpSource := receiver.2 }

def handle (state : BipState Node) (datagram : Datagram Node) (now : Rat)
    : BIPTransport × List BipOutput :=
  (state.transports datagram.receiver).onDatagramReceived now datagram.data datagram.udpSource

/-- A datagram in flight arrives. -/
structure Arrival where
  index : Nat
  now : Rat

def step [DecidableEq Node] (net : BipNetwork Node) (state : BipState Node) (arrival : Arrival)
    : Option (BipState Node) :=
  match state.inFlight[arrival.index]? with
  | none => none
  | some datagram =>
    let (transport, outputs) := handle state datagram arrival.now
    some {
      transports := Function.update state.transports datagram.receiver transport
      inFlight := state.inFlight.eraseIdx arrival.index
        ++ outputs.flatMap (net.datagrams datagram.receiver)
      arrived := state.arrived ++ [datagram]
    }

-- What a broadcast causes

/-- The messages that broadcasts consist of, and the refusals they may meet. -/
def Broadcasting (data : Bytes) : Prop :=
  ∀ msg, decodeBvll data = .ok msg →
    msg.function = .originalBroadcastNpdu ∨ msg.function = .distributeBroadcastToNetwork
      ∨ msg.function = .forwardedNpdu ∨ msg.function = .bvlcResult

/-- How many more times a datagram can be passed on. -/
def rank (transports : Node → BIPTransport) (datagram : Datagram Node) : Nat :=
  match decodeBvll datagram.data with
  | .error _ => 0
  | .ok msg =>
    match msg.function with
    | .originalBroadcastNpdu => 3
    | .distributeBroadcastToNetwork => 3
    | .forwardedNpdu =>
      if (transports datagram.receiver).bbmd.isSome
          ∧ datagram.udpSource ≠ (transports datagram.receiver).localAddress then 2
      else 1
    | _ => 0

def NoBbmdRegistered (net : BipNetwork Node) (transports : Node → BIPTransport) : Prop :=
  ∀ node bbmd, (transports node).bbmd = some bbmd → ∀ fd ∈ bbmd.foreignDevices,
    ∀ receiver ∈ net.receivers node fd, (transports receiver.1).bbmd = none

/-- Each BBMD is alone on its subnet: of what it sends to its broadcast address, only its own echo
reaches a BBMD.
-/
def OneBbmdPerSubnet (net : BipNetwork Node) (transports : Node → BIPTransport) : Prop :=
  ∀ node bbmd broadcastAddress, (transports node).bbmd = some bbmd
    → bbmd.broadcastAddress = some broadcastAddress
    → ∀ receiver ∈ net.receivers node broadcastAddress,
      (transports receiver.1).bbmd = none ∨ receiver.2 = (transports receiver.1).localAddress

end BipNetwork

namespace BIPTransport

variable {transport : BIPTransport} {now : Rat} {data npdu : Bytes} {addr : BIPAddress}

/-- What a port sends about a datagram: what kind of message, and to whom. -/
inductive Sends (transport : BIPTransport) (addr : BIPAddress) (function : BvlcFunction)
    (data : Bytes) (dest : BIPAddress)
    : Prop where
  /-- a broadcast is forwarded by a BBMD -/
  | forwarded (origin : BIPAddress) (npdu : Bytes) (attached : transport.bbmd.isSome)
      (broadcast : function = .originalBroadcastNpdu ∨ function = .distributeBroadcastToNetwork)
      (encoded : encodeBvll .forwardedNpdu npdu (some origin) = .ok data)
  /-- a Forwarded-NPDU is sent to foreign devices and onto the wire -/
  | further (bbmd : BBMDManager) (origin : BIPAddress) (npdu : Bytes)
      (attached : transport.bbmd = some bbmd) (fromPeer : function = .forwardedNpdu)
      (other : addr ≠ transport.localAddress)
      (within : dest ∈ bbmd.foreignDevices ∨ some dest = bbmd.broadcastAddress)
      (encoded : encodeBvll .forwardedNpdu npdu (some origin) = .ok data)
  /-- a broadcast of a device that is not registered is refused -/
  | refused (resultCode : BvlcResultCode) (distribute : function = .distributeBroadcastToNetwork)
      (encoded : encodeBvll .bvlcResult (toBytes resultCode.toNat 2) = .ok data)

theorem sends_forwardAll {origin dest destinations delivered}
    (quiet : ∀ data dest, .sendto data dest ∉ delivered)
    (member : .sendto data dest ∈ forwardAll npdu origin destinations delivered)
    : dest ∈ destinations ∧ encodeBvll .forwardedNpdu npdu (some origin) = .ok data := by
  unfold forwardAll at member
  split at member
  · exact absurd member List.not_mem_nil
  · next forwarded encoded =>
      rcases List.mem_append.mp member with sent | local_
      · obtain ⟨_, listed, same⟩ := List.mem_map.mp sent
        cases same
        exact ⟨listed, encoded⟩
      · exact absurd local_ (quiet _ _)

theorem quiet_deliver {source dest}
    : .sendto data dest ∉ transport.deliver npdu source := by
  unfold deliver
  split <;> simp

theorem quiet_deliverBroadcast {source dest}
    : .sendto data dest ∉ transport.deliverBroadcast npdu source := by
  unfold deliverBroadcast
  split
  · exact List.not_mem_nil
  · exact quiet_deliver

theorem quiet_deliverByBbmd {bbmd source dest}
    : .sendto data dest ∉ transport.deliverByBbmd bbmd npdu source := by
  unfold deliverByBbmd
  split
  · exact quiet_deliverBroadcast
  · exact List.not_mem_nil

theorem quiet_receiveMessage {msg source} (data : Bytes) (dest : BIPAddress)
    : (transport.receiveMessage msg source).1.bbmd = transport.bbmd
      ∧ (transport.receiveMessage msg source).1.localAddress = transport.localAddress
      ∧ .sendto data dest ∉ (transport.receiveMessage msg source).2 := by
  unfold receiveMessage
  split
  · exact ⟨rfl, rfl, quiet_deliver⟩
  · exact ⟨rfl, rfl, quiet_deliverBroadcast⟩
  · split
    · exact ⟨rfl, rfl, List.not_mem_nil⟩
    · exact ⟨rfl, rfl, quiet_deliverBroadcast⟩
  · unfold handleBvlcResult
    split
    · exact ⟨rfl, rfl, List.not_mem_nil⟩
    · split
      · exact ⟨rfl, rfl, List.not_mem_nil⟩
      · exact ⟨rfl, rfl, List.not_mem_nil⟩
  · exact ⟨rfl, rfl, List.not_mem_nil⟩

theorem sends_sendBvlcNak {resultCode function dest}
    (distribute : function = .distributeBroadcastToNetwork)
    (member : .sendto data dest ∈ sendBvlcNak resultCode addr)
    : Sends transport addr function data dest := by
  unfold sendBvlcNak at member
  split at member
  · exact absurd member List.not_mem_nil
  · next encoded =>
      cases List.mem_singleton.mp member
      exact .refused resultCode distribute encoded

/-- A port without a BBMD refuses the broadcasts of foreign devices, and delivers the others. -/
theorem receive_withoutBbmd {msg}
    (broadcast : msg.function = .originalBroadcastNpdu
      ∨ msg.function = .distributeBroadcastToNetwork ∨ msg.function = .forwardedNpdu
      ∨ msg.function = .bvlcResult)
    : (transport.receiveWithoutBbmd msg addr).1.bbmd = transport.bbmd
      ∧ (transport.receiveWithoutBbmd msg addr).1.localAddress = transport.localAddress
      ∧ ∀ sent dest, .sendto sent dest ∈ (transport.receiveWithoutBbmd msg addr).2
        → Sends transport addr msg.function sent dest := by
  unfold receiveWithoutBbmd
  by_cases distribute : msg.function = .distributeBroadcastToNetwork
  · have nak : bvlcNakMap msg.function = some .distributeBroadcastToNetworkNak := by
      rw [distribute]
      rfl
    rw [nak]
    exact ⟨rfl, rfl, fun _ _ member => sends_sendBvlcNak distribute member⟩
  · have noNak : bvlcNakMap msg.function = none := by
      rcases broadcast with original | distributed | forwarded | result
      · rw [original]; rfl
      · exact absurd distributed distribute
      · rw [forwarded]; rfl
      · rw [result]; rfl
    rw [noNak]
    obtain ⟨same, sameAddress, _⟩ := quiet_receiveMessage [] addr
    exact ⟨same, sameAddress, fun _ _ member => absurd member (quiet_receiveMessage _ _).2.2⟩

/-- The messages of a broadcast are passed on as the equations say. -/
theorem receive_decoded {msg} (decoded : decodeBvll data = .ok msg)
    (broadcasting : BipNetwork.Broadcasting data)
    : (transport.onDatagramReceived now data addr).1.bbmd = transport.bbmd
      ∧ (transport.onDatagramReceived now data addr).1.localAddress = transport.localAddress
      ∧ ∀ sent dest, .sendto sent dest ∈ (transport.onDatagramReceived now data addr).2
        → Sends transport addr msg.function sent dest := by
  by_cases own : addr = transport.localAddress
  · have nothing : transport.onDatagramReceived now data addr = (transport, []) := by
      unfold onDatagramReceived
      rw [decoded]
      exact if_pos own
    rw [nothing]
    exact ⟨rfl, rfl, fun _ _ member => absurd member List.not_mem_nil⟩
  have kind := broadcasting msg decoded
  cases attached : transport.bbmd with
  | none =>
    have plain : transport.onDatagramReceived now data addr
        = transport.receiveWithoutBbmd msg addr := by
      unfold onDatagramReceived
      simp only [decoded, if_neg own, attached]
    rw [plain, ← attached]
    exact receive_withoutBbmd kind
  | some bbmd =>
    have address := originatingAddress_of_decoded decoded
    obtain ⟨function, npdu, origin⟩ := msg
    dsimp only at kind address ⊢
    rcases kind with rfl | rfl | rfl | rfl
    · obtain rfl : origin = none := by simpa using address
      rw [receive_original attached own decoded]
      refine ⟨attached, rfl, fun sent dest member => ?_⟩
      obtain ⟨_, encoded⟩ := sends_forwardAll (fun _ _ => quiet_deliverBroadcast) member
      exact .forwarded _ _ (by rw [attached]; rfl) (.inl rfl) encoded
    · obtain rfl : origin = none := by simpa using address
      cases registered : bbmd.fdt.get addr with
      | none =>
        rw [receive_distribute_unknown attached own (by rw [registered]; rfl) decoded]
        exact ⟨attached, rfl, fun _ _ member => sends_sendBvlcNak rfl member⟩
      | some entry =>
        rw [receive_distribute attached own (by rw [registered]; rfl) decoded]
        refine ⟨attached, rfl, fun sent dest member => ?_⟩
        obtain ⟨_, encoded⟩ := sends_forwardAll (fun _ _ => quiet_deliverByBbmd) member
        exact .forwarded _ _ (by rw [attached]; rfl) (.inr rfl) encoded
    · obtain ⟨origin, rfl⟩ := Option.isSome_iff_exists.mp (by simpa using address)
      rw [receive_forwarded attached own decoded]
      refine ⟨attached, rfl, fun sent dest member => ?_⟩
      dsimp only at member
      split at member
      · exact absurd member List.not_mem_nil
      · obtain ⟨listed, encoded⟩ := sends_forwardAll (fun _ _ => quiet_deliverByBbmd) member
        refine .further bbmd origin npdu attached rfl own ?_ encoded
        rcases List.mem_append.mp listed with device | wire
        · exact .inl (List.mem_of_mem_filter device)
        · right
          unfold BBMDManager.wire at wire
          split at wire
          · exact (Option.mem_toList.mp wire).symm
          · exact absurd wire List.not_mem_nil
    · have plain : transport.onDatagramReceived now data addr
          = transport.receiveMessage { function := .bvlcResult, data := npdu, originatingAddress := origin }
            addr := by
        unfold onDatagramReceived
        simp only [decoded, if_neg own, attached, receiveWithBbmd, BBMDManager.handleBvlc,
          reduceCtorEq, false_and, if_false, same_of_bbmd attached, List.flatMap_nil,
          Bool.false_eq_true, or_self, List.nil_append]
      rw [plain, ← attached]
      obtain ⟨same, sameAddress, _⟩ := quiet_receiveMessage [] addr
      exact ⟨same, sameAddress, fun _ _ member => absurd member (quiet_receiveMessage _ _).2.2⟩

/-- The messages of a broadcast change no table and no address, and every datagram they cause is
accounted for.
-/
theorem receive_broadcasting (transport : BIPTransport) (now : Rat) (addr : BIPAddress)
    (broadcasting : BipNetwork.Broadcasting data)
    : (transport.onDatagramReceived now data addr).1.bbmd = transport.bbmd
      ∧ (transport.onDatagramReceived now data addr).1.localAddress = transport.localAddress
      ∧ ∀ sent dest, .sendto sent dest ∈ (transport.onDatagramReceived now data addr).2
        → ∃ msg, decodeBvll data = .ok msg ∧ Sends transport addr msg.function sent dest := by
  cases decoded : decodeBvll data with
  | error raised =>
    have nothing : transport.onDatagramReceived now data addr = (transport, []) := by
      unfold onDatagramReceived
      rw [decoded]
    rw [nothing]
    exact ⟨rfl, rfl, fun _ _ member => absurd member List.not_mem_nil⟩
  | ok msg =>
    obtain ⟨bbmds, addresses, sends⟩ := receive_decoded decoded broadcasting
    exact ⟨bbmds, addresses, fun sent dest member => ⟨msg, rfl, sends sent dest member⟩⟩

end BIPTransport

namespace BipNetwork

variable {Node : Type} {net : BipNetwork Node} {start : Node → BIPTransport}

/-- Broadcasts and their refusals are all that is in flight, and no table and no address has
changed since the start.
-/
structure Spreading (start : Node → BIPTransport) (state : BipState Node) : Prop where
  bbmds : ∀ node, (state.transports node).bbmd = (start node).bbmd
  addresses : ∀ node, (state.transports node).localAddress = (start node).localAddress
  broadcasts : ∀ datagram ∈ state.inFlight, Broadcasting datagram.data

theorem resultNotForwarded : BvlcFunction.bvlcResult ≠ .forwardedNpdu := by decide

theorem broadcasting_of_sends {transport addr dest function sent}
    (sends : BIPTransport.Sends transport addr function sent dest)
    : Broadcasting sent := by
  intro msg decoded
  cases sends with
  | forwarded origin npdu attached broadcast encoded =>
    rw [decodeBvll_forwarded encoded] at decoded
    exact .inr (.inr (.inl (congrArg BvllMessage.function (Except.ok.inj decoded).symm)))
  | further bbmd origin npdu attached fromPeer other within encoded =>
    rw [decodeBvll_forwarded encoded] at decoded
    exact .inr (.inr (.inl (congrArg BvllMessage.function (Except.ok.inj decoded).symm)))
  | refused resultCode distribute encoded =>
    rw [decodeBvll_other resultNotForwarded encoded] at decoded
    exact .inr (.inr (.inr (congrArg BvllMessage.function (Except.ok.inj decoded).symm)))

/-- A datagram that is put in flight is one that the node sends. -/
theorem mem_caused {sender : Node} {outputs : List BipOutput} {datagram : Datagram Node}
    (member : datagram ∈ outputs.flatMap (net.datagrams sender))
    : ∃ dest receiver, .sendto datagram.data dest ∈ outputs ∧ receiver ∈ net.receivers sender dest
        ∧ datagram.receiver = receiver.1 ∧ datagram.udpSource = receiver.2 := by
  obtain ⟨output, put, sent⟩ := List.mem_flatMap.mp member
  cases output with
  | receive npdu sourceMac => cases sent
  | sendto data dest =>
    obtain ⟨receiver, reached, rfl⟩ := List.mem_map.mp sent
    exact ⟨dest, receiver, put, reached, rfl, rfl⟩

def Lower (start : Node → BIPTransport) : Datagram Node → Datagram Node → Prop :=
  InvImage (· < ·) (rank start)

theorem rank_forwarded_le {datagram origin npdu}
    (encoded : encodeBvll .forwardedNpdu npdu (some origin) = .ok datagram.data)
    : rank start datagram ≤ 2 := by
  simp only [rank, decodeBvll_forwarded encoded]
  split <;> omega

theorem rank_forwarded_plain {datagram origin npdu}
    (encoded : encodeBvll .forwardedNpdu npdu (some origin) = .ok datagram.data)
    (plain : (start datagram.receiver).bbmd = none
      ∨ datagram.udpSource = (start datagram.receiver).localAddress)
    : rank start datagram = 1 := by
  simp only [rank, decodeBvll_forwarded encoded]
  rw [if_neg]
  rintro ⟨attached, other⟩
  rcases plain with none | own
  · rw [none] at attached
    cases attached
  · exact other own

/-- What a node sends about a broadcast is lower than it. -/
theorem rank_caused (noBbmd : NoBbmdRegistered net start) (one : OneBbmdPerSubnet net start)
    {transport : BIPTransport} {now : Rat} {datagram another : Datagram Node}
    (sameBbmd : transport.bbmd = (start datagram.receiver).bbmd)
    (sameAddress : transport.localAddress = (start datagram.receiver).localAddress)
    (broadcasting : Broadcasting datagram.data)
    (caused : another ∈ (transport.onDatagramReceived now datagram.data datagram.udpSource).2.flatMap
      (net.datagrams datagram.receiver))
    : rank start another < rank start datagram := by
  obtain ⟨dest, receiver, put, reached, same, sameSource⟩ := mem_caused caused
  obtain ⟨msg, decoded, sends⟩ := (BIPTransport.receive_broadcasting transport now
    datagram.udpSource broadcasting).2.2 another.data dest put
  cases sends with
  | forwarded origin npdu attached broadcast encoded =>
    have low : rank start another ≤ 2 := rank_forwarded_le encoded
    have high : rank start datagram = 3 := by
      simp only [rank, decoded]
      rcases broadcast with original | distribute
      · rw [original]
      · rw [distribute]
    omega
  | further bbmd origin npdu attached fromPeer other within encoded =>
    rw [sameBbmd] at attached
    rw [sameAddress] at other
    have high : rank start datagram = 2 := by
      simp only [rank, decoded, fromPeer]
      exact if_pos ⟨by rw [attached]; rfl, other⟩
    have low : rank start another = 1 := by
      apply rank_forwarded_plain encoded
      rw [same, sameSource]
      rcases within with device | wire
      · exact .inl (noBbmd _ bbmd attached dest device receiver reached)
      · exact one _ bbmd dest attached wire.symm receiver reached
    omega
  | refused resultCode distribute encoded =>
    have high : rank start datagram = 3 := by
      simp only [rank, decoded]
      rw [distribute]
    have low : rank start another = 0 := by
      simp only [rank, decodeBvll_other resultNotForwarded encoded]
    omega

/-- Where a BBMD sends a received Forwarded-NPDU: to foreign devices and at most once to its broadcast
address.
-/
theorem destinations_forwarded {transport : BIPTransport} {bbmd : BBMDManager} {now : Rat}
    {data npdu : Bytes} {origin addr : BIPAddress} (attached : transport.bbmd = some bbmd)
    (decoded : decodeBvll data
      = .ok { function := .forwardedNpdu, data := npdu, originatingAddress := some origin })
    : ∃ devices wire, devices.Sublist bbmd.foreignDevices
        ∧ wire.Sublist bbmd.broadcastAddress.toList
        ∧ BIPTransport.destinations (transport.onDatagramReceived now data addr).2
          = devices ++ wire := by
  by_cases own : addr = transport.localAddress
  · refine ⟨[], [], List.nil_sublist _, List.nil_sublist _, ?_⟩
    unfold BIPTransport.onDatagramReceived
    rw [decoded]
    exact congrArg (fun result : BIPTransport × List BipOutput => BIPTransport.destinations result.2)
      (if_pos own)
  · rw [BIPTransport.receive_forwarded attached own decoded]
    dsimp only
    split
    · exact ⟨[], [], List.nil_sublist _, List.nil_sublist _, rfl⟩
    · unfold BIPTransport.forwardAll
      split
      · exact ⟨[], [], List.nil_sublist _, List.nil_sublist _, rfl⟩
      · refine ⟨bbmd.foreignDevices.filter fun fd => fd ≠ origin, bbmd.wire addr,
          List.filter_sublist, ?_, ?_⟩
        · unfold BBMDManager.wire
          split
          · exact List.Sublist.refl _
          · exact List.nil_sublist _
        · rw [BIPTransport.destinations_append, BIPTransport.destinations_sendAll,
            BIPTransport.deliverByBbmd_eq]
          split <;> exact List.append_nil _

theorem spared_forwarded (noBbmd : NoBbmdRegistered net start) (one : OneBbmdPerSubnet net start)
    {node : Node} {now : Rat} {data npdu : Bytes} {origin addr : BIPAddress}
    (decoded : decodeBvll data
      = .ok { function := .forwardedNpdu, data := npdu, originatingAddress := some origin })
    {datagram : Datagram Node}
    (caused : datagram ∈ ((start node).onDatagramReceived now data addr).2.flatMap
      (net.datagrams node))
    : (start datagram.receiver).bbmd = none
      ∨ datagram.udpSource = (start datagram.receiver).localAddress := by
  obtain ⟨dest, receiver, put, reached, same, sameSource⟩ := mem_caused caused
  have broadcasting : Broadcasting data := by
    intro msg other
    rw [decoded] at other
    exact .inr (.inr (.inl (congrArg BvllMessage.function (Except.ok.inj other).symm)))
  have sends := (BIPTransport.receive_decoded decoded broadcasting).2.2 _ _ put
  rw [same, sameSource]
  cases sends with
  | forwarded origin npdu attached broadcast encoded =>
    rcases broadcast with original | distribute
    · cases original
    · cases distribute
  | further bbmd origin npdu attached fromPeer other within encoded =>
    rcases within with device | wire
    · exact .inl (noBbmd _ bbmd attached dest device receiver reached)
    · exact one _ bbmd dest attached wire.symm receiver reached
  | refused resultCode distribute encoded => cases distribute

-- Runs

variable [DecidableEq Node] {state next : BipState Node} {arrival : Arrival}

/-- What comes of a datagram when it arrives. -/
theorem caused_of_step (moved : step net state arrival = some next)
    : ∃ datagram, state.inFlight[arrival.index]? = some datagram
        ∧ next = {
            transports :=
              Function.update state.transports datagram.receiver (handle state datagram arrival.now).1
            inFlight := state.inFlight.eraseIdx arrival.index
              ++ (handle state datagram arrival.now).2.flatMap (net.datagrams datagram.receiver)
            arrived := state.arrived ++ [datagram]
          } := by
  unfold step at moved
  split at moved
  · cases moved
  · next datagram there => exact ⟨datagram, there, (Option.some.inj moved).symm⟩

theorem spreading_step (spreading : Spreading start state)
    (moved : step net state arrival = some next)
    : Spreading start next := by
  obtain ⟨datagram, there, rfl⟩ := caused_of_step moved
  obtain ⟨bbmd, address, sends⟩ := BIPTransport.receive_broadcasting
    (state.transports datagram.receiver) arrival.now datagram.udpSource
    (spreading.broadcasts datagram (List.mem_of_getElem? there))
  refine ⟨fun node => ?_, fun node => ?_, fun another member => ?_⟩
  · dsimp only
    by_cases same : node = datagram.receiver
    · rw [same, Function.update_self, ← spreading.bbmds]
      exact bbmd
    · rw [Function.update_of_ne same, spreading.bbmds]
  · dsimp only
    by_cases same : node = datagram.receiver
    · rw [same, Function.update_self, ← spreading.addresses]
      exact address
    · rw [Function.update_of_ne same, spreading.addresses]
  · rcases List.mem_append.mp member with before | caused
    · exact spreading.broadcasts another (List.mem_of_mem_eraseIdx before)
    · obtain ⟨dest, _, put, _⟩ := mem_caused caused
      obtain ⟨_, _, sent⟩ := sends another.data dest put
      exact broadcasting_of_sends sent

/-- A datagram that arrives is replaced by lower ones. -/
theorem lowers_step (noBbmd : NoBbmdRegistered net start) (one : OneBbmdPerSubnet net start)
    (spreading : Spreading start state) (moved : step net state arrival = some next)
    : Relation.CutExpand (Lower start) (next.inFlight : Multiset (Datagram Node))
        state.inFlight := by
  obtain ⟨datagram, there, rfl⟩ := caused_of_step moved
  exact cutExpand_eraseIdx there fun another caused =>
    rank_caused noBbmd one (spreading.bbmds _) (spreading.addresses _)
      (spreading.broadcasts datagram (List.mem_of_getElem? there)) caused

theorem no_endlessRun (noBbmd : NoBbmdRegistered net state.transports)
    (one : OneBbmdPerSubnet net state.transports)
    (broadcasts : ∀ datagram ∈ state.inFlight, Broadcasting datagram.data)
    : ¬ ∃ states arrivals, EndlessRun (step net) states arrivals ∧ states 0 = state := by
  rintro ⟨states, arrivals, endless, rfl⟩
  have all : { n | True }.Finite :=
    endless.finite_of_lower (InvImage.wf (rank (states 0).transports) wellFounded_lt)
      BipState.inFlight (fun _ => True) spreading_step
      (fun spreading (_ : True) _ moved => lowers_step noBbmd one spreading moved)
      (fun rests => absurd trivial rests) ⟨fun _ => rfl, fun _ => rfl, broadcasts⟩
      fun _ => trivial
  exact Set.infinite_univ (by simpa using all)

/-- A BBMD sends a received Forwarded-NPDU to foreign devices and at most once to its broadcast
address; with one BBMD on each subnet and none registered as a foreign device, no other BBMD gets
it. One broadcast then causes finitely many datagrams, however the tables contradict each other:
no run goes on without an end.
-/
theorem broadcast_ends
    : (∀ (transport : BIPTransport) bbmd now data npdu origin addr,
        transport.bbmd = some bbmd
        → decodeBvll data
          = .ok { function := .forwardedNpdu, data := npdu, originatingAddress := some origin }
        → ∃ devices wire, devices.Sublist bbmd.foreignDevices
          ∧ wire.Sublist bbmd.broadcastAddress.toList
          ∧ BIPTransport.destinations (transport.onDatagramReceived now data addr).2
            = devices ++ wire)
      ∧ ∀ (Node : Type) [DecidableEq Node] (net : BipNetwork Node) (start : BipState Node),
        NoBbmdRegistered net start.transports → OneBbmdPerSubnet net start.transports
        → (∀ node now data npdu origin addr, decodeBvll data
            = .ok { function := .forwardedNpdu, data := npdu, originatingAddress := some origin }
          → ∀ datagram ∈ ((start.transports node).onDatagramReceived now data addr).2.flatMap
              (net.datagrams node),
            (start.transports datagram.receiver).bbmd = none
              ∨ datagram.udpSource = (start.transports datagram.receiver).localAddress)
          ∧ ((∀ datagram ∈ start.inFlight, Broadcasting datagram.data)
            → ¬ ∃ states arrivals, EndlessRun (step net) states arrivals ∧ states 0 = start) := by
  constructor
  · intro transport bbmd now data npdu origin addr attached decoded
    exact destinations_forwarded attached decoded
  · intro Node _ net start noBbmd one
    constructor
    · intro node now data npdu origin addr decoded datagram caused
      exact spared_forwarded noBbmd one decoded caused
    · exact no_endlessRun noBbmd one

/-- The subnet 10.0.0.0/24 with its BBMD and another node; nothing else is reached. -/
def smallNetwork : BipNetwork Bool where
  receivers sender dest :=
    let udpSource : BIPAddress := { host := if sender then 0x0A000001 else 0x0A000002, port := 0xBAC0 }
    if dest = { host := 0x0A0000FF, port := 0xBAC0 } then [(true, udpSource), (false, udpSource)]
    else []

/-- The other node has sent an Original-Broadcast-NPDU. -/
def smallStart : BipState Bool where
  transports node :=
    if node then { BIPTransport.plainPort with bbmd := some BIPTransport.plainBbmd }
    else { BIPTransport.plainPort with localAddress := { host := 0x0A000002, port := 0xBAC0 } }
  inFlight := [{
    receiver := true
    data := [0x81, 0x0B, 0, 8, 0x01, 0x00, 0x10, 0x08]
    udpSource := { host := 0x0A000002, port := 0xBAC0 }
  }]

/-- The broadcast in the small network comes to an end. -/
theorem broadcast_ends_small
    : ¬ ∃ states arrivals, EndlessRun (step smallNetwork) states arrivals
        ∧ states 0 = smallStart := by
  refine (broadcast_ends.2 Bool smallNetwork smallStart ?_ ?_).2 ?_
  · rintro (_ | _) bbmd attached fd device receiver reached
    · cases attached
    · cases attached
      have remote : ∀ fd ∈ BIPTransport.plainBbmd.foreignDevices,
          fd = BIPTransport.remoteDevice := by
        decide +kernel
      rw [remote fd device] at reached
      cases reached
  · rintro (_ | _) bbmd broadcastAddress attached broadcast receiver reached
    · cases attached
    · cases attached
      cases broadcast
      rcases List.mem_cons.mp reached with rfl | second
      · exact .inr rfl
      · rw [List.mem_singleton.mp second]
        exact .inl rfl
  · intro datagram member msg decoded
    rw [List.mem_singleton.mp member] at decoded
    have function : (decodeBvll [0x81, 0x0B, 0, 8, 0x01, 0x00, 0x10, 0x08]).map
        BvllMessage.function = .ok .originalBroadcastNpdu := by
      decide +kernel
    rw [decoded] at function
    exact .inl (Except.ok.inj function)

end BipNetwork

end BacPy
