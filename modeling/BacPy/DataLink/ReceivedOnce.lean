import BacPy.DataLink.Distribution

/-! Distribution of broadcasts between BBMDs: how often each node receives an NPDU. -/

namespace BacPy

open Library
open BipNetwork (spread caused)

namespace Distribution

variable {distribution : Distribution} {source target : Subnet} {node sender origin : BIPAddress}
  {npdu frame : Bytes}

-- The broadcast and its end

theorem datagrams_recipients {bbmd delivered} (member : source ∈ distribution.subnets)
    (serves : Serves distribution.subnets source bbmd) (inside : origin ∈ source.nodes)
    (encoded : encodeBvll .forwardedNpdu npdu (some origin) = .ok frame)
    (quiet : delivered.flatMap (distribution.network.datagrams source.bbmd) = [])
    : (BIPTransport.forwardAll npdu origin (bbmd.recipients origin none) delivered).flatMap
        (distribution.network.datagrams source.bbmd)
      = distribution.forwards source frame := by
  rw [datagrams_forwardAll encoded quiet, recipients_eq member serves inside, List.flatMap_map]
  refine List.flatMap_congr fun target listed => ?_
  rw [receivers_dest (List.mem_of_mem_filter listed), List.map_map]
  rfl

/-- What a broadcast puts on the wire: it goes to its own subnet, and a BBMD forwards
its own broadcast at once.
-/
theorem sent_eq {original} (member : source ∈ distribution.subnets) (inside : sender ∈ source.nodes)
    (now : Rat) (originalEncoded : encodeBvll .originalBroadcastNpdu npdu = .ok original)
    (encoded : encodeBvll .forwardedNpdu npdu (some sender) = .ok frame)
    : distribution.sent sender npdu now
      = source.nodes.map (carried original sender)
        ++ if sender = source.bbmd then distribution.forwards source frame else [] := by
  obtain ⟨address, broadcast, noMulticast, notForeign⟩ :=
    distribution.ports source member sender inside
  have wire : [BipOutput.sendto original
      { host := (distribution.transports sender).broadcastAddress
        port := (distribution.transports sender).port }].flatMap
          (distribution.network.datagrams sender) = source.nodes.map (carried original sender) := by
    rw [broadcast, List.flatMap_singleton]
    change (distribution.network.receivers sender source.broadcast).map _ = _
    rw [receivers_broadcast member, List.map_map]
    rfl
  have sends : ∀ {forwarded}, (distribution.transports sender).forwardOwnBroadcast npdu now
      = .ok forwarded → distribution.sent sender npdu now
        = source.nodes.map (carried original sender)
          ++ forwarded.flatMap (distribution.network.datagrams sender) := by
    intro forwarded own
    unfold sent BIPTransport.sendBroadcast
    simp only [notForeign, noMulticast, originalEncoded, own, Option.filter_none,
      Option.toList_none, List.nil_append, List.map_singleton, List.flatMap_append]
    rw [wire]
  rcases List.mem_cons.mp inside with rfl | plain
  · obtain ⟨bbmd, attached, serves⟩ := distribution.bbmds source member
    have own : bbmd.globalAddress.getD (distribution.transports source.bbmd).localAddress
        = source.bbmd := by
      rw [serves.globalAddress, address]
      rfl
    rw [sends (BIPTransport.forwardOwnBroadcast_of_bbmd attached (own ▸ encoded)), own, address,
      if_pos rfl, datagrams_recipients member serves inside encoded rfl]
  · have noBbmd : (distribution.transports sender).bbmd = none := plain_of_other member plain
    have notBbmd : sender ≠ source.bbmd := fun same =>
      bbmd_notMem_others member (same ▸ plain)
    have nothing : (distribution.transports sender).forwardOwnBroadcast npdu now = .ok [] := by
      unfold BIPTransport.forwardOwnBroadcast
      rw [noBbmd]
    rw [sends nothing, if_neg notBbmd]
    rfl

/-- Of the datagrams to the subnet itself, only the one at the BBMD goes any further. -/
theorem count_original {original} (member : source ∈ distribution.subnets)
    (other : target ∈ distribution.subnets) (different : target ≠ source)
    (inside : sender ∈ source.nodes) (there : node ∈ target.nodes)
    (originalEncoded : encodeBvll .originalBroadcastNpdu npdu = .ok original)
    (encoded : encodeBvll .forwardedNpdu npdu (some sender) = .ok frame)
    : ((source.nodes.map (carried original sender)).flatMap
        (spread distribution.network distribution.transports)).countP (takesUp sender npdu node)
      = if sender = source.bbmd then 0 else expected source target node := by
  have decoded := decodeBvll_other (by decide) originalEncoded
  have broadcast : IsBroadcast original := .inl ⟨npdu, decoded⟩
  have elsewhere : ∀ receiver ∈ source.nodes,
      takesUp sender npdu node (carried original sender receiver) = false := by
    intro receiver here
    have notHere : receiver ≠ node := fun same =>
      different (subnet_of_node other member there (same ▸ here))
    simp [takesUp, carried, notHere]
  have noneOfOthers : ((source.others.map (carried original sender)).flatMap
      (spread distribution.network distribution.transports)).countP (takesUp sender npdu node)
        = 0 := by
    rw [spread_others member broadcast sender, List.countP_eq_zero]
    intro datagram listed
    obtain ⟨receiver, plain, rfl⟩ := List.mem_map.mp listed
    simp [elsewhere receiver (List.mem_cons_of_mem _ plain)]
  rw [Subnet.nodes, List.map_cons, List.flatMap_cons, List.countP_append, noneOfOthers,
    Nat.add_zero]
  have address := localAddress_of_node member (bbmd_mem_nodes source)
  by_cases own : sender = source.bbmd
  · rw [if_pos own, spread_of_end broadcast (.inr (own.trans address.symm))]
    simp [elsewhere source.bbmd (bbmd_mem_nodes source)]
  · obtain ⟨bbmd, attached, serves⟩ := distribution.bbmds source member
    have notOwn : sender ≠ (distribution.transports source.bbmd).localAddress := by
      rwa [address]
    have asIs : bbmd.globalAddress.getD sender = sender := by
      rw [serves.globalAddress]
      rfl
    have causes : caused distribution.network distribution.transports
        (carried original sender source.bbmd) = distribution.forwards source frame := by
      unfold caused
      rw [carried, BIPTransport.receive_original attached notOwn decoded, asIs]
      exact datagrams_recipients member serves inside encoded (datagrams_deliverBroadcast ..)
    unfold spread
    rw [(BipNetwork.lowersIn_caused noBbmdRegistered oneBbmdPerSubnet).cascade_eq broadcast, causes,
      List.countP_cons, elsewhere source.bbmd (bbmd_mem_nodes source), if_neg own]
    exact count_forwards member other different inside there encoded

-- Whole runs

theorem carries_original {datagram}
    (decoded : decodeBvll datagram.data = .ok { function := .originalBroadcastNpdu, data := npdu })
    : carries datagram.udpSource npdu datagram = true := by
  simp [carries, decoded]

theorem carries_forwarded {datagram}
    (encoded : encodeBvll .forwardedNpdu npdu (some origin) = .ok datagram.data)
    : carries origin npdu datagram = true := by
  simp [carries, decodeBvll_forwarded encoded]

theorem carries_cases {datagram} (carrying : carries sender npdu datagram = true)
    : decodeBvll datagram.data = .ok { function := .originalBroadcastNpdu, data := npdu }
        ∧ datagram.udpSource = sender
      ∨ decodeBvll datagram.data
        = .ok { function := .forwardedNpdu, data := npdu, originatingAddress := some sender } := by
  unfold carries at carrying
  split at carrying
  · cases carrying
  · next msg decoded =>
      have shape := originatingAddress_of_decoded decoded
      obtain ⟨function, data, originatingAddress⟩ := msg
      obtain ⟨rfl, ⟨rfl, own⟩ | ⟨rfl, rfl⟩⟩ := of_decide_eq_true carrying
      · obtain rfl : originatingAddress = none := by simpa using shape
        exact .inl ⟨decoded, own⟩
      · exact .inr decoded

theorem isBroadcast_of_carries {datagram} (carrying : carries sender npdu datagram = true)
    : IsBroadcast datagram.data := by
  rcases carries_cases carrying with ⟨decoded, _⟩ | decoded
  · exact .inl ⟨npdu, decoded⟩
  · exact .inr ⟨npdu, sender, decoded⟩

theorem carries_unique {another other datagram} (carrying : carries sender npdu datagram = true)
    (too : carries another other datagram = true)
    : another = sender ∧ other = npdu := by
  rcases carries_cases carrying with ⟨decoded, own⟩ | decoded
    <;> rcases carries_cases too with ⟨decodedToo, ownToo⟩ | decodedToo
    <;> cases decoded.symm.trans decodedToo
  · exact ⟨ownToo.symm.trans own, rfl⟩
  · exact ⟨rfl, rfl⟩

theorem carries_caused {datagram another} (carrying : carries sender npdu datagram = true)
    (member : another ∈ caused distribution.network distribution.transports datagram)
    : carries sender npdu another = true := by
  obtain ⟨dest, receiver, put, _⟩ := BipNetwork.mem_caused member
  by_cases own : datagram.udpSource = (distribution.transports datagram.receiver).localAddress
  · rw [BIPTransport.receive_own own] at put
    cases put
  · cases attached : (distribution.transports datagram.receiver).bbmd with
    | none =>
      obtain ⟨delivered, handled, quiet⟩ :=
        BIPTransport.receive_plain attached (isBroadcast_of_carries carrying) 0
      rw [handled] at put
      have listed : dest ∈ BIPTransport.destinations delivered :=
        List.mem_filterMap.mpr ⟨_, put, rfl⟩
      rw [quiet] at listed
      cases listed
    | some bbmd =>
      obtain ⟨subnet, _, _, serves⟩ := serves_of_attached attached
      rcases carries_cases carrying with ⟨decoded, rfl⟩ | decoded
      · rw [BIPTransport.receive_original attached own decoded, serves.globalAddress] at put
        exact carries_forwarded (BIPTransport.sends_forwardAll
          (fun _ _ => BIPTransport.quiet_deliverBroadcast) put).2
      · rw [BIPTransport.receive_forwarded attached own decoded] at put
        dsimp only at put
        split at put
        · cases put
        · exact carries_forwarded (BIPTransport.sends_forwardAll
            (fun _ _ => BIPTransport.quiet_deliverByBbmd) put).2

/-- What a sender puts on the wire carries its NPDU. -/
theorem carries_sent {datagram now} (member : source ∈ distribution.subnets)
    (inside : sender ∈ source.nodes) (short : npdu.length ≤ 65525)
    (listed : datagram ∈ distribution.sent sender npdu now)
    : carries sender npdu datagram = true := by
  obtain ⟨frame, encoded⟩ := encodeBvll_forwarded_ok.mpr short
  obtain ⟨original, originalEncoded⟩ := encodeBvll_original_ok short
  rw [sent_eq member inside now originalEncoded encoded] at listed
  rcases List.mem_append.mp listed with own | forwarded
  · obtain ⟨_, _, rfl⟩ := List.mem_map.mp own
    exact carries_original (decodeBvll_other (by decide) originalEncoded)
  · split at forwarded
    · obtain ⟨_, _, comes⟩ := List.mem_flatMap.mp forwarded
      obtain ⟨_, _, rfl⟩ := List.mem_map.mp comes
      exact carries_forwarded encoded
    · cases forwarded

/-- A broadcast of an NPDU is taken up as often as expected. -/
theorem count_sent (member : source ∈ distribution.subnets) (other : target ∈ distribution.subnets)
    (different : target ≠ source) (inside : sender ∈ source.nodes) (there : node ∈ target.nodes)
    (short : npdu.length ≤ 65525) (now : Rat)
    : ((distribution.sent sender npdu now).flatMap
        (spread distribution.network distribution.transports)).countP
          (takesUp sender npdu node)
      = expected source target node := by
  obtain ⟨frame, encoded⟩ := encodeBvll_forwarded_ok.mpr short
  obtain ⟨original, originalEncoded⟩ := encodeBvll_original_ok short
  rw [sent_eq member inside now originalEncoded encoded, List.flatMap_append, List.countP_append,
    count_original member other different inside there originalEncoded encoded]
  split
  · rw [count_forwards member other different inside there encoded, Nat.zero_add]
  · rfl

/-- A broadcast of another NPDU, or of another sender, is not taken up for this one. -/
theorem count_sent_other {another other} (member : source ∈ distribution.subnets)
    (inside : sender ∈ source.nodes) (short : npdu.length ≤ 65525) (now : Rat)
    (apart : ¬ (another = sender ∧ other = npdu))
    : ((distribution.sent sender npdu now).flatMap
        (spread distribution.network distribution.transports)).countP
          (takesUp another other node)
      = 0 := by
  refine List.countP_eq_zero.mpr fun datagram comes took => ?_
  obtain ⟨first, listed, later⟩ := List.mem_flatMap.mp comes
  have passed : ∀ message : Datagram BIPAddress, carries sender npdu message = true
      → ∀ next ∈ caused distribution.network distribution.transports message,
        carries sender npdu next = true := fun _ carrying _ => carries_caused carrying
  have carrying := holds_of_mem_cascade passed (carries_sent member inside short listed) later
  exact apart (carries_unique carrying (of_decide_eq_true took).2.2)

/-- A node that may send a broadcast puts it on the wire. -/
theorem step_send {state next now}
    (broadcasts : BipNetwork.Broadcasts distribution.transports state)
    (moved : distribution.step state (.send sender npdu now) = some next)
    : (∃ source ∈ distribution.subnets, sender ∈ source.nodes) ∧ npdu.length ≤ 65525
      ∧ next.transports = distribution.transports ∧ next.arrived = state.arrived
      ∧ next.inFlight = state.inFlight ++ distribution.sent sender npdu now := by
  rw [step] at moved
  by_cases allowed : sender ∈ distribution.subnets.flatMap Subnet.nodes ∧ npdu.length ≤ 65525
  · rw [if_pos allowed, broadcasts.transports] at moved
    cases moved
    exact ⟨List.mem_flatMap.mp allowed.1, allowed.2, rfl, rfl, rfl⟩
  · rw [if_neg allowed] at moved
    cases moved

/-- Broadcasts are all that is ever in flight. -/
theorem broadcasts_step {state next event}
    (broadcasts : BipNetwork.Broadcasts distribution.transports state)
    (moved : distribution.step state event = some next)
    : BipNetwork.Broadcasts distribution.transports next := by
  cases event with
  | arrive arrival =>
    exact (BipNetwork.broadcasts_step noBbmdRegistered oneBbmdPerSubnet broadcasts moved).1
  | send sender npdu now =>
    obtain ⟨⟨source, member, inside⟩, short, transports, _, inFlight⟩ := step_send broadcasts moved
    refine ⟨transports, fun datagram listed => ?_⟩
    rw [inFlight] at listed
    rcases List.mem_append.mp listed with before | new
    · exact broadcasts.inFlight datagram before
    · exact isBroadcast_of_carries (carries_sent member inside short new)

theorem broadcasts_run {state events}
    (ran : run distribution.step distribution.start events = some state)
    : BipNetwork.Broadcasts distribution.transports state :=
  invariant_every_run broadcasts_step ⟨rfl, fun _ none => absurd none List.not_mem_nil⟩ ran

theorem count_step {state next event} (member : source ∈ distribution.subnets)
    (other : target ∈ distribution.subnets) (different : target ≠ source)
    (inside : sender ∈ source.nodes) (there : node ∈ target.nodes)
    (broadcasts : BipNetwork.Broadcasts distribution.transports state)
    (moved : distribution.step state event = some next)
    : (BipNetwork.whole distribution.network distribution.transports next).countP
        (takesUp sender npdu node)
      = (BipNetwork.whole distribution.network distribution.transports state).countP
          (takesUp sender npdu node)
        + if event.sends sender npdu then expected source target node else 0 := by
  cases event with
  | arrive arrival =>
    have same := (BipNetwork.broadcasts_step noBbmdRegistered oneBbmdPerSubnet broadcasts moved).2
    exact same.countP_eq _
  | send another text now =>
    obtain ⟨⟨home, known, here⟩, short, _, arrived, inFlight⟩ := step_send broadcasts moved
    unfold BipNetwork.whole
    rw [arrived, inFlight, List.flatMap_append, ← List.append_assoc, List.countP_append]
    congr 1
    by_cases same : sender = another ∧ npdu = text
    · obtain ⟨rfl, rfl⟩ := same
      rw [count_sent member other different inside there short now]
      simp [Event.sends]
    · rw [count_sent_other known here short now same]
      have apart : ¬ (another = sender ∧ text = npdu) := fun both =>
        same ⟨both.1.symm, both.2.symm⟩
      simp [Event.sends, apart]

/-- Whole runs, by induction on the events. -/
theorem count_run (npdu : Bytes) {events state final} (member : source ∈ distribution.subnets)
    (other : target ∈ distribution.subnets) (different : target ≠ source)
    (inside : sender ∈ source.nodes) (there : node ∈ target.nodes)
    (broadcasts : BipNetwork.Broadcasts distribution.transports state)
    (ran : run distribution.step state events = some final)
    : (BipNetwork.whole distribution.network distribution.transports final).countP
        (takesUp sender npdu node)
      = (BipNetwork.whole distribution.network distribution.transports state).countP
          (takesUp sender npdu node)
        + events.countP (Event.sends sender npdu) * expected source target node := by
  induction events generalizing state with
  | nil =>
    cases ran
    simp
  | cons event rest ih =>
    rw [run_cons] at ran
    obtain ⟨next, moved, later⟩ := Option.bind_eq_some_iff.mp ran
    rw [ih (broadcasts_step broadcasts moved) later,
      count_step member other different inside there broadcasts moved, List.countP_cons,
      Nat.add_mul]
    split <;> omega

/-- Broadcasts in flight come to rest. -/
theorem no_endlessRun {state} (broadcasts : BipNetwork.Broadcasts distribution.transports state)
    : ¬ ∃ states arrivals, EndlessRun (BipNetwork.step distribution.network) states arrivals
        ∧ states 0 = state :=
  BipNetwork.no_endlessRun (broadcasts.transports ▸ noBbmdRegistered)
    (broadcasts.transports ▸ oneBbmdPerSubnet)
    fun datagram inFlight => (broadcasts.inFlight datagram inFlight).broadcasting

/-- The expected number is one for all nodes of a subnet exactly if its mask and the mask of the
source are of one kind, or its BBMD is its only node.
-/
theorem expected_eq_one_iff (other : target ∈ distribution.subnets)
    : (∀ node ∈ target.nodes, expected source target node = 1)
      ↔ (target.others ≠ [] → (target.mask = allOnesMask ↔ source.mask = allOnesMask)) := by
  constructor
  · intro each some
    obtain ⟨node, inside⟩ := List.exists_mem_of_ne_nil _ some
    have notBbmd : node ≠ target.bbmd := fun same => bbmd_notMem_others other (same ▸ inside)
    have one := each node (List.mem_cons_of_mem _ inside)
    unfold expected at one
    rw [if_neg notBbmd] at one
    by_cases ones : target.mask = allOnesMask <;> by_cases sourceOnes : source.mask = allOnesMask
      <;> simp_all
  · intro alike node inside
    unfold expected
    by_cases own : node = target.bbmd
    · rw [if_pos own]
    · rw [if_neg own]
      have plain := (List.mem_cons.mp inside).resolve_left own
      have kinds := alike (List.ne_nil_of_mem plain)
      by_cases sourceOnes : source.mask = allOnesMask
      · rw [if_pos (kinds.mpr sourceOnes), if_pos sourceOnes]
      · rw [if_neg (fun ones => sourceOnes (kinds.mp ones)), if_neg sourceOnes]

-- Two subnets

/-- The subnet 10.0.0.0/24. -/
def westSubnet (ones : Bool) : Subnet where
  bbmd := { host := 0x0A000001, port := 0xBAC0 }
  others := [{ host := 0x0A000002, port := 0xBAC0 }]
  broadcast := { host := 0x0A0000FF, port := 0xBAC0 }
  mask := if ones then allOnesMask else 0xFFFFFF00

/-- The subnet 10.0.1.0/24, with a mask of all ones. -/
def eastSubnet : Subnet where
  bbmd := { host := 0x0A000101, port := 0xBAC0 }
  others := [{ host := 0x0A000102, port := 0xBAC0 }]
  broadcast := { host := 0x0A0001FF, port := 0xBAC0 }
  mask := allOnesMask

def portOf (node : BIPAddress) : BIPTransport where
  localAddress := node
  port := 0xBAC0
  broadcastAddress := node.host ||| 0xFF

def transportOf (ones : Bool) (node : BIPAddress) : BIPTransport :=
  if node ∈ [(westSubnet ones).bbmd, eastSubnet.bbmd] then
    {
      portOf node with
      bbmd := some ((portOf node).makeBbmd [(westSubnet ones).entry, eastSubnet.entry])
    }
  else portOf node

def twoSubnets (ones : Bool) : Distribution where
  subnets := [westSubnet ones, eastSubnet]
  transports := transportOf ones
  distinct := by cases ones <;> decide
  masks := by cases ones <;> decide
  ports := by cases ones <;> decide
  bbmds := by
    intro subnet member
    refine ⟨(portOf subnet.bbmd).makeBbmd [(westSubnet ones).entry, eastSubnet.entry], ?_⟩
    rcases List.mem_pair.mp member with rfl | rfl
    · cases ones <;> exact ⟨rfl, ⟨rfl, rfl, rfl, rfl, rfl⟩⟩
    · cases ones <;> exact ⟨rfl, ⟨rfl, rfl, rfl, rfl, rfl⟩⟩
  plain node notBbmd := by
    have neither : node ∉ [(westSubnet ones).bbmd, eastSubnet.bbmd] := notBbmd
    rw [transportOf, if_neg neither]
    rfl

def whoIs : Bytes := [0x01, 0x00, 0x10, 0x08]

def westNode : BIPAddress := { host := 0x0A000002, port := 0xBAC0 }

def eastNode : BIPAddress := { host := 0x0A000102, port := 0xBAC0 }

/-- A node sends the Who-Is, and datagrams arrive in the order in which they were sent. -/
def sendAndArrive (sender : BIPAddress) (arrivals : Nat) : List Event :=
  .send sender whoIs 0 :: List.replicate arrivals (.arrive { index := 0, now := 0 })

/-- How often a node has received the Who-Is when nothing is in flight any more. -/
def receivedInTheEnd (ones : Bool) (sender node : BIPAddress) (arrivals : Nat) : Option Nat :=
  match run (twoSubnets ones).step (twoSubnets ones).start (sendAndArrive sender arrivals) with
  | some state => if state.inFlight = [] then some (received sender whoIs node state) else none
  | none => none

-- Received once

/-- In a run the broadcasts come to rest. The nodes of all other subnets have then received an NPDU as
often as it was sent exactly if the masks agree: a BBMD broadcasts again what comes from a peer with
a mask of all ones, whereas the peer chose the destination by the mask of the receiving subnet. So
the two must be of one kind where there are other nodes than the BBMD.
-/
theorem received_once_iff (distribution : Distribution) {events : List Event}
    {state : BipState BIPAddress}
    (ran : run distribution.step distribution.start events = some state)
    : (¬ ∃ states arrivals, EndlessRun (BipNetwork.step distribution.network) states arrivals
        ∧ states 0 = state)
      ∧ (state.inFlight = [] → ∀ source ∈ distribution.subnets, ∀ sender ∈ source.nodes, ∀ npdu,
        events.any (Event.sends sender npdu) = true
        → ((∀ target ∈ distribution.subnets, target ≠ source → ∀ node ∈ target.nodes,
            received sender npdu node state = events.countP (Event.sends sender npdu))
          ↔ ∀ target ∈ distribution.subnets, target ≠ source → target.others ≠ []
            → (target.mask = allOnesMask ↔ source.mask = allOnesMask))) := by
  refine ⟨no_endlessRun (broadcasts_run ran), ?_⟩
  intro ended source member sender inside npdu wasSent
  have times : 0 < events.countP (Event.sends sender npdu) := by
    obtain ⟨event, listed, sends⟩ := List.any_eq_true.mp wasSent
    exact List.countP_pos_iff.mpr ⟨event, listed, sends⟩
  have counted : ∀ target ∈ distribution.subnets, target ≠ source → ∀ node ∈ target.nodes,
      received sender npdu node state
        = events.countP (Event.sends sender npdu) * expected source target node := by
    intro target other different node there
    have count := count_run npdu member other different inside there
      (broadcasts_run (run_nil _)) ran
    rw [BipNetwork.whole, ended, List.flatMap_nil, List.append_nil] at count
    exact count.trans (Nat.zero_add _)
  constructor
  · intro each target other different
    refine (expected_eq_one_iff other).mp fun node there => ?_
    have same := (counted target other different node there).symm.trans
      (each target other different node there)
    exact Nat.eq_of_mul_eq_mul_left times (same.trans (Nat.mul_one _).symm)
  · intro alike target other different node there
    rw [counted target other different node there,
      (expected_eq_one_iff other).mpr (alike target other different) node there, Nat.mul_one]

theorem received_once_iff_alike
    : ∃ state, run (twoSubnets true).step (twoSubnets true).start (sendAndArrive westNode 5)
        = some state ∧ state.inFlight = []
      ∧ ∀ target ∈ (twoSubnets true).subnets, target ≠ westSubnet true → ∀ node ∈ target.nodes,
        received westNode whoIs node state
          = (sendAndArrive westNode 5).countP (Event.sends westNode whoIs) := by
  have rests : (run (twoSubnets true).step (twoSubnets true).start (sendAndArrive westNode 5)).map
      BipState.inFlight = some [] := by
    decide +kernel
  obtain ⟨state, ran, ended⟩ := Option.map_eq_some_iff.mp rests
  refine ⟨state, ran, ended, ?_⟩
  exact ((received_once_iff (twoSubnets true) ran).2 ended (westSubnet true) (by decide) westNode
    (by decide) whoIs (by decide)).mpr (by decide)

/-- With a mask of one kind for the one subnet and of the other kind for the other one, a node receives
a broadcast twice, or never.
-/
theorem received_twice_or_never
    : receivedInTheEnd false eastNode westNode 6 = some 2
      ∧ receivedInTheEnd false westNode eastNode 3 = some 0 := by
  decide +kernel

end Distribution

end BacPy
