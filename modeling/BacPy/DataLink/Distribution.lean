import BacPy.DataLink.BroadcastSpread

/-! Subnets with BBMDs that hold the same BDT: what a Forwarded-NPDU causes at each of them. -/

namespace BacPy

open Library
open BipNetwork (spread caused lowersIn_caused)

-- Subnets with their BBMDs

/-- A subnet with a BBMD, its other nodes, and the mask that the BDT has for it. -/
structure Subnet where
  bbmd : BIPAddress
  others : List BIPAddress
  broadcast : BIPAddress
  mask : UInt32
  deriving DecidableEq

namespace Subnet

def nodes (subnet : Subnet) : List BIPAddress := subnet.bbmd :: subnet.others

def entry (subnet : Subnet) : BDTEntry :=
  { address := subnet.bbmd, broadcastMask := subnet.mask }

def dest (subnet : Subnet) : BIPAddress := computeForwardAddress subnet.entry

theorem dest_of_allOnes {subnet : Subnet} (ones : subnet.mask = allOnesMask)
    : subnet.dest = subnet.bbmd := by
  have none : ~~~allOnesMask = 0 := by decide
  simp [dest, computeForwardAddress, entry, ones, none]

end Subnet

/-- The BBMD of a subnet: it holds the BDT with an entry for each subnet, no foreign devices and no
NAT address.
-/
structure Serves (subnets : List Subnet) (subnet : Subnet) (bbmd : BBMDManager) : Prop where
  localAddress : bbmd.localAddress = subnet.bbmd
  broadcastAddress : bbmd.broadcastAddress = some subnet.broadcast
  globalAddress : bbmd.globalAddress = none
  bdt : bbmd.bdt = subnets.map Subnet.entry
  foreignDevices : bbmd.foreignDevices = []

/-- Subnets with their BBMDs, and the ports of all nodes. -/
structure Distribution where
  subnets : List Subnet
  transports : BIPAddress → BIPTransport
  /-- all addresses, those for broadcasts included, are different -/
  distinct : (subnets.flatMap Subnet.nodes ++ subnets.map Subnet.broadcast).Nodup
  /-- a mask is all ones or leads to the directed broadcast address -/
  masks : ∀ subnet ∈ subnets, subnet.mask = allOnesMask ∨ subnet.dest = subnet.broadcast
  ports : ∀ subnet ∈ subnets, ∀ node ∈ subnet.nodes,
    (transports node).localAddress = node
      ∧ { host := (transports node).broadcastAddress, port := (transports node).port }
        = subnet.broadcast
      ∧ (transports node).multicastAddress = none ∧ (transports node).foreignDevice = none
  bbmds : ∀ subnet ∈ subnets, ∃ bbmd,
    (transports subnet.bbmd).bbmd = some bbmd ∧ Serves subnets subnet bbmd
  plain : ∀ node, node ∉ subnets.map Subnet.bbmd → (transports node).bbmd = none

namespace Distribution

variable {distribution : Distribution} {source target : Subnet} {node sender : BIPAddress}

/-- A reliable network: a directed broadcast reaches all nodes of its subnet. -/
def network (distribution : Distribution) : BipNetwork BIPAddress where
  receivers sender dest :=
    (distribution.subnets.flatMap fun subnet =>
      subnet.nodes.filter fun node => dest = node ∨ dest = subnet.broadcast).map (·, sender)

/-- A node sends a broadcast, or a datagram arrives. -/
inductive Event where
  | send (sender : BIPAddress) (npdu : Bytes) (now : Rat)
  | arrive (arrival : BipNetwork.Arrival)

def Event.sends (sender : BIPAddress) (npdu : Bytes) : Event → Bool
  | .send another other _ => another = sender ∧ other = npdu
  | .arrive _ => false

/-- What a node puts on the wire with a broadcast. -/
def sent (distribution : Distribution) (sender : BIPAddress) (npdu : Bytes) (now : Rat)
    : List (Datagram BIPAddress) :=
  ((distribution.transports sender).sendBroadcast npdu now).1.flatMap
    (distribution.network.datagrams sender)

def step (distribution : Distribution) (state : BipState BIPAddress)
    : Event → Option (BipState BIPAddress)
  | .send sender npdu now =>
    if sender ∈ distribution.subnets.flatMap Subnet.nodes ∧ npdu.length ≤ 65525 then
      some {
        state with
        inFlight := state.inFlight
          ++ ((state.transports sender).sendBroadcast npdu now).1.flatMap
            (distribution.network.datagrams sender)
      }
    else none
  | .arrive arrival => BipNetwork.step distribution.network state arrival

/-- Nothing has been sent. -/
def start (distribution : Distribution) : BipState BIPAddress where
  transports := distribution.transports
  inFlight := []

def carries (sender : BIPAddress) (npdu : Bytes) (datagram : Datagram BIPAddress) : Bool :=
  match decodeBvll datagram.data with
  | .error _ => false
  | .ok msg =>
    msg.data = npdu
      ∧ (msg.function = .originalBroadcastNpdu ∧ datagram.udpSource = sender
        ∨ msg.function = .forwardedNpdu ∧ msg.originatingAddress = some sender)

/-- A node takes up an NPDU: it arrives there in a broadcast of another node. -/
def takesUp (sender : BIPAddress) (npdu : Bytes) (node : BIPAddress)
    (datagram : Datagram BIPAddress)
    : Bool :=
  datagram.receiver = node ∧ datagram.udpSource ≠ node ∧ carries sender npdu datagram

def received (sender : BIPAddress) (npdu : Bytes) (node : BIPAddress)
    (state : BipState BIPAddress)
    : Nat :=
  state.arrived.countP (takesUp sender npdu node)

-- Addresses

theorem nodup_nodes (member : target ∈ distribution.subnets) : target.nodes.Nodup :=
  (List.nodup_flatMap.mp (List.nodup_append.mp distribution.distinct).1).1 target member

theorem bbmd_notMem_others (member : target ∈ distribution.subnets)
    : target.bbmd ∉ target.others :=
  (List.nodup_cons.mp (nodup_nodes member)).1

theorem node_ne_broadcast (member : source ∈ distribution.subnets)
    (other : target ∈ distribution.subnets) (inside : node ∈ source.nodes)
    : node ≠ target.broadcast :=
  (List.nodup_append.mp distribution.distinct).2.2 node
    (List.mem_flatMap.mpr ⟨source, member, inside⟩) target.broadcast
    (List.mem_map_of_mem other)

theorem subnet_of_broadcast (member : source ∈ distribution.subnets)
    (other : target ∈ distribution.subnets) (same : source.broadcast = target.broadcast)
    : source = target :=
  List.inj_on_of_nodup_map (List.nodup_append.mp distribution.distinct).2.1 member other same

theorem subnet_of_node (member : source ∈ distribution.subnets)
    (other : target ∈ distribution.subnets) (here : node ∈ source.nodes)
    (there : node ∈ target.nodes)
    : source = target := by
  by_contra different
  have apart := (List.nodup_flatMap.mp (List.nodup_append.mp distribution.distinct).1).2
  have symmetric : Std.Symm (Function.onFun List.Disjoint Subnet.nodes) :=
    ⟨fun _ _ disjoint => disjoint.symm⟩
  exact apart.forall member other different here there

theorem nodup_subnets : distribution.subnets.Nodup :=
  List.Nodup.of_map _ (List.nodup_append.mp distribution.distinct).2.1

theorem bbmd_mem_nodes (subnet : Subnet) : subnet.bbmd ∈ subnet.nodes := List.mem_cons_self

theorem bbmd_inj (member : source ∈ distribution.subnets) (other : target ∈ distribution.subnets)
    (same : source.bbmd = target.bbmd)
    : source = target :=
  subnet_of_node member other (bbmd_mem_nodes source) (same ▸ bbmd_mem_nodes target)

/-- Of lists that are empty but for one, the whole is that one, by induction on the list. -/
theorem flatMap_of_unique {Item Result : Type} {items : List Item} {item : Item}
    {parts : Item → List Result} (nodup : items.Nodup) (member : item ∈ items)
    (others : ∀ other ∈ items, other ≠ item → parts other = [])
    : items.flatMap parts = parts item := by
  induction items with
  | nil => cases member
  | cons first rest ih =>
    obtain ⟨fresh, later⟩ := List.nodup_cons.mp nodup
    rw [List.flatMap_cons]
    rcases List.mem_cons.mp member with rfl | inRest
    · have none : rest.flatMap parts = [] := List.flatMap_eq_nil_iff.mpr fun other there =>
        others other (List.mem_cons_of_mem _ there) fun same => fresh (same ▸ there)
      rw [none, List.append_nil]
    · have empty : parts first = [] :=
        others first List.mem_cons_self fun same => fresh (same ▸ inRest)
      rw [empty, List.nil_append]
      exact ih later inRest fun other there => others other (List.mem_cons_of_mem _ there)

/-- A datagram to a directed broadcast address reaches exactly the nodes of the subnet. -/
theorem receivers_broadcast (member : target ∈ distribution.subnets)
    : distribution.network.receivers sender target.broadcast
      = target.nodes.map fun node => (node, sender) := by
  change List.map _ (List.flatMap _ _) = _
  congr 1
  rw [flatMap_of_unique nodup_subnets member]
  · exact List.filter_eq_self.mpr fun node _ => by simp
  · intro other there different
    refine List.filter_eq_nil_iff.mpr fun node inside => ?_
    have notNode := (node_ne_broadcast there member inside).symm
    have notBroadcast : target.broadcast ≠ other.broadcast := fun same =>
      different (subnet_of_broadcast there member same.symm)
    simp [notNode, notBroadcast]

/-- A datagram to a BBMD reaches that BBMD. -/
theorem receivers_bbmd (member : target ∈ distribution.subnets)
    : distribution.network.receivers sender target.bbmd = [(target.bbmd, sender)] := by
  change List.map _ (List.flatMap _ _) = _
  have only : (distribution.subnets.flatMap fun subnet => subnet.nodes.filter fun node =>
      target.bbmd = node ∨ target.bbmd = subnet.broadcast) = [target.bbmd] := by
    rw [flatMap_of_unique nodup_subnets member]
    · have notBroadcast := node_ne_broadcast member member (bbmd_mem_nodes target)
      rw [Subnet.nodes, List.filter_cons, if_pos (by simp)]
      congr 1
      refine List.filter_eq_nil_iff.mpr fun node inside => ?_
      have notBbmd : target.bbmd ≠ node := fun same => bbmd_notMem_others member (same ▸ inside)
      simp [notBbmd, notBroadcast]
    · intro other there different
      refine List.filter_eq_nil_iff.mpr fun node inside => ?_
      have notNode : target.bbmd ≠ node := fun same =>
        different (subnet_of_node there member inside (same ▸ bbmd_mem_nodes target))
      have notBroadcast := node_ne_broadcast member there (bbmd_mem_nodes target)
      simp [notNode, notBroadcast]
  rw [only]
  rfl

/-- A mask that is not all ones leads to the directed broadcast address. -/
theorem dest_of_mask (member : target ∈ distribution.subnets) (some : target.mask ≠ allOnesMask)
    : target.dest = target.broadcast :=
  (distribution.masks target member).resolve_left some

/-- The nodes that a Forwarded-NPDU for a subnet is sent to. -/
def addressed (target : Subnet) : List BIPAddress :=
  if target.mask = allOnesMask then [target.bbmd] else target.nodes

theorem receivers_dest (member : target ∈ distribution.subnets)
    : distribution.network.receivers sender target.dest
      = (addressed target).map fun node => (node, sender) := by
  unfold addressed
  split
  · next ones => rw [Subnet.dest_of_allOnes ones, receivers_bbmd member, List.map_singleton]
  · next some => rw [dest_of_mask member some, receivers_broadcast member]

-- The BBMDs

theorem serves_of_attached {bbmd} (attached : (distribution.transports node).bbmd = some bbmd)
    : ∃ subnet ∈ distribution.subnets, node = subnet.bbmd
        ∧ Serves distribution.subnets subnet bbmd := by
  by_contra none
  have notBbmd : node ∉ distribution.subnets.map Subnet.bbmd := by
    intro listed
    obtain ⟨subnet, member, same⟩ := List.mem_map.mp listed
    obtain ⟨other, there, serves⟩ := distribution.bbmds subnet member
    rw [same, attached] at there
    exact none ⟨subnet, member, same.symm, Option.some.inj there ▸ serves⟩
  rw [distribution.plain node notBbmd] at attached
  cases attached

theorem plain_of_other (member : target ∈ distribution.subnets) (inside : node ∈ target.others)
    : (distribution.transports node).bbmd = none := by
  refine distribution.plain node fun listed => ?_
  obtain ⟨other, there, same⟩ := List.mem_map.mp listed
  have onTarget : node ∈ target.nodes := List.mem_cons_of_mem _ inside
  obtain rfl := subnet_of_node there member (same ▸ bbmd_mem_nodes other) onTarget
  exact bbmd_notMem_others member (same ▸ inside)

theorem localAddress_of_node (member : target ∈ distribution.subnets) (inside : node ∈ target.nodes)
    : (distribution.transports node).localAddress = node :=
  (distribution.ports target member node inside).1

theorem noBbmdRegistered
    : BipNetwork.NoBbmdRegistered distribution.network distribution.transports := by
  intro node bbmd attached fd device
  obtain ⟨subnet, _, _, serves⟩ := serves_of_attached attached
  rw [serves.foreignDevices] at device
  cases device

theorem oneBbmdPerSubnet
    : BipNetwork.OneBbmdPerSubnet distribution.network distribution.transports := by
  intro node bbmd broadcastAddress attached broadcast receiver reached
  obtain ⟨subnet, member, rfl, serves⟩ := serves_of_attached attached
  obtain rfl : subnet.broadcast = broadcastAddress :=
    Option.some.inj (serves.broadcastAddress.symm.trans broadcast)
  rw [receivers_broadcast member] at reached
  obtain ⟨node, inside, rfl⟩ := List.mem_map.mp reached
  rcases List.mem_cons.mp inside with rfl | other
  · exact .inr (localAddress_of_node member (bbmd_mem_nodes subnet)).symm
  · exact .inl (plain_of_other member other)

/-- Whether a BBMD broadcasts again what it gets from a peer depends on that peer's mask. -/
theorem isUnicastBdtMask_eq {bbmd} (member : source ∈ distribution.subnets)
    (serves : Serves distribution.subnets target bbmd)
    : bbmd.isUnicastBdtMask source.bbmd = decide (source.mask = allOnesMask) := by
  have found : bbmd.bdt.reverse.find? (fun entry => entry.address = source.bbmd)
      = some source.entry := by
    rw [serves.bdt]
    have listed : source.entry ∈ (distribution.subnets.map Subnet.entry).reverse :=
      List.mem_reverse.mpr (List.mem_map_of_mem member)
    cases first : (distribution.subnets.map Subnet.entry).reverse.find?
        fun entry => entry.address = source.bbmd with
    | none => exact absurd (List.find?_eq_none.mp first source.entry listed) (by simp [Subnet.entry])
    | some entry =>
      obtain ⟨other, there, rfl⟩ := List.mem_map.mp
        (List.mem_reverse.mp (List.mem_of_find?_eq_some first))
      have same : other.entry.address = source.bbmd := by simpa using List.find?_some first
      rw [bbmd_inj there member same]
  unfold BBMDManager.isUnicastBdtMask
  rw [found]
  rfl

/-- The peers of a BBMD are the BBMDs of all other subnets. -/
theorem peers_eq {bbmd} (member : source ∈ distribution.subnets)
    (serves : Serves distribution.subnets source bbmd)
    : bbmd.peers = (distribution.subnets.filter fun subnet => subnet ≠ source).map Subnet.dest := by
  unfold BBMDManager.peers
  rw [serves.bdt, serves.localAddress, List.filter_map, List.map_map]
  congr 1
  refine List.filter_congr fun other there => ?_
  have same : other.bbmd = source.bbmd ↔ other = source :=
    ⟨bbmd_inj there member, fun same => same ▸ rfl⟩
  simp [Subnet.entry, same]

/-- A broadcast on a subnet is forwarded to all other subnets. -/
theorem recipients_eq {bbmd : BBMDManager} (member : source ∈ distribution.subnets)
    (serves : Serves distribution.subnets source bbmd) (inside : sender ∈ source.nodes)
    : bbmd.recipients sender none
      = (distribution.subnets.filter fun subnet => subnet ≠ source).map Subnet.dest := by
  unfold BBMDManager.recipients
  rw [serves.foreignDevices, List.filter_nil, List.append_nil, peers_eq member serves,
    serves.globalAddress]
  refine List.filter_eq_self.mpr fun dest listed => ?_
  obtain ⟨other, there, rfl⟩ := List.mem_map.mp listed
  obtain ⟨there, different⟩ := List.mem_filter.mp there
  have notSender : other.dest ≠ sender := by
    by_cases ones : other.mask = allOnesMask
    · rw [Subnet.dest_of_allOnes ones]
      intro same
      have apart := subnet_of_node there member (bbmd_mem_nodes other) (same ▸ inside)
      exact absurd apart (by simpa using different)
    · rw [dest_of_mask there ones]
      exact (node_ne_broadcast member there inside).symm
  simp [notSender]

-- What comes of one broadcast

variable {npdu frame : Bytes} {origin : BIPAddress}

def carried (frame : Bytes) (sender node : BIPAddress) : Datagram BIPAddress :=
  { receiver := node, data := frame, udpSource := sender }

theorem datagrams_deliverBroadcast (transport : BIPTransport) (source : BIPAddress)
    : (transport.deliverBroadcast npdu source).flatMap (distribution.network.datagrams sender)
      = [] := by
  rw [BIPTransport.deliverBroadcast_eq]
  split <;> rfl

theorem datagrams_deliverByBbmd (transport : BIPTransport) (bbmd : BBMDManager)
    (source : BIPAddress)
    : (transport.deliverByBbmd bbmd npdu source).flatMap (distribution.network.datagrams sender)
      = [] := by
  rw [BIPTransport.deliverByBbmd_eq]
  split <;> rfl

/-- The datagrams of a Forwarded-NPDU to several destinations. -/
theorem datagrams_forwardAll {dests delivered}
    (encoded : encodeBvll .forwardedNpdu npdu (some origin) = .ok frame)
    (quiet : delivered.flatMap (distribution.network.datagrams sender) = [])
    : (BIPTransport.forwardAll npdu origin dests delivered).flatMap
        (distribution.network.datagrams sender)
      = dests.flatMap fun dest => (distribution.network.receivers sender dest).map
          fun receiver => carried frame receiver.2 receiver.1 := by
  unfold BIPTransport.forwardAll BIPTransport.sendAll
  rw [encoded]
  dsimp only
  rw [List.flatMap_append, quiet, List.append_nil, List.flatMap_map]
  rfl

/-- What reaches a node without a BBMD, or the sender itself, goes no further. -/
theorem spread_of_end {datagram} (broadcast : IsBroadcast datagram.data)
    (ends : (distribution.transports datagram.receiver).bbmd = none
      ∨ datagram.udpSource = (distribution.transports datagram.receiver).localAddress)
    : spread distribution.network distribution.transports datagram = [datagram] := by
  have nothing : caused distribution.network distribution.transports datagram = [] := by
    unfold caused
    rcases ends with plain | own
    · obtain ⟨delivered, handled, quiet⟩ := BIPTransport.receive_plain plain broadcast 0
      rw [handled]
      refine List.flatMap_eq_nil_iff.mpr fun output member => ?_
      cases output with
      | receive npdu sourceMac => rfl
      | sendto data dest =>
        have listed : dest ∈ BIPTransport.destinations delivered :=
          List.mem_filterMap.mpr ⟨_, member, rfl⟩
        rw [quiet] at listed
        cases listed
    · rw [BIPTransport.receive_own own]
      rfl
  unfold spread
  rw [(lowersIn_caused noBbmdRegistered oneBbmdPerSubnet).cascade_eq broadcast, nothing]
  rfl

/-- A broadcast goes no further at the other nodes of a subnet. -/
theorem spread_others (other : target ∈ distribution.subnets) (broadcast : IsBroadcast frame)
    (sender : BIPAddress)
    : (target.others.map (carried frame sender)).flatMap
        (spread distribution.network distribution.transports)
      = target.others.map (carried frame sender) := by
  refine (List.flatMap_congr fun datagram listed => ?_).trans (List.flatMap_singleton' _)
  obtain ⟨receiver, plain, rfl⟩ := List.mem_map.mp listed
  exact spread_of_end broadcast (.inl (plain_of_other other plain))

/-- A peer's BBMD broadcasts a Forwarded-NPDU again exactly if the mask of the sender is all ones. -/
theorem spread_at_bbmd (member : source ∈ distribution.subnets)
    (other : target ∈ distribution.subnets) (different : target ≠ source)
    (fromSource : origin ∈ source.nodes)
    (encoded : encodeBvll .forwardedNpdu npdu (some origin) = .ok frame)
    : spread distribution.network distribution.transports
        (carried frame source.bbmd target.bbmd)
      = carried frame source.bbmd target.bbmd
        :: if source.mask = allOnesMask then target.nodes.map (carried frame target.bbmd) else [] := by
  obtain ⟨bbmd, attached, serves⟩ := distribution.bbmds target other
  have address := localAddress_of_node other (bbmd_mem_nodes target)
  have notOwn : source.bbmd ≠ (distribution.transports target.bbmd).localAddress := by
    rw [address]
    exact fun same => different (bbmd_inj other member same.symm)
  have notOrigin : origin ≠ bbmd.localAddress := by
    rw [serves.localAddress]
    intro same
    exact different (subnet_of_node other member (same ▸ bbmd_mem_nodes target) fromSource)
  have causes : caused distribution.network distribution.transports
      (carried frame source.bbmd target.bbmd)
        = if source.mask = allOnesMask then target.nodes.map (carried frame target.bbmd) else [] := by
    unfold caused
    rw [carried, BIPTransport.receive_forwarded attached notOwn (decodeBvll_forwarded encoded)]
    dsimp only
    rw [if_neg (by simp [notOrigin, serves.globalAddress]),
      datagrams_forwardAll encoded (datagrams_deliverByBbmd ..), serves.foreignDevices,
      List.filter_nil, List.nil_append, BBMDManager.wire, isUnicastBdtMask_eq member serves,
      serves.broadcastAddress]
    by_cases ones : source.mask = allOnesMask
    · simp only [ones, decide_true, if_true, Option.toList_some, List.flatMap_singleton,
        receivers_broadcast other, List.map_map]
      rfl
    · simp [ones]
  unfold spread
  rw [(lowersIn_caused noBbmdRegistered oneBbmdPerSubnet).cascade_eq
    (isBroadcast_forwarded encoded), causes]
  congr 1
  split
  · refine (List.flatMap_congr fun datagram listed => ?_).trans (List.flatMap_singleton' _)
    obtain ⟨node, inside, rfl⟩ := List.mem_map.mp listed
    refine spread_of_end (isBroadcast_forwarded encoded) ?_
    rcases List.mem_cons.mp inside with rfl | plain
    · exact .inr (localAddress_of_node other (bbmd_mem_nodes target)).symm
    · exact .inl (plain_of_other other plain)
  · rfl

/-- A Forwarded-NPDU is taken up where it arrives, but by its sender. -/
theorem takesUp_carried (encoded : encodeBvll .forwardedNpdu npdu (some origin) = .ok frame)
    (receiver : BIPAddress)
    : takesUp origin npdu node (carried frame sender receiver)
      = decide (receiver = node ∧ sender ≠ node) := by
  simp [takesUp, carries, carried, decodeBvll_forwarded encoded]

/-- How often a node of another subnet is to receive a broadcast: the BBMD once; another node if the
Forwarded-NPDU goes to the directed broadcast address, and if the BBMD broadcasts it again.
-/
def expected (source target : Subnet) (node : BIPAddress) : Nat :=
  if node = target.bbmd then 1
  else (if target.mask = allOnesMask then 0 else 1) + if source.mask = allOnesMask then 1 else 0

/-- What the BBMD broadcasts again is taken up once by each other node. -/
theorem count_again (other : target ∈ distribution.subnets) (inside : node ∈ target.nodes)
    (encoded : encodeBvll .forwardedNpdu npdu (some origin) = .ok frame)
    : (target.nodes.map (carried frame target.bbmd)).countP (takesUp origin npdu node)
      = if node = target.bbmd then 0 else 1 := by
  rw [List.countP_map]
  by_cases own : node = target.bbmd
  · rw [if_pos own, List.countP_eq_zero]
    intro receiver _
    simp [takesUp_carried encoded, own]
  · rw [if_neg own, ← List.count_eq_one_of_mem (nodup_nodes other) inside]
    refine List.countP_congr fun receiver _ => ?_
    simp [takesUp_carried encoded, Ne.symm own]

/-- What a node of the subnet takes up of the Forwarded-NPDUs that are sent to its subnet. -/
theorem count_addressed (member : source ∈ distribution.subnets)
    (other : target ∈ distribution.subnets) (different : target ≠ source)
    (fromSource : origin ∈ source.nodes) (inside : node ∈ target.nodes)
    (encoded : encodeBvll .forwardedNpdu npdu (some origin) = .ok frame)
    : (((addressed target).map (carried frame source.bbmd)).flatMap
        (spread distribution.network distribution.transports)).countP (takesUp origin npdu node)
      = expected source target node := by
  have notSource : source.bbmd ≠ node := fun same =>
    different (subnet_of_node other member inside (same ▸ bbmd_mem_nodes source))
  have atBbmd : (spread distribution.network distribution.transports
      (carried frame source.bbmd target.bbmd)).countP (takesUp origin npdu node)
        = if node = target.bbmd then 1 else if source.mask = allOnesMask then 1 else 0 := by
    rw [spread_at_bbmd member other different fromSource encoded, List.countP_cons,
      takesUp_carried encoded]
    by_cases own : node = target.bbmd
    · by_cases ones : source.mask = allOnesMask
      · rw [if_pos ones, count_again other inside encoded, if_pos own]
        simp [own, own ▸ notSource]
      · simp [ones, own, own ▸ notSource]
    · by_cases ones : source.mask = allOnesMask
      · rw [if_pos ones, count_again other inside encoded, if_neg own]
        simp [Ne.symm own, own, ones]
      · simp [ones, own, Ne.symm own]
  have atOthers := spread_others other (isBroadcast_forwarded encoded) source.bbmd
  have countOthers : (target.others.map (carried frame source.bbmd)).countP (takesUp origin npdu node)
      = if node = target.bbmd then 0 else 1 := by
    rw [List.countP_map]
    have same : target.others.countP (takesUp origin npdu node ∘ carried frame source.bbmd)
        = target.others.count node :=
      List.countP_congr fun receiver _ => by simp [takesUp_carried encoded, notSource]
    rw [same]
    split
    · next own => exact List.count_eq_zero.mpr (own ▸ bbmd_notMem_others other)
    · next own =>
        exact List.count_eq_one_of_mem (List.nodup_cons.mp (nodup_nodes other)).2
          ((List.mem_cons.mp inside).resolve_left own)
  unfold addressed expected
  by_cases ones : target.mask = allOnesMask
  · rw [if_pos ones, if_pos ones, List.map_singleton, List.flatMap_singleton, atBbmd, Nat.zero_add]
  · rw [if_neg ones, if_neg ones, Subnet.nodes, List.map_cons, List.flatMap_cons, List.countP_append,
      atBbmd, atOthers, countOthers]
    split <;> omega

/-- The Forwarded-NPDUs that a BBMD sends about a broadcast on its subnet. -/
def forwards (distribution : Distribution) (source : Subnet) (frame : Bytes)
    : List (Datagram BIPAddress) :=
  (distribution.subnets.filter fun subnet => subnet ≠ source).flatMap fun target =>
    (addressed target).map (carried frame source.bbmd)

theorem nodes_of_addressed (inside : node ∈ addressed target) : node ∈ target.nodes := by
  unfold addressed at inside
  split at inside
  · exact List.mem_singleton.mp inside ▸ bbmd_mem_nodes target
  · exact inside

theorem receiver_of_spread (member : source ∈ distribution.subnets)
    (other : target ∈ distribution.subnets) (different : target ≠ source)
    (fromSource : origin ∈ source.nodes)
    (encoded : encodeBvll .forwardedNpdu npdu (some origin) = .ok frame)
    {datagram : Datagram BIPAddress}
    (comes : datagram ∈ ((addressed target).map (carried frame source.bbmd)).flatMap
      (spread distribution.network distribution.transports))
    : datagram.receiver ∈ target.nodes := by
  obtain ⟨first, listed, later⟩ := List.mem_flatMap.mp comes
  obtain ⟨node, inside, rfl⟩ := List.mem_map.mp listed
  rcases List.mem_cons.mp (nodes_of_addressed inside) with rfl | plain
  · rw [spread_at_bbmd member other different fromSource encoded] at later
    rcases List.mem_cons.mp later with rfl | again
    · exact bbmd_mem_nodes target
    · split at again
      · obtain ⟨node, there, rfl⟩ := List.mem_map.mp again
        exact there
      · cases again
  · rw [spread_of_end (isBroadcast_forwarded encoded) (.inl (plain_of_other other plain))] at later
    rw [List.mem_singleton.mp later]
    exact List.mem_cons_of_mem _ plain

theorem count_forwards (member : source ∈ distribution.subnets)
    (other : target ∈ distribution.subnets) (different : target ≠ source)
    (fromSource : origin ∈ source.nodes) (inside : node ∈ target.nodes)
    (encoded : encodeBvll .forwardedNpdu npdu (some origin) = .ok frame)
    : ((distribution.forwards source frame).flatMap
        (spread distribution.network distribution.transports)).countP (takesUp origin npdu node)
      = expected source target node := by
  have listed : target ∈ distribution.subnets.filter fun subnet => subnet ≠ source :=
    List.mem_filter.mpr ⟨other, by simpa using different⟩
  rw [forwards, List.flatMap_assoc, List.countP_eq_length_filter, List.filter_flatMap,
    flatMap_of_unique (nodup_subnets.filter _) listed, ← List.countP_eq_length_filter]
  · exact count_addressed member other different fromSource inside encoded
  · intro another there notTarget
    obtain ⟨there, notSource⟩ := List.mem_filter.mp there
    refine List.filter_eq_nil_iff.mpr fun datagram comes => ?_
    have elsewhere := receiver_of_spread member there (by simpa using notSource) fromSource encoded
      comes
    have notHere : datagram.receiver ≠ node := fun same =>
      notTarget (subnet_of_node there other (same ▸ elsewhere) inside)
    simp [takesUp, notHere]

end Distribution

end BacPy
