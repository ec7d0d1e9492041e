import BacPy.DataLink.AddressResolution6
import BacPy.Library.LoneMessage

/-! Address resolution of BACnet/IPv6 over whole runs, on two links that are joined by BBMDs. -/

namespace BacPy

open Library
open BIP6Transport (Kept source_of_three received_own received_resolution_bbmd received_resolution
  received_unicast sendto_not_mem_deliver received_ack mem_sendPending)
open Function (update update_of_ne update_self)

-- Joined links

/-- Two links and what their BBMDs reach. All other nodes of a link are ordinary ones; further links
and foreign devices may be known to the BBMDs.
-/
structure JoinedLinks {Node : Type} (net : Bip6Network Node) (ports : Node → BIP6Transport) where
  members : Bool → List Node
  bbmd : Bool → Node
  manager : Bool → BBMD6Manager
  nodup : ∀ link, (members link).Nodup
  apart : ∀ link, ∀ node ∈ members link, node ∉ members !link
  member : ∀ link, bbmd link ∈ members link
  attached : ∀ link, (ports (bbmd link)).bbmd = some (manager link)
  ordinary : ∀ link, ∀ node ∈ members link, node ≠ bbmd link → (ports node).bbmd = none
  /-- the BBMDs have each other in their tables -/
  joined : ∀ link, (ports (bbmd !link)).localAddress ∈ (manager link).peers
  three : ∀ node, (ports node).vmac.length = 3
  vmacs : Function.Injective fun node => (ports node).vmac
  /-- a multicast reaches all of its link, the sender included -/
  multicast : ∀ link, ∀ sender ∈ members link,
    net.receivers sender (ports sender).multicastGroup
      = (members link).map fun node => (node, (ports sender).localAddress)
  unicast : ∀ sender node, net.receivers sender (ports node).localAddress
    = [(node, (ports sender).localAddress)]
  /-- the peers and the foreign devices of a BBMD are not on its link -/
  beyond : ∀ link, ∀ dest ∈ (manager link).peers ++ (manager link).foreignDevices,
    ∀ reached ∈ net.receivers (bbmd link) dest,
      reached.1 ∉ members link ∧ reached.2 = (ports (bbmd link)).localAddress

/-- The ports of all nodes, the datagrams in flight, and all that have been sent. -/
structure Resolution6 (Node : Type) where
  ports : Node → BIP6Transport
  inFlight : List (Datagram6 Node)
  sent : List (Datagram6 Node)

/-- A datagram in flight reaches its receiver. -/
structure Arrival6 where
  index : Nat
  now : Rat

namespace Bip6Network

variable {Node : Type}

def sends (net : Bip6Network Node) (node : Node) (port : BIP6Transport) (outputs : List Bip6Output)
    : List (Datagram6 Node) :=
  outputs.flatMap (net.datagrams node port.vmac none)

/-- The Address-Resolution of a node has just been sent. -/
def asking [DecidableEq Node] (net : Bip6Network Node) (ports : Node → BIP6Transport)
    (requester : Node) (next : BIP6Transport) (request : Bytes)
    : Resolution6 Node :=
  let datagrams := net.sends requester next [.sendto request (ports requester).multicastGroup]
  {
    ports := update ports requester next
    inFlight := datagrams
    sent := datagrams
  }

/-- A step of the network: an arrival, with what the receiver sends because of it. -/
def arrive [DecidableEq Node] (net : Bip6Network Node) (state : Resolution6 Node)
    (arrival : Arrival6)
    : Option (Resolution6 Node) :=
  match state.inFlight[arrival.index]? with
  | none => none
  | some datagram =>
    let (port, outputs) := (state.ports datagram.receiver).onDatagramReceived arrival.now
      datagram.data datagram.udpSource
    let datagrams := net.sends datagram.receiver port outputs
    some {
      ports := update state.ports datagram.receiver port
      inFlight := state.inFlight.eraseIdx arrival.index ++ datagrams
      sent := state.sent ++ datagrams
    }

/-- The NPDUs that have been sent to a node from one VMAC to another. -/
def npdusTo [DecidableEq Node] (receiver : Node) (source target : Bytes)
    (sent : List (Datagram6 Node))
    : List Bytes :=
  (sent.filter fun datagram => datagram.receiver = receiver).filterMap fun datagram =>
    unicastNpdu source target datagram.data

/-- The requester and the target have each other's own addresses, and all that has waited has been
sent to the target, once and in order.
-/
structure ResolvedBoth [DecidableEq Node] (ports : Node → BIP6Transport) (requester target : Node)
    (waiting : List PendingResolution) (state : Resolution6 Node) : Prop where
  found : (state.ports requester).resolved (ports target).vmac
    = some (ports target).localAddress
  known : (state.ports target).resolved (ports requester).vmac
    = some (ports requester).localAddress
  npdus : npdusTo target (ports requester).vmac (ports target).vmac state.sent
    = waiting.map PendingResolution.npdu

/-- Where resolution works: the target is another, ordinary node on the link of the requester. -/
structure WithinReach {net : Bip6Network Node} {ports : Node → BIP6Transport}
    (links : JoinedLinks net ports) (link : Bool) (requester target : Node) : Prop where
  other : target ≠ requester
  member : target ∈ links.members link
  ordinary : target ≠ links.bbmd link

/-- An answer reaches the requester before anything that waits for it is too old. -/
def Prompt (requester : Node) (waiting : List PendingResolution) (state : Resolution6 Node)
    (arrival : Arrival6)
    : Prop :=
  ∀ datagram, state.inFlight[arrival.index]? = some datagram → datagram.receiver = requester
    → ∀ source target, decodeBvll6 datagram.data = .ok (resolutionAck source target)
    → ∀ item ∈ waiting, ¬ 30 < arrival.now - item.created

-- Steps

section Steps

variable {net : Bip6Network Node} {ports : Node → BIP6Transport} {state next : Resolution6 Node}
  {arrival : Arrival6}

/-- What is sent goes where the outputs say. -/
theorem mem_sends {node port outputs datagram} (member : datagram ∈ net.sends node port outputs)
    : ∃ dest, .sendto datagram.data dest ∈ outputs
        ∧ (datagram.receiver, datagram.udpSource) ∈ net.receivers node dest := by
  obtain ⟨output, put, sent⟩ := List.mem_flatMap.mp member
  cases output with
  | receive npdu vmac => cases sent
  | sendto data dest =>
    obtain ⟨reached, found, rfl⟩ := List.mem_map.mp sent
    exact ⟨dest, put, found⟩

variable [DecidableEq Node]

/-- An arrival, taken apart. -/
theorem arrival_cases (moved : arrive net state arrival = some next)
    : ∃ datagram port outputs, state.inFlight[arrival.index]? = some datagram
        ∧ (state.ports datagram.receiver).onDatagramReceived arrival.now datagram.data
          datagram.udpSource = (port, outputs)
        ∧ next = {
            ports := update state.ports datagram.receiver port
            inFlight := state.inFlight.eraseIdx arrival.index
              ++ net.sends datagram.receiver port outputs
            sent := state.sent ++ net.sends datagram.receiver port outputs
          } := by
  unfold arrive at moved
  split at moved
  · cases moved
  · next datagram there => exact ⟨datagram, _, _, there, rfl, (Option.some.inj moved).symm⟩

/-- All nodes have the addresses and the BBMDs that they have had. -/
def Steady (ports : Node → BIP6Transport) (state : Resolution6 Node) : Prop :=
  ∀ node, Kept (ports node) (state.ports node)

theorem Steady.update {port receiver inFlight sent} (steady : Steady ports state)
    (kept : Kept (state.ports receiver) port)
    : Steady ports { ports := update state.ports receiver port, inFlight, sent } := by
  intro node
  by_cases same : node = receiver
  · subst same
    simpa using (steady node).trans kept
  · simpa [update_of_ne same] using steady node

theorem npdusTo_append {receiver source target} (sent more : List (Datagram6 Node))
    : npdusTo receiver source target (sent ++ more)
      = npdusTo receiver source target sent ++ npdusTo receiver source target more := by
  simp only [npdusTo, List.filter_append, List.filterMap_append]

theorem npdusTo_elsewhere {receiver : Node} {source target : Bytes} {sent : List (Datagram6 Node)}
    (elsewhere : ∀ datagram ∈ sent, datagram.receiver ≠ receiver)
    : npdusTo receiver source target sent = [] := by
  have nobody : sent.filter (fun datagram => datagram.receiver = receiver) = [] :=
    List.filter_eq_nil_iff.mpr fun datagram member => by simpa using elsewhere datagram member
  rw [npdusTo, nobody]
  rfl

end Steps

-- A target within reach

section Reach

variable {net : Bip6Network Node} {ports : Node → BIP6Transport} (links : JoinedLinks net ports)
  (link : Bool) (requester target : Node)

/-- What is in flight besides the question and its answer. -/
inductive Harmless (datagram : Datagram6 Node) : Prop
  | echo (own : datagram.receiver = requester)
      (decoded : decodeBvll6 datagram.data
        = .ok (resolutionMessage (ports requester).vmac (ports target).vmac))
  | asked (member : datagram.receiver ∈ links.members link) (other : datagram.receiver ≠ requester)
      (silent : datagram.receiver ≠ target)
      (decoded : decodeBvll6 datagram.data
        = .ok (resolutionMessage (ports requester).vmac (ports target).vmac))
  | forwarded (beyond : datagram.receiver ∉ links.members link) (origin : BIP6Address)
      (decoded : decodeBvll6 datagram.data
        = .ok (forwardedResolution (ports requester).vmac (ports target).vmac origin))
  | npdu (there : datagram.receiver = target) (text : Bytes)
      (peer : datagram.udpSource = (ports requester).localAddress)
      (decoded : decodeBvll6 datagram.data
        = .ok (unicastMessage text (ports requester).vmac (ports target).vmac))

/-- The Address-Resolution on its way to the target. -/
structure Question (ports : Node → BIP6Transport) (requester target : Node)
    (datagram : Datagram6 Node) : Prop where
  there : datagram.receiver = target
  peer : datagram.udpSource = (ports requester).localAddress
  decoded : decodeBvll6 datagram.data
    = .ok (resolutionMessage (ports requester).vmac (ports target).vmac)

/-- The answer on its way back. -/
structure Answer (ports : Node → BIP6Transport) (requester target : Node)
    (datagram : Datagram6 Node) : Prop where
  there : datagram.receiver = requester
  peer : datagram.udpSource = (ports target).localAddress
  decoded : decodeBvll6 datagram.data
    = .ok (resolutionAck (ports target).vmac (ports requester).vmac)

variable {links link requester target} {state : Resolution6 Node} {datagram : Datagram6 Node}
  {port : BIP6Transport} {outputs : List Bip6Output} {now : Rat}

/-- What a port does about a harmless message: the requester does nothing, the target has the
requester's address, and all that is sent leaves the link.
-/
structure Idle (links : JoinedLinks net ports) (link : Bool) (requester target : Node)
    (before : BIP6Transport) (receiver : Node) (port : BIP6Transport) (outputs : List Bip6Output)
    : Prop where
  kept : Kept before port
  still : receiver = requester → port = before
  known : receiver = target
    → port.resolved (ports requester).vmac = some (ports requester).localAddress
  leaves : ∀ sent ∈ net.sends receiver port outputs, sent.receiver ∉ links.members link
    ∧ ∃ origin, decodeBvll6 sent.data
      = .ok (forwardedResolution (ports requester).vmac (ports target).vmac origin)

/-- A node that is not the target says nothing to a request. -/
theorem idle_of_answers {node sender before} (same : before.vmac = (ports node).vmac)
    (other : node ≠ requester) (silent : node ≠ target)
    (answers : before.Answers (ports requester).vmac (ports target).vmac sender (port, outputs))
    : Idle links link requester target before node port outputs := by
  have nothing : outputs = [] := answers.silent fun equal =>
    silent (links.vmacs (equal.trans same)).symm
  subst nothing
  exact ⟨answers.kept, fun equal => absurd equal other, fun equal => absurd equal silent, nofun⟩

theorem forwarded_leaves {frame source sent}
    (member : sent ∈ net.sends (links.bbmd link) port
      (((links.manager link).peers
        ++ (links.manager link).foreignDevices.filter fun fd => fd ≠ source).map
          fun dest => .sendto frame dest))
    : sent.data = frame ∧ sent.receiver ∉ links.members link
      ∧ sent.udpSource = (ports (links.bbmd link)).localAddress := by
  obtain ⟨dest, put, reached⟩ := mem_sends member
  obtain ⟨another, listed, same⟩ := List.mem_map.mp put
  cases same
  have known : dest ∈ (links.manager link).peers ++ (links.manager link).foreignDevices := by
    rcases List.mem_append.mp listed with peer | fd
    · exact List.mem_append_left _ peer
    · exact List.mem_append_right _ (List.mem_of_mem_filter fd)
  exact ⟨rfl, links.beyond link dest known _ reached⟩

theorem idle_of_harmless (member : requester ∈ links.members link)
    (reach : WithinReach links link requester target) (steady : Steady ports state)
    (harmless : Harmless links link requester target datagram)
    (received : (state.ports datagram.receiver).onDatagramReceived now datagram.data
      datagram.udpSource = (port, outputs))
    : Idle links link requester target (state.ports datagram.receiver) datagram.receiver port
        outputs := by
  have threeSource := links.three requester
  have threeTarget := links.three target
  have same := (steady datagram.receiver).vmac
  have differs : datagram.receiver ≠ requester
      → (ports requester).vmac ≠ (state.ports datagram.receiver).vmac :=
    fun other equal => other (links.vmacs (equal.trans same)).symm
  cases harmless with
  | echo own decoded =>
    have named := source_of_three (resolutionMessage _ (ports target).vmac)
      threeSource rfl
    rw [received_own decoded (by rw [named, same, own])] at received
    cases received
    exact ⟨BIP6Transport.Kept.refl _, fun _ => rfl,
      fun there => absurd (there.symm.trans own) reach.other, nofun⟩
  | asked inside other silent decoded =>
    by_cases here : datagram.receiver = links.bbmd link
    · have attached : (state.ports datagram.receiver).bbmd = some (links.manager link) := by
        rw [(steady _).bbmd, here, links.attached]
      obtain ⟨frame, reads, kept, sent⟩ := received_resolution_bbmd
        threeSource threeTarget decoded (differs other) attached now
        datagram.udpSource
      rw [received] at kept sent
      cases sent
      refine ⟨kept, fun equal => absurd equal other, fun equal => absurd equal silent,
        fun sent put => ?_⟩
      rw [here] at put
      obtain ⟨rfl, off, -⟩ := forwarded_leaves put
      exact ⟨off, _, reads⟩
    · have ordinary : (state.ports datagram.receiver).bbmd = none := by
        rw [(steady _).bbmd, links.ordinary link _ inside here]
      have answers := received_resolution threeSource threeTarget decoded
        (differs other) ordinary now datagram.udpSource
      rw [received] at answers
      exact idle_of_answers same other silent answers
  | forwarded beyond origin decoded =>
    have other : datagram.receiver ≠ requester := fun equal => beyond (equal ▸ member)
    have silent : datagram.receiver ≠ target := fun equal => beyond (equal ▸ reach.member)
    have answers := BIP6Transport.received_forwardedResolution threeSource threeTarget decoded
      (differs other) now datagram.udpSource
    rw [received] at answers
    exact idle_of_answers same other silent answers
  | npdu there text peer decoded =>
    have other : datagram.receiver ≠ requester := there ▸ reach.other
    rw [received_unicast threeSource decoded (differs other)] at received
    cases received
    refine ⟨BIP6Transport.Kept.remember _ _ _ _, fun equal => absurd equal other, fun _ => ?_,
      fun sent put => ?_⟩
    · rw [BIP6Transport.resolved_remember, peer]
    · obtain ⟨dest, listed, -⟩ := mem_sends put
      exact absurd listed sendto_not_mem_deliver

-- Three phases

variable {next : BIP6Transport} {after : Resolution6 Node} {arrival : Arrival6}
  {waiting : List PendingResolution}

theorem Idle.sends_harmless
    (idle : Idle links link requester target (state.ports datagram.receiver) datagram.receiver port
      outputs)
    : ∀ sent ∈ net.sends datagram.receiver port outputs,
        Harmless links link requester target sent := by
  intro sent put
  obtain ⟨beyond, origin, decoded⟩ := idle.leaves sent put
  exact .forwarded beyond origin decoded

/-- A harmless message is no answer. -/
theorem Harmless.prompt (harmless : Harmless links link requester target datagram)
    (there : state.inFlight[arrival.index]? = some datagram)
    : Prompt requester waiting state arrival := by
  intro another here _ source asked acknowledged
  cases there.symm.trans here
  cases harmless with
  | echo own decoded => cases acknowledged.symm.trans decoded
  | asked inside other silent decoded => cases acknowledged.symm.trans decoded
  | forwarded beyond origin decoded => cases acknowledged.symm.trans decoded
  | npdu there text peer decoded => cases acknowledged.symm.trans decoded

def unicastDatagram (ports : Node → BIP6Transport) (node receiver : Node) (port : BIP6Transport)
    (frame : Bytes)
    : Datagram6 Node where
  receiver
  data := frame
  udpSource := (ports node).localAddress
  about := none
  sentBy := port.vmac

/-- Messages to a node put one datagram each in flight. -/
theorem sends_unicast (links : JoinedLinks net ports) (node receiver : Node) (port : BIP6Transport)
    (frames : List Bytes)
    : net.sends node port (frames.map fun frame => .sendto frame (ports receiver).localAddress)
      = frames.map (unicastDatagram ports node receiver port) := by
  have each : ∀ frame,
      net.datagrams node port.vmac none (.sendto frame (ports receiver).localAddress)
        = [unicastDatagram ports node receiver port frame] := by
    intro frame
    rw [datagrams, links.unicast]
    rfl
  rw [sends, List.flatMap_map]
  simp only [each]
  exact List.flatMap_pure_eq_map _ _

theorem sends_multicast (links : JoinedLinks net ports) (member : requester ∈ links.members link)
    (port : BIP6Transport) (frame : Bytes)
    : net.sends requester port [.sendto frame (ports requester).multicastGroup]
      = (links.members link).map fun node => unicastDatagram ports requester node port frame := by
  rw [sends, List.flatMap_singleton, datagrams, links.multicast link requester member, List.map_map]
  rfl

variable [DecidableEq Node]

theorem Idle.sends_npdus (inside : target ∈ links.members link)
    (idle : Idle links link requester target (state.ports datagram.receiver) datagram.receiver port
      outputs)
    : npdusTo target (ports requester).vmac (ports target).vmac
        (state.sent ++ net.sends datagram.receiver port outputs)
      = npdusTo target (ports requester).vmac (ports target).vmac state.sent := by
  have elsewhere : ∀ sent ∈ net.sends datagram.receiver port outputs, sent.receiver ≠ target :=
    fun sent put equal => (idle.leaves sent put).1 (equal ▸ inside)
  rw [npdusTo_append, npdusTo_elsewhere elsewhere, List.append_nil]

theorem Idle.requester_still
    (idle : Idle links link requester target (state.ports datagram.receiver) datagram.receiver port
      outputs)
    : update state.ports datagram.receiver port requester = state.ports requester := by
  by_cases own : requester = datagram.receiver
  · rw [own, update_self, idle.still own.symm]
  · rw [update_of_ne own]

theorem Idle.target_knows
    (known : (state.ports target).resolved (ports requester).vmac
      = some (ports requester).localAddress)
    (idle : Idle links link requester target (state.ports datagram.receiver) datagram.receiver port
      outputs)
    : (update state.ports datagram.receiver port target).resolved (ports requester).vmac
      = some (ports requester).localAddress := by
  by_cases own : target = datagram.receiver
  · rw [own, update_self]
    exact idle.known own.symm
  · rwa [update_of_ne own]

/-- The question has not reached the target. -/
structure Asked (links : JoinedLinks net ports) (link : Bool) (requester target : Node)
    (next : BIP6Transport) (state : Resolution6 Node) : Prop where
  steady : Steady ports state
  still : state.ports requester = next
  question : Lone (Question ports requester target) (Harmless links link requester target)
    state.inFlight
  unsent : npdusTo target (ports requester).vmac (ports target).vmac state.sent = []

/-- The answer is on its way. -/
structure Answered (links : JoinedLinks net ports) (link : Bool) (requester target : Node)
    (next : BIP6Transport) (state : Resolution6 Node) : Prop where
  steady : Steady ports state
  still : state.ports requester = next
  known : (state.ports target).resolved (ports requester).vmac
    = some (ports requester).localAddress
  answer : Lone (Answer ports requester target) (Harmless links link requester target)
    state.inFlight
  unsent : npdusTo target (ports requester).vmac (ports target).vmac state.sent = []

/-- The answer has reached the requester, at a time. -/
structure Settled (links : JoinedLinks net ports) (link : Bool) (requester target : Node)
    (waiting : List PendingResolution) (now : Rat) (state : Resolution6 Node) : Prop where
  steady : Steady ports state
  found : (state.ports requester).resolved (ports target).vmac = some (ports target).localAddress
  known : (state.ports target).resolved (ports requester).vmac
    = some (ports requester).localAddress
  harmless : ∀ datagram ∈ state.inFlight, Harmless links link requester target datagram
  sent : npdusTo target (ports requester).vmac (ports target).vmac state.sent
    = (BIP6Transport.fresh now waiting).map PendingResolution.npdu

/-- The question stays in flight, or is answered. -/
theorem asked_step (member : requester ∈ links.members link)
    (reach : WithinReach links link requester target)
    (asked : Asked links link requester target next state)
    (moved : arrive net state arrival = some after)
    : Prompt requester waiting state arrival
      ∧ (Asked links link requester target next after
        ∨ Answered links link requester target next after) := by
  obtain ⟨datagram, port, outputs, there, received, rfl⟩ := arrival_cases moved
  rcases asked.question.taken there with ⟨question, others⟩ | ⟨harmless, lone⟩
  · obtain ⟨here, peer, decoded⟩ := question
    constructor
    · intro another found own
      cases there.symm.trans found
      exact absurd (here.symm.trans own) reach.other
    · have same := (asked.steady target).vmac
      have differs : (ports requester).vmac ≠ (state.ports target).vmac := fun equal =>
        reach.other (links.vmacs (equal.trans same)).symm
      have ordinary : (state.ports target).bbmd = none := by
        rw [(asked.steady target).bbmd, links.ordinary link _ reach.member reach.ordinary]
      have answers := received_resolution (links.three requester)
        (links.three target) decoded differs ordinary arrival.now datagram.udpSource
      rw [here] at received ⊢
      rw [received, peer] at answers
      obtain ⟨kept, known, answered, -⟩ := answers
      obtain ⟨ack, reads, rfl⟩ := answered same.symm
      have sent := sends_unicast links target requester port [ack]
      rw [List.map_singleton, List.map_singleton] at sent
      rw [sent]
      refine .inr ⟨asked.steady.update kept, ?_, ?_, ?_, ?_⟩
      · exact (update_of_ne reach.other.symm _ _).trans asked.still
      · exact (congrArg (BIP6Transport.resolved · _) (update_self _ _ _)).trans known
      · exact Lone.of_append others ⟨rfl, rfl, reads⟩
      · have elsewhere : ∀ sent ∈ [unicastDatagram ports target requester port ack],
            sent.receiver ≠ target := fun sent put => by
          rw [List.mem_singleton.mp put]
          exact reach.other.symm
        dsimp only
        rw [npdusTo_append, npdusTo_elsewhere elsewhere, List.append_nil, asked.unsent]
  · have idle := idle_of_harmless member reach asked.steady harmless received
    refine ⟨harmless.prompt there, .inl ⟨asked.steady.update idle.kept, ?_, ?_, ?_⟩⟩
    · exact idle.requester_still.trans asked.still
    · exact lone.append idle.sends_harmless
    · exact (idle.sends_npdus reach.member).trans asked.unsent

/-- The NPDUs in messages to a node are sent to it, in their order. -/
theorem npdusTo_frames {node receiver source destination frames items}
    (each : List.Forall₂ (fun frame (item : PendingResolution) =>
      decodeBvll6 frame = .ok (unicastMessage item.npdu source destination)) frames items)
    : npdusTo receiver source destination (frames.map (unicastDatagram ports node receiver port))
      = items.map PendingResolution.npdu := by
  induction each with
  | nil => rfl
  | @cons frame item frames items decoded _ ih =>
    have read : unicastNpdu source destination frame = some item.npdu := by
      unfold unicastNpdu
      rw [decoded]
      exact if_pos ⟨rfl, rfl, rfl⟩
    have first : npdusTo receiver source destination
        [unicastDatagram ports node receiver port frame] = [item.npdu] := by
      simp [npdusTo, unicastDatagram, read]
    rw [List.map_cons, ← List.singleton_append, npdusTo_append, first, ih]
    rfl

/-- The answer stays in flight; or it arrives, and what waits is sent if it is not too old. -/
theorem answered_step (member : requester ∈ links.members link)
    (reach : WithinReach links link requester target)
    (fits : ∀ item ∈ next.waitingFor (ports target).vmac, item.npdu.length ≤ 65525)
    (answered : Answered links link requester target next state)
    (moved : arrive net state arrival = some after)
    : Prompt requester (next.waitingFor (ports target).vmac) state arrival
        ∧ Answered links link requester target next after
      ∨ (Prompt requester (next.waitingFor (ports target).vmac) state arrival
          ↔ ∀ item ∈ next.waitingFor (ports target).vmac, ¬ 30 < arrival.now - item.created)
        ∧ Settled links link requester target (next.waitingFor (ports target).vmac) arrival.now
            after := by
  obtain ⟨datagram, port, outputs, there, received, rfl⟩ := arrival_cases moved
  rcases answered.answer.taken there with ⟨answer, others⟩ | ⟨harmless, lone⟩
  · obtain ⟨here, peer, decoded⟩ := answer
    refine .inr ⟨⟨fun prompt => prompt datagram there here _ _ decoded,
      fun all another _ _ _ _ _ => all⟩, ?_⟩
    have same := (answered.steady requester).vmac
    have differs : (ports target).vmac ≠ (state.ports requester).vmac := fun equal =>
      reach.other (links.vmacs (equal.trans same))
    have effect := received_ack (links.three target) decoded differs arrival.now
      datagram.udpSource
    rw [here] at received ⊢
    rw [received, peer, answered.still] at effect
    obtain ⟨kept, found, flushed⟩ := effect
    dsimp only at kept found flushed
    have threeNext : next.vmac.length = 3 := by
      rw [← answered.still, same]
      exact links.three requester
    obtain ⟨frames, sent, each⟩ := BIP6Transport.sendPending_fresh threeNext (links.three target)
      fits arrival.now (ports target).localAddress
    have flushed : outputs = frames.map fun frame => .sendto frame (ports target).localAddress :=
      flushed.trans sent
    subst flushed
    have vmac : next.vmac = (ports requester).vmac := answered.still ▸ same
    rw [vmac] at each
    rw [sends_unicast links]
    refine ⟨answered.steady.update (answered.still ▸ kept), ?_, ?_, ?_, ?_⟩
    · exact (congrArg (BIP6Transport.resolved · _) (update_self _ _ _)).trans found
    · exact (congrArg (BIP6Transport.resolved · _) (update_of_ne reach.other _ _)).trans
        answered.known
    · intro another put
      rcases List.mem_append.mp put with before | new
      · exact others another before
      · obtain ⟨frame, listed, rfl⟩ := List.mem_map.mp new
        obtain ⟨text, _, equal, reads⟩ := mem_sendPending
          (sent ▸ List.mem_map_of_mem listed)
        cases equal
        exact .npdu rfl text rfl (vmac ▸ reads)
    · exact (npdusTo_append _ _).trans ((congrArg (· ++ _) answered.unsent).trans
        (npdusTo_frames each))
  · have idle := idle_of_harmless member reach answered.steady harmless received
    refine .inl ⟨harmless.prompt there, answered.steady.update idle.kept, ?_, ?_, ?_, ?_⟩
    · exact idle.requester_still.trans answered.still
    · exact idle.target_knows answered.known
    · exact lone.append idle.sends_harmless
    · exact (idle.sends_npdus reach.member).trans answered.unsent

/-- What was settled stays settled. -/
theorem settled_step {now} (member : requester ∈ links.members link)
    (reach : WithinReach links link requester target)
    (settled : Settled links link requester target waiting now state)
    (moved : arrive net state arrival = some after)
    : Prompt requester waiting state arrival
      ∧ Settled links link requester target waiting now after := by
  obtain ⟨datagram, port, outputs, there, received, rfl⟩ := arrival_cases moved
  have harmless := settled.harmless datagram (List.mem_of_getElem? there)
  have idle := idle_of_harmless member reach settled.steady harmless received
  refine ⟨harmless.prompt there, settled.steady.update idle.kept, ?_, ?_, ?_, ?_⟩
  · exact (congrArg (BIP6Transport.resolved · _) idle.requester_still).trans settled.found
  · exact idle.target_knows settled.known
  · intro another put
    exact (List.mem_append.mp put).elim
      (fun before => settled.harmless another (List.mem_of_mem_eraseIdx before))
      (idle.sends_harmless another)
  · exact (idle.sends_npdus reach.member).trans settled.sent

-- Runs to a target within reach

theorem settled_run {now final arrivals} (member : requester ∈ links.members link)
    (reach : WithinReach links link requester target)
    (settled : Settled links link requester target waiting now state)
    (ran : run (arrive net) state arrivals = some final)
    : Settled links link requester target waiting now final
      ∧ Meets (arrive net) (Prompt requester waiting) state arrivals := by
  induction arrivals generalizing state with
  | nil =>
    cases ran
    exact ⟨settled, trivial⟩
  | cons arrival rest ih =>
    obtain ⟨after, moved, later⟩ := Option.bind_eq_some_iff.mp ran
    have stepped := settled_step member reach settled moved
    obtain ⟨done, prompt⟩ := ih stepped.2 later
    refine ⟨done, fun another same => ?_⟩
    cases moved.symm.trans same
    exact ⟨stepped.1, prompt⟩

/-- A run in which the answer arrives, and whether it does so before anything is too old. -/
def Settles (links : JoinedLinks net ports) (link : Bool) (requester target : Node)
    (waiting : List PendingResolution) (state : Resolution6 Node) (arrivals : List Arrival6)
    (final : Resolution6 Node)
    : Prop :=
  ∃ now, Settled links link requester target waiting now final
    ∧ (Meets (arrive net) (Prompt requester waiting) state arrivals
      ↔ ∀ item ∈ waiting, ¬ 30 < now - item.created)

/-- A first step that is prompt anyway does not matter. -/
theorem Settles.cons {rest final}
    (settles : Settles links link requester target waiting after rest final)
    (moved : arrive net state arrival = some after)
    (prompt : Prompt requester waiting state arrival)
    : Settles links link requester target waiting state (arrival :: rest) final := by
  obtain ⟨now, done, meets⟩ := settles
  refine ⟨now, done, Iff.trans ⟨fun all => (all after moved).2, fun later => ?_⟩ meets⟩
  intro another same
  cases moved.symm.trans same
  exact ⟨prompt, later⟩

theorem answered_run {final arrivals} (member : requester ∈ links.members link)
    (reach : WithinReach links link requester target)
    (fits : ∀ item ∈ next.waitingFor (ports target).vmac, item.npdu.length ≤ 65525)
    (answered : Answered links link requester target next state)
    (ran : run (arrive net) state arrivals = some final) (drained : final.inFlight = [])
    : Settles links link requester target (next.waitingFor (ports target).vmac) state arrivals
        final := by
  induction arrivals generalizing state with
  | nil =>
    cases ran
    exact absurd drained answered.answer.ne_nil
  | cons arrival rest ih =>
    obtain ⟨after, moved, later⟩ := Option.bind_eq_some_iff.mp ran
    rcases answered_step member reach fits answered moved with ⟨prompt, waits⟩ | ⟨prompt, settled⟩
    · exact (ih waits later).cons moved prompt
    · obtain ⟨done, meets⟩ := settled_run member reach settled later
      refine ⟨arrival.now, done, fun all => prompt.mp (all after moved).1, fun all => ?_⟩
      intro another same
      cases moved.symm.trans same
      exact ⟨prompt.mpr all, meets⟩

theorem asked_run {final arrivals} (member : requester ∈ links.members link)
    (reach : WithinReach links link requester target)
    (fits : ∀ item ∈ next.waitingFor (ports target).vmac, item.npdu.length ≤ 65525)
    (asked : Asked links link requester target next state)
    (ran : run (arrive net) state arrivals = some final) (drained : final.inFlight = [])
    : Settles links link requester target (next.waitingFor (ports target).vmac) state arrivals
        final := by
  induction arrivals generalizing state with
  | nil =>
    cases ran
    exact absurd drained asked.question.ne_nil
  | cons arrival rest ih =>
    obtain ⟨after, moved, later⟩ := Option.bind_eq_some_iff.mp ran
    obtain ⟨prompt, still | answered⟩ := asked_step member reach asked moved
    · exact (ih still later).cons moved prompt
    · exact (answered_run member reach fits answered later drained).cons moved prompt

/-- Requests are no NPDUs. -/
theorem npdusTo_multicast {source destination request : Bytes} {nodes : List Node}
    (decoded : decodeBvll6 request = .ok (resolutionMessage source destination))
    : npdusTo target source destination
        (nodes.map fun node => unicastDatagram ports requester node port request) = [] := by
  have none_ : unicastNpdu source destination request = none := by
    unfold unicastNpdu
    rw [decoded]
    exact if_neg fun parts => nomatch parts.1
  refine List.filterMap_eq_nil_iff.mpr fun datagram listed => ?_
  obtain ⟨node, _, rfl⟩ := List.mem_map.mp (List.mem_of_mem_filter listed)
  exact none_

theorem steady_asking {request} (kept : Kept (ports requester) next)
    : Steady ports (asking net ports requester next request) := by
  intro node
  by_cases own : node = requester
  · subst own
    simpa [asking] using kept
  · simpa [asking, update_of_ne own] using BIP6Transport.Kept.refl _

theorem asked_asking {npdu request : Bytes} {created : Rat}
    (member : requester ∈ links.members link) (reach : WithinReach links link requester target)
    (asks : (ports requester).Asks npdu (ports target).vmac created next request)
    : Asked links link requester target next (asking net ports requester next request) := by
  obtain ⟨decoded, kept, _⟩ := asks.spec
  have sent := sends_multicast links member next request
  refine ⟨steady_asking kept, update_self _ _ _, ?_, ?_⟩
  · unfold asking
    rw [sent]
    refine Lone.of_map (links.nodup link) reach.member ⟨rfl, rfl, decoded⟩
      fun node inside other => ?_
    by_cases own : node = requester
    · exact .echo own decoded
    · exact .asked inside own other decoded
  · unfold asking
    rw [sent]
    exact npdusTo_multicast decoded

-- A target out of reach

/-- What is in flight about a target that is out of reach: whatever answers there are go to the BBMD
that has forwarded the question.
-/
inductive Stray (links : JoinedLinks net ports) (link : Bool) (requester target : Node)
    (datagram : Datagram6 Node) : Prop
  | echo (own : datagram.receiver = requester)
      (decoded : decodeBvll6 datagram.data
        = .ok (resolutionMessage (ports requester).vmac (ports target).vmac))
  | asked (member : datagram.receiver ∈ links.members link) (other : datagram.receiver ≠ requester)
      (decoded : decodeBvll6 datagram.data
        = .ok (resolutionMessage (ports requester).vmac (ports target).vmac))
  | forwarded (beyond : datagram.receiver ∉ links.members link)
      (other : requester ≠ links.bbmd link)
      (peer : datagram.udpSource = (ports (links.bbmd link)).localAddress) (origin : BIP6Address)
      (decoded : decodeBvll6 datagram.data
        = .ok (forwardedResolution (ports requester).vmac (ports target).vmac origin))
  | answer (beyond : target ∉ links.members link) (other : requester ≠ links.bbmd link)
      (there : datagram.receiver = links.bbmd link)
      (peer : datagram.udpSource = (ports target).localAddress)
      (decoded : decodeBvll6 datagram.data
        = .ok (resolutionAck (ports target).vmac (ports requester).vmac))
  | npdu (beyond : target ∉ links.members link) (there : datagram.receiver = target)
      (text : Bytes)
      (decoded : decodeBvll6 datagram.data
        = .ok (unicastMessage text (ports (links.bbmd link)).vmac (ports target).vmac))

/-- What a port does about a stray message: the requester does nothing, and only stray messages are
sent.
-/
structure Astray (links : JoinedLinks net ports) (link : Bool) (requester target : Node)
    (before : BIP6Transport) (receiver : Node) (port : BIP6Transport) (outputs : List Bip6Output)
    : Prop where
  kept : Kept before port
  still : receiver = requester → port = before
  strays : ∀ sent ∈ net.sends receiver port outputs, Stray links link requester target sent

theorem astray_of_stray (member : requester ∈ links.members link)
    (beyond : ¬ WithinReach links link requester target) (steady : Steady ports state)
    (stray : Stray links link requester target datagram)
    (received : (state.ports datagram.receiver).onDatagramReceived now datagram.data
      datagram.udpSource = (port, outputs))
    : Astray links link requester target (state.ports datagram.receiver) datagram.receiver port
        outputs := by
  have threeSource := links.three requester
  have threeTarget := links.three target
  have same := (steady datagram.receiver).vmac
  have differs : ∀ {node}, datagram.receiver ≠ node
      → (ports node).vmac ≠ (state.ports datagram.receiver).vmac :=
    fun other equal => other (links.vmacs (equal.trans same)).symm
  cases stray with
  | echo own decoded =>
    have named := source_of_three (resolutionMessage _ (ports target).vmac)
      threeSource rfl
    rw [received_own decoded (by rw [named, same, own])] at received
    cases received
    exact ⟨BIP6Transport.Kept.refl _, fun _ => rfl, nofun⟩
  | asked inside other decoded =>
    by_cases here : datagram.receiver = links.bbmd link
    · have attached : (state.ports datagram.receiver).bbmd = some (links.manager link) := by
        rw [(steady _).bbmd, here, links.attached]
      obtain ⟨frame, reads, kept, sent⟩ := received_resolution_bbmd
        threeSource threeTarget decoded (differs other) attached now datagram.udpSource
      rw [received] at kept sent
      cases sent
      refine ⟨kept, fun equal => absurd equal other, fun sent put => ?_⟩
      rw [here] at put other
      obtain ⟨rfl, off, peer⟩ := forwarded_leaves put
      exact .forwarded off other.symm peer _ reads
    · have ordinary : (state.ports datagram.receiver).bbmd = none := by
        rw [(steady _).bbmd, links.ordinary link _ inside here]
      -- An ordinary node of the link with the VMAC would be within reach.
      have silent : datagram.receiver ≠ target := fun equal =>
        beyond ⟨equal ▸ other, equal ▸ inside, equal ▸ here⟩
      have answers := received_resolution threeSource threeTarget decoded
        (differs other) ordinary now datagram.udpSource
      rw [received] at answers
      obtain rfl : outputs = [] := answers.silent (differs silent)
      exact ⟨answers.kept, fun equal => absurd equal other, nofun⟩
  | forwarded off remote peer origin decoded =>
    have other : datagram.receiver ≠ requester := fun equal => off (equal ▸ member)
    have answers := BIP6Transport.received_forwardedResolution threeSource threeTarget decoded
      (differs other) now datagram.udpSource
    rw [received, peer] at answers
    refine ⟨answers.kept, fun equal => absurd equal other, ?_⟩
    by_cases own : datagram.receiver = target
    · obtain ⟨ack, reads, sent⟩ := answers.answered (by rw [same, own])
      have put := sends_unicast links datagram.receiver (links.bbmd link) port [ack]
      rw [List.map_singleton, List.map_singleton] at put
      dsimp only at sent
      rw [sent, put]
      intro another listed
      rw [List.mem_singleton.mp listed]
      exact .answer (own ▸ off) remote rfl (by rw [own]; rfl) reads
    · obtain rfl : outputs = [] := answers.silent (differs own)
      nofun
  | answer off remote there peer decoded =>
    have other : datagram.receiver ≠ target := fun equal =>
      off (equal ▸ there ▸ links.member link)
    have effect := received_ack threeTarget decoded (differs other) now
      datagram.udpSource
    rw [received, peer] at effect
    obtain ⟨kept, -, rfl⟩ := effect
    refine ⟨kept, fun equal => absurd (equal.symm.trans there) remote, fun sent put => ?_⟩
    obtain ⟨dest, listed, reached⟩ := mem_sends put
    obtain ⟨text, frame, equal, reads⟩ := mem_sendPending listed
    injection equal with sameData sameDest
    rw [sameDest, links.unicast] at reached
    rw [same, there] at reads
    exact .npdu off (congrArg Prod.fst (List.mem_singleton.mp reached)) text (sameData ▸ reads)
  | npdu off there text decoded =>
    have other : datagram.receiver ≠ links.bbmd link := fun equal =>
      off (there ▸ equal ▸ links.member link)
    have away : datagram.receiver ≠ requester := fun equal => off (there ▸ equal ▸ member)
    rw [received_unicast (links.three _) decoded (differs other)] at received
    cases received
    refine ⟨BIP6Transport.Kept.remember _ _ _ _, fun equal => absurd equal away,
      fun sent put => ?_⟩
    obtain ⟨dest, listed, -⟩ := mem_sends put
    exact absurd listed sendto_not_mem_deliver

/-- The requester is where it was. -/
structure Unanswered (links : JoinedLinks net ports) (link : Bool) (requester target : Node)
    (next : BIP6Transport) (state : Resolution6 Node) : Prop where
  steady : Steady ports state
  still : state.ports requester = next
  strays : ∀ datagram ∈ state.inFlight, Stray links link requester target datagram

theorem unanswered_step (member : requester ∈ links.members link)
    (beyond : ¬ WithinReach links link requester target)
    (unanswered : Unanswered links link requester target next state)
    (moved : arrive net state arrival = some after)
    : Unanswered links link requester target next after := by
  obtain ⟨datagram, port, outputs, there, received, rfl⟩ := arrival_cases moved
  have stray := unanswered.strays datagram (List.mem_of_getElem? there)
  have astray := astray_of_stray member beyond unanswered.steady stray received
  refine ⟨unanswered.steady.update astray.kept, ?_, fun another put => ?_⟩
  · refine Eq.trans ?_ unanswered.still
    by_cases own : requester = datagram.receiver
    · rw [own]
      exact (update_self _ _ _).trans (astray.still own.symm)
    · exact update_of_ne own _ _
  · exact (List.mem_append.mp put).elim
      (fun before => unanswered.strays another (List.mem_of_mem_eraseIdx before))
      (astray.strays another)

theorem unanswered_asking {npdu request created} (member : requester ∈ links.members link)
    (asks : (ports requester).Asks npdu (ports target).vmac created next request)
    : Unanswered links link requester target next (asking net ports requester next request) := by
  obtain ⟨decoded, kept, _⟩ := asks.spec
  refine ⟨steady_asking kept, update_self _ _ _, fun datagram put => ?_⟩
  unfold asking at put
  rw [sends_multicast links member next request] at put
  obtain ⟨node, inside, rfl⟩ := List.mem_map.mp put
  by_cases own : node = requester
  · exact .echo own decoded
  · exact .asked inside own decoded

-- Whole runs

/-- Nothing is left out only if nothing is too old. -/
theorem fresh_all (whole : (BIP6Transport.fresh now waiting).map PendingResolution.npdu
      = waiting.map PendingResolution.npdu)
    : ∀ item ∈ waiting, ¬ 30 < now - item.created := by
  have long : (BIP6Transport.fresh now waiting).length = waiting.length := by
    simpa using congrArg List.length whole
  intro item member
  have kept := List.length_filter_eq_length_iff.mp long item member
  exact of_decide_eq_true kept

/-- In every run in which all datagrams are delivered, a resolution succeeds exactly if the target is
another, ordinary node on the link of the requester, and its answer comes before anything that waits
for it is too old. The BBMD of the link never answers for itself, and answers from beyond it do not
get to the requester.
-/
theorem resolvedBoth_iff {npdu request : Bytes} {created : Rat} {final : Resolution6 Node}
    {arrivals : List Arrival6} (member : requester ∈ links.members link)
    (asks : (ports requester).Asks npdu (ports target).vmac created next request)
    (fits : ∀ item ∈ next.waitingFor (ports target).vmac, item.npdu.length ≤ 65525)
    (ran : run (arrive net) (asking net ports requester next request) arrivals = some final)
    (drained : final.inFlight = [])
    : ⟨npdu, created⟩ ∈ next.waitingFor (ports target).vmac
      ∧ (ResolvedBoth ports requester target (next.waitingFor (ports target).vmac) final
        ↔ WithinReach links link requester target
          ∧ Meets (arrive net) (Prompt requester (next.waitingFor (ports target).vmac))
              (asking net ports requester next request) arrivals) := by
  refine ⟨asks.spec.2.2.2, ?_⟩
  by_cases reach : WithinReach links link requester target
  · obtain ⟨now, settled, meets⟩ :=
      asked_run member reach fits (asked_asking member reach asks) ran drained
    rw [meets]
    constructor
    · intro resolved
      exact ⟨reach, fresh_all (settled.sent.symm.trans resolved.npdus)⟩
    · rintro ⟨_, all⟩
      refine ⟨settled.found, settled.known, settled.sent.trans ?_⟩
      rw [BIP6Transport.fresh,
        List.filter_eq_self.mpr fun item listed => decide_eq_true (all item listed)]
  · refine iff_of_false (fun resolved => ?_) fun both => reach both.1
    have unanswered := @invariant_every_run _ _ (arrive net)
      (Unanswered links link requester target next) (unanswered_step member reach) _ _ _
      (unanswered_asking member asks) ran
    have found := resolved.found
    rw [unanswered.still, asks.spec.2.2.1] at found
    cases found

end Reach

-- Two links

def twoLinksBbmd (link : Bool) : Station :=
  if link then .bbmd else .remote

def twoLinksJoined : JoinedLinks twoLinks Station.transport where
  members link := if link then [.node, .bbmd] else [.remote]
  bbmd := twoLinksBbmd
  manager link := (twoLinksBbmd link).port.makeBbmd
    [⟨Station.bbmd.address⟩, ⟨Station.remote.address⟩]
  nodup := by decide
  apart := by decide
  member := by decide
  attached := by rintro (_ | _) <;> rfl
  ordinary := by rintro (_ | _) (_ | _ | _) inside other <;> first | rfl | simp_all [twoLinksBbmd]
  joined := by decide +kernel
  three := by rintro (_ | _ | _) <;> rfl
  vmacs := by rintro (_ | _ | _) (_ | _ | _) same <;> first | rfl | cases same
  multicast := by decide +kernel
  unicast := by rintro (_ | _ | _) (_ | _ | _) <;> decide +kernel
  beyond := by decide +kernel

def Station.queued (station target : Station) : BIP6Transport :=
  {
    station.transport with
    pendingResolutions :=
      OrderedDict.set {} target.vmac [{ npdu := [0x01, 0x00, 0x10, 0x08], created := 0 }]
  }

/-- Its Address-Resolution. -/
def Station.request (station target : Station) : Bytes :=
  [0x82, 0x03, 0, 10] ++ station.vmac ++ target.vmac

theorem Station.asks (station target : Station)
    : station.transport.Asks [0x01, 0x00, 0x10, 0x08] target.vmac 0 (station.queued target)
        (station.request target) := by
  cases station <;> cases target <;> exact ⟨rfl, rfl⟩

/-- All datagrams arrive in their order. -/
def inOrder (count : Nat) : List Arrival6 :=
  List.replicate count { index := 0, now := 0 }

/-- The BBMD resolves the node; the request and its echo arrive, the answer, and the Who-Is. -/
theorem resolvedBoth_node
    : ∃ final, run (arrive twoLinks)
          (asking twoLinks Station.transport .bbmd (Station.bbmd.queued .node)
            (Station.bbmd.request .node)) (inOrder 4) = some final
        ∧ ResolvedBoth Station.transport .bbmd .node
            ((Station.bbmd.queued .node).waitingFor Station.node.vmac) final := by
  have ends : (run (arrive twoLinks)
      (asking twoLinks Station.transport .bbmd (Station.bbmd.queued .node)
        (Station.bbmd.request .node)) (inOrder 4)).map (fun final => final.inFlight.isEmpty)
      = some true := by
    decide +kernel
  obtain ⟨final, ran, drained⟩ := Option.map_eq_some_iff.mp ends
  have reach : WithinReach twoLinksJoined true .bbmd .node := ⟨by decide, by decide, by decide⟩
  have prompt : Meets (arrive twoLinks)
      (Prompt .bbmd ((Station.bbmd.queued .node).waitingFor Station.node.vmac))
      (asking twoLinks Station.transport .bbmd (Station.bbmd.queued .node)
        (Station.bbmd.request .node)) (inOrder 4) := by
    have at_once : ∀ arrival ∈ inOrder 4,
        ∀ item ∈ (Station.bbmd.queued .node).waitingFor Station.node.vmac,
          ¬ 30 < arrival.now - item.created := by
      decide +kernel
    exact (meets_of_forall at_once).mono fun _ _ all _ _ _ _ _ _ => all
  have inside : Station.bbmd ∈ twoLinksJoined.members true := by decide
  exact ⟨final, ran, (resolvedBoth_iff inside (Station.asks .bbmd .node) (by decide) ran
    (List.isEmpty_iff.mp drained)).2.mpr ⟨reach, prompt⟩⟩

/-- The node asks for the BBMD of its link, and for the other BBMD: all datagrams arrive, and it has
no address.
-/
theorem bbmds_not_resolved
    : (Station.node.transport.Asks [0x01, 0x00, 0x10, 0x08] Station.bbmd.vmac 0
          (Station.node.queued .bbmd) (Station.node.request .bbmd)
        ∧ (run (arrive twoLinks)
            (asking twoLinks Station.transport .node (Station.node.queued .bbmd)
              (Station.node.request .bbmd)) (inOrder 3)).map (fun final =>
            (final.inFlight.isEmpty, (final.ports .node).resolved Station.bbmd.vmac))
          = some (true, none))
      ∧ Station.node.transport.Asks [0x01, 0x00, 0x10, 0x08] Station.remote.vmac 0
          (Station.node.queued .remote) (Station.node.request .remote)
        ∧ (run (arrive twoLinks)
            (asking twoLinks Station.transport .node (Station.node.queued .remote)
              (Station.node.request .remote)) (inOrder 4)).map (fun final =>
            (final.inFlight.isEmpty, (final.ports .node).resolved Station.remote.vmac))
          = some (true, none) := by
  exact ⟨⟨Station.asks .node .bbmd, by decide +kernel⟩, Station.asks .node .remote,
    by decide +kernel⟩

end Bip6Network

end BacPy
