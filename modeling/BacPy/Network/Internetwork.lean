import BacPy.Library.Cascades
import BacPy.Network.HopCounts

/-! Internetworks: routers on links, with frames in flight between them. -/

namespace BacPy

open Library

/-- A router on a link, with the MAC address that it has there. -/
structure Attachment where
  router : Nat
  portId : Nat
  link : Nat
  mac : Bytes
  deriving DecidableEq

/-- Which routers are on which links. -/
structure Internetwork where
  attachments : List Attachment

/-- A frame on its way to a port of a router. -/
structure Reception where
  router : Nat
  portId : Nat
  data : Bytes
  sourceMac : Bytes
  deriving DecidableEq

/-- All routers, and all frames in flight. -/
structure InternetworkState where
  routers : List NetworkRouter
  inFlight : List Reception
  deriving DecidableEq

namespace Internetwork

def receptionsFrom (net : Internetwork) (sender : Attachment) (destination : Option Bytes)
    (frame : Bytes)
    : List Reception :=
  (net.attachments.filter fun station =>
    station.link = sender.link ∧ station ≠ sender
      ∧ (destination = none ∨ destination = some station.mac)).map fun station =>
        { router := station.router, portId := station.portId, data := frame, sourceMac := sender.mac }

def receptions (net : Internetwork) (router : Nat) : RouterOutput → List Reception
  | .deliver .. => []
  | .send portId destination frame =>
    (net.attachments.filter fun sender => sender.router = router ∧ sender.portId = portId).flatMap
      fun sender => net.receptionsFrom sender destination frame

/-- What happens in an internetwork. -/
inductive Event where
  /-- a frame in flight arrives -/
  | arrive (index : Nat)
  /-- a frame in flight is lost -/
  | lose (index : Nat)
  /-- a router gets another routing table, for whatever reason -/
  | reroute (router : Nat) (routingTable : RoutingTable)

def arrive (state : InternetworkState) (reception : Reception)
    : List NetworkRouter × List RouterOutput :=
  match state.routers[reception.router]? with
  | none => (state.routers, [])
  | some router =>
    let (router, outputs) :=
      router.onPortReceive reception.portId reception.data reception.sourceMac
    (state.routers.set reception.router router, outputs)

def step (net : Internetwork) (state : InternetworkState) : Event → Option InternetworkState
  | .arrive index =>
    match state.inFlight[index]? with
    | none => none
    | some reception =>
      let (routers, outputs) := arrive state reception
      some {
        routers
        inFlight := state.inFlight.eraseIdx index
          ++ outputs.flatMap (net.receptions reception.router)
      }
  | .lose index =>
    if index < state.inFlight.length then
      some { state with inFlight := state.inFlight.eraseIdx index }
    else none
  | .reroute router routingTable =>
    match state.routers[router]? with
    | none => none
    | some before => some { state with
        routers := state.routers.set router { before with routingTable } }

def outputsOf (state : InternetworkState) : Event → List RouterOutput
  | .arrive index =>
    match state.inFlight[index]? with
    | none => []
    | some reception => (arrive state reception).2
  | _ => []

/-- No Reject-Message that arrives is returned to where it came from. -/
def RejectsEnd (state : InternetworkState) : Event → Prop
  | .arrive index =>
    ∀ reception, state.inFlight[index]? = some reception →
      ∀ router, state.routers[reception.router]? = some router →
        router.RejectEnds reception.data
  | _ => True

variable {net : Internetwork} {state next : InternetworkState} {event : Event}

/-- What arrives from an output is the frame that was sent. -/
theorem data_of_receptions {router output reception}
    (member : reception ∈ net.receptions router output)
    : ∃ portId destination, output = .send portId destination reception.data := by
  cases output with
  | deliver apdu source => cases member
  | send portId destination frame =>
    obtain ⟨sender, _, onLink⟩ := List.mem_flatMap.mp member
    obtain ⟨station, _, rfl⟩ := List.mem_map.mp onLink
    exact ⟨portId, destination, rfl⟩

/-- What a router sends when a frame arrives. -/
theorem outputs_arrive {reception output} (member : output ∈ (arrive state reception).2)
    : ∃ router, state.routers[reception.router]? = some router
        ∧ output ∈ (router.onPortReceive reception.portId reception.data reception.sourceMac).2 := by
  unfold arrive at member
  cases there : state.routers[reception.router]? with
  | none =>
    rw [there] at member
    cases member
  | some router =>
    rw [there] at member
    exact ⟨router, rfl, member⟩

/-- All frames in flight are APDUs or Reject-Messages. -/
def AllTraffic (state : InternetworkState) : Prop :=
  ∀ reception ∈ state.inFlight, NetworkRouter.Traffic reception.data

/-- APDUs and Reject-Messages cause nothing else, whatever the routers do. -/
theorem allTraffic_step (traffic : AllTraffic state) (moved : step net state event = some next)
    : AllTraffic next := by
  cases event with
  | arrive index =>
    rw [step] at moved
    cases there : state.inFlight[index]? with
    | none => simp [there] at moved
    | some reception =>
      rw [there] at moved
      cases moved
      intro another member
      rcases List.mem_append.mp member with before | caused
      · exact traffic another (List.mem_of_mem_eraseIdx before)
      · obtain ⟨output, put, arrives⟩ := List.mem_flatMap.mp caused
        obtain ⟨portId, destination, sent⟩ := data_of_receptions arrives
        obtain ⟨router, _, put⟩ := outputs_arrive put
        exact NetworkRouter.traffic_onPortReceive
          (traffic reception (List.mem_of_getElem? there)) output put _ _ _ sent
  | lose index =>
    rw [step] at moved
    split at moved
    · cases moved
      exact fun another member => traffic another (List.mem_of_mem_eraseIdx member)
    · cases moved
  | reroute router routingTable =>
    rw [step] at moved
    split at moved
    · cases moved
    · cases moved
      exact traffic

/-- One frame in flight is lower than another one. -/
def Lower : Reception → Reception → Prop :=
  InvImage (· < ·) fun reception => NetworkRouter.rank reception.data

def TakesIn : Event → Prop
  | .arrive _ => True
  | .lose _ => True
  | .reroute .. => False

/-- A frame that arrives is replaced by lower ones. -/
theorem lowers_step (traffic : AllTraffic state) (ends : RejectsEnd state event)
    (takes : TakesIn event) (moved : step net state event = some next)
    : Relation.CutExpand Lower (next.inFlight : Multiset Reception) state.inFlight := by
  cases event with
  | arrive index =>
    rw [step] at moved
    cases there : state.inFlight[index]? with
    | none => simp [there] at moved
    | some reception =>
      rw [there] at moved
      cases moved
      refine cutExpand_eraseIdx there ?_
      intro another caused
      obtain ⟨output, put, arrives⟩ := List.mem_flatMap.mp caused
      obtain ⟨portId, destination, sent⟩ := data_of_receptions arrives
      obtain ⟨router, known, put⟩ := outputs_arrive put
      exact NetworkRouter.rank_onPortReceive (traffic reception (List.mem_of_getElem? there))
        (ends reception there router known) output put _ _ _ sent
  | lose index =>
    rw [step] at moved
    split at moved
    · next inside =>
        cases moved
        have nothing : ∀ another ∈ [], Lower another state.inFlight[index] :=
          fun _ member => nomatch member
        have lost := cutExpand_eraseIdx (List.getElem?_eq_getElem inside) nothing
        rwa [List.append_nil] at lost
    · cases moved
  | reroute router routingTable => cases takes

/-- A router passes an NPDU on to its destination with fewer hops left, and at least one. One
originated APDU causes finitely many outputs of all routers, with whatever routing tables and
losses, in every endless run in which no Reject-Message is returned to where it came from.
-/
theorem forwarding_ends (net : Internetwork)
    : (∀ (router : NetworkRouter) portId data sourceMac npdu toPort station frame sent,
        decodeNpdu data = .ok npdu
        → .send toPort station frame ∈ (router.onPortReceive portId data sourceMac).2
        → decodeNpdu frame = .ok sent → sent.destination.isSome
        → (1 ≤ sent.hopCount ∧ sent.hopCount < npdu.hopCount) ∨ NetworkRouter.RejectOf npdu sent)
      ∧ (∀ states events, EndlessRun (step net) states events
        → (∀ reception ∈ (states 0).inFlight, ∀ npdu, decodeNpdu reception.data = .ok npdu
          → npdu.isNetworkMessage = false)
        → (∀ n, RejectsEnd (states n) (events n))
        → { n | outputsOf (states n) (events n) ≠ [] }.Finite) := by
  constructor
  · intro router portId data sourceMac npdu toPort station frame sent received output
    exact NetworkRouter.hopCount_onPortReceive received output
  · intro states events endless applications ends
    have taken : { n | TakesIn (events n) }.Finite :=
      endless.finite_of_lower (InvImage.wf _ wellFounded_lt) InternetworkState.inFlight TakesIn
        allTraffic_step lowers_step (by
          intro state event next rests moved
          cases event with
          | arrive index => exact absurd trivial rests
          | lose index => exact absurd trivial rests
          | reroute router routingTable =>
            rw [step] at moved
            split at moved
            · cases moved
            · rw [← Option.some.inj moved])
        (fun reception member npdu decoded network => by
          rw [applications reception member npdu decoded] at network
          cases network) ends
    refine taken.subset fun n put => ?_
    cases event : events n with
    | arrive index => simp [TakesIn, event]
    | lose index => simp [outputsOf, event] at put
    | reroute router routingTable => simp [outputsOf, event] at put

-- A ring of five routers

def ringNetwork (k : Nat) : Nat := k % 5 + 1

/-- The MAC address of a router of the ring, on both of its links. -/
def ringMac (k : Nat) : Bytes := [UInt8.ofNat (k % 5 + 1)]

/-- A router between two networks of the ring. It knows routes to two of the others, by the next
router of the ring, and none to the network behind that router.
-/
def ringRouter (k : Nat) : Except PyException NetworkRouter := do
  let router ← NetworkRouter.create [
    { portId := 1, networkNumber := ringNetwork k, macAddress := ringMac k },
    { portId := 2, networkNumber := ringNetwork (k + 4), macAddress := ringMac k }]
  let next := some (ringMac (k + 1))
  let routingTable ← router.routingTable.updateRoute (ringNetwork (k + 2)) 1 next
  let routingTable ← routingTable.updateRoute (ringNetwork (k + 3)) 1 next
  .ok { router with routingTable }

def ring : Internetwork where
  attachments := (List.range 5).flatMap fun k => [
    { router := k, portId := 1, link := k, mac := ringMac k },
    { router := k, portId := 2, link := (k + 4) % 5, mac := ringMac k }]

/-- A station on network 5 sends an APDU to one on network 3, by router 0. -/
def ringStart : InternetworkState where
  routers := ((List.range 5).mapM ringRouter).toOption.getD []
  inFlight := [{
    router := 0
    portId := 2
    data := [0x01, 0x20, 0, 3, 1, 50, 255, 0x10, 0x08]
    sourceMac := [99]
  }]

/-- A run that drops the APDU: its router has no routes, and gets none later. -/
def dropped : Nat → InternetworkState
  | 0 => { ringStart with routers := [{}] }
  | _ + 1 => { routers := [{}], inFlight := [] }

def droppedEvents : Nat → Event
  | 0 => .arrive 0
  | _ + 1 => .reroute 0 {}

/-- The ring after twelve frames; ten frames later it is in this state again. -/
def ringLoop : InternetworkState :=
  (run (step ring) ringStart (List.replicate 12 (.arrive 0))).getD ringStart

/-- In the ring one APDU causes Reject-Messages of Reject-Messages without an end. -/
theorem rejects_without_end
    : ∃ states events, EndlessRun (step ring) states events
        ∧ (∀ reception ∈ (states 0).inFlight,
          (decodeNpdu reception.data).map NPDU.isNetworkMessage = .ok false)
        ∧ ¬ { n | outputsOf (states n) (events n) ≠ [] }.Finite := by
  have leads : LeadsTo (step ring) (fun state event => outputsOf state event ≠ []) ringLoop
      ringStart :=
    ⟨.arrive 0, List.replicate 11 (.arrive 0), by decide +kernel, by decide +kernel⟩
  have cycle : LeadsTo (step ring) (fun state event => outputsOf state event ≠ []) ringLoop
      ringLoop :=
    ⟨.arrive 0, List.replicate 9 (.arrive 0), by decide +kernel, by decide +kernel⟩
  obtain ⟨states, events, endless, start, always⟩ := cycle.exists_endlessRun leads
  refine ⟨states, events, endless, ?_, ?_⟩
  · rw [start]
    decide +kernel
  · rw [Set.eq_univ_of_forall always]
    exact Set.infinite_univ

/-- The first router of the ring passes the APDU on with fewer hops left. A router without routes
drops it, and there is nothing more.
-/
theorem forwarding_ends_dropped
    : (∃ npdu sent, decodeNpdu [0x01, 0x20, 0, 3, 1, 50, 255, 0x10, 0x08] = .ok npdu
        ∧ decodeNpdu [0x01, 0x28, 0, 3, 1, 50, 0, 5, 1, 99, 254, 0x10, 0x08] = .ok sent
        ∧ ((1 ≤ sent.hopCount ∧ sent.hopCount < npdu.hopCount)
          ∨ NetworkRouter.RejectOf npdu sent))
      ∧ { n | outputsOf (dropped n) (droppedEvents n) ≠ [] }.Finite := by
  constructor
  · obtain ⟨router, made⟩ : ∃ router, ringRouter 0 = .ok router := ⟨_, rfl⟩
    refine ⟨_, _, rfl, rfl, (forwarding_ends { attachments := [] }).1 router 2
      [0x01, 0x20, 0, 3, 1, 50, 255, 0x10, 0x08] [99] _ 1 (some [2])
      [0x01, 0x28, 0, 3, 1, 50, 0, 5, 1, 99, 254, 0x10, 0x08] _ rfl ?_ rfl rfl⟩
    cases made
    decide +kernel
  · refine (forwarding_ends { attachments := [] }).2 dropped droppedEvents ?_ ?_ ?_
    · rintro (_ | n)
      · decide +kernel
      · rfl
    · intro reception member npdu decoded
      obtain rfl := List.mem_singleton.mp member
      cases decoded.symm.trans rfl
      rfl
    · rintro (_ | n)
      · intro reception there router known npdu reason network decoded message
        cases there
        cases decoded.symm.trans rfl
        cases message
      · trivial

end Internetwork

end BacPy
