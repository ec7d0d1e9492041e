import BacPy.Library.Runs
import BacPy.Network.Router

/-! What holds of the routing table in every run of a router: entries are stored under their own
numbers and lead to ports of the router, and which messages take a port its own network.
-/

namespace BacPy

open Library
open Stateful (Preserves)
open OrderedDict (get_set get_set_self get_set_ne get_pop get_pop_ne)

-- The table

namespace RoutingTable

/-- Every entry is stored under its own network number, and leads to a port. -/
structure Sound (table : RoutingTable) : Prop where
  keyed : ∀ network entry, table.entries.get network = some entry → entry.networkNumber = network
  registered : ∀ network entry, table.entries.get network = some entry
    → (table.ports.get entry.portId).isSome

/-- The network of every port has a direct entry on that very port. -/
def Direct (table : RoutingTable) : Prop :=
  ∀ portId port, table.ports.get portId = some port
    → ∃ entry, table.entries.get port.networkNumber = some entry
      ∧ entry.nextRouterMac = none ∧ entry.portId = portId

def Attached (table : RoutingTable) (network : Nat) : Prop :=
  ∃ portId port, table.ports.get portId = some port ∧ port.networkNumber = network

def AttachedOnlyTo (table : RoutingTable) (network portId : Nat) : Prop :=
  ∀ another port, table.ports.get another = some port → port.networkNumber = network
    → another = portId

variable {table after : RoutingTable} {network dnet portId : Nat} {port : RouterPort}
  {nextRouterMac : Option Bytes}

theorem Sound.addPort (sound : table.Sound) (added : table.addPort port = .ok after)
    : after.Sound := by
  unfold RoutingTable.addPort at added
  split at added
  · cases added
  · split at added
    · cases added
    · cases added
      constructor
      · intro network entry found
        rw [get_set] at found
        split at found
        · next same => rw [← Option.some.inj found, same]
        · exact sound.keyed network entry found
      · intro network entry found
        rw [get_set] at found ⊢
        split at found
        · rw [← Option.some.inj found, if_pos rfl]
          rfl
        · split
          · rfl
          · exact sound.registered network entry found

theorem Direct.addPort (direct : table.Direct) (added : table.addPort port = .ok after)
    : after.Direct := by
  unfold RoutingTable.addPort at added
  split at added
  · cases added
  · split at added
    · cases added
    · next freeNetwork =>
        cases added
        intro portId another there
        rw [get_set] at there
        split at there
        · next same =>
            cases there
            exact ⟨_, get_set_self, rfl, same.symm⟩
        · obtain ⟨entry, found, direct, onPort⟩ := direct portId another there
          refine ⟨entry, ?_, direct, onPort⟩
          rw [get_set_ne, found]
          intro same
          rw [same] at found
          exact freeNetwork (by rw [found]; rfl)

theorem updateRoute_cases (updated : table.updateRoute dnet portId nextRouterMac = .ok after)
    : (table.ports.get portId).isSome
      ∧ (after = table ∨ ∃ entry, after = { table with entries := table.entries.set dnet entry }
        ∧ entry.portId = portId ∧ entry.nextRouterMac = nextRouterMac
        ∧ (entry.networkNumber = dnet
          ∨ ∃ old, table.entries.get dnet = some old ∧ entry.networkNumber = old.networkNumber)) := by
  unfold updateRoute at updated
  split at updated
  · cases updated
  · next registered =>
      refine ⟨Option.isSome_iff_ne_none.mpr (by simpa using registered), ?_⟩
      split at updated
      · next old found =>
          cases updated
          exact Or.inr ⟨_, rfl, rfl, rfl, Or.inr ⟨old, found, rfl⟩⟩
      · split at updated
        · exact Or.inl (Except.ok.inj updated).symm
        · cases updated
          exact Or.inr ⟨_, rfl, rfl, rfl, Or.inl rfl⟩

theorem Sound.updateRoute (sound : table.Sound)
    (updated : table.updateRoute dnet portId nextRouterMac = .ok after)
    : after.Sound := by
  obtain ⟨known, rfl | ⟨entry, rfl, onPort, _, number⟩⟩ := updateRoute_cases updated
  · exact sound
  · constructor
    · intro network other found
      rw [get_set] at found
      split at found
      · next same =>
          rw [← Option.some.inj found, same]
          rcases number with new | ⟨old, before, same⟩
          · exact new
          · exact same.trans (sound.keyed dnet old before)
      · exact sound.keyed network other found
    · intro network other found
      rw [get_set] at found
      split at found
      · rw [← Option.some.inj found, onPort]
        exact known
      · exact sound.registered network other found

theorem Direct.updateRoute (direct : table.Direct)
    (updated : table.updateRoute dnet portId nextRouterMac = .ok after)
    (spared : table.Attached dnet → nextRouterMac = none ∧ table.AttachedOnlyTo dnet portId)
    : after.Direct := by
  obtain ⟨known, rfl | ⟨entry, rfl, onPort, next, _⟩⟩ := updateRoute_cases updated
  · exact direct
  · intro another port there
    by_cases same : port.networkNumber = dnet
    · obtain ⟨noRouter, only⟩ := spared ⟨another, port, there, same⟩
      refine ⟨entry, ?_, next.trans noRouter, onPort.trans (only another port there same).symm⟩
      rw [same, get_set_self]
    · obtain ⟨old, found, noRouter, onAnother⟩ := direct another port there
      exact ⟨old, by rw [get_set_ne same, found], noRouter, onAnother⟩

theorem Sound.removeEntry (sound : table.Sound) (dnet : Nat) : (table.removeEntry dnet).Sound := by
  constructor
  all_goals
    intro network entry found
    unfold RoutingTable.removeEntry at found
    rw [get_pop] at found
    split at found
    · cases found
  · exact sound.keyed network entry found
  · exact sound.registered network entry found

theorem Direct.removeEntry (direct : table.Direct) (spared : ¬ table.Attached dnet)
    : (table.removeEntry dnet).Direct := by
  intro portId port there
  obtain ⟨entry, found, noRouter, onPort⟩ := direct portId port there
  refine ⟨entry, ?_, noRouter, onPort⟩
  unfold RoutingTable.removeEntry
  rw [get_pop_ne, found]
  exact fun same => spared ⟨portId, port, there, same⟩

theorem get_mark (table : RoutingTable) (dnet : Nat) (reachability) (busyTimeout : Option Nat)
    (network : Nat)
    : (table.mark dnet reachability busyTimeout).entries.get network
      = (table.entries.get network).map fun entry =>
        if network = dnet then { entry with reachability, busyTimeout } else entry := by
  unfold mark
  split
  · next absent =>
      by_cases same : network = dnet
      · simp [same, absent]
      · simp [same]
  · next entry found =>
      dsimp only
      rw [get_set]
      by_cases same : network = dnet
      · simp [same, found]
      · simp [same]

theorem ports_mark (table : RoutingTable) (dnet : Nat) (reachability) (busyTimeout : Option Nat)
    : (table.mark dnet reachability busyTimeout).ports = table.ports := by
  unfold mark
  split <;> rfl

theorem Sound.mark (sound : table.Sound) (dnet : Nat) (reachability) (busyTimeout : Option Nat)
    : (table.mark dnet reachability busyTimeout).Sound := by
  constructor
  all_goals
    intro network entry found
    rw [get_mark] at found
    obtain ⟨old, before, same⟩ := Option.map_eq_some_iff.mp found
  · have number : entry.networkNumber = old.networkNumber := by
      rw [← same]
      split <;> rfl
    exact number.trans (sound.keyed network old before)
  · have onPort : entry.portId = old.portId := by
      rw [← same]
      split <;> rfl
    rw [ports_mark, onPort]
    exact sound.registered network old before

theorem Direct.mark (direct : table.Direct) (dnet : Nat) (reachability) (busyTimeout : Option Nat)
    : (table.mark dnet reachability busyTimeout).Direct := by
  intro portId port there
  rw [ports_mark] at there
  obtain ⟨entry, found, noRouter, onPort⟩ := direct portId port there
  refine ⟨_, by rw [get_mark, found]; rfl, ?_, ?_⟩
  · split <;> exact noRouter
  · split <;> exact onPort

theorem Sound.updatePortNetworkNumber (sound : table.Sound)
    (updated : table.updatePortNetworkNumber portId network = .ok after)
    : after.Sound := by
  unfold RoutingTable.updatePortNetworkNumber at updated
  split at updated
  · exact Except.ok.inj updated ▸ sound
  · next port known =>
      split at updated
      · exact Except.ok.inj updated ▸ sound
      · split at updated
        · cases updated
        · cases updated
          have stillThere : ∀ another, (table.ports.get another).isSome
              → ((table.ports.set portId { port with networkNumber := network }).get
                another).isSome := by
            intro another there
            rw [get_set]
            split
            · rfl
            · exact there
          constructor
          · intro dnet entry found
            rw [get_set] at found
            split at found
            · next same =>
                rw [← Option.some.inj found, same]
                split <;> rfl
            · rw [get_pop] at found
              split at found
              · cases found
              · exact sound.keyed dnet entry found
          · intro dnet entry found
            apply stillThere
            rw [get_set] at found
            split at found
            · rw [← Option.some.inj found]
              split
              · next old before => exact sound.registered _ old before
              · exact Option.isSome_iff_exists.mpr ⟨port, known⟩
            · rw [get_pop] at found
              split at found
              · cases found
              · exact sound.registered dnet entry found

theorem Direct.updatePortNetworkNumber (direct : table.Direct)
    (updated : table.updatePortNetworkNumber portId network = .ok after)
    : after.Direct := by
  unfold RoutingTable.updatePortNetworkNumber at updated
  split at updated
  · exact Except.ok.inj updated ▸ direct
  · next port known =>
      split at updated
      · exact Except.ok.inj updated ▸ direct
      · split at updated
        · cases updated
        · next free =>
            cases updated
            obtain ⟨old, before, noRouter, onPort⟩ := direct portId port known
            intro another other there
            rw [get_set] at there
            split at there
            · next same =>
                cases there
                refine ⟨_, get_set_self, ?_, ?_⟩
                · rw [before]
                  exact noRouter
                · rw [before, same]
                  exact onPort
            · next different =>
                obtain ⟨entry, found, direct, onOther⟩ := direct another other there
                refine ⟨entry, ?_, direct, onOther⟩
                have notNew : other.networkNumber ≠ network := by
                  intro same
                  rw [same] at found
                  exact free (by rw [found]; rfl)
                have notOld : other.networkNumber ≠ port.networkNumber := by
                  intro same
                  rw [same, before] at found
                  rw [← Option.some.inj found] at onOther
                  exact different (onOther.symm.trans onPort)
                rw [get_set_ne notNew, get_pop_ne notOld, found]

end RoutingTable

-- Handlers

namespace NetworkRouter

variable {Result : Type} {inv : RoutingTable → Prop}

/-- The handler leads from tables with the invariant to such tables, whatever its outcome. -/
def Keeps (inv : RoutingTable → Prop) (action : RouterAction Result) : Prop :=
  Preserves (fun routing => inv routing.router.routingTable) action

theorem keeps_table : Keeps inv table := Preserves.reads _

theorem keeps_emit (output : RouterOutput) : Keeps inv (emit output) :=
  Preserves.modifies fun _ holds => holds

theorem keeps_changeTable {change} (kept : ∀ table, inv table → inv (change table))
    : Keeps inv (changeTable change) :=
  Preserves.modifies fun _ holds => kept _ holds

theorem keeps_tryTable {change}
    (kept : ∀ table after, inv table → change table = .ok after → inv after)
    : Keeps inv (tryTable change) := by
  apply Preserves.of_final
  intro routing holds
  unfold tryTable
  cases changed : change routing.router.routingTable with
  | ok after => exact kept _ after holds changed
  | error raised => exact holds

/-- A handler that starts by looking at the table. -/
theorem keeps_withTable {next : RoutingTable → RouterAction Result}
    (onward : ∀ table, Keeps inv (next table))
    : Keeps inv (table >>= next) :=
  Preserves.bind keeps_table onward

theorem keeps_sendNetworkMessageOnPort {portId : Nat} {msg : NetworkMessage}
    {destination : Option Bytes}
    : Keeps inv (sendNetworkMessageOnPort portId msg destination) := by
  refine keeps_withTable fun table => ?_
  split
  · exact .bind (.lift _) fun _ =>
      Preserves.bind (.lift _) fun _ => keeps_emit _
  · exact .pure _

theorem keeps_broadcastNetworkMessageAllExcept {excludePortId : Nat} {msg : NetworkMessage}
    : Keeps inv (broadcastNetworkMessageAllExcept excludePortId msg) :=
  keeps_withTable fun _ => .forEach fun _ _ =>
    Preserves.when fun _ => keeps_sendNetworkMessageOnPort

theorem keeps_sendReject {portId destMac reason dnet}
    : Keeps inv (sendReject portId destMac reason dnet) :=
  keeps_sendNetworkMessageOnPort

variable {arrivalPortId : Nat} {npdu : NPDU} {sourceMac : Bytes}

theorem keeps_sendRejectTowardSource {reason : RejectMessageReason} {dnet : Nat}
    : Keeps inv (sendRejectTowardSource arrivalPortId npdu sourceMac reason dnet) := by
  unfold sendRejectTowardSource
  split
  · exact keeps_sendReject
  · refine .bind (.lift _) fun _ =>
      Preserves.bind (.lift _) fun _ => keeps_withTable fun _ => ?_
    split
    · exact keeps_emit _
    · exact keeps_sendReject

theorem keeps_forwardGlobalBroadcast
    : Keeps inv (forwardGlobalBroadcast arrivalPortId npdu sourceMac) := by
  refine keeps_withTable fun _ => .bind (.lift _) fun prepared => ?_
  cases prepared with
  | none => exact .pure ()
  | some forwarded =>
    exact .bind (.lift _) fun _ =>
      keeps_withTable fun _ => .forEach fun _ _ =>
        Preserves.when fun _ => keeps_emit _

theorem keeps_deliverToDirectlyConnected {destPort : RouterPort}
    : Keeps inv (deliverToDirectlyConnected arrivalPortId npdu sourceMac destPort) := by
  unfold deliverToDirectlyConnected
  split
  · exact .pure ()
  · exact keeps_withTable fun _ => .bind (.lift _)
      fun _ => keeps_emit _

theorem keeps_forwardViaNextHop {destPort : RouterPort} {nextRouterMac : Bytes}
    : Keeps inv (forwardViaNextHop arrivalPortId npdu sourceMac destPort nextRouterMac) := by
  refine keeps_withTable fun _ => .bind (.lift _) fun prepared => ?_
  cases prepared with
  | none => exact .pure ()
  | some forwarded =>
    exact .bind (.lift _) fun _ => keeps_emit _

theorem keeps_forwardToNetwork {dnet : Nat}
    : Keeps inv (forwardToNetwork arrivalPortId npdu sourceMac dnet) := by
  refine keeps_withTable fun _ => ?_
  split
  · exact keeps_sendRejectTowardSource
  · split
    · exact keeps_sendRejectTowardSource
    · exact keeps_sendRejectTowardSource
    · split
      · exact keeps_deliverToDirectlyConnected
      · exact keeps_forwardViaNextHop

theorem keeps_forward {arrivalPortId npdu sourceMac destination}
    : Keeps inv (forward arrivalPortId npdu sourceMac destination) := by
  unfold forward
  dsimp only
  split
  · exact keeps_forwardGlobalBroadcast
  · exact keeps_forwardToNetwork

theorem keeps_deliverToApplication {portId : Nat}
    : Keeps inv (deliverToApplication portId npdu sourceMac) := by
  refine .bind (.reads _) fun _ => ?_
  split
  · refine keeps_withTable fun _ => ?_
    split
    · exact keeps_emit _
    · exact .bind (.lift _) fun _ => keeps_emit _
  · exact .pure _

/-- The changes that a message makes to routes and ports keep the invariant. -/
def Harmless (inv : RoutingTable → Prop) (portId : Nat) (sourceMac : Bytes)
    : NetworkMessage → Prop
  | .iAmRouterToNetwork networks => ∀ dnet ∈ networks, ∀ table after, inv table
      → table.updateRoute dnet portId (some sourceMac) = .ok after → inv after
  | .initializeRoutingTable ports => ∀ portEntry ∈ ports, ∀ table, inv table →
      if portEntry.portId = 0 then inv (table.removeEntry portEntry.network)
      else ∀ after, table.updateRoute portEntry.network portEntry.portId none = .ok after
        → inv after
  | .networkNumberIs network _ => ∀ table after, inv table
      → table.updatePortNetworkNumber portId network = .ok after → inv after
  | _ => True

variable {portId : Nat} {sourceMac : Bytes}

/-- Marks keep the invariant. -/
def KeptByMarks (inv : RoutingTable → Prop) : Prop :=
  ∀ table dnet reachability busyTimeout, inv table → inv (table.mark dnet reachability busyTimeout)

theorem keeps_handleIAmRouter {networks}
    (harmless : Harmless inv portId sourceMac (.iAmRouterToNetwork networks))
    : Keeps inv (handleIAmRouter portId networks sourceMac) :=
  Preserves.bind
    (.forEach fun dnet member => keeps_tryTable (harmless dnet member))
    fun _ => keeps_broadcastNetworkMessageAllExcept

theorem keeps_handleRejectMessage (marks : KeptByMarks inv) {reason network npdu}
    : Keeps inv (handleRejectMessage portId reason network npdu sourceMac) := by
  unfold handleRejectMessage
  cases reason with
  | notDirectlyConnected =>
    refine .bind (keeps_changeTable fun _ => marks _ _ _ _) fun _ => ?_
    cases npdu.destination with
    | none => exact .pure ()
    | some destination => exact keeps_forward
  | routerBusy =>
    refine .bind (keeps_changeTable fun _ => marks _ _ _ _) fun _ => ?_
    cases npdu.destination with
    | none => exact .pure ()
    | some destination => exact keeps_forward
  | _ =>
    cases npdu.destination with
    | none => exact .pure ()
    | some destination => exact keeps_forward

theorem keeps_handleRouterBusy (marks : KeptByMarks inv) {networks : List Nat}
    : Keeps inv (handleRouterBusy portId networks sourceMac) :=
  keeps_withTable fun _ => .bind
    (.forEach fun _ _ => keeps_changeTable fun _ => marks _ _ _ _)
    fun _ => keeps_broadcastNetworkMessageAllExcept

theorem keeps_handleRouterAvailable (marks : KeptByMarks inv) {networks : List Nat}
    : Keeps inv (handleRouterAvailable portId networks) :=
  keeps_withTable fun _ => .bind
    (.forEach fun _ _ => keeps_changeTable fun _ => marks _ _ _ _)
    fun _ => keeps_broadcastNetworkMessageAllExcept

theorem keeps_handleInitRoutingTable {ports : List RoutingTablePort}
    (harmless : Harmless inv portId sourceMac (.initializeRoutingTable ports))
    : Keeps inv (handleInitRoutingTable portId ports sourceMac) := by
  have each : ∀ portEntry ∈ ports, Keeps inv (initializeEntry portEntry) := by
    intro portEntry member
    have kept := harmless portEntry member
    unfold initializeEntry
    split
    · next removed =>
        simp only [if_pos removed] at kept
        exact keeps_changeTable kept
    · next set =>
        simp only [if_neg set] at kept
        exact keeps_withTable fun _ => .when fun _ =>
          keeps_tryTable fun table after holds => kept table holds after
  unfold handleInitRoutingTable
  split
  · exact keeps_withTable fun _ => keeps_sendNetworkMessageOnPort
  · exact .bind (.forEach each)
      fun _ => keeps_sendNetworkMessageOnPort

theorem keeps_handleWhoIsRouter {network : Option Nat}
    : Keeps inv (handleWhoIsRouter portId network npdu sourceMac) := by
  refine keeps_withTable fun table => ?_
  cases network with
  | none => exact .when fun _ => keeps_sendNetworkMessageOnPort
  | some network =>
    dsimp only
    split
    · exact .when fun _ => keeps_sendNetworkMessageOnPort
    · exact keeps_forwardGlobalBroadcast

theorem keeps_handleWhatIsNetworkNumber
    : Keeps inv (handleWhatIsNetworkNumber portId npdu) := by
  unfold handleWhatIsNetworkNumber
  split
  · exact .pure ()
  · refine keeps_withTable fun _ => ?_
    split
    · exact .pure ()
    · exact .when fun _ => keeps_sendNetworkMessageOnPort

theorem keeps_handleNetworkNumberIs {network : Nat} {configured : Bool}
    (harmless : Harmless inv portId sourceMac (.networkNumberIs network configured))
    : Keeps inv (handleNetworkNumberIs portId network configured npdu) := by
  unfold handleNetworkNumberIs
  split
  · exact .pure ()
  · refine keeps_withTable fun _ => ?_
    split
    · exact .pure ()
    · exact .when fun _ => keeps_tryTable harmless

/-- Every message whose changes to routes and ports are harmless keeps the invariant. -/
theorem keeps_handleMessage (marks : KeptByMarks inv) {msg npdu}
    (harmless : Harmless inv portId sourceMac msg)
    : Keeps inv (handleMessage portId msg npdu sourceMac) := by
  unfold handleMessage
  cases msg with
  | whoIsRouterToNetwork network => exact keeps_handleWhoIsRouter
  | iAmRouterToNetwork networks => exact keeps_handleIAmRouter harmless
  | rejectMessageToNetwork reason network => exact keeps_handleRejectMessage marks
  | routerBusyToNetwork networks => exact keeps_handleRouterBusy marks
  | routerAvailableToNetwork networks => exact keeps_handleRouterAvailable marks
  | initializeRoutingTable ports => exact keeps_handleInitRoutingTable harmless
  | whatIsNetworkNumber => exact keeps_handleWhatIsNetworkNumber
  | networkNumberIs network configured => exact keeps_handleNetworkNumberIs harmless
  | establishConnectionToNetwork network _ => exact keeps_sendReject
  | disconnectConnectionToNetwork network => exact keeps_sendReject
  | initializeRoutingTableAck _ => exact .pure ()
  | iCouldBeRouterToNetwork _ _ => exact .pure ()

/-- The message that received data carries, if it is one for the router. -/
def messageOf (data : Bytes) : Option NetworkMessage :=
  match decodeNpdu data with
  | .error _ => none
  | .ok npdu =>
    if npdu.isNetworkMessage then
      match npdu.messageType with
      | none => none
      | some messageType => (decodeNetworkMessage messageType npdu.networkMessageData).toOption
    else none

theorem keeps_onPortReceive (marks : KeptByMarks inv) {router : NetworkRouter} {data : Bytes}
    (harmless : ∀ msg, messageOf data = some msg → Harmless inv portId sourceMac msg)
    (holds : inv router.routingTable)
    : inv (router.onPortReceive portId data sourceMac).1.routingTable := by
  unfold onPortReceive
  cases decoded : decodeNpdu data with
  | error raised => exact holds
  | ok npdu =>
    suffices kept : Keeps inv (processNpdu portId npdu sourceMac) from
      kept.final holds
    unfold processNpdu
    split
    · next network =>
        unfold handleNetworkMessage
        cases type : npdu.messageType with
        | none => exact .pure ()
        | some messageType =>
          dsimp only
          cases message : decodeNetworkMessage messageType npdu.networkMessageData with
          | error raised => exact .pure ()
          | ok msg =>
            refine keeps_handleMessage marks (harmless msg ?_)
            simp [messageOf, decoded, network, type, message, Except.toOption]
    · split
      · exact keeps_deliverToApplication
      · exact .bind
          (.when fun _ => keeps_deliverToApplication)
          fun _ => keeps_forward

-- Runs

/-- What happens to a router. -/
inductive Event where
  | receive (portId : Nat) (data sourceMac : Bytes)
  /-- a congestion timer expires -/
  | busyTimeout (network : Nat)

def step (router : NetworkRouter) : Event → Option NetworkRouter
  | .receive portId data sourceMac => some (router.onPortReceive portId data sourceMac).1
  | .busyTimeout network =>
    if router.routingTable.getAllEntries.any fun entry => entry.busyTimeout = some network then
      some { router with routingTable := router.routingTable.markAvailable network }
    else none

/-- No message routes the network of a port anywhere else, or removes its entry. -/
def Spared (router : NetworkRouter) : Event → Prop
  | .receive _ data _ =>
    match messageOf data with
    | some (.iAmRouterToNetwork networks) =>
      ∀ network ∈ networks, ¬ router.routingTable.Attached network
    | some (.initializeRoutingTable ports) =>
      ∀ portEntry ∈ ports, router.routingTable.Attached portEntry.network →
        portEntry.portId ≠ 0
          ∧ ((router.routingTable.getPort portEntry.portId).isSome
            → router.routingTable.AttachedOnlyTo portEntry.network portEntry.portId)
    | _ => True
  | .busyTimeout _ => True

/-- The table of a new router is sound, and direct, by induction on its ports. -/
theorem create_sound {ports applicationPortId hasApplication router}
    (created : create ports applicationPortId hasApplication = .ok router)
    : router.routingTable.Sound ∧ router.routingTable.Direct := by
  obtain ⟨routingTable, added, same⟩ := bind_eq_ok.mp created
  rw [← Except.ok.inj same]
  have all : ∀ (ports : List RouterPort) (start final : RoutingTable), start.Sound → start.Direct
      → ports.foldlM RoutingTable.addPort start = .ok final → final.Sound ∧ final.Direct := by
    intro ports
    induction ports with
    | nil =>
      intro start final sound direct added
      exact Except.ok.inj added ▸ ⟨sound, direct⟩
    | cons port rest ih =>
      intro start final sound direct added
      rw [List.foldlM_cons] at added
      obtain ⟨next, first, later⟩ := bind_eq_ok.mp added
      exact ih next final (sound.addPort first) (direct.addPort first) later
  refine all ports {} routingTable ⟨?_, ?_⟩ ?_ added
  · intro network entry found
    cases found
  · intro network entry found
    cases found
  · intro portId port there
    cases there

theorem sound_step {router next : NetworkRouter} {event : Event}
    (sound : router.routingTable.Sound) (moved : step router event = some next)
    : next.routingTable.Sound := by
  cases event with
  | receive portId data sourceMac =>
    rw [← Option.some.inj moved]
    refine keeps_onPortReceive (fun _ _ _ _ holds => holds.mark ..) ?_ sound
    intro msg _
    cases msg with
    | iAmRouterToNetwork networks =>
      exact fun _ _ _ _ holds updated => holds.updateRoute updated
    | initializeRoutingTable ports =>
      intro portEntry _ table holds
      split
      · exact holds.removeEntry _
      · exact fun _ updated => holds.updateRoute updated
    | networkNumberIs network configured =>
      exact fun _ _ holds updated => holds.updatePortNetworkNumber updated
    | _ => trivial
  | busyTimeout network =>
    rw [step] at moved
    split at moved
    · rw [← Option.some.inj moved]
      exact sound.mark ..
    · cases moved

def DirectOver (ports : OrderedDict Nat RouterPort) (table : RoutingTable) : Prop :=
  table.Direct ∧ table.ports = ports

theorem ports_updateRoute {table after : RoutingTable} {dnet portId : Nat}
    {nextRouterMac : Option Bytes} (updated : table.updateRoute dnet portId nextRouterMac = .ok after)
    : after.ports = table.ports := by
  obtain ⟨_, rfl | ⟨entry, rfl, _⟩⟩ := RoutingTable.updateRoute_cases updated
  · rfl
  · rfl

/-- Every step that spares the networks of the ports keeps their entries direct. -/
theorem direct_step {router next : NetworkRouter} {event : Event}
    (direct : router.routingTable.Direct) (spared : Spared router event)
    (moved : step router event = some next)
    : next.routingTable.Direct := by
  cases event with
  | busyTimeout network =>
    rw [step] at moved
    split at moved
    · rw [← Option.some.inj moved]
      exact direct.mark _ _ _
    · cases moved
  | receive portId data sourceMac =>
    rw [← Option.some.inj moved]
    rw [Spared] at spared
    by_cases number : ∃ network configured,
        messageOf data = some (.networkNumberIs network configured)
    · obtain ⟨network, configured, message⟩ := number
      have marks : KeptByMarks RoutingTable.Direct := fun _ _ _ _ holds => holds.mark _ _ _
      refine keeps_onPortReceive marks ?_ direct
      intro msg same
      cases message.symm.trans same
      exact fun _ _ holds updated => holds.updatePortNetworkNumber updated
    · suffices kept : DirectOver router.routingTable.ports
          (router.onPortReceive portId data sourceMac).1.routingTable from kept.1
      refine keeps_onPortReceive ?_ ?_ ⟨direct, rfl⟩
      · intro table dnet reachability busyTimeout holds
        exact ⟨holds.1.mark _ _ _, (RoutingTable.ports_mark ..).trans holds.2⟩
      · intro msg message
        rw [message] at spared
        cases msg with
        | networkNumberIs network configured =>
          exact absurd ⟨network, configured, message⟩ number
        | iAmRouterToNetwork networks =>
          intro dnet member table after holds updated
          refine ⟨holds.1.updateRoute updated ?_, (ports_updateRoute updated).trans holds.2⟩
          intro attached
          unfold RoutingTable.Attached at attached
          rw [holds.2] at attached
          exact absurd attached (spared dnet member)
        | initializeRoutingTable ports =>
          intro portEntry member table holds
          have allowed := spared portEntry member
          split
          · next removed =>
              refine ⟨holds.1.removeEntry ?_, holds.2⟩
              intro attached
              unfold RoutingTable.Attached at attached
              rw [holds.2] at attached
              exact (allowed attached).1 removed
          · intro after updated
            refine ⟨holds.1.updateRoute updated ?_, (ports_updateRoute updated).trans holds.2⟩
            intro attached
            unfold RoutingTable.Attached at attached
            have known := (RoutingTable.updateRoute_cases updated).1
            rw [holds.2] at attached known
            have only := (allowed attached).2 known
            unfold RoutingTable.AttachedOnlyTo at only ⊢
            rw [holds.2]
            exact ⟨rfl, only⟩
        | _ => trivial

/-- In every run of a router all entries are stored under their own numbers and lead to ports. In
every run that spares the networks of the ports, these have direct entries on their very ports.
-/
theorem routingTable_run {ports : List RouterPort} {applicationPortId : Option Nat}
    {hasApplication : Bool} {router : NetworkRouter} {events : List Event}
    (created : create ports applicationPortId hasApplication = .ok router)
    : Always step (fun router => router.routingTable.Sound) router events
      ∧ (Meets step Spared router events
        → Always step (fun router => router.routingTable.Sound ∧ router.routingTable.Direct) router
          events) := by
  obtain ⟨sound, direct⟩ := create_sound created
  constructor
  · exact always_of_keeps sound_step (fun holds => holds) sound
  · intro meets
    exact always_of_meets
      (fun holds allowed moved => ⟨sound_step holds.1 moved, direct_step holds.2 allowed moved⟩)
      (fun holds => holds) ⟨sound, direct⟩ meets

/-- A router between two networks, on port 1 and on port 2. -/
def betweenTwo : NetworkRouter :=
  { routingTable := {
      ports := { entries := [
        (1, { portId := 1, networkNumber := 1, macAddress := [10] }),
        (2, { portId := 2, networkNumber := 2, macAddress := [20] })], distinct := by decide }
      entries := { entries := [
        (1, { networkNumber := 1, portId := 1 }),
        (2, { networkNumber := 2, portId := 2 })], distinct := by decide } } }

theorem create_betweenTwo
    : create [{ portId := 1, networkNumber := 1, macAddress := [10] },
        { portId := 2, networkNumber := 2, macAddress := [20] }]
      = .ok betweenTwo :=
  rfl

/-- The route to a network that is not the network of a port leaves both entries direct. -/
theorem routingTable_run_betweenTwo
    : let events := [Event.receive 2 [0x01, 0x80, 0x01, 0x00, 0x07] [21], .busyTimeout 7]
      Always step (fun router => router.routingTable.Sound ∧ router.routingTable.Direct)
        betweenTwo events := by
  refine (routingTable_run create_betweenTwo).2 ?_
  intro afterRoute routed
  refine ⟨?_, ?_⟩
  · intro network member
    obtain rfl : network = 7 := List.mem_singleton.mp member
    rintro ⟨portId, port, there, number⟩
    have listed : (portId, port) ∈ betweenTwo.routingTable.ports.entries :=
      OrderedDict.mem_entries.mpr there
    rcases List.mem_cons.mp listed with first | others
    · cases first; cases number
    · cases List.mem_singleton.mp others; cases number
  · intro afterTimeout expired
    exact ⟨trivial, trivial⟩

/-- An I-Am-Router-To-Network from port 2 takes network 1 away from port 1. -/
theorem not_direct_hijacked
    : ∃ ports events router after, create ports = .ok router
        ∧ run step router events = some after ∧ ¬ after.routingTable.Direct := by
  refine ⟨_, [.receive 2 [0x01, 0x80, 0x01, 0x00, 0x01] [21]], _, _, create_betweenTwo, rfl, ?_⟩
  intro direct
  obtain ⟨entry, found, _, onPort⟩ := direct 1 _ rfl
  cases found
  cases onPort

end NetworkRouter

end BacPy
