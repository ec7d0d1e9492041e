import BacPy.DataLink.Bip
import BacPy.Library.Runs
import Mathlib.Tactic.Linarith

/-! `ForeignDeviceManager`: its registration loop against the port of a BBMD, on a network that may lose,
delay and repeat datagrams, and how long it takes itself for registered.
-/

namespace BacPy

open Library

/-- A foreign device and its BBMD: their ports, the clock, the datagrams that each has sent to the other,
when the BBMD has acknowledged a registration of the device last, and whether the last thing the manager
has heard, a result or its own `stop`, was a success.
-/
structure RegistrationRun where
  transport : BIPTransport
  device : ForeignDeviceManager
  /-- `_ttl`, from 1 to 65535 -/
  ttl : Nat
  localAddress : Option BIPAddress
  /-- where the datagrams of the device come from -/
  address : BIPAddress
  bbmdPort : BIPTransport
  now : Rat := 0
  /-- when `_registration_loop` goes on, if it is running -/
  wakesAt : Option Rat := none
  sent : List Bytes := []
  answers : List Bytes := []
  lastAck : Option Rat := none
  heard : Bool := false

/-- What happens: time passes, the methods of the manager are called, its loop goes on, the BBMD gets a
datagram of the device or of another station or cleans up its table, or the device gets one of the BBMD.
-/
inductive RegistrationEvent where
  | pass (seconds : Rat)
  | start
  | wake
  | stop
  | broadcast (npdu : Bytes)
  | bbmdReceives (index : Nat)
  | bbmdHears (datagram : Bytes) (source : BIPAddress)
  | purge
  | deviceReceives (datagram : Bytes)

namespace RegistrationRun

/-- `_encode_bvlc_result(BvlcResultCode.SUCCESSFUL_COMPLETION)` -/
def successResult : Bytes := [0x81, 0, 0, 6, 0, 0]

/-- The port of the device, with the manager attached to it. -/
def port (state : RegistrationRun) : BIPTransport :=
  { state.transport with foreignDevice := some state.device }

/-- `self._send(encode_bvll(function, payload), self._bbmd_address)` -/
def send (state : RegistrationRun) (function : BvlcFunction) (payload : Bytes) : RegistrationRun :=
  { state with sent := state.sent ++ (encodeBvll function payload).toOption.toList }

/-- The datagrams among the outputs of a port that go to an address. -/
def datagramsTo (address : BIPAddress) (outputs : List BipOutput) : List Bytes :=
  outputs.filterMap fun output =>
    match output with
    | .sendto data destination => if destination = address then some data else none
    | .receive _ _ => none

/-- `stop`: the loop ends, and a device that is registered takes its entry back. -/
def stopped (state : RegistrationRun) : RegistrationRun :=
  let ended := { state with wakesAt := none, heard := false }
  if state.device.isRegistered then
    let told := match state.localAddress with
      | none => ended
      | some localAddress => ended.send .deleteForeignDeviceTableEntry localAddress.encode
    { told with device := { state.device with isRegistered := false } }
  else ended

def isRegistration (datagram : Bytes) : Bool :=
  (decodeBvll datagram).toOption.map (·.function) = some .registerForeignDevice

/-- The port of the BBMD handles a datagram, and may acknowledge a registration. -/
def bbmdHandles (state : RegistrationRun) (datagram : Bytes) (source : BIPAddress) : RegistrationRun :=
  let (bbmdPort, outputs) := state.bbmdPort.onDatagramReceived state.now datagram source
  let answers := datagramsTo state.address outputs
  { state with
    bbmdPort
    answers := state.answers ++ answers
    lastAck := if source = state.address ∧ isRegistration datagram ∧ successResult ∈ answers then
      some state.now else state.lastAck }

/-- Whether a datagram is a result, and a success. -/
def verdict (datagram : Bytes) : Option Bool :=
  match decodeBvll datagram with
  | .error _ => none
  | .ok msg =>
    if msg.function = .bvlcResult ∧ 2 ≤ msg.data.length then
      isSuccess (fromBytes (slice msg.data 0 2))
    else none

/-- A datagram of the BBMD reaches the manager if it is a result. -/
def receive (device : ForeignDeviceManager) (datagram : Bytes) : ForeignDeviceManager :=
  match decodeBvll datagram with
  | .error _ => device
  | .ok msg => if msg.function = .bvlcResult then device.handleBvlcResult msg.data else device

def step (state : RegistrationRun) : RegistrationEvent → Option RegistrationRun
  | .pass seconds => if 0 ≤ seconds then some { state with now := state.now + seconds } else none
  | .start => some { state with wakesAt := some (state.wakesAt.getD state.now) }
  | .wake =>
    match state.wakesAt with
    | none => none
    | some due =>
      if due ≤ state.now then
        some { state.send .registerForeignDevice (toBytes state.ttl 2) with
          wakesAt := some (state.now + state.ttl / 2) }
      else none
  | .stop => some state.stopped
  | .broadcast npdu =>
    some { state with
      sent := state.sent
        ++ datagramsTo state.device.bbmdAddress (state.port.sendBroadcast npdu state.now).1 }
  | .bbmdReceives index => (state.sent[index]?).map fun datagram => state.bbmdHandles datagram state.address
  | .bbmdHears datagram source =>
    if source = state.address then none else some (state.bbmdHandles datagram source)
  | .purge =>
    some { state with
      bbmdPort := { state.bbmdPort with
        bbmd := state.bbmdPort.bbmd.map fun bbmd => bbmd.purgeExpiredFdtEntries state.now } }
  | .deviceReceives datagram =>
    if datagram ∈ state.answers then
      some { state with
        device := receive state.device datagram, heard := (verdict datagram).getD state.heard }
    else none

/-- The BBMD has acknowledged a registration within the time it keeps the entry. -/
def Acknowledged (state : RegistrationRun) (seconds : Rat := 0) : Prop :=
  ∃ ack ∈ state.lastAck, state.now + seconds ≤ ack + state.ttl + 30

/-- The device is registered, and hands its broadcasts to the BBMD, only within that time. -/
structure Current (state : RegistrationRun) : Prop where
  registered : state.device.isRegistered = true → state.Acknowledged
  broadcasts : ∀ npdu bvll, encodeBvll .distributeBroadcastToNetwork npdu = .ok bvll →
    state.port.sendBroadcast npdu state.now = ([.sendto bvll state.device.bbmdAddress], none) →
      state.Acknowledged

/-- The time runs out only when a failure or `stop` has come after the last success, and a success does
not come later.
-/
def InTime (state : RegistrationRun) : RegistrationEvent → Prop
  | .pass seconds => state.heard = true → state.Acknowledged seconds
  | .deviceReceives datagram => verdict datagram = some true → state.Acknowledged
  | _ => True

variable {state : RegistrationRun}

/-- A result sets or clears the flag, whatever it is the result of. -/
theorem receive_isRegistered (device) (datagram : Bytes)
    : (receive device datagram).isRegistered = (verdict datagram).getD device.isRegistered := by
  unfold receive verdict
  cases decodeBvll datagram with
  | error raised => rfl
  | ok msg =>
    by_cases result : msg.function = .bvlcResult
    · by_cases whole : 2 ≤ msg.data.length
      · simp only [result, if_true, ForeignDeviceManager.handleBvlcResult, if_neg (Nat.not_lt.mpr whole),
          whole, and_self]
        cases isSuccess (fromBytes (slice msg.data 0 2)) <;> rfl
      · simp [result, ForeignDeviceManager.handleBvlcResult, Nat.lt_of_not_le whole, whole]
    · simp [result]

/-- Only a registered device hands a broadcast to the BBMD: what others broadcast is not the same
message.
-/
theorem isRegistered_of_handed {npdu bvll}
    (encoded : encodeBvll .distributeBroadcastToNetwork npdu = .ok bvll)
    (handed : state.port.sendBroadcast npdu state.now = ([.sendto bvll state.device.bbmdAddress], none))
    : state.device.isRegistered = true := by
  by_contra refused
  have unregistered : state.port.foreignDevice.filter ForeignDeviceManager.isRegistered = none := by
    simpa [port] using refused
  simp only [BIPTransport.sendBroadcast, unregistered] at handed
  cases original : encodeBvll .originalBroadcastNpdu npdu with
  | error raised =>
    rw [original] at handed
    cases handed
  | ok local' =>
    rw [original] at handed
    cases own : state.port.forwardOwnBroadcast npdu state.now with
    | error raised =>
      rw [own] at handed
      cases congrArg Prod.snd handed
    | ok forwarded =>
      rw [own] at handed
      obtain ⟨same, _⟩ := Prod.mk.inj handed
      have member : BipOutput.sendto local'
          { host := state.port.broadcastAddress, port := state.port.port }
          ∈ [BipOutput.sendto bvll state.device.bbmdAddress] := by
        rw [← same]
        simp
      obtain ⟨rfl, _⟩ := BipOutput.sendto.inj (List.mem_singleton.mp member)
      have first := decodeBvll_other (by decide) encoded
      have second := decodeBvll_other (by decide) original
      cases first.symm.trans second

theorem current_iff : state.Current ↔ (state.device.isRegistered = true → state.Acknowledged) := by
  refine ⟨Current.registered, fun registered => ⟨registered, ?_⟩⟩
  intro npdu bvll encoded handed
  exact registered (isRegistered_of_handed encoded handed)

/-- The flag says what the manager has heard last, and only as long as an acknowledgement counts. -/
structure Informed (state : RegistrationRun) : Prop where
  agrees : state.device.isRegistered = state.heard
  current : state.heard = true → state.Acknowledged

/-- An acknowledgement that comes now counts now. -/
theorem acknowledged_bbmdHandles (datagram : Bytes) (source : BIPAddress) (acknowledged : state.Acknowledged)
    : (state.bbmdHandles datagram source).Acknowledged := by
  unfold bbmdHandles Acknowledged
  dsimp only
  split
  · refine ⟨state.now, rfl, ?_⟩
    have : (0 : Rat) ≤ state.ttl := by exact_mod_cast Nat.zero_le _
    linarith
  · exact acknowledged

theorem informed_bbmdHandles (informed : state.Informed) (datagram : Bytes) (source : BIPAddress)
    : (state.bbmdHandles datagram source).Informed :=
  ⟨informed.agrees, fun heard => acknowledged_bbmdHandles datagram source (informed.current heard)⟩

theorem acknowledged_pass {seconds}
    : Acknowledged { state with now := state.now + seconds } ↔ state.Acknowledged seconds := by
  simp [Acknowledged]

/-- A step in time keeps the invariant, by cases on what happens. -/
theorem Informed.step {event next} (informed : state.Informed) (inTime : state.InTime event)
    (stepped : state.step event = some next)
    : next.Informed := by
  cases event with
  | pass seconds =>
    obtain ⟨_, ⟨⟩⟩ := Option.ite_none_right_eq_some.mp stepped
    exact ⟨informed.agrees, fun heard => acknowledged_pass.mpr (inTime heard)⟩
  | start | broadcast npdu | purge =>
    cases stepped
    exact ⟨informed.agrees, informed.current⟩
  | wake =>
    cases due : state.wakesAt with
    | none => simp [RegistrationRun.step, due] at stepped
    | some time =>
      simp only [RegistrationRun.step, due] at stepped
      obtain ⟨_, ⟨⟩⟩ := Option.ite_none_right_eq_some.mp stepped
      exact ⟨informed.agrees, informed.current⟩
  | stop =>
    cases stepped
    unfold stopped
    dsimp only
    by_cases registered : state.device.isRegistered = true
    · rw [if_pos registered]
      cases state.localAddress <;> exact ⟨rfl, by rintro ⟨⟩⟩
    · rw [if_neg registered]
      exact ⟨Bool.eq_false_of_not_eq_true registered, by rintro ⟨⟩⟩
  | bbmdReceives index =>
    obtain ⟨datagram, _, rfl⟩ := Option.map_eq_some_iff.mp stepped
    exact informed_bbmdHandles informed datagram state.address
  | bbmdHears datagram source =>
    obtain ⟨_, ⟨⟩⟩ := Option.ite_none_left_eq_some.mp stepped
    exact informed_bbmdHandles informed datagram source
  | deviceReceives datagram =>
    obtain ⟨_, ⟨⟩⟩ := Option.ite_none_right_eq_some.mp stepped
    refine ⟨?_, fun heard => ?_⟩
    · exact (receive_isRegistered _ _).trans (congrArg _ informed.agrees)
    · cases success : verdict datagram with
      | none => exact informed.current (by simpa [success] using heard)
      | some good =>
        cases good with
        | false => simp [success] at heard
        | true => exact inTime success

/-- Any other step leaves a device that takes itself for registered too long. -/
theorem Informed.not_current {event next} (informed : state.Informed) (late : ¬ state.InTime event)
    (stepped : state.step event = some next)
    : ¬ next.Current := by
  intro current
  cases event with
  | pass seconds =>
    obtain ⟨_, ⟨⟩⟩ := Option.ite_none_right_eq_some.mp stepped
    refine late fun heard => acknowledged_pass.mp (current.registered ?_)
    exact informed.agrees.trans heard
  | deviceReceives datagram =>
    obtain ⟨_, ⟨⟩⟩ := Option.ite_none_right_eq_some.mp stepped
    refine late fun success => current.registered ?_
    rw [receive_isRegistered, success]
    rfl
  | start | wake | stop | broadcast npdu | bbmdReceives index | bbmdHears datagram source | purge =>
    exact late trivial

/-- A device that has not been started yet, with the time to live and the address it may tell, and a
BBMD.
-/
def start (transport bbmdPort : BIPTransport) (bbmdAddress address : BIPAddress)
    (localAddress : Option BIPAddress) (ttl : Nat)
    : RegistrationRun where
  transport
  device := { bbmdAddress }
  ttl
  localAddress
  address
  bbmdPort

/-- The flag is true only as long as an acknowledgement counts if and only if, whenever that time runs
out, a failure or `stop` has come after the last success.
-/
theorem always_current_iff (transport bbmdPort : BIPTransport) (bbmdAddress address : BIPAddress)
    (localAddress : Option BIPAddress) (ttl : Nat) (events : List RegistrationEvent)
    : Always step Current (start transport bbmdPort bbmdAddress address localAddress ttl) events
      ↔ Meets step InTime (start transport bbmdPort bbmdAddress address localAddress ttl) events := by
  have keeps {state : RegistrationRun} {event : RegistrationEvent} {next : RegistrationRun}
      (informed : state.Informed) (inTime : state.InTime event) (stepped : state.step event = some next)
      : next.Informed :=
    informed.step inTime stepped
  have shows {state : RegistrationRun} (informed : state.Informed) : state.Current :=
    current_iff.mpr fun registered => informed.current (informed.agrees ▸ registered)
  exact always_iff_meets keeps shows (fun informed late stepped => informed.not_current late stepped)
    ⟨rfl, by rintro ⟨⟩⟩

/-- The port of a device on one network, and that of a BBMD on another one. -/
def devicePort : BIPTransport :=
  { localAddress := { host := 0x0A000005, port := 47808 }, port := 47808, broadcastAddress := 0x0A0000FF }

def silentPort : BIPTransport :=
  { localAddress := { host := 0xC0A80101, port := 47808 }, port := 47808, broadcastAddress := 0xC0A801FF
    bbmd := some { localAddress := { host := 0xC0A80101, port := 47808 } } }

/-- The BBMD acknowledges the first registration and falls silent: after 91 seconds a device with a time
to live of 60 seconds is still registered.
-/
theorem silent_bbmd_keeps_registered
    : ¬ ∀ (transport bbmdPort : BIPTransport) (bbmdAddress address : BIPAddress)
        (localAddress : Option BIPAddress) (ttl : Nat) (events : List RegistrationEvent),
          Always step Current (start transport bbmdPort bbmdAddress address localAddress ttl) events := by
  intro always
  have run := always devicePort silentPort silentPort.localAddress devicePort.localAddress none 60
    [.start, .wake, .bbmdReceives 0, .deviceReceives successResult, .pass 91]
  have last := ((((run.2 _ rfl).2 _ rfl).2 _ rfl).2 _ rfl).2 _ rfl
  obtain ⟨ack, acked, early⟩ := last.registered rfl
  cases acked
  have counted : (0 : Rat) + 91 + 0 ≤ 0 + (60 : Nat) + 30 := early
  norm_num at counted

end RegistrationRun

end BacPy
