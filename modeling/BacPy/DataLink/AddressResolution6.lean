import BacPy.DataLink.SourceVmacs

/-! Address resolution of BACnet/IPv6 at one port: what a port sends and remembers when it is asked for
a VMAC, when it is answered, and while an NPDU waits for the address of its destination.
-/

namespace BacPy

open Library

-- Messages

def resolutionMessage (source target : Bytes) : Bvll6Message where
  function := .addressResolution
  data := target
  sourceVmac := some source

/-- What a BBMD makes of it. -/
def forwardedResolution (source target : Bytes) (origin : BIP6Address) : Bvll6Message where
  function := .forwardedAddressResolution
  data := target
  sourceVmac := some source
  originatingAddress := some origin

/-- The answer of the node with the VMAC. -/
def resolutionAck (target source : Bytes) : Bvll6Message where
  function := .addressResolutionAck
  data := []
  sourceVmac := some target
  destVmac := some source

def unicastMessage (npdu source target : Bytes) : Bvll6Message where
  function := .originalUnicastNpdu
  data := npdu
  sourceVmac := some source
  destVmac := some target

variable {source target npdu data : Bytes} {origin addr : BIP6Address}

theorem encodeVmac_ok {vmac} (three : vmac.length = 3) (text : String)
    : encodeVmac true (some vmac) text = .ok vmac :=
  encodeVmac_ok_iff.mpr ⟨three, rfl⟩

theorem exists_forwardedResolution (threeSource : source.length = 3)
    (threeTarget : target.length = 3) (origin : BIP6Address)
    : ∃ data,
        encodeBvll6 .forwardedAddressResolution target (some source) none (some origin) = .ok data
        ∧ decodeBvll6 data = .ok (forwardedResolution source target origin) := by
  have encodes : ∃ data, encodeBvll6 .forwardedAddressResolution target (some source) none
      (some origin) = .ok data := by
    have small : packLength (4 + (source ++ ([] ++ (origin.encode ++ target))).length)
        = .ok (toBytes (4 + (source ++ ([] ++ (origin.encode ++ target))).length) 2) := by
      refine packLength_ok ?_
      simp only [List.length_append, List.length_nil, BIP6Address.length_encode]
      omega
    exact ⟨_, bind_eq_ok.mpr ⟨source, encodeVmac_ok threeSource _, bind_eq_ok.mpr ⟨[], rfl,
      bind_eq_ok.mpr ⟨origin.encode, rfl, bind_eq_ok.mpr ⟨_, small, rfl⟩⟩⟩⟩⟩
  obtain ⟨data, encoded⟩ := encodes
  exact ⟨data, encoded, decodeBvll6_encoded encoded⟩

theorem exists_resolutionAck (threeSource : source.length = 3) (threeTarget : target.length = 3)
    : ∃ data, encodeBvll6 .addressResolutionAck [] (some target) (some source) = .ok data
        ∧ decodeBvll6 data = .ok (resolutionAck target source) := by
  have encodes : ∃ data,
      encodeBvll6 .addressResolutionAck [] (some target) (some source) = .ok data := by
    have small : packLength (4 + (target ++ (source ++ ([] ++ []))).length)
        = .ok (toBytes (4 + (target ++ (source ++ ([] ++ []))).length) 2) := by
      refine packLength_ok ?_
      simp only [List.length_append, List.length_nil]
      omega
    exact ⟨_, bind_eq_ok.mpr ⟨target, encodeVmac_ok threeTarget _, bind_eq_ok.mpr ⟨source,
      encodeVmac_ok threeSource _, bind_eq_ok.mpr ⟨[], rfl, bind_eq_ok.mpr ⟨_, small, rfl⟩⟩⟩⟩⟩
  obtain ⟨data, encoded⟩ := encodes
  exact ⟨data, encoded, decodeBvll6_encoded encoded⟩

theorem exists_unicastMessage (threeSource : source.length = 3) (threeTarget : target.length = 3)
    (small : npdu.length ≤ 65525)
    : ∃ data, encodeBvll6 .originalUnicastNpdu npdu (some source) (some target) = .ok data
        ∧ decodeBvll6 data = .ok (unicastMessage npdu source target) := by
  have encodes : ∃ data,
      encodeBvll6 .originalUnicastNpdu npdu (some source) (some target) = .ok data := by
    have fits : packLength (4 + (source ++ (target ++ ([] ++ npdu))).length)
        = .ok (toBytes (4 + (source ++ (target ++ ([] ++ npdu))).length) 2) := by
      refine packLength_ok ?_
      simp only [List.length_append, List.length_nil]
      omega
    exact ⟨_, bind_eq_ok.mpr ⟨source, encodeVmac_ok threeSource _, bind_eq_ok.mpr ⟨target,
      encodeVmac_ok threeTarget _, bind_eq_ok.mpr ⟨[], rfl, bind_eq_ok.mpr ⟨_, fits, rfl⟩⟩⟩⟩⟩
  obtain ⟨data, encoded⟩ := encodes
  exact ⟨data, encoded, decodeBvll6_encoded encoded⟩

/-- The NPDU of a message from one VMAC to another. -/
def unicastNpdu (source target data : Bytes) : Option Bytes :=
  match decodeBvll6 data with
  | .error _ => none
  | .ok msg =>
    if msg.function = .originalUnicastNpdu ∧ msg.sourceVmac = some source
      ∧ msg.destVmac = some target then some msg.data
    else none

/-- A lookup that finds nothing leaves nothing, a stale entry included. -/
theorem VMACCache.get_unresolved {cache : VMACCache} {now : Rat} {vmac : Bytes}
    (missing : (cache.get now vmac).1 = none)
    : (cache.get now vmac).2.entries.get vmac = none := by
  unfold get at missing ⊢
  cases there : cache.entries.get vmac with
  | none => exact there
  | some entry =>
    rw [there] at missing
    dsimp only at missing ⊢
    split at missing
    · next stale =>
        rw [if_pos stale]
        exact OrderedDict.get_pop_self
    · cases missing

-- Ports

namespace BIP6Transport

variable {port next : BIP6Transport} {now : Rat} {msg : Bvll6Message} {vmac : Bytes}

/-- A port with the addresses and the BBMD of another one. -/
structure Kept (port next : BIP6Transport) : Prop where
  localAddress : next.localAddress = port.localAddress
  vmac : next.vmac = port.vmac
  group : next.multicastGroup = port.multicastGroup
  bbmd : next.bbmd = port.bbmd

theorem Kept.refl (port : BIP6Transport) : Kept port port := ⟨rfl, rfl, rfl, rfl⟩

theorem Kept.trans {last} (first : Kept port next) (second : Kept next last)
    : Kept port last :=
  ⟨second.localAddress.trans first.localAddress, second.vmac.trans first.vmac,
    second.group.trans first.group, second.bbmd.trans first.bbmd⟩

theorem Kept.remember (port : BIP6Transport) (now : Rat) (vmac : Bytes) (address : BIP6Address)
    : Kept port (port.remember now vmac address) :=
  ⟨rfl, rfl, rfl, rfl⟩

def resolved (port : BIP6Transport) (vmac : Bytes) : Option BIP6Address :=
  (port.vmacCache.entries.get vmac).map VMACEntry.address

/-- What has just been remembered is there, whatever had to make room. -/
theorem resolved_remember (port : BIP6Transport) (now : Rat) (vmac : Bytes) (address : BIP6Address)
    : (port.remember now vmac address).resolved vmac = some address := by
  simp [resolved, remember, VMACCache.put]

theorem source_of_three (msg : Bvll6Message) (three : vmac.length = 3)
    (same : msg.sourceVmac = some vmac)
    : msg.source = some vmac := by
  have some_ : vmac ≠ [] := fun empty => by rw [empty] at three; cases three
  simp [Bvll6Message.source, same, some_]

-- Requests

/-- An echo is dropped. -/
theorem received_own (decoded : decodeBvll6 data = .ok msg) (own : msg.source = some port.vmac)
    : port.onDatagramReceived now data addr = (port, []) := by
  unfold onDatagramReceived
  rw [decoded]
  dsimp only
  rw [if_pos own]

/-- A message of another node takes the normal path, if the port has no BBMD. -/
theorem received_ordinary (decoded : decodeBvll6 data = .ok msg) (named : msg.source = some vmac)
    (other : vmac ≠ port.vmac) (ordinary : port.bbmd = none)
    : port.onDatagramReceived now data addr
      = (port.remember now vmac addr).receiveMessage now msg addr := by
  unfold onDatagramReceived
  rw [decoded]
  dsimp only
  rw [named, if_neg (fun same => other (Option.some.inj same)), Option.map_some, Option.getD_some]
  have still : (port.remember now vmac addr).bbmd = none := ordinary
  rw [still]

/-- If it has one, the BBMD looks at it first. -/
theorem received_bbmd {manager} (decoded : decodeBvll6 data = .ok msg)
    (named : msg.source = some vmac) (other : vmac ≠ port.vmac)
    (attached : port.bbmd = some manager)
    : port.onDatagramReceived now data addr
      = (port.remember now vmac addr).receiveWithBbmd manager now msg addr := by
  unfold onDatagramReceived
  rw [decoded]
  dsimp only
  rw [named, if_neg (fun same => other (Option.some.inj same)), Option.map_some, Option.getD_some]
  have still : (port.remember now vmac addr).bbmd = some manager := attached
  rw [still]

def LeftToPort (function : Bvlc6Function) : Prop :=
  function = .forwardedAddressResolution ∨ function = .addressResolutionAck
    ∨ function = .originalUnicastNpdu

/-- These take the normal path everywhere. -/
theorem received_left (decoded : decodeBvll6 data = .ok msg) (named : msg.source = some vmac)
    (other : vmac ≠ port.vmac) (left : LeftToPort msg.function)
    : port.onDatagramReceived now data addr
      = (port.remember now vmac addr).receiveMessage now msg addr := by
  cases attached : port.bbmd with
  | none => exact received_ordinary decoded named other attached
  | some manager =>
    rw [received_bbmd decoded named other attached]
    have unhandled : ∀ source vmac,
        manager.handleBvlc now msg.function msg.data source vmac = .ok (manager, [], false) := by
      intro source vmac
      rcases left with same | same | same <;> rw [same] <;> rfl
    have notForwarded : msg.function ≠ .forwardedNpdu := by
      rcases left with same | same | same <;> rw [same] <;> nofun
    have same : { port.remember now vmac addr with bbmd := some manager }
        = port.remember now vmac addr := by
      rw [← attached]
      rfl
    simp only [receiveWithBbmd, unhandled, notForwarded, Bool.false_eq_true, false_or, if_false,
      List.flatMap_nil, List.nil_append, same]

/-- What a port leaves and sends when it is asked for a VMAC: it has the address of the sender, and
answers if the VMAC is its own.
-/
structure Answers (port : BIP6Transport) (source target : Bytes) (sender : BIP6Address)
    (result : BIP6Transport × List Bip6Output) : Prop where
  kept : Kept port result.1
  resolved : result.1.resolved source = some sender
  answered : target = port.vmac
    → ∃ ack, decodeBvll6 ack = .ok (resolutionAck target source) ∧ result.2 = [.sendto ack sender]
  silent : target ≠ port.vmac → result.2 = []

variable {source target npdu : Bytes}

theorem answers_handleAddressResolution (threeSource : source.length = 3)
    (threeTarget : target.length = 3) (port : BIP6Transport) (now : Rat) (addr : BIP6Address)
    : Answers port source target addr (port.handleAddressResolution now source target addr) := by
  have whole : slice target 0 3 = target := by
    rw [slice, List.drop_zero, List.take_of_length_le (by omega)]
  have long : ¬ target.length < 3 := by omega
  obtain ⟨ack, encoded, decoded⟩ := exists_resolutionAck threeSource threeTarget
  unfold handleAddressResolution
  rw [if_neg long, whole]
  refine ⟨Kept.remember port now source addr, resolved_remember port now source addr,
    fun own => ⟨ack, decoded, ?_⟩, fun other => if_neg other⟩
  dsimp only
  rw [if_pos own, ← own, encoded]
  rfl

theorem Answers.remember {result}
    (answers : Answers (port.remember now source addr) source target addr result)
    : Answers port source target addr result :=
  ⟨(Kept.remember port now source addr).trans answers.kept, answers.resolved, answers.answered,
    answers.silent⟩

theorem received_resolution (threeSource : source.length = 3) (threeTarget : target.length = 3)
    (decoded : decodeBvll6 data = .ok (resolutionMessage source target))
    (other : source ≠ port.vmac) (ordinary : port.bbmd = none) (now : Rat) (addr : BIP6Address)
    : Answers port source target addr (port.onDatagramReceived now data addr) := by
  have named := source_of_three (resolutionMessage source target) threeSource rfl
  rw [received_ordinary decoded named other ordinary]
  unfold receiveMessage
  rw [named]
  exact (answers_handleAddressResolution threeSource threeTarget _ now addr).remember

/-- A Forwarded-Address-Resolution is answered everywhere, to the station that has forwarded it. -/
theorem received_forwardedResolution {origin} (threeSource : source.length = 3)
    (threeTarget : target.length = 3)
    (decoded : decodeBvll6 data = .ok (forwardedResolution source target origin))
    (other : source ≠ port.vmac) (now : Rat) (addr : BIP6Address)
    : Answers port source target addr (port.onDatagramReceived now data addr) := by
  have named := source_of_three (forwardedResolution source target origin) threeSource rfl
  rw [received_left decoded named other (.inl rfl)]
  unfold receiveMessage
  rw [named]
  exact (answers_handleAddressResolution threeSource threeTarget _ now addr).remember

/-- A BBMD consumes an Address-Resolution: it is forwarded and not answered, whatever VMAC it is for. -/
theorem received_resolution_bbmd {manager} (threeSource : source.length = 3)
    (threeTarget : target.length = 3)
    (decoded : decodeBvll6 data = .ok (resolutionMessage source target))
    (other : source ≠ port.vmac) (attached : port.bbmd = some manager) (now : Rat)
    (addr : BIP6Address)
    : ∃ frame, decodeBvll6 frame = .ok (forwardedResolution source target addr)
        ∧ Kept port (port.onDatagramReceived now data addr).1
        ∧ (port.onDatagramReceived now data addr).2
          = (manager.peers ++ manager.foreignDevices.filter fun fd => fd ≠ addr).map
              fun dest => .sendto frame dest := by
  have named := source_of_three (resolutionMessage source target) threeSource rfl
  obtain ⟨frame, encoded, reads⟩ := exists_forwardedResolution threeSource threeTarget addr
  have handles : manager.handleBvlc now .addressResolution target addr (some source)
      = .ok (manager, (manager.peers ++ manager.foreignDevices.filter fun fd => fd ≠ addr).map
          fun dest => .send frame dest, true) := by
    change manager.unchanged (manager.handleAddressResolution target addr source) true = _
    unfold BBMD6Manager.handleAddressResolution
    rw [encoded]
    rfl
  have same : { port.remember now source addr with bbmd := some manager }
      = port.remember now source addr := by
    rw [← attached]
    rfl
  have whole : port.onDatagramReceived now data addr
      = (port.remember now source addr,
        (manager.peers ++ manager.foreignDevices.filter fun fd => fd ≠ addr).map
          fun dest => .sendto frame dest) := by
    rw [received_bbmd decoded named other attached, receiveWithBbmd_of_ok handles (.inl rfl), same,
      List.flatMap_map]
    exact congrArg (Prod.mk _) (List.flatMap_pure_eq_map _ _)
  rw [whole]
  exact ⟨frame, reads, Kept.remember port now source addr, rfl⟩

/-- The NPDUs in a queue that have not waited for more than 30 seconds. -/
def fresh (now : Rat) (pending : List PendingResolution) : List PendingResolution :=
  pending.filter fun item => ¬ 30 < now - item.created

/-- Of the queue of a VMAC the NPDUs are sent that are not too old, in their order. -/
theorem sendPending_fresh (threeSource : port.vmac.length = 3) (threeTarget : target.length = 3)
    {pending} (small : ∀ item ∈ pending, item.npdu.length ≤ 65525) (now : Rat) (addr : BIP6Address)
    : ∃ frames : List Bytes, port.sendPending now target addr pending
          = frames.map (fun frame => .sendto frame addr)
        ∧ List.Forall₂ (fun frame item =>
            decodeBvll6 frame = .ok (unicastMessage item.npdu port.vmac target))
          frames (fresh now pending) := by
  induction pending with
  | nil => exact ⟨[], rfl, .nil⟩
  | cons item rest ih =>
    obtain ⟨frames, sent, each⟩ := ih fun other listed =>
      small other (List.mem_cons_of_mem _ listed)
    unfold sendPending fresh
    by_cases old : 30 < now - item.created
    · rw [if_pos old, List.filter_cons_of_neg (by rw [decide_eq_true_iff, not_not]; exact old)]
      exact ⟨frames, sent, each⟩
    · rw [if_neg old, List.filter_cons_of_pos (by rw [decide_eq_true_iff]; exact old)]
      obtain ⟨frame, encoded, decoded⟩ :=
        exists_unicastMessage threeSource threeTarget (small item List.mem_cons_self)
      rw [encoded]
      dsimp only
      rw [sent]
      exact ⟨frame :: frames, rfl, .cons decoded each⟩

/-- Only NPDUs for the VMAC leave a queue. -/
theorem mem_sendPending {pending output}
    (member : output ∈ port.sendPending now target addr pending)
    : ∃ npdu frame, output = .sendto frame addr
        ∧ decodeBvll6 frame = .ok (unicastMessage npdu port.vmac target) := by
  induction pending with
  | nil => cases member
  | cons item rest ih =>
    unfold sendPending at member
    split at member
    · exact ih member
    · split at member
      · cases member
      · next frame encoded =>
          rcases List.mem_cons.mp member with rfl | later
          · exact ⟨item.npdu, frame, rfl, decodeBvll6_encoded encoded⟩
          · exact ih later

/-- What is sent from a queue depends on the VMAC of the port only. -/
theorem sendPending_vmac (same : next.vmac = port.vmac) (pending)
    : next.sendPending now vmac addr pending = port.sendPending now vmac addr pending := by
  induction pending with
  | nil => rfl
  | cons item rest ih =>
    unfold sendPending
    rw [ih, same]

theorem received_ack (threeSource : source.length = 3)
    (decoded : decodeBvll6 data = .ok (resolutionAck source target)) (other : source ≠ port.vmac)
    (now : Rat) (addr : BIP6Address)
    : Kept port (port.onDatagramReceived now data addr).1
      ∧ (port.onDatagramReceived now data addr).1.resolved source = some addr
      ∧ (port.onDatagramReceived now data addr).2
        = port.sendPending now source addr ((port.pendingResolutions.get source).getD []) := by
  have named := source_of_three (resolutionAck source target) threeSource rfl
  rw [received_left decoded named other (.inr (.inl rfl))]
  unfold receiveMessage
  rw [named]
  refine ⟨⟨rfl, rfl, rfl, rfl⟩, ?_, ?_⟩
  · exact resolved_remember (port.remember now source addr) now source addr
  · have same : ((port.remember now source addr).remember now source addr).vmac = port.vmac := rfl
    exact sendPending_vmac same _

/-- What is handed to the application is not sent. -/
theorem sendto_not_mem_deliver {frame} : .sendto frame addr ∉ port.deliver npdu vmac := by
  unfold deliver
  split <;> simp

/-- An NPDU for the port is handed to the application, and only the sender is remembered. -/
theorem received_unicast (threeSource : source.length = 3)
    (decoded : decodeBvll6 data = .ok (unicastMessage npdu source target))
    (other : source ≠ port.vmac)
    : port.onDatagramReceived now data addr
      = (port.remember now source addr, port.deliver npdu source) := by
  have named := source_of_three (unicastMessage npdu source target) threeSource rfl
  rw [received_left decoded named other (.inr (.inr rfl))]
  unfold receiveMessage
  rw [named]
  rfl

-- Waiting for an address

def waitingFor (port : BIP6Transport) (vmac : Bytes) : List PendingResolution :=
  (port.pendingResolutions.get vmac).getD []

/-- A port queues an NPDU for a VMAC that it has no address for, and asks for it. -/
structure Asks (port : BIP6Transport) (npdu target : Bytes) (created : Rat) (next : BIP6Transport)
    (request : Bytes) : Prop where
  unresolved : (port.vmacCache.get created target).1 = none
  queued : port.sendUnicast npdu target created
    = .ok (next, [.sendto request port.multicastGroup])

/-- A port that queues an NPDU and sends something. -/
theorem queue_cases {created output}
    (queued : port.queue npdu target created = .ok (next, [output]))
    : ∃ bvll, encodeBvll6 .addressResolution target (some port.vmac) = .ok bvll
        ∧ output = .sendto bvll port.multicastGroup
        ∧ next = {
            port with
            pendingResolutions := port.pendingResolutions.set target
              (enqueue ((port.pendingResolutions.get target).getD []) npdu created)
          } := by
  unfold queue at queued
  dsimp only at queued
  split at queued
  · cases queued
  · obtain ⟨bvll, encoded, same⟩ := bind_eq_ok.mp queued
    cases same
    exact ⟨bvll, encoded, rfl, rfl⟩

/-- What the requester has done. -/
theorem Asks.spec {request : Bytes} {created : Rat}
    (asks : Asks port npdu target created next request)
    : decodeBvll6 request = .ok (resolutionMessage port.vmac target)
      ∧ Kept port next ∧ next.resolved target = none
      ∧ ⟨npdu, created⟩ ∈ next.waitingFor target := by
  have queued : { port with vmacCache := (port.vmacCache.get created target).2 }.queue npdu target
      created = .ok (next, [.sendto request port.multicastGroup]) := by
    have split : port.vmacCache.get created target
        = (none, (port.vmacCache.get created target).2) := by
      rw [← asks.unresolved]
    have queued := asks.queued
    unfold sendUnicast at queued
    rw [split] at queued
    exact queued
  obtain ⟨bvll, encoded, same, rfl⟩ := queue_cases queued
  cases same
  refine ⟨decodeBvll6_encoded encoded, ⟨rfl, rfl, rfl, rfl⟩, ?_, ?_⟩
  · exact congrArg (Option.map VMACEntry.address) (VMACCache.get_unresolved asks.unresolved)
  · unfold waitingFor
    rw [OrderedDict.get_set_self, Option.getD_some]
    exact List.mem_append_right _ (List.mem_singleton_self _)

end BIP6Transport

end BacPy
