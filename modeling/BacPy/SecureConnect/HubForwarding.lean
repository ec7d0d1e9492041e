import BacPy.SecureConnect.PathAgreement

/-! Whom the hub forwards a message to, and what of it (Annex AB.5.3). -/

namespace BacPy.SCHubFunction

open Library

variable {writes : Nat → Except ScException Unit} {hub : SCHubFunction}

-- Delivery

/-- One write to a WebSocket; what it raises is caught and logged. -/
def write (writes : Nat → Except ScException Unit) (frame : Nat × Bytes) : List (Nat × Bytes) :=
  match writes frame.1 with
  | .ok () => [frame]
  | .error _ => []

/-- The writes of `_unicast` and `_broadcast`: one that is drained at once, or several before all of
them are drained.
-/
def deliver (writes : Nat → Except ScException Unit) : List (Nat × Bytes) → List (Nat × Bytes)
  | [] => []
  | [frame] => write writes frame
  | frames => frames.flatMap (write writes)

/-- The frames that go out for a message of a connected node, where the WebSockets take what is written
to them or raise.
-/
def forwards (hub : SCHubFunction) (writes : Nat → Except ScException Unit) (source : SCConnection)
    (msg : SCMessage) (raw : Bytes)
    : List (Nat × Bytes) :=
  deliver writes (hub.onNodeMessage source msg raw)

/-- A write that fails costs its own frame and no other. -/
theorem deliver_eq_filter (frames)
    : deliver writes frames = frames.filter fun frame => (writes frame.1).isOk := by
  have each (frames : List (Nat × Bytes))
      : frames.flatMap (write writes) = frames.filter fun frame => (writes frame.1).isOk := by
    induction frames with
    | nil => rfl
    | cons frame rest ih =>
      rw [List.flatMap_cons, ih, List.filter_cons, write]
      cases writes frame.1 <;> rfl
  match frames with
  | [] => rfl
  | [frame] => exact (List.flatMap_singleton (write writes) frame).symm.trans (each [frame])
  | _ :: _ :: _ => exact each _

-- Targets

/-- The node with a VMAC is connected, and its WebSocket takes what is written to it. -/
structure Reaches (hub : SCHubFunction) (writes : Nat → Except ScException Unit) (vmac : SCVMAC)
    (id : Nat) : Prop where
  registered : hub.connections.get vmac = some id
  connected : hub.canSend id = true
  written : writes id = .ok ()

theorem isOk_iff {outcome : Except ScException Unit} : outcome.isOk = true ↔ outcome = .ok () := by
  cases outcome with
  | error _ => exact iff_of_false nofun nofun
  | ok => exact iff_of_true rfl rfl

/-- Connections that are registered for different VMACs are different. -/
theorem PeersRegistered.same_vmac (peers : hub.PeersRegistered) {vmac other id}
    (found : hub.connections.get vmac = some id) (found' : hub.connections.get other = some id)
    : vmac = other := by
  obtain ⟨client, there, peer, _⟩ := peers vmac id found
  obtain ⟨client', there', peer', _⟩ := peers other id found'
  cases there.symm.trans there'
  exact Option.some.inj (peer.symm.trans peer')

/-- A unicast goes to the node with its destination, if to any. -/
theorem mem_deliver_unicast {msg : SCMessage} {dest : SCVMAC} (destination : msg.destination = some dest)
    (octets : Bytes) (frame : Nat × Bytes)
    : frame ∈ deliver writes (hub.unicast msg (some octets))
      ↔ frame.2 = octets ∧ hub.Reaches writes dest frame.1 := by
  rw [deliver_eq_filter, List.mem_filter, isOk_iff, unicast, destination, Option.bind_some]
  constructor
  · rintro ⟨sent, written⟩
    split at sent
    · cases sent
    · next id registered =>
        split at sent
        · next connected =>
            obtain rfl := List.mem_singleton.mp sent
            exact ⟨rfl, registered, connected, written⟩
        · cases sent
  · rintro ⟨rfl, registered, connected, written⟩
    refine ⟨?_, written⟩
    rw [registered]
    dsimp only
    rw [if_pos connected]
    exact List.mem_singleton_self _

theorem length_unicast (msg : SCMessage) (octets : Bytes)
    : (hub.unicast msg (some octets)).length ≤ 1 := by
  unfold unicast
  split
  · exact Nat.zero_le 1
  · split
    · exact Nat.le_refl 1
    · exact Nat.zero_le 1

def targets (hub : SCHubFunction) (exclude : SCVMAC) : List (SCVMAC × Nat) :=
  hub.connections.entries.filter fun entry => entry.1 ≠ exclude ∧ hub.canSend entry.2

theorem broadcast_eq (msg : SCMessage) (exclude : SCVMAC) (octets : Bytes)
    : hub.broadcast msg exclude (some octets)
      = .ok ((hub.targets exclude).map fun entry => (entry.2, octets)) :=
  rfl

/-- A broadcast goes to all nodes but the excluded one. -/
theorem mem_deliver_broadcast {exclude : SCVMAC} {octets : Bytes} {frame : Nat × Bytes}
    : frame ∈ deliver writes ((hub.targets exclude).map fun entry => (entry.2, octets))
      ↔ frame.2 = octets ∧ ∃ vmac, vmac ≠ exclude ∧ hub.Reaches writes vmac frame.1 := by
  rw [deliver_eq_filter, List.mem_filter, isOk_iff, List.mem_map]
  constructor
  · rintro ⟨⟨⟨vmac, id⟩, target, rfl⟩, written⟩
    obtain ⟨there, apart⟩ := List.mem_filter.mp target
    obtain ⟨different, connected⟩ := of_decide_eq_true apart
    exact ⟨rfl, vmac, different, OrderedDict.mem_entries.mp there, connected, written⟩
  · rintro ⟨rfl, vmac, different, registered, connected, written⟩
    refine ⟨⟨(vmac, frame.1), List.mem_filter.mpr ⟨OrderedDict.mem_entries.mpr registered, ?_⟩, rfl⟩,
      written⟩
    exact decide_eq_true ⟨different, connected⟩

/-- No target of a broadcast is there twice. -/
theorem nodup_targets (peers : hub.PeersRegistered) (exclude : SCVMAC) (octets : Bytes)
    : ((hub.targets exclude).map fun entry => (entry.2, octets)).Nodup := by
  have distinct : hub.connections.entries.Nodup := hub.connections.distinct.of_map _
  refine (distinct.filter _).map_on ?_
  rintro ⟨vmac, id⟩ target ⟨other, id'⟩ target' same
  obtain rfl : id = id' := congrArg Prod.fst same
  have found := OrderedDict.mem_entries.mp (List.mem_of_mem_filter target)
  have found' := OrderedDict.mem_entries.mp (List.mem_of_mem_filter target')
  rw [peers.same_vmac found found']

-- Forwarding

/-- The frames are one for each of the clients, with octets that are read as the message. -/
structure OneEach (sent : List (Nat × Bytes)) (clients : Nat → Prop) (msg : SCMessage) : Prop where
  once : sent.Nodup
  same : ∃ octets, SCMessage.decode octets = .ok msg
    ∧ ∀ frame, frame ∈ sent ↔ frame.2 = octets ∧ clients frame.1

section Forwarding

variable {source : SCConnection} {peer : SCVMAC} {raw : Bytes} {msg : SCMessage}

theorem forwards_spoofed (sender : source.peerVmac = some peer)
    (spoofed : msg.originating.any fun originating => originating ≠ peer)
    : hub.forwards writes source msg raw = [] := by
  unfold forwards onNodeMessage
  rw [sender]
  dsimp only
  rw [if_pos spoofed]
  rfl

/-- A unicast goes to the node with the destination's VMAC, with its sender and without its
destination.
-/
theorem forwards_unicast (sender : source.peerVmac = some peer)
    (honest : ¬ msg.originating.any fun originating => originating ≠ peer) {dest}
    (destination : msg.destination = some dest) (single : dest.isBroadcast = false)
    (decoded : SCMessage.decode raw = .ok msg)
    : OneEach (hub.forwards writes source { msg with payload := [] } raw)
        (hub.Reaches writes dest) { msg with originating := some peer, destination := none } := by
  have nonempty : raw ≠ [] := by
    rintro rfl
    cases decoded
  have sent : hub.forwards writes source { msg with payload := [] } raw
      = deliver writes (hub.unicast { msg with payload := [] }
          (some (rewriteForHubUnicast raw peer.address))) := by
    unfold forwards onNodeMessage
    rw [sender]
    dsimp only
    rw [if_neg honest, destination, Option.any_some, single, Bool.not_false, if_pos rfl, if_pos nonempty]
  rw [sent]
  refine ⟨?_, _, decode_rewriteForHubUnicast decoded peer, mem_deliver_unicast destination _⟩
  rw [deliver_eq_filter]
  refine List.Nodup.filter _ ?_
  have short := @length_unicast hub { msg with payload := [] } (rewriteForHubUnicast raw peer.address)
  generalize hub.unicast _ _ = frames at short
  match frames with
  | [] => exact List.nodup_nil
  | [frame] => exact List.nodup_singleton frame
  | _ :: _ :: _ => exact absurd short (by simp)

/-- A broadcast goes to all connected nodes but its sender, with its sender and the broadcast VMAC. -/
theorem forwards_broadcast (peers : hub.PeersRegistered) (sender : source.peerVmac = some peer)
    (honest : ¬ msg.originating.any fun originating => originating ≠ peer)
    (toAll : ¬ msg.destination.any fun destination => !destination.isBroadcast)
    (decoded : SCMessage.decode raw = .ok msg)
    : OneEach (hub.forwards writes source { msg with payload := [] } raw)
        (fun id => ∃ vmac, vmac ≠ peer ∧ hub.Reaches writes vmac id)
        { msg with originating := some peer, destination := some SCVMAC.broadcast } := by
  have nonempty : raw ≠ [] := by
    rintro rfl
    cases decoded
  have sent : hub.forwards writes source { msg with payload := [] } raw
      = deliver writes ((hub.targets peer).map fun entry =>
          (entry.2, rewriteForHubBroadcast raw peer.address)) := by
    unfold forwards onNodeMessage
    rw [sender]
    dsimp only
    rw [if_neg honest, if_neg toAll, if_pos nonempty, broadcast_eq]
    rfl
  rw [sent]
  refine ⟨?_, _, decode_rewriteForHubBroadcast decoded peer, fun _ => mem_deliver_broadcast⟩
  rw [deliver_eq_filter]
  exact (nodup_targets peers peer _).filter _

/-- Nothing is forwarded for a message from another VMAC than that of its sender. A unicast is
forwarded to the node with its destination only, a broadcast once to every other node and not to
its sender; what is forwarded is the same message, but for its VMACs.
-/
theorem forwards_spec (peers : hub.PeersRegistered) (sender : source.peerVmac = some peer)
    (decoded : SCMessage.decode raw = .ok msg) (writes : Nat → Except ScException Unit)
    : let sent := hub.forwards writes source { msg with payload := [] } raw
      ((∃ claimed, msg.originating = some claimed ∧ claimed ≠ peer) → sent = [])
        ∧ ((∀ claimed, msg.originating = some claimed → claimed = peer) →
          (∀ dest, msg.destination = some dest → dest.isBroadcast = false →
            OneEach sent (hub.Reaches writes dest)
              { msg with originating := some peer, destination := none })
          ∧ ((∀ dest, msg.destination = some dest → dest.isBroadcast = true) →
            OneEach sent (fun id => ∃ vmac, vmac ≠ peer ∧ hub.Reaches writes vmac id)
                { msg with originating := some peer, destination := some SCVMAC.broadcast }
              ∧ ∀ frame ∈ sent, ∀ client, hub.clients frame.1 = some client →
                client.conn.peerVmac ≠ some peer)) := by
  refine ⟨?_, fun honest => ⟨fun dest destination single => ?_, fun toAll => ?_⟩⟩
  · rintro ⟨claimed, originating, different⟩
    exact forwards_spoofed sender (by simp [originating, different])
  · refine forwards_unicast sender ?_ destination single decoded
    rw [Option.any_eq_true]
    rintro ⟨claimed, originating, different⟩
    exact of_decide_eq_true different (honest claimed originating)
  · have all := @forwards_broadcast writes hub source peer raw msg peers sender ?_ ?_ decoded
    · refine ⟨all, fun frame listed client there same => ?_⟩
      obtain ⟨octets, _, exactly⟩ := all.same
      obtain ⟨_, vmac, different, reaches⟩ := (exactly frame).mp listed
      obtain ⟨client', there', peer', _⟩ := peers vmac frame.1 reaches.registered
      cases there.symm.trans there'
      exact different (Option.some.inj (peer'.symm.trans same))
    · rw [Option.any_eq_true]
      rintro ⟨claimed, originating, different⟩
      exact of_decide_eq_true different (honest claimed originating)
    · rw [Option.any_eq_true]
      rintro ⟨dest, destination, single⟩
      rw [toAll dest destination] at single
      cases single

/-- The broadcast of a node reaches the other one, and that one only. -/
theorem forwards_spec_twoNodes
    : ∃ octets, SCMessage.decode octets
        = .ok {
            SCTransport.directMessage [1] with
            originating := some ScNodes.firstVmac
            destination := some SCVMAC.broadcast
          }
        ∧ ∀ frame, frame ∈ ScNodes.hubOfSecond.forwards (fun _ => .ok ())
            (ScNodes.connection ScNodes.hubVmac ScNodes.firstVmac true) (SCTransport.directMessage [])
            [1, 0, 0, 0, 1]
          ↔ frame.2 = octets ∧ ∃ vmac, vmac ≠ ScNodes.firstVmac
              ∧ ScNodes.hubOfSecond.Reaches (fun _ => .ok ()) vmac frame.1 := by
  have decoded : SCMessage.decode [1, 0, 0, 0, 1] = .ok (SCTransport.directMessage [1]) := by decide
  have forwarded := forwards_spec ScNodes.twoNodes.peers ScNodes.twoNodes.atHubPeer decoded
    fun _ => .ok ()
  exact ((forwarded.2 nofun).2 nofun).1.same

end Forwarding

end BacPy.SCHubFunction
