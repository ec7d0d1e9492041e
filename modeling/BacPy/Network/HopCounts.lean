import BacPy.Network.Forwarding

/-! Hop counts go down: what a router makes of an NPDU has fewer hops left, unless it is a
Reject-Message of its own. The rank of an NPDU bounds how far it, and what comes of it, can get.
-/

namespace BacPy

open Library

namespace NetworkRouter

variable {npdu sent : NPDU} {data frame : Bytes} {returns : Prop}

theorem carried_of_decoded {original} (encoded : encodeNpdu original = .ok frame)
    (decoded : decodeNpdu frame = .ok sent)
    : sent = original.carried :=
  Except.ok.inj (decoded.symm.trans (decodeNpdu_encodeNpdu encoded))

/-- What a message of the router itself is decoded to. -/
theorem carried_of_own {msg destination} (encoded : encodeOwn msg destination = .ok frame)
    (decoded : decodeNpdu frame = .ok sent)
    : sent.isNetworkMessage = true ∧ sent.messageType = some msg.messageType
      ∧ sent.source = none ∧ sent.destination = destination ∧ sent.hopCount = 255 := by
  obtain ⟨contents, _, encoded⟩ := bind_eq_ok.mp encoded
  rw [carried_of_decoded encoded decoded]
  refine ⟨rfl, rfl, rfl, rfl, ?_⟩
  simp [NPDU.carried]

-- Hop counts

/-- A Reject-Message that the router itself sends to the source of an NPDU. -/
structure RejectOf (npdu sent : NPDU) : Prop where
  isNetworkMessage : sent.isNetworkMessage = true
  messageType : sent.messageType = some 3
  source : sent.source = none
  destination : sent.destination = npdu.source

/-- What an NPDU causes with a destination has fewer hops left, or is a Reject-Message. -/
theorem Causes.hopCount_lt (causes : Causes returns npdu frame) (decoded : decodeNpdu frame = .ok sent)
    (addressed : sent.destination.isSome)
    : (1 ≤ sent.hopCount ∧ sent.hopCount < npdu.hopCount) ∨ RejectOf npdu sent := by
  cases causes with
  | onward source left encoded =>
    have same := carried_of_decoded encoded decoded
    rw [same] at addressed ⊢
    have some : npdu.destination.isSome := addressed
    left
    simp only [NPDU.carried, if_pos some]
    omega
  | delivery network mac encoded =>
    obtain ⟨source, encoded⟩ := encodeNpdu_of_localDelivery encoded decoded
    rw [carried_of_decoded encoded decoded] at addressed
    cases addressed
  | bareDelivery encoded =>
    rw [carried_of_decoded encoded decoded] at addressed
    cases addressed
  | rejected reason dnet encoded =>
    rw [(carried_of_own encoded decoded).2.2.2.1] at addressed
    cases addressed
  | returned reason dnet source may hasSource encoded =>
    obtain ⟨network, type, none, destination, _⟩ := carried_of_own encoded decoded
    exact .inr ⟨network, type, none, destination.trans hasSource.symm⟩

/-- Whatever a router receives, each frame that it sends with a destination has fewer hops left
than the NPDU it received, and at least one; else it is a Reject-Message of its own.
-/
theorem hopCount_onPortReceive {router : NetworkRouter} {portId toPort : Nat}
    {sourceMac : Bytes} {station : Option Bytes} (received : decodeNpdu data = .ok npdu)
    (output : .send toPort station frame ∈ (router.onPortReceive portId data sourceMac).2)
    (decoded : decodeNpdu frame = .ok sent) (addressed : sent.destination.isSome)
    : (1 ≤ sent.hopCount ∧ sent.hopCount < npdu.hopCount) ∨ RejectOf npdu sent := by
  rcases accounted_onPortReceive received _ output _ _ _ rfl with causes | ⟨msg, encoded⟩
  · exact causes.hopCount_lt decoded addressed
  · rw [(carried_of_own encoded decoded).2.2.2.1] at addressed
    cases addressed

-- Ranks

/-- How far an NPDU can get: an APDU may still be rejected, and the Reject-Message starts with 255
hops.
-/
def rankOf (npdu : NPDU) : Nat :=
  if npdu.destination.isNone then 0
  else if npdu.isNetworkMessage then npdu.hopCount + 1
  else npdu.hopCount + 257

/-- The rank of a frame; what cannot be decoded is dropped. -/
def rank (data : Bytes) : Nat :=
  match decodeNpdu data with
  | .ok npdu => rankOf npdu
  | .error _ => 0

/-- An APDU, or a Reject-Message, or nothing that can be decoded. -/
def Traffic (data : Bytes) : Prop :=
  ∀ npdu, decodeNpdu data = .ok npdu → npdu.isNetworkMessage = true → npdu.messageType = some 3

theorem rank_of_decoded (decoded : decodeNpdu data = .ok npdu) : rank data = rankOf npdu := by
  rw [rank, decoded]

theorem rank_of_carried {original} (encoded : encodeNpdu original = .ok frame)
    : rank frame = rankOf original := by
  rw [rank_of_decoded (decodeNpdu_encodeNpdu encoded)]
  cases destination : original.destination with
  | none => simp [rankOf, NPDU.carried, destination]
  | some address => simp [rankOf, NPDU.carried, destination]

/-- What goes on without a destination goes no further. -/
theorem rank_of_bare {original} (bare : original.destination = none)
    (encoded : encodeNpdu original = .ok frame)
    : rank frame = 0 := by
  rw [rank_of_carried encoded, rankOf, bare]
  rfl

theorem rank_of_localDelivery {network mac}
    (encoded : encodeNpduLocalDelivery npdu network mac = .ok frame)
    : rank frame = 0 := by
  cases decoded : decodeNpdu frame with
  | error raised => rw [rank, decoded]
  | ok sent =>
    obtain ⟨source, encoded⟩ := encodeNpdu_of_localDelivery encoded decoded
    exact rank_of_bare rfl encoded

theorem rank_of_own {msg destination} (encoded : encodeOwn msg destination = .ok frame)
    : rank frame = if destination.isNone then 0 else 256 := by
  obtain ⟨contents, _, encoded⟩ := bind_eq_ok.mp encoded
  rw [rank_of_carried encoded]
  rfl

theorem rankOf_addressed (addressed : npdu.destination.isSome)
    : rankOf npdu = if npdu.isNetworkMessage then npdu.hopCount + 1 else npdu.hopCount + 257 := by
  rw [rankOf, Option.isNone_eq_false_iff.mpr addressed]
  rfl

/-- An NPDU with a destination causes nothing of its own rank, if only APDUs are returned. -/
theorem Causes.rank_lt (causes : Causes returns npdu frame)
    (addressed : npdu.destination.isSome) (once : returns → npdu.isNetworkMessage = false)
    : rank frame < rankOf npdu := by
  have positive : 0 < rankOf npdu := by
    rw [rankOf_addressed addressed]
    split <;> omega
  cases causes with
  | onward source left encoded =>
    have next : rankOf { npdu with source, hopCount := npdu.hopCount - 1 }
        = if npdu.isNetworkMessage then npdu.hopCount - 1 + 1 else npdu.hopCount - 1 + 257 :=
      rankOf_addressed addressed
    rw [rank_of_carried encoded, rankOf_addressed addressed, next]
    split <;> omega
  | delivery network mac encoded => rwa [rank_of_localDelivery encoded]
  | bareDelivery encoded => rwa [rank_of_bare rfl encoded]
  | rejected reason dnet encoded => rwa [rank_of_own encoded]
  | returned reason dnet source may hasSource encoded =>
    rw [rank_of_own encoded, rankOf_addressed addressed, once may]
    simp

/-- An APDU or a Reject-Message causes nothing else. -/
theorem Causes.traffic (causes : Causes returns npdu frame)
    (traffic : npdu.isNetworkMessage = true → npdu.messageType = some 3)
    : Traffic frame := by
  intro sent decoded network
  have kept : ∀ original, encodeNpdu original = .ok frame
      → original.isNetworkMessage = npdu.isNetworkMessage
      → original.messageType = npdu.messageType → sent.messageType = some 3 := by
    intro original encoded sameKind sameType
    rw [carried_of_decoded encoded decoded] at network ⊢
    have isMessage : original.isNetworkMessage = true := network
    rw [NPDU.carried, if_pos isMessage, sameType]
    exact traffic (sameKind.symm.trans isMessage)
  cases causes with
  | onward source left encoded => exact kept _ encoded rfl rfl
  | delivery network mac encoded =>
    obtain ⟨source, encoded⟩ := encodeNpdu_of_localDelivery encoded decoded
    exact kept _ encoded rfl rfl
  | bareDelivery encoded => exact kept _ encoded rfl rfl
  | rejected reason dnet encoded => exact (carried_of_own encoded decoded).2.1
  | returned reason dnet source may hasSource encoded =>
    exact (carried_of_own encoded decoded).2.1

/-- A received Reject-Message is not itself returned to where it came from. -/
def RejectEnds (router : NetworkRouter) (data : Bytes) : Prop :=
  ∀ npdu reason network, decodeNpdu data = .ok npdu → npdu.isNetworkMessage = true
    → npdu.messageType = some 3
    → decodeNetworkMessage 3 npdu.networkMessageData = .ok (.rejectMessageToNetwork reason network)
    → ¬ Returns (markRejected router.routingTable reason network) npdu

theorem decode_three {contents msg} (decoded : decodeNetworkMessage 3 contents = .ok msg)
    : ∃ reason network, msg = .rejectMessageToNetwork reason network := by
  rcases contents with _ | ⟨reason, _ | ⟨first, _ | ⟨second, rest⟩⟩⟩
  · cases decoded
  · cases decoded
  · cases decoded
  · obtain ⟨number, _, rfl⟩ := map_eq_ok.mp decoded
    exact ⟨number, _, rfl⟩

/-- What a router sends after an APDU or a Reject-Message is caused by it, and it has a destination.
If it is a Reject-Message that ends here, it is not returned.
-/
theorem causes_onPortReceive {router portId sourceMac} (received : decodeNpdu data = .ok npdu)
    (kind : npdu.isNetworkMessage = true → npdu.messageType = some 3)
    : ∀ output ∈ (router.onPortReceive portId data sourceMac).2,
        Sends (fun frame => npdu.destination.isSome
          ∧ Causes (RejectEnds router data → npdu.isNetworkMessage = false) npdu frame) output := by
  unfold onPortReceive
  rw [received]
  dsimp only
  cases application : npdu.isNetworkMessage with
  | false =>
    cases toward : npdu.destination with
    | none =>
      unfold processNpdu
      rw [if_neg (by simp [application]), toward]
      exact (preserves_deliverToApplication admits_allSent).final allSent_nothing
    | some destination =>
      exact fun output member => (sent_processNpdu application output member).mono
        fun _ causes => ⟨rfl, causes.mono fun _ _ => rfl⟩
  | true =>
    unfold processNpdu
    rw [if_pos application]
    unfold handleNetworkMessage
    rw [kind application]
    dsimp only
    cases decoded : decodeNetworkMessage 3 npdu.networkMessageData with
    | error raised => exact allSent_nothing
    | ok msg =>
      obtain ⟨reason, network, rfl⟩ := decode_three decoded
      dsimp only [handleMessage]
      cases toward : npdu.destination with
      | none =>
        rw [handleRejectMessage_eq, toward]
        exact allSent_nothing
      | some destination =>
        exact fun output member => (sent_handleRejectMessage output member).mono
          fun _ causes => ⟨rfl, causes.mono fun returned ends => absurd returned
            (ends npdu reason network received application (kind application) decoded)⟩

section Traffic

variable {router : NetworkRouter} {portId : Nat} {sourceMac : Bytes}

/-- What comes of an APDU or a Reject-Message at a router is such a thing again. -/
theorem traffic_onPortReceive (traffic : Traffic data)
    : ∀ output ∈ (router.onPortReceive portId data sourceMac).2, Sends Traffic output := by
  cases received : decodeNpdu data with
  | error raised =>
    unfold onPortReceive
    rw [received]
    exact fun _ member => absurd member List.not_mem_nil
  | ok npdu =>
    exact fun output member => (causes_onPortReceive received (traffic npdu received) output
      member).mono fun _ causes => causes.2.traffic (traffic npdu received)

/-- What comes of an APDU, or of a Reject-Message that ends here, is of lower rank. -/
theorem rank_onPortReceive (traffic : Traffic data) (ends : RejectEnds router data)
    : ∀ output ∈ (router.onPortReceive portId data sourceMac).2,
        Sends (fun frame => rank frame < rank data) output := by
  cases received : decodeNpdu data with
  | error raised =>
    unfold onPortReceive
    rw [received]
    exact fun _ member => absurd member List.not_mem_nil
  | ok npdu =>
    rw [rank_of_decoded received]
    exact fun output member => (causes_onPortReceive received (traffic npdu received) output
      member).mono fun _ causes => causes.2.rank_lt causes.1 fun once => once ends

end Traffic

end NetworkRouter

end BacPy
