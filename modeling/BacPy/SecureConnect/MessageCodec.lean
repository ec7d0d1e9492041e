import BacPy.SecureConnect.Transport

/-! What the encoder of BVLC-SC messages writes is read back, and the encoders of the fast path write
the same octets (Annex AB.2).
-/

namespace BacPy

open Library

-- Header options

namespace SCHeaderOption

/-- An option that its fields have room for, and that the decoder accepts. -/
structure Fits (option : SCHeaderOption) : Prop where
  type : option.type < 32
  data : option.data.length ≤ 512

def markerOctet (option : SCHeaderOption) (more : Bool) : UInt8 :=
  option.marker more ||| (if option.data ≠ [] then 0x20 else 0)

/-- What an option has behind its marker. -/
def body (option : SCHeaderOption) : Bytes :=
  if option.data = [] then [] else toBytes option.data.length 2 ++ option.data

variable {option : SCHeaderOption}

theorem encode_eq (fits : option.Fits) (more : Bool)
    : option.encode more = .ok (option.markerOctet more :: option.body) := by
  have short := fits.data
  unfold encode markerOctet body
  cases data : option.data with
  | nil => simp
  | cons first others =>
    rw [data] at short
    dsimp only
    rw [if_pos (by omega)]
    simp

theorem markerOctet_fields (fits : option.Fits) (more : Bool)
    : (option.markerOctet more &&& 0x1F).toNat = option.type
      ∧ decide (option.markerOctet more &&& 0x20 ≠ 0) = decide (option.data ≠ [])
      ∧ decide (option.markerOctet more &&& 0x40 ≠ 0) = option.mustUnderstand
      ∧ (option.markerOctet more &&& 0x80 ≠ 0 ↔ more = true) := by
  have table : ∀ type < 32, ∀ more mustUnderstand hasData : Bool,
      let marker := (UInt8.ofNat type &&& 0x1F) ||| (if more then 0x80 else 0)
        ||| (if mustUnderstand then 0x40 else 0) ||| (if hasData then 0x20 else 0)
      (marker &&& 0x1F).toNat = type ∧ decide (marker &&& 0x20 ≠ 0) = hasData
        ∧ decide (marker &&& 0x40 ≠ 0) = mustUnderstand ∧ (marker &&& 0x80 ≠ 0 ↔ more = true) := by
    decide
  unfold markerOctet marker
  by_cases empty : option.data = []
  · simpa [empty] using table option.type fits.type more option.mustUnderstand false
  · simpa [empty] using table option.type fits.type more option.mustUnderstand true

/-- The data of an option is read back from behind its marker. -/
theorem decodeData_body (fits : option.Fits) (rest : Bytes)
    : decodeData (option.data ≠ []) (option.body ++ rest) = .ok (option.data, rest) := by
  have short := fits.data
  unfold body
  by_cases empty : option.data = []
  · simp [empty, decodeData]
  · have two : toBytes option.data.length 2
        = [UInt8.ofNat (option.data.length / 256 % 256), UInt8.ofNat (option.data.length % 256)] :=
      rfl
    have read := @fromBytes_toBytes option.data.length 2 (by omega)
    have taken : (option.data ++ rest).take option.data.length = option.data := List.take_left' rfl
    have left : (option.data ++ rest).drop option.data.length = rest := List.drop_left' rfl
    have long : ¬ (option.data ++ rest).length < option.data.length := by simp
    have present : decide (option.data ≠ []) = true := by simpa using empty
    rw [two] at read
    rw [if_neg empty, two, present]
    simp only [List.cons_append, List.nil_append]
    show (if 512 < fromBytes [_, _] then _ else _) = _
    rw [read, if_neg (by omega), if_neg long, taken, left]

/-- Options that are written one after the other are read back with what follows them, by induction
on the options.
-/
theorem decodeList_encoded {options room} (fit : ∀ option ∈ options, option.Fits)
    (some' : options ≠ []) (few : options.length ≤ room)
    : ∃ octets, encodeOptions options = .ok octets
        ∧ ∀ rest, decodeList room (octets ++ rest) = .ok (options, rest) := by
  induction options generalizing room with
  | nil => exact absurd rfl some'
  | cons option others ih =>
    rw [List.forall_mem_cons] at fit
    obtain ⟨room, rfl⟩ : ∃ less, room = less + 1 := ⟨room - 1, by simp at few; omega⟩
    obtain ⟨type, hasData, mustUnderstand, more⟩ :=
      markerOctet_fields fit.1 (decide (others ≠ []))
    have encoded := encode_eq fit.1 (decide (others ≠ []))
    have same : ({ type := option.type, mustUnderstand := option.mustUnderstand, data := option.data }
        : SCHeaderOption) = option := rfl
    by_cases last : others = []
    · subst last
      refine ⟨option.markerOctet (decide (([] : List SCHeaderOption) ≠ [])) :: option.body, ?_, ?_⟩
      · rw [encodeOptions, encoded, encodeOptions]
        exact congrArg Except.ok (List.append_nil _)
      · intro rest
        rw [List.cons_append, decodeList, hasData, decodeData_body fit.1]
        dsimp only [Except.bind, bind]
        rw [if_neg fun flagged => absurd (more.mp flagged) (by simp), type, mustUnderstand, same]
    · obtain ⟨octets, encodedOthers, read⟩ := ih fit.2 last (by simpa using few)
      refine ⟨option.markerOctet (decide (others ≠ [])) :: option.body ++ octets, ?_, ?_⟩
      · rw [encodeOptions, encoded, encodedOthers]
        rfl
      · intro rest
        rw [List.cons_append, List.cons_append, List.append_assoc, decodeList, hasData,
          decodeData_body fit.1]
        dsimp only [Except.bind, bind]
        rw [if_pos (more.mpr (decide_eq_true last)), read, type, mustUnderstand, same]

end SCHeaderOption

-- Messages

namespace SCMessage

/-- A message whose header options fit, with at most as many in each list as the decoder takes. -/
structure Fits (msg : SCMessage) : Prop where
  destOptions : ∀ option ∈ msg.destOptions, option.Fits
  fewDestOptions : msg.destOptions.length ≤ 32
  dataOptions : ∀ option ∈ msg.dataOptions, option.Fits
  fewDataOptions : msg.dataOptions.length ≤ 32

/-- A list of options is read back, if the flag for it says whether there are any. -/
theorem decodeOptions_encoded {options} (fit : ∀ option ∈ options, option.Fits)
    (few : options.length ≤ 32)
    : ∃ octets, encodeOptions options = .ok octets
        ∧ ∀ rest, decodeOptions (options ≠ []) (octets ++ rest) = .ok (options, rest) := by
  by_cases empty : options = []
  · subst empty
    exact ⟨[], rfl, fun rest => rfl⟩
  · obtain ⟨octets, encoded, read⟩ := SCHeaderOption.decodeList_encoded fit empty few
    refine ⟨octets, encoded, fun rest => ?_⟩
    rw [decodeOptions, if_pos (decide_eq_true empty), read]

theorem flags_fields (msg : SCMessage)
    : decide (msg.flags &&& 0x08 ≠ 0) = msg.originating.isSome
      ∧ decide (msg.flags &&& 0x04 ≠ 0) = msg.destination.isSome
      ∧ decide (msg.flags &&& 0x02 ≠ 0) = decide (msg.destOptions ≠ [])
      ∧ decide (msg.flags &&& 0x01 ≠ 0) = decide (msg.dataOptions ≠ []) := by
  unfold flags
  generalize msg.originating.isSome = originating
  generalize msg.destination.isSome = destination
  by_cases destOptions : msg.destOptions = [] <;> by_cases dataOptions : msg.dataOptions = []
  all_goals
    simp only [destOptions, dataOptions, ne_eq, not_true, not_false_eq_true, if_true, if_false]
    cases originating <;> cases destination <;> decide

/-- What is written of a message is the message when it is read. -/
theorem decode_encode {msg} (fits : msg.Fits)
    : ∃ octets, msg.encode = .ok octets ∧ decode octets = .ok msg := by
  obtain ⟨destOctets, encodedDest, readDest⟩ :=
    decodeOptions_encoded fits.destOptions fits.fewDestOptions
  obtain ⟨dataOctets, encodedData, readData⟩ :=
    decodeOptions_encoded fits.dataOptions fits.fewDataOptions
  obtain ⟨originating, destination, destOptions, dataOptions⟩ := flags_fields msg
  refine ⟨_, bind_eq_ok.mpr ⟨destOctets, encodedDest, bind_eq_ok.mpr ⟨dataOctets, encodedData, rfl⟩⟩,
    ?_⟩
  have id : UInt16.ofNat (fromBytes (toBytes msg.messageId.toNat 2)) = msg.messageId := by
    rw [fromBytes_toBytes (by simpa using msg.messageId.toNat_lt)]
    exact UInt16.ofNat_toNat
  refine decode_eq_ok.mpr ⟨msg.flags, _, _, vmacOctets msg.originating ++ _,
    vmacOctets msg.destination ++ (destOctets ++ (dataOctets ++ msg.payload)),
    destOctets ++ (dataOctets ++ msg.payload), dataOctets ++ msg.payload, msg.payload, rfl, id.symm,
    ?_, ?_, ?_, ?_, rfl⟩
  · rw [originating]
    exact decodeVmac_octets ..
  · rw [destination]
    exact decodeVmac_octets ..
  · rw [destOptions]
    exact readDest _
  · rw [dataOptions]
    exact readData _

end SCMessage

-- The fast path

def encodeEncapsulatedNpdu (originating : SCVMAC) (destination : Option SCVMAC) (payload : Bytes)
    : Bytes :=
  match destination with
  | some destination =>
    [BvlcSCFunction.encapsulatedNpdu.toOctet, 0x08 ||| 0x04, 0, 0]
      ++ originating.address ++ destination.address ++ payload
  | none =>
    [BvlcSCFunction.encapsulatedNpdu.toOctet, 0x08, 0, 0] ++ originating.address ++ payload

def encapsulatedNpdu (originating : SCVMAC) (destination : Option SCVMAC) (payload : Bytes)
    : SCMessage where
  function := .encapsulatedNpdu
  messageId := 0
  originating := some originating
  destination
  payload

/-- The encoder for Encapsulated-NPDUs writes what the one for all messages writes. -/
theorem encode_encapsulatedNpdu (originating : SCVMAC) (destination : Option SCVMAC) (payload : Bytes)
    : (encapsulatedNpdu originating destination payload).encode
      = .ok (encodeEncapsulatedNpdu originating destination payload) := by
  rw [SCMessage.encode_plain ⟨rfl, rfl⟩]
  refine congrArg Except.ok ?_
  cases destination with
  | none =>
    simp [SCMessage.plainOctets, SCMessage.flags, encapsulatedNpdu, encodeEncapsulatedNpdu,
      vmacOctets, toBytes]
  | some destination =>
    simp [SCMessage.plainOctets, SCMessage.flags, encapsulatedNpdu, encodeEncapsulatedNpdu,
      vmacOctets, toBytes]

namespace SCTransport

def broadcastHeader (vmac : SCVMAC) : Bytes :=
  [BvlcSCFunction.encapsulatedNpdu.toOctet, 0x0C, 0, 0] ++ vmac.address
    ++ [0xFF, 0xFF, 0xFF, 0xFF, 0xFF, 0xFF]

/-- `send_broadcast`: the task that is scheduled. -/
def sendBroadcast (transport : SCTransport) (npdu : Bytes) : SendTask :=
  .rawViaHub (broadcastHeader transport.vmac ++ npdu)

/-- A call of `send_unicast` or `send_broadcast`, with the direct connections that there are then. -/
structure SendCall where
  npdu : Bytes
  /-- none for `send_broadcast` -/
  dest : Option SCVMAC
  nodeSwitch : Option SCNodeSwitch

def send (transport : SCTransport) (call : SendCall) : Except PyException (SCTransport × SendTask) :=
  match call.dest with
  | none => .ok (transport, transport.sendBroadcast call.npdu)
  | some dest => { transport with nodeSwitch := call.nodeSwitch }.sendUnicast call.npdu dest.address

def sendAll (transport : SCTransport) : List SendCall → Except PyException (List SendTask)
  | [] => .ok []
  | call :: rest => do
      let (transport, task) ← transport.send call
      let tasks ← transport.sendAll rest
      .ok (task :: tasks)

def SendCall.message (call : SendCall) (vmac : SCVMAC) : SCMessage :=
  encapsulatedNpdu vmac (some (call.dest.getD SCVMAC.broadcast)) call.npdu

def hubOctets : SendTask → Except PyException Bytes
  | .rawViaHub data => .ok data
  | .directOrHub _ _ hubMsg => hubMsg.encode

/-- A frame that goes through the hub has these octets. -/
theorem hubOctets_of_runTask {transport : SCTransport} {directWs hubWs : Except ScException Unit}
    {task : SendTask} {frame : Bytes} (sent : transport.runTask directWs hubWs task = .viaHub frame)
    : hubOctets task = .ok frame := by
  have overHub_eq {outcome : Except ScException Bytes} (viaHub : overHub outcome = .viaHub frame)
      : outcome = .ok frame := by
    cases outcome with
    | error _ => cases viaHub
    | ok other => exact congrArg Except.ok (SentFrame.viaHub.inj viaHub)
  cases task with
  | rawViaHub data =>
    unfold runTask at sent
    dsimp only at sent
    split at sent
    · cases sent
    · have raw := overHub_eq sent
      unfold SCConnection.sendRaw at raw
      split at raw
      · obtain ⟨_, _, same⟩ := map_eq_ok.mp raw
        exact congrArg Except.ok same
      · cases raw
  | directOrHub dest directMsg hubMsg =>
    unfold runTask at sent
    dsimp only at sent
    split at sent
    · cases sent
    · cases sent
    · split at sent
      · cases sent
      · have whole := overHub_eq sent
        unfold SCConnection.sendMessage at whole
        split at whole
        · split at whole
          · cases whole
          · next data encoded =>
              obtain ⟨_, _, same⟩ := map_eq_ok.mp whole
              rw [← same]
              exact encoded
        · cases whole

theorem vmac_sendCached (transport : SCTransport) (npdu macAddress : Bytes)
    : (transport.sendCached npdu macAddress).1.vmac = transport.vmac := by
  unfold sendCached
  split <;> rfl

/-- One call: what goes through the hub is the encoding of its message, and the VMAC stays. -/
theorem send_octets (transport : SCTransport) (call : SendCall)
    : ∃ next task, transport.send call = .ok (next, task) ∧ next.vmac = transport.vmac
        ∧ hubOctets task = (call.message transport.vmac).encode := by
  rw [SendCall.message, encode_encapsulatedNpdu]
  obtain ⟨npdu, _ | dest, nodeSwitch⟩ := call
  · exact ⟨transport, _, rfl, rfl, rfl⟩
  · have cached (transport : SCTransport)
        : hubOctets (transport.sendCached npdu dest.address).2
            = .ok (encodeEncapsulatedNpdu transport.vmac (some dest) npdu) := by
      rw [sendCached_task]
      rfl
    unfold send sendUnicast
    dsimp only
    cases nodeSwitch with
    | none => exact ⟨_, _, rfl, vmac_sendCached _ npdu dest.address, cached _⟩
    | some switch =>
      dsimp only
      rw [SCVMAC.make_address]
      dsimp only [Except.bind, bind]
      split
      · exact ⟨_, _, rfl, rfl, encode_encapsulatedNpdu transport.vmac (some dest) npdu⟩
      · exact ⟨_, _, rfl, vmac_sendCached _ npdu dest.address, cached _⟩

/-- Whenever a task runs, what it sends through the hub is the encoding of the message of its call. -/
def SendsMessage (vmac : SCVMAC) (call : SendCall) (task : SendTask) : Prop :=
  ∀ (later : SCTransport) (directWs hubWs : Except ScException Unit) (frame : Bytes),
    later.runTask directWs hubWs task = .viaHub frame → (call.message vmac).encode = .ok frame

/-- A sequence of calls, by induction on it. -/
theorem sendAll_sends (transport : SCTransport) (calls : List SendCall)
    : ∃ tasks, transport.sendAll calls = .ok tasks
        ∧ List.Forall₂ (SendsMessage transport.vmac) calls tasks := by
  induction calls generalizing transport with
  | nil => exact ⟨[], rfl, .nil⟩
  | cons call rest ih =>
    obtain ⟨next, task, sent, vmac, octets⟩ := transport.send_octets call
    obtain ⟨tasks, others, each⟩ := ih next
    refine ⟨task :: tasks, bind_eq_ok.mpr ⟨_, sent, bind_eq_ok.mpr ⟨tasks, others, rfl⟩⟩, ?_⟩
    rw [vmac] at each
    exact .cons (fun later directWs hubWs frame sent =>
      octets.symm.trans (hubOctets_of_runTask sent)) each

/-- Messages are read back, and the encoders of the fast path write what the encoder of messages
writes.
-/
theorem message_codecs_agree
    : (∀ msg : SCMessage, msg.Fits →
        ∃ octets, msg.encode = .ok octets ∧ SCMessage.decode octets = .ok msg)
      ∧ (∀ (transport : SCTransport) (calls : List SendCall),
        ∃ tasks, transport.sendAll calls = .ok tasks
          ∧ List.Forall₂ (SendsMessage transport.vmac) calls tasks)
      ∧ ∀ (originating : SCVMAC) (destination : Option SCVMAC) (payload : Bytes),
        (encapsulatedNpdu originating destination payload).encode
          = .ok (encodeEncapsulatedNpdu originating destination payload) :=
  ⟨fun _ => SCMessage.decode_encode, sendAll_sends, encode_encapsulatedNpdu⟩

/-- A message with an option that has data and another one behind it. -/
def optionedMessage : SCMessage where
  function := .encapsulatedNpdu
  messageId := 258
  destination := some SCVMAC.broadcast
  dataOptions := [{ type := 31, mustUnderstand := false, data := [7, 8] },
    { type := 1, mustUnderstand := true }]
  payload := [1, 0]

theorem message_codecs_agree_optioned
    : ∃ octets, optionedMessage.encode = .ok octets
        ∧ SCMessage.decode octets = .ok optionedMessage := by
  refine message_codecs_agree.1 optionedMessage ⟨nofun, by decide, ?_, by decide⟩
  intro option listed
  rcases List.mem_cons.mp listed with rfl | listed
  · exact ⟨by decide, by decide⟩
  · obtain rfl := List.mem_singleton.mp listed
    exact ⟨by decide, by decide⟩

end SCTransport

end BacPy
