import BacPy.App.FileServer

/-! `BACnetClient.backup_device` and `restore_device` (Clause 19.1), with the device they talk to. A
backup holds what the files contain. A restore writes the files from their beginning, and keeps what
is longer than the backup.
-/

namespace BacPy

open Library
open Stateful (Triple)

/-- What becomes of a request: what others do before it arrives, how many copies of it the device
handles, and which of their answers arrives, if any.
-/
structure Delivery where
  meanwhile : FileServer → FileServer := id
  earlier : Nat := 0
  answered : Bool := true
  later : Nat := 0

/-- The device, and what becomes of the requests that the client is going to send. -/
structure Session where
  server : FileServer
  link : List Delivery

/-- What a request raises. -/
inductive ClientError where
  /-- `BACnetTimeoutError` -/
  | timeout
  /-- an Error, a Reject or an Abort for what the handler has raised -/
  | answered (raised : Raised)
  | raised (raised : Raised)
  deriving DecidableEq

/-- A computation of the client that may raise. -/
abbrev Client (Result : Type) := Stateful ClientError Session Result

structure BackupData where
  deviceInstance : Nat
  configurationFiles : List (ObjectIdentifier × Bytes)
  deriving DecidableEq

namespace Client

-- Requests

/-- A handler is run for some copies of its request. -/
def handled {Result : Type} (handler : FileServer.Action Result) : Nat → FileServer → FileServer
  | 0, server => server
  | copies + 1, server => handled handler copies (handler server).2

/-- `confirmed_request`. No request is answered behind the last delivery. -/
def confirmedRequest {Result : Type} (handler : FileServer.Action Result) : Client Result :=
  fun session =>
    match session.link with
    | [] => (.error .timeout, session)
    | delivery :: link =>
      let server := handled handler delivery.earlier (delivery.meanwhile session.server)
      if delivery.answered then
        let (outcome, server) := handler server
        (outcome.mapError .answered, { server := handled handler delivery.later server, link })
      else (.error .timeout, { server, link })

/-- Something the client works out itself. -/
def computed {Result : Type} (outcome : Except Raised Result) : Client Result :=
  Stateful.lift (outcome.mapError .raised)

def readProperty (objectIdentifier : ObjectIdentifier) (propertyIdentifier : PropertyIdentifier)
    : Client ReadPropertyACK := do
  let response ← confirmedRequest <| Stateful.consults fun server =>
    server.server.handleReadProperty { objectIdentifier, propertyIdentifier }
  computed (ReadPropertyACK.decode.run response)

def reinitializeDevice (reinitializedState : ReinitializedState) (password : Option String)
    : Client Unit :=
  confirmedRequest (FileServer.handleReinitializeDevice { reinitializedState, password })

def atomicReadFile (fileIdentifier : ObjectIdentifier) (accessMethod : ReadAccess)
    : Client AtomicReadFileACK := do
  let request ← computed (raising (AtomicReadFileRequest.mk fileIdentifier accessMethod).encode)
  let response ← confirmedRequest (Stateful.consults (FileServer.handleAtomicReadFile request))
  computed (AtomicReadFileACK.decode.run response)

def atomicWriteFile (fileIdentifier : ObjectIdentifier) (accessMethod : WriteAccess)
    : Client AtomicWriteFileACK := do
  let request ← computed (raising (AtomicWriteFileRequest.mk fileIdentifier accessMethod).encode)
  let response ← confirmedRequest (FileServer.handleAtomicWriteFile request)
  computed (AtomicWriteFileACK.decode.run response)

-- Backup and restore

def anyDevice : ObjectIdentifier := ⟨.device, 4194303⟩

variable [JapaneseCodec]

def discoverDeviceOid : Client ObjectIdentifier := do
  let ack ← readProperty anyDevice .objectIdentifier
  let decoded ← computed (raising (decodeAndUnwrap ack.propertyValue))
  match decoded with
  | .objectIdentifier deviceOid => pure deviceOid
  | _ => pure anyDevice

/-- One poll of `_poll_backup_restore_state`: the state, if it is one of those waited for. -/
def polledState (deviceOid : ObjectIdentifier) (targetStates : List Nat) : Client (Option Nat) := do
  let ack ← readProperty deviceOid .backupAndRestoreState
  let decoded ← computed (raising (decodeAndUnwrap ack.propertyValue))
  match decoded.asInt? with
  | none => pure none
  | some state =>
    if backupAndRestoreStateEnum.accepts state then
      pure (if state.toNat ∈ targetStates then some state.toNat else none)
    else computed (.error (.builtin (.valueError s!"{state} is not a valid BackupAndRestoreState")))

/-- `_poll_backup_restore_state`, with the number of polls that fit in before the deadline, after the
first one.
-/
def pollBackupRestoreState (deviceOid : ObjectIdentifier) (targetStates : List Nat)
    : Nat → Client Nat
  | 0 => do
      match ← polledState deviceOid targetStates with
      | some state => pure state
      | none => Stateful.raise .timeout
  | polls + 1 => do
      match ← polledState deviceOid targetStates with
      | some state => pure state
      | none => pollBackupRestoreState deviceOid targetStates polls

/-- The loop of `_download_file`. -/
def downloadFrom (fileOid : ObjectIdentifier) (chunkSize : Nat) : Nat → Nat → Bytes → Client Bytes
  | 0, _, _ => Stateful.raise .timeout
  | rounds + 1, fileOffset, buf => do
      let ack ← atomicReadFile fileOid (.stream fileOffset chunkSize)
      match ack.accessMethod with
      | .records _ _ _ => computed (.error (.builtin .assertionError))
      | .stream _ fileData =>
        if ack.endOfFile then pure (buf ++ fileData)
        else downloadFrom fileOid chunkSize rounds (fileOffset + fileData.length) (buf ++ fileData)

/-- `_download_file`. Each round takes a request, so that more rounds would not be answered. -/
def downloadFile (fileOid : ObjectIdentifier) (chunkSize : Nat := 1024) : Client Bytes :=
  fun session => downloadFrom fileOid chunkSize (session.link.length + 1) 0 [] session

/-- The loop over the configuration files. -/
def downloadFiles : List ObjectIdentifier → Client (List (ObjectIdentifier × Bytes))
  | [] => pure []
  | fileOid :: rest => do
      let data ← downloadFile fileOid
      let others ← downloadFiles rest
      pure ((fileOid, data) :: others)

def identifiersIn (values : List Value) : List ObjectIdentifier :=
  values.filterMap fun
    | .objectIdentifier identifier => some identifier
    | _ => none

open BackupAndRestoreState in
def backupDevice (password : Option String) (polls : Nat) : Client BackupData := do
  reinitializeDevice .startBackup password
  let deviceOid ← discoverDeviceOid
  let _state ← pollBackupRestoreState deviceOid [performingABackup, preparingForBackup] polls
  let ack ← readProperty deviceOid .configurationFiles
  let decodedFiles ← computed (raising (decodeAllApplicationValues ack.propertyValue))
  let configurationFiles ← downloadFiles (identifiersIn decodedFiles)
  reinitializeDevice .endBackup password
  pure { deviceInstance := deviceOid.instanceNumber, configurationFiles }

open BackupAndRestoreState in
def restoreDevice (backupData : BackupData) (password : Option String) (polls : Nat)
    : Client Unit := do
  reinitializeDevice .startRestore password
  let deviceOid ← discoverDeviceOid
  let _state ← pollBackupRestoreState deviceOid [performingARestore, preparingForRestore] polls
  Stateful.forEach (fun file => do
    let _ack ← atomicWriteFile file.1 (.stream 0 file.2)
    pure ()) backupData.configurationFiles
  reinitializeDevice .endRestore password

-- Rules for requests

/-- Nobody else touches the files while the client sends requests. -/
def Undisturbed (deviceId : ObjectIdentifier) (files : List ObjectIdentifier) (link : List Delivery)
    : Prop :=
  ∀ delivery ∈ link, ∀ server contents, FileServer.Offers server deviceId files contents →
    (delivery.meanwhile server).Offers deviceId files contents

/-- The device offers the files with these contents, and nobody else touches them. -/
def Keeps (deviceId : ObjectIdentifier) (files : List ObjectIdentifier)
    (contents : ObjectIdentifier → Bytes) (session : Session) : Prop :=
  session.server.Offers deviceId files contents ∧ Undisturbed deviceId files session.link

section Rules

variable {Result : Type} {deviceId : ObjectIdentifier} {files : List ObjectIdentifier}
  {contents others : ObjectIdentifier → Bytes} {handler : FileServer.Action Result}

omit [JapaneseCodec]

/-- Copies of a request keep what one of them keeps. -/
theorem handled_keeps {inv : FileServer → Prop}
    (each : ∀ server, inv server → inv (handler server).2) (copies : Nat) {server : FileServer}
    (holds : inv server)
    : inv (handled handler copies server) := by
  induction copies generalizing server with
  | zero => exact holds
  | succ copies ih => exact ih (each server holds)

theorem confirmedRequest_cons (server : FileServer) (delivery : Delivery) (link : List Delivery)
    : confirmedRequest handler { server, link := delivery :: link }
      = if delivery.answered then
          ((handler (handled handler delivery.earlier (delivery.meanwhile server))).1.mapError .answered,
            {
              server := handled handler delivery.later
                (handler (handled handler delivery.earlier (delivery.meanwhile server))).2
              link
            })
        else (.error .timeout,
          { server := handled handler delivery.earlier (delivery.meanwhile server), link }) :=
  rfl

/-- A request that may change the contents: once it is answered they are changed, and handling it
again makes no difference.
-/
theorem triple_confirmedRequest {returns : Result → Prop}
    (once : ∀ server, server.Offers deviceId files contents →
      ((handler server).2.Offers deviceId files contents
          ∨ (handler server).2.Offers deviceId files others)
        ∧ ∀ result, (handler server).1 = .ok result →
          (handler server).2.Offers deviceId files others ∧ returns result)
    (again : ∀ server, server.Offers deviceId files others →
      (handler server).2.Offers deviceId files others
        ∧ ∀ result, (handler server).1 = .ok result → returns result)
    : Triple (Keeps deviceId files contents) (confirmedRequest handler)
        (fun result session => returns result ∧ Keeps deviceId files others session)
        (fun _ => True) := by
  rintro ⟨server, link⟩ ⟨offers, undisturbed⟩
  cases link with
  | nil => trivial
  | cons delivery link =>
    have arrived := undisturbed delivery (List.mem_cons_self ..) server contents offers
    have either := @handled_keeps _ handler (fun server =>
      server.Offers deviceId files contents ∨ server.Offers deviceId files others)
      (fun server holds => holds.elim (fun offers => (once server offers).1)
        fun offers => .inr (again server offers).1) delivery.earlier _ (.inl arrived)
    have rest : Undisturbed deviceId files link :=
      fun other listed => undisturbed other (List.mem_cons_of_mem _ listed)
    rw [confirmedRequest_cons]
    generalize handled handler delivery.earlier (delivery.meanwhile server) = reached at either ⊢
    by_cases answered : delivery.answered = true
    · rw [if_pos answered]
      rcases outcome : handler reached with ⟨raised | result, after⟩
      · trivial
      · have changed : after.Offers deviceId files others ∧ returns result := by
          rcases either with offers | offers
          · have ended := (once reached offers).2 result (by rw [outcome])
            rwa [outcome] at ended
          · have ended := again reached offers
            rw [outcome] at ended
            exact ⟨ended.1, ended.2 result rfl⟩
        exact ⟨changed.2, handled_keeps (fun server offers => (again server offers).1)
          delivery.later changed.1, rest⟩
    · rw [if_neg answered]
      trivial

/-- A request that changes nothing of the files. -/
theorem triple_keepingRequest {returns : Result → Prop}
    (keeps : Stateful.Preserves (fun server => server.Offers deviceId files contents) handler)
    (each : ∀ server, server.Offers deviceId files contents →
      ∀ result, (handler server).1 = .ok result → returns result)
    : Triple (Keeps deviceId files contents) (confirmedRequest handler)
        (fun result session => returns result ∧ Keeps deviceId files contents session)
        (fun _ => True) :=
  triple_confirmedRequest
    (fun server offers => ⟨.inl (keeps.final offers), fun result answered =>
      ⟨keeps.final offers, each server offers result answered⟩⟩)
    fun server offers => ⟨keeps.final offers, each server offers⟩

/-- What the client works out changes nothing. -/
theorem triple_computed {before : Session → Prop} {outcome : Except Raised Result}
    : Triple before (computed outcome)
        (fun result session => outcome = .ok result ∧ before session) (fun _ => True) := by
  refine .lift (fun result same session holds => ?_) fun _ _ _ _ => trivial
  cases outcome with
  | error raised => cases same
  | ok other =>
    cases same
    exact ⟨rfl, holds⟩

theorem triple_reinitializeDevice (reinitializedState : ReinitializedState) (password : Option String)
    : Triple (Keeps deviceId files contents) (reinitializeDevice reinitializedState password)
        (fun _ => Keeps deviceId files contents) (fun _ => True) :=
  (@triple_keepingRequest _ _ _ _ _ (fun _ => True)
      (FileServer.offers_handleReinitializeDevice _) fun _ _ _ _ => trivial).weaken
    (fun _ => id) (fun _ _ ended => ended.2) fun _ => id

/-- Whatever property is read, the files stay as they were. -/
theorem triple_readProperty {objectIdentifier : ObjectIdentifier} {prop : PropertyIdentifier}
    {returns : ReadPropertyACK → Prop}
    (each : ∀ server, FileServer.Offers server deviceId files contents → ∀ response,
      server.server.handleReadProperty { objectIdentifier, propertyIdentifier := prop }
        = .ok response →
      ∀ ack, ReadPropertyACK.decode.run response = .ok ack → returns ack)
    : Triple (Keeps deviceId files contents) (readProperty objectIdentifier prop)
        (fun ack session => returns ack ∧ Keeps deviceId files contents session) (fun _ => True) := by
  refine .bind (fun response session => (∀ ack, ReadPropertyACK.decode.run response = .ok ack →
    returns ack) ∧ Keeps deviceId files contents session) ?_ fun response => ?_
  · exact triple_keepingRequest (.consults _) each
  · exact triple_computed.weaken (fun _ => id)
      (fun ack _ ended => ⟨ended.2.1 ack ended.1, ended.2.2⟩) fun _ => id

def readAt (fileData : Bytes) (start count : Nat) : AtomicReadFileACK where
  endOfFile := fileData.length ≤ start + count
  accessMethod := .stream start ((fileData.take (start + count)).drop start)

theorem triple_atomicReadFile {objectId : ObjectIdentifier} (listed : objectId ∈ files)
    {start count : Nat} (few : count ≤ 1048576)
    : Triple (Keeps deviceId files contents)
        (atomicReadFile objectId (.stream start count))
        (fun ack session => ack = readAt (contents objectId) start count
          ∧ Keeps deviceId files contents session)
        (fun _ => True) := by
  refine .bind _ triple_computed fun request => ?_
  refine .bind (fun response session => (∀ ack, AtomicReadFileACK.decode.run response = .ok ack →
    ack = readAt (contents objectId) start count) ∧ Keeps deviceId files contents session) ?_
    fun response => ?_
  · rintro session ⟨encoded, keeps⟩
    refine triple_keepingRequest (.consults _) (fun server offers response answered ack read => ?_)
      session keeps
    obtain ⟨ref, isFile⟩ := offers.each objectId listed
    have same := FileServer.read_offered isFile few (raising_eq_ok.mp encoded) answered
    exact Except.ok.inj (read.symm.trans same)
  · exact triple_computed.weaken (fun _ => id)
      (fun ack _ ended => ⟨ended.2.1 ack ended.1, ended.2.2⟩) fun _ => id

/-- The loop of a download goes on from what it has read, by induction on the rounds. -/
theorem triple_downloadFrom {objectId} (listed : objectId ∈ files) {chunkSize}
    (few : chunkSize ≤ 1048576) (rounds fileOffset : Nat)
    : Triple (Keeps deviceId files contents)
        (downloadFrom objectId chunkSize rounds fileOffset ((contents objectId).take fileOffset))
        (fun data session => data = contents objectId ∧ Keeps deviceId files contents session)
        (fun _ => True) := by
  induction rounds generalizing fileOffset with
  | zero => exact .raise fun _ _ => trivial
  | succ rounds ih =>
    refine .bind _ (triple_atomicReadFile listed few) fun ack => ?_
    rintro session ⟨rfl, keeps⟩
    have access : (readAt (contents objectId) fileOffset chunkSize).accessMethod
        = .stream fileOffset (((contents objectId).take (fileOffset + chunkSize)).drop fileOffset) :=
      rfl
    have joined := List.take_append_drop fileOffset
      ((contents objectId).take (fileOffset + chunkSize))
    rw [List.take_take, Nat.min_eq_left (Nat.le_add_right ..)] at joined
    rw [access]
    dsimp only
    rw [joined]
    by_cases ended : (contents objectId).length ≤ fileOffset + chunkSize
    · have atEnd : (readAt (contents objectId) fileOffset chunkSize).endOfFile = true :=
        decide_eq_true ended
      rw [if_pos atEnd, List.take_of_length_le ended]
      exact ⟨rfl, keeps⟩
    · have goesOn : ¬ (readAt (contents objectId) fileOffset chunkSize).endOfFile = true := fun atEnd =>
        ended (of_decide_eq_true atEnd)
      have length : fileOffset + (((contents objectId).take (fileOffset + chunkSize)).drop
          fileOffset).length = fileOffset + chunkSize := by
        rw [List.length_drop, List.length_take]
        omega
      rw [if_neg goesOn, length]
      exact ih (fileOffset + chunkSize) session keeps

theorem triple_downloadFile {objectId} (listed : objectId ∈ files)
    : Triple (Keeps deviceId files contents) (downloadFile objectId)
        (fun data session => data = contents objectId ∧ Keeps deviceId files contents session)
        (fun _ => True) :=
  fun session => triple_downloadFrom listed (by decide) (session.link.length + 1) 0 session

/-- Each file is downloaded with what it contains, by induction on the files. -/
theorem triple_downloadFiles {some'} (listed : ∀ file ∈ some', file ∈ files)
    : Triple (Keeps deviceId files contents) (downloadFiles some')
        (fun found session => found = some'.map (fun file => (file, contents file))
          ∧ Keeps deviceId files contents session)
        (fun _ => True) := by
  induction some' with
  | nil => exact .pure fun _ keeps => ⟨rfl, keeps⟩
  | cons file rest ih =>
    rw [List.forall_mem_cons] at listed
    refine .bind _ (triple_downloadFile listed.1) fun data => ?_
    rintro session ⟨rfl, keeps⟩
    refine Triple.bind _ (ih listed.2) (fun others => ?_) session keeps
    exact .pure fun _ ended => ⟨congrArg _ ended.1, ended.2⟩

theorem triple_atomicWriteFile {objectId : ObjectIdentifier} (listed : objectId ∈ files)
    (fileData : Bytes)
    : Triple (Keeps deviceId files contents)
        (atomicWriteFile objectId (.stream 0 fileData))
        (fun _ => Keeps deviceId files (FileServer.overwritten contents objectId fileData))
        (fun _ => True) := by
  refine .bind _ triple_computed fun request => ?_
  rintro session ⟨encoded, keeps⟩
  have encoded' := raising_eq_ok.mp encoded
  refine Triple.bind
    (fun _ => Keeps deviceId files (FileServer.overwritten contents objectId fileData))
    ?_ (fun response => ?_) session keeps
  · refine (@triple_confirmedRequest _ _ _ _ _ _ (fun _ => True) (fun server offers => ?_)
      fun server offers => ⟨?_, fun _ _ => trivial⟩).weaken (fun _ => id) (fun _ _ ended => ended.2)
      fun _ => id
    · rcases FileServer.write_offered offers listed encoded' with ⟨raised, refused⟩ | ⟨_, _, done, after⟩
      · rw [refused]
        exact ⟨.inl offers, nofun⟩
      · rw [done]
        exact ⟨.inr after, fun _ _ => ⟨after, trivial⟩⟩
    · rcases FileServer.write_offered offers listed encoded' with ⟨raised, refused⟩ | ⟨_, _, done, after⟩
      · rw [refused]
        exact offers
      · rw [done]
        rwa [FileServer.overwritten_again] at after
  · exact triple_computed.weaken (fun _ => id) (fun _ _ ended => ended.2) fun _ => id

def overwrittenAll (recorded : ObjectIdentifier → Bytes)
    : List ObjectIdentifier → (ObjectIdentifier → Bytes) → ObjectIdentifier → Bytes
  | [], contents => contents
  | file :: rest, contents =>
    overwrittenAll recorded rest (FileServer.overwritten contents file (recorded file))

/-- Each of the files is overwritten, however often it is listed; by induction on the list. -/
theorem overwrittenAll_eq (recorded some' contents objectId)
    : overwrittenAll recorded some' contents objectId
      = if objectId ∈ some' then overwrite 0 (contents objectId) 0 (recorded objectId)
        else contents objectId := by
  induction some' generalizing contents with
  | nil => simp [overwrittenAll]
  | cons file rest ih =>
    rw [overwrittenAll, ih, FileServer.overwritten]
    by_cases here : objectId = file
    · subst here
      simp [overwrite_zero_again]
    · simp [here]

/-- The files are overwritten one after the other, by induction on them. -/
theorem triple_uploads (recorded) {some'} (listed : ∀ file ∈ some', file ∈ files)
    : Triple (Keeps deviceId files contents)
        (Stateful.forEach (fun file : ObjectIdentifier × Bytes => do
            let _ack ← atomicWriteFile file.1 (.stream 0 file.2)
            pure ()) (some'.map fun file => (file, recorded file)))
        (fun _ => Keeps deviceId files (overwrittenAll recorded some' contents))
        (fun _ => True) := by
  induction some' generalizing contents with
  | nil => exact .pure fun _ => id
  | cons file rest ih =>
    rw [List.forall_mem_cons] at listed
    have first := @triple_atomicWriteFile deviceId files contents file listed.1 (recorded file)
    refine .bind (fun _ => Keeps deviceId files (FileServer.overwritten contents file (recorded file)))
      (.bind _ first fun _ => .pure fun _ => id) fun _ => ih listed.2

theorem identifiersIn_map (identifiers : List ObjectIdentifier)
    : identifiersIn (identifiers.map .objectIdentifier) = identifiers := by
  induction identifiers with
  | nil => rfl
  | cons identifier rest ih => exact congrArg (identifier :: ·) ih

end Rules

-- Backup and restore of what is recorded

section Recorded

variable {deviceId : ObjectIdentifier} {files : List ObjectIdentifier}
  {contents : ObjectIdentifier → Bytes}

/-- The device is found by the wildcard. -/
theorem triple_discoverDeviceOid
    : Triple (Keeps deviceId files contents) discoverDeviceOid
        (fun deviceOid session => deviceOid = deviceId ∧ Keeps deviceId files contents session)
        (fun _ => True) := by
  refine .bind (fun ack session => (∀ value, decodeAndUnwrap ack.propertyValue = .ok value →
    value = .objectIdentifier deviceId) ∧ Keeps deviceId files contents session) ?_ fun ack => ?_
  · refine triple_readProperty fun server offers response answered ack read value decoded => ?_
    obtain ⟨ref, device, found, there, _, known⟩ := offers.lists.device
    have resolved : server.server.resolveObjectId anyDevice = deviceId :=
      (if_pos ⟨rfl, rfl⟩).trans offers.lists.own
    obtain ⟨octets, encoded, same⟩ := @FileServer.answer_of_device _ _ _ .objectIdentifier _ _
      [deviceId] _ resolved offers.lists.typed found there (by decide) (by decide)
      (by rw [known, ← encodeItems_singleton]; rfl) answered
    cases read.symm.trans same
    obtain ⟨values, decodedAll, unwrapped⟩ := bind_eq_ok.mp decoded
    obtain rfl := decoded_identifiers encoded decodedAll
    exact (Except.ok.inj unwrapped).symm
  · rintro session ⟨only, keeps⟩
    refine Triple.bind (fun value session => value = .objectIdentifier deviceId
      ∧ Keeps deviceId files contents session) (triple_computed.weaken (fun _ => id)
        (fun value _ ended => ⟨only value (raising_eq_ok.mp ended.1), ended.2⟩) fun _ => id)
      (fun value => ?_) session keeps
    rintro session ⟨rfl, keeps⟩
    exact ⟨rfl, keeps⟩

theorem triple_polledState (deviceOid : ObjectIdentifier) (targetStates : List Nat)
    : Triple (Keeps deviceId files contents) (polledState deviceOid targetStates)
        (fun _ => Keeps deviceId files contents) (fun _ => True) := by
  refine .bind (fun _ => Keeps deviceId files contents) ?_ fun ack => ?_
  · exact (@triple_readProperty _ _ _ _ _ (fun _ => True) fun _ _ _ _ _ _ => trivial).weaken
      (fun _ => id) (fun _ _ ended => ended.2) fun _ => id
  · refine .bind (fun _ => Keeps deviceId files contents)
      (triple_computed.weaken (fun _ => id) (fun _ _ ended => ended.2) fun _ => id) fun decoded => ?_
    split
    · exact .pure fun _ => id
    · split
      · exact .pure fun _ => id
      · exact triple_computed.weaken (fun _ => id) (fun _ _ ended => ended.2) fun _ => id

theorem triple_poll (deviceOid : ObjectIdentifier) (targetStates : List Nat) (polls : Nat)
    : Triple (Keeps deviceId files contents)
        (pollBackupRestoreState deviceOid targetStates polls)
        (fun _ => Keeps deviceId files contents) (fun _ => True) := by
  induction polls with
  | zero =>
    refine .bind _ (triple_polledState deviceOid targetStates) fun found => ?_
    cases found with
    | none => exact .raise fun _ _ => trivial
    | some state => exact .pure fun _ => id
  | succ polls ih =>
    refine .bind _ (triple_polledState deviceOid targetStates) fun found => ?_
    cases found with
    | none => exact ih
    | some state => exact .pure fun _ => id

/-- A backup holds what the files contain. -/
theorem triple_backupDevice (password : Option String) (polls : Nat)
    : Triple (Keeps deviceId files contents) (backupDevice password polls)
        (fun data session =>
          data.configurationFiles = files.map (fun file => (file, contents file))
            ∧ Keeps deviceId files contents session)
        (fun _ => True) := by
  refine .bind _ (triple_reinitializeDevice .startBackup password) fun _ => ?_
  refine .bind _ triple_discoverDeviceOid fun deviceOid => ?_
  rintro session ⟨rfl, keeps⟩
  refine Triple.bind _ (triple_poll _ _ _) (fun _ => ?_) session keeps
  refine .bind (fun ack session => (∀ values, decodeAllApplicationValues ack.propertyValue = .ok values →
    values = files.map .objectIdentifier) ∧ Keeps deviceOid files contents session) ?_ fun ack => ?_
  · refine triple_readProperty fun server offers response answered ack read values decoded => ?_
    obtain ⟨ref, device, found, there, listed, _⟩ := offers.lists.device
    have resolved : server.server.resolveObjectId deviceOid = deviceOid := by
      unfold Server.resolveObjectId
      split
      · exact offers.lists.own
      · rfl
    obtain ⟨octets, encoded, same⟩ := @FileServer.answer_of_device _ _ _ .configurationFiles _ _
      files _ resolved offers.lists.typed found there (by decide) (by decide)
      (by rw [listed, encodePropertyValue]) answered
    cases read.symm.trans same
    exact decoded_identifiers encoded decoded
  · rintro session ⟨only, keeps⟩
    refine Triple.bind (fun values session => values = files.map .objectIdentifier
      ∧ Keeps deviceOid files contents session) (triple_computed.weaken (fun _ => id)
        (fun values _ ended => ⟨only values (raising_eq_ok.mp ended.1), ended.2⟩) fun _ => id)
      (fun values => ?_) session keeps
    rintro session ⟨rfl, keeps⟩
    rw [identifiersIn_map]
    refine Triple.bind _ (triple_downloadFiles fun _ => id) (fun found => ?_) session keeps
    rintro session ⟨rfl, keeps⟩
    refine Triple.bind _ (triple_reinitializeDevice .endBackup password) (fun _ => ?_) session
      keeps
    exact .pure fun _ keeps => ⟨rfl, keeps⟩

theorem triple_restoreDevice (recorded) (deviceInstance : Nat) (password : Option String)
    (polls : Nat)
    : Triple (Keeps deviceId files contents)
        (restoreDevice ⟨deviceInstance, files.map fun file => (file, recorded file)⟩ password polls)
        (fun _ => Keeps deviceId files (overwrittenAll recorded files contents))
        (fun _ => True) := by
  refine .bind _ (triple_reinitializeDevice .startRestore password) fun _ => ?_
  refine .bind (fun _ => Keeps deviceId files contents) (triple_discoverDeviceOid.weaken (fun _ => id)
    (fun _ _ ended => ended.2) fun _ => id) fun deviceOid => ?_
  refine .bind _ (triple_poll _ _ _) fun _ => ?_
  refine .bind _ (triple_uploads recorded fun _ => id) fun _ => ?_
  exact triple_reinitializeDevice .endRestore password

end Recorded

end Client

end BacPy
