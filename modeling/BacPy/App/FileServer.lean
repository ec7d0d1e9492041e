import BacPy.App.Server
import BacPy.Objects.File
import BacPy.Objects.Presence
import BacPy.Services.FileAccess
import BacPy.Services.ReadPropertyAnswers

/-! `DefaultServerHandlers`: the services that read and write files, and the one that starts and ends
backups and restores.
-/

namespace BacPy

open Library
open BACnetObject (Agrees agrees_set)

/-- The contents of a `FileObject`. -/
structure FileContents where
  fileData : Bytes := []
  recordData : List Bytes := []

/-- A server with the contents of its File objects, by their references, and the password of its
configuration.
-/
structure FileServer where
  server : Server := {}
  contents : Dict Nat FileContents := .empty
  password : Option String := none

inductive ReinitializedState where
  | coldstart | warmstart | startBackup | endBackup | startRestore | endRestore | abortRestore
  | activateChanges

structure ReinitializeDeviceRequest where
  reinitializedState : ReinitializedState
  password : Option String := none

/-- `DeviceStatus` -/
def deviceStatusEnum : EnumType := { name := "DeviceStatus", members := [0, 1, 2, 3, 4, 5] }

/-- `BackupAndRestoreState` -/
def backupAndRestoreStateEnum : EnumType :=
  { name := "BackupAndRestoreState", members := [0, 1, 2, 3, 4] }

namespace BackupAndRestoreState

def idle : Nat := 0
def preparingForBackup : Nat := 1
def preparingForRestore : Nat := 2
def performingABackup : Nat := 3
def performingARestore : Nat := 4

end BackupAndRestoreState

namespace DeviceStatus

def operational : Nat := 0
def downloadInProgress : Nat := 3
def backupInProgress : Nat := 5

end DeviceStatus

namespace FileServer

/-- A computation of the handlers that may raise. -/
abbrev Action (Result : Type) := Stateful Raised FileServer Result

-- Files

def fileBehind (server : FileServer) (ref : Nat) : Option FileObject :=
  match server.server.db.heap.get ref with
  | none => none
  | some obj =>
    if obj.cls.objectType = .file then
      let contents := (server.contents.get ref).getD {}
      some { obj, fileData := contents.fileData, recordData := contents.recordData }
    else none

def modifyObject (ref : Nat) (change : BACnetObject → BACnetObject) (server : FileServer)
    : FileServer :=
  { server with server := { server.server with db := server.server.db.modify ref change } }

/-- What has become of the File object behind a reference. -/
def storeFile (ref : Nat) (file : FileObject) (server : FileServer) : FileServer :=
  { modifyObject ref (fun _ => file.obj) server with
    contents := server.contents.set ref { fileData := file.fileData, recordData := file.recordData } }

def lookupFile (server : FileServer) (objectId : ObjectIdentifier)
    : Except Raised (Nat × FileObject) :=
  match server.server.db.get (server.server.resolveObjectId objectId) with
  | none => .error (.bacnetError .object .unknownObject)
  | some ref =>
    match server.fileBehind ref with
    | none => .error (.bacnetError .object .inconsistentObjectType)
    | some file => .ok (ref, file)

def handleAtomicReadFile (data : Bytes) (server : FileServer) : Except Raised Bytes := do
  let request ← AtomicReadFileRequest.decode.run data
  let (_, file) ← server.lookupFile request.fileIdentifier
  let ack : AtomicReadFileACK ← match request.accessMethod with
    | .stream fileStartPosition requestedOctetCount => do
        let (fileData, endOfFile) ← file.readStream fileStartPosition requestedOctetCount
        .ok { endOfFile, accessMethod := .stream fileStartPosition fileData }
    | .records fileStartRecord requestedRecordCount => do
        let (records, endOfFile) ← file.readRecords fileStartRecord requestedRecordCount
        .ok { endOfFile, accessMethod := .records fileStartRecord records.length records }
  raising ack.encode

def writeOf : WriteAccess → FileObject.Write
  | .stream fileStartPosition fileData => .stream fileStartPosition fileData
  | .records fileStartRecord _ fileRecordData => .records fileStartRecord fileRecordData

/-- `isinstance(request.access_method, StreamWriteAccess)` -/
def isStreamWrite : WriteAccess → Bool
  | .stream _ _ => true
  | .records _ _ _ => false

def handleAtomicWriteFile (data : Bytes) : Action Bytes := do
  let request ← Stateful.lift (AtomicWriteFileRequest.decode.run data)
  let (ref, file) ← Stateful.consults fun server => server.lookupFile request.fileIdentifier
  let written := FileObject.write (writeOf request.accessMethod) file
  Stateful.modifies (storeFile ref written.2)
  let actualStart ← Stateful.lift written.1
  let ack : AtomicWriteFileACK :=
    { isStream := isStreamWrite request.accessMethod, fileStart := actualStart }
  Stateful.lift (raising ack.encode)

-- ReinitializeDevice

def validatePassword (password : Option String) : Action Unit := Stateful.consults fun server =>
  match server.password, password with
  | none, none => .ok ()
  | some expected, some password =>
    if password = expected then .ok () else .error (.bacnetError .security .passwordFailure)
  | _, _ => .error (.bacnetError .security .passwordFailure)

/-- `BACKUP_AND_RESTORE_STATE` of the device. -/
def backupAndRestoreState (server : FileServer) : Value :=
  ((server.server.db.heap.get server.server.device).bind fun device =>
    device.stored .backupAndRestoreState).getD
      (.enum backupAndRestoreStateEnum BackupAndRestoreState.idle)

def onDevice (change : BACnetObject → BACnetObject) : Action Unit :=
  Stateful.modifies fun server => modifyObject server.server.device change server

def transition (allowed : List Nat) (systemStatus backupAndRestoreState : Nat) : Action Unit := do
  Stateful.refuseIf (fun server => ¬ ∃ state ∈ allowed,
      server.backupAndRestoreState.pyEq (.enum backupAndRestoreStateEnum state))
    (.bacnetError .device .other)
  onDevice fun device =>
    (device.set .systemStatus (.enum deviceStatusEnum systemStatus)).set .backupAndRestoreState
      (.enum backupAndRestoreStateEnum backupAndRestoreState)

/-- `BACnetTimeStamp(choice=1, value=0)`: no encoder of properties knows its class. -/
def restored : Value :=
  .other {
    label := 0
    hashable := true
    encoding := .error (.typeError "Cannot encode value of type BACnetTimeStamp")
    encodingAsReal := .error (.typeError "Cannot encode value of type BACnetTimeStamp")
  }

open BackupAndRestoreState in
def handleReinitializeDevice (request : ReinitializeDeviceRequest) : Action Unit := do
  validatePassword request.password
  match request.reinitializedState with
  | .startBackup => transition [idle] DeviceStatus.backupInProgress preparingForBackup
  | .endBackup =>
    transition [preparingForBackup, performingABackup] DeviceStatus.operational idle
  | .startRestore => transition [idle] DeviceStatus.downloadInProgress preparingForRestore
  | .endRestore => do
      transition [preparingForRestore, performingARestore] DeviceStatus.operational idle
      onDevice fun device => device.set .lastRestoreTime restored
  | .abortRestore =>
    transition [preparingForRestore, performingARestore] DeviceStatus.operational idle
  | .coldstart | .warmstart | .activateChanges => pure ()

-- Files that are offered

/-- The reference is that of a stream that may be written, with these contents. -/
structure IsStreamFile (server : FileServer) (objectId : ObjectIdentifier) (ref : Nat)
    (fileData : Bytes) : Prop where
  found : server.server.db.get objectId = some ref
  typed : objectId.objectType = .file
  file : ∃ file, server.fileBehind ref = some file ∧ file.obj.objectId = objectId
    ∧ file.isStream = true ∧ ¬ (file.obj.get .readOnly).truthy ∧ file.fileData = fileData

/-- The device with this identifier lists the files, and knows its identifier. -/
structure Lists (server : FileServer) (deviceId : ObjectIdentifier) (files : List ObjectIdentifier)
    : Prop where
  own : server.server.deviceId = deviceId
  typed : deviceId.objectType = .device
  device : ∃ ref device, server.server.db.get deviceId = some ref
    ∧ server.server.db.heap.get ref = some device
    ∧ device.get .configurationFiles = .list (files.map .objectIdentifier)
    ∧ device.get .objectIdentifier = .objectIdentifier deviceId

/-- The device lists the files, which are streams that may be written and have these contents. -/
structure Offers (server : FileServer) (deviceId : ObjectIdentifier) (files : List ObjectIdentifier)
    (contents : ObjectIdentifier → Bytes) : Prop where
  lists : server.Lists deviceId files
  each : ∀ objectId ∈ files, ∃ ref, server.IsStreamFile objectId ref (contents objectId)

variable {server : FileServer} {deviceId : ObjectIdentifier} {files : List ObjectIdentifier}
  {contents : ObjectIdentifier → Bytes}

theorem fileBehind_eq_some {ref file}
    : server.fileBehind ref = some file ↔ server.server.db.heap.get ref = some file.obj
      ∧ file.obj.cls.objectType = .file
      ∧ file.fileData = ((server.contents.get ref).getD {}).fileData
      ∧ file.recordData = ((server.contents.get ref).getD {}).recordData := by
  unfold fileBehind
  constructor
  · intro behind
    split at behind
    · cases behind
    · next found =>
        obtain ⟨isFile, behind⟩ := Option.ite_none_right_eq_some.mp behind
        cases behind
        exact ⟨found, isFile, rfl, rfl⟩
  · rintro ⟨found, isFile, fileData, recordData⟩
    rw [found]
    dsimp only
    rw [if_pos isFile, ← fileData, ← recordData]

/-- The properties that tell a file that is offered, and the device that lists it. -/
def offeringProperties : List PropertyIdentifier :=
  [.fileAccessMethod, .readOnly, .configurationFiles, .objectIdentifier]

section Frames

variable {touched : List PropertyIdentifier} {ref : Nat} {change : BACnetObject → BACnetObject}

/-- Another object, or what has become of the same one. -/
theorem object_modifyObject {other obj}
    (keeps : ∀ obj, server.server.db.heap.get ref = some obj →
      Agrees touched obj (change obj))
    (there : server.server.db.heap.get other = some obj)
    : ∃ after, (modifyObject ref change server).server.db.heap.get other = some after
        ∧ Agrees touched obj after := by
  unfold modifyObject
  dsimp only
  rw [ObjectDatabase.heap_modify]
  split
  · next same =>
      rw [same] at there
      rw [there]
      exact ⟨_, rfl, keeps obj there⟩
  · exact ⟨obj, there, .refl obj⟩

theorem get_modifyObject (objectId)
    : (modifyObject ref change server).server.db.get objectId = server.server.db.get objectId := by
  unfold modifyObject ObjectDatabase.get
  dsimp only
  rw [ObjectDatabase.objects_modify]

theorem Lists.modifyObject (lists : server.Lists deviceId files)
    (keeps : ∀ obj, server.server.db.heap.get ref = some obj →
      Agrees touched obj (change obj))
    (apart : ∀ prop ∈ offeringProperties, prop ∉ touched)
    : (modifyObject ref change server).Lists deviceId files := by
  obtain ⟨device, obj, found, there, listed, known⟩ := lists.device
  obtain ⟨after, there', agrees⟩ := object_modifyObject keeps there
  refine ⟨lists.own, lists.typed, device, after, (get_modifyObject _).trans found, there', ?_, ?_⟩
  · rw [agrees.get (apart _ (by decide)), listed]
  · rw [agrees.get (apart _ (by decide)), known]

/-- A stream that may be written stays one when other properties are changed. -/
theorem IsStreamFile.modifyObject {objectId fileData other}
    (isFile : server.IsStreamFile objectId other fileData)
    (keeps : ∀ obj, server.server.db.heap.get ref = some obj →
      Agrees touched obj (change obj))
    (apart : ∀ prop ∈ offeringProperties, prop ∉ touched)
    : (modifyObject ref change server).IsStreamFile objectId other fileData := by
  obtain ⟨file, behind, named, stream, writable, same⟩ := isFile.file
  obtain ⟨there, typed, fileData', recordData⟩ := fileBehind_eq_some.mp behind
  obtain ⟨after, there', agrees⟩ := object_modifyObject keeps there
  refine ⟨(get_modifyObject _).trans isFile.found, isFile.typed, { file with obj := after },
    fileBehind_eq_some.mpr ⟨there', ?_, fileData', recordData⟩, ?_, ?_, ?_, same⟩
  · rw [agrees.cls, typed]
  · rw [agrees.objectId, named]
  · rw [FileObject.isStream, agrees.get (apart _ (by decide))]
    exact stream
  · rwa [agrees.get (apart _ (by decide))]

theorem Offers.modifyObject (offers : server.Offers deviceId files contents)
    (keeps : ∀ obj, server.server.db.heap.get ref = some obj →
      Agrees touched obj (change obj))
    (apart : ∀ prop ∈ offeringProperties, prop ∉ touched)
    : (modifyObject ref change server).Offers deviceId files contents where
  lists := offers.lists.modifyObject keeps apart
  each objectId listed := by
    obtain ⟨other, isFile⟩ := offers.each objectId listed
    exact ⟨other, isFile.modifyObject keeps apart⟩

end Frames

theorem offers_onDevice {change touched}
    (keeps : ∀ obj, Agrees touched obj (change obj))
    (apart : ∀ prop ∈ offeringProperties, prop ∉ touched)
    : Stateful.Preserves (fun server => server.Offers deviceId files contents) (onDevice change) :=
  .modifies fun _ offers => offers.modifyObject (fun obj _ => keeps obj) apart

theorem offers_transition (allowed : List Nat) (systemStatus backupAndRestoreState : Nat)
    : Stateful.Preserves (fun server => server.Offers deviceId files contents)
        (transition allowed systemStatus backupAndRestoreState) := by
  refine .bind (.refuseIf (fun _ offers _ => offers) fun _ offers _ => offers) fun _ => ?_
  refine @offers_onDevice _ _ _ _ [.systemStatus, .backupAndRestoreState] (fun obj => ?_) (by decide)
  exact (agrees_set _ (by decide)).trans (agrees_set _ (by decide))

/-- Whatever ReinitializeDevice does, the files stay as they were. -/
theorem offers_handleReinitializeDevice (request)
    : Stateful.Preserves (fun server => server.Offers deviceId files contents)
        (handleReinitializeDevice request) := by
  refine .bind (.consults _) fun _ => ?_
  cases request.reinitializedState with
  | startBackup | endBackup | startRestore | abortRestore => exact offers_transition _ _ _
  | endRestore =>
    refine .bind (offers_transition _ _ _) fun _ => ?_
    exact @offers_onDevice _ _ _ _ [.lastRestoreTime]
      (fun obj => agrees_set _ (by decide)) (by decide)
  | coldstart | warmstart | activateChanges => exact .pure ()

-- Writes to files

/-- A write changes the size and nothing else of the object. -/
theorem agrees_write (request) (file : FileObject)
    : Agrees [.fileSize] file.obj (FileObject.write request file).2.obj := by
  by_cases accepts : file.Accepts request
  · obtain ⟨suits, writable⟩ := accepts
    cases request with
    | stream start data =>
      rw [FileObject.write, FileObject.writeStream_accepted suits writable]
      exact agrees_set _ (by decide)
    | records start records =>
      rw [FileObject.write, FileObject.writeRecords_accepted suits writable]
      exact agrees_set _ (by decide)
  · obtain ⟨_, unchanged⟩ := FileObject.write_refused request accepts
    rw [unchanged]
    exact .refl _

section Stored

variable {ref other : Nat} {file after : FileObject} {objectId : ObjectIdentifier} {fileData : Bytes}

/-- The file that is stored has its new contents. -/
theorem IsStreamFile.stored (isFile : server.IsStreamFile objectId ref fileData)
    (behind : server.fileBehind ref = some file)
    (agrees : Agrees [.fileSize] file.obj after.obj)
    : (storeFile ref after server).IsStreamFile objectId ref after.fileData := by
  have found := (fileBehind_eq_some.mp behind).1
  obtain ⟨same, behind', named, stream, writable, _⟩ := isFile.file
  cases behind.symm.trans behind'
  refine ⟨(get_modifyObject _).trans isFile.found, isFile.typed, after, ?_, ?_, ?_, ?_, rfl⟩
  · refine fileBehind_eq_some.mpr ⟨?_, ?_, ?_, ?_⟩
    · unfold storeFile FileServer.modifyObject
      dsimp only
      rw [ObjectDatabase.heap_modify, if_pos rfl, found]
      rfl
    · rw [agrees.cls]
      exact (fileBehind_eq_some.mp behind).2.1
    · simp [storeFile]
    · simp [storeFile]
  · rw [agrees.objectId, named]
  · rw [FileObject.isStream, agrees.get (by decide)]
    exact stream
  · rwa [agrees.get (by decide)]

/-- Any other file is what it was. -/
theorem IsStreamFile.stored_ne (isFile : server.IsStreamFile objectId other fileData)
    (different : other ≠ ref) (behind : server.fileBehind ref = some file)
    (agrees : Agrees [.fileSize] file.obj after.obj)
    : (storeFile ref after server).IsStreamFile objectId other fileData := by
  have keeps (obj : BACnetObject) (there : server.server.db.heap.get ref = some obj)
      : Agrees [.fileSize] obj after.obj := by
    rw [(fileBehind_eq_some.mp behind).1] at there
    exact Option.some.inj there ▸ agrees
  have changed := @IsStreamFile.modifyObject _ _ ref (fun _ => after.obj) _ _ _ isFile keeps
    (by decide)
  obtain ⟨there, behind', named⟩ := changed.file
  obtain ⟨found, typed, fileData', recordData⟩ := fileBehind_eq_some.mp behind'
  refine ⟨changed.found, changed.typed, there, fileBehind_eq_some.mpr ⟨found, typed, ?_, ?_⟩, named⟩
  · rw [fileData', storeFile]
    dsimp only
    rw [Dict.get_set_ne different]
    rfl
  · rw [recordData, storeFile]
    dsimp only
    rw [Dict.get_set_ne different]
    rfl

theorem Lists.stored (lists : server.Lists deviceId files) (behind : server.fileBehind ref = some file)
    (agrees : Agrees [.fileSize] file.obj after.obj)
    : (storeFile ref after server).Lists deviceId files := by
  have keeps (obj : BACnetObject) (there : server.server.db.heap.get ref = some obj)
      : Agrees [.fileSize] obj after.obj := by
    rw [(fileBehind_eq_some.mp behind).1] at there
    exact Option.some.inj there ▸ agrees
  have changed := @Lists.modifyObject _ _ _ _ ref (fun _ => after.obj) lists keeps (by decide)
  exact ⟨changed.own, changed.typed, changed.device⟩

/-- When a file is stored, the files of its reference have its contents and the others theirs. -/
theorem Offers.stored (offers : server.Offers deviceId files contents)
    (behind : server.fileBehind ref = some file)
    (agrees : Agrees [.fileSize] file.obj after.obj)
    : (storeFile ref after server).Offers deviceId files fun objectId =>
        if server.server.db.get objectId = some ref then after.fileData else contents objectId where
  lists := offers.lists.stored behind agrees
  each objectId listed := by
    obtain ⟨other, isFile⟩ := offers.each objectId listed
    rw [isFile.found]
    by_cases same : other = ref
    · subst same
      rw [if_pos rfl]
      exact ⟨other, isFile.stored behind agrees⟩
    · rw [if_neg fun found => same (Option.some.inj found)]
      exact ⟨other, isFile.stored_ne same behind agrees⟩

end Stored

-- The handlers of offered files

section Handlers

variable {objectId : ObjectIdentifier} {ref : Nat} {fileData data response octets : Bytes}

theorem lookupFile_offered (isFile : server.IsStreamFile objectId ref fileData)
    : ∃ file, server.fileBehind ref = some file ∧ server.lookupFile objectId = .ok (ref, file)
        ∧ file.obj.objectId = objectId ∧ file.isStream = true
        ∧ ¬ (file.obj.get .readOnly).truthy ∧ file.fileData = fileData := by
  obtain ⟨file, behind, named, stream, writable, same⟩ := isFile.file
  have own : server.server.resolveObjectId objectId = objectId := by
    unfold Server.resolveObjectId
    rw [if_neg]
    rintro ⟨device, _⟩
    exact absurd (isFile.typed.symm.trans device) (by decide)
  refine ⟨file, behind, ?_, named, stream, writable, same⟩
  unfold lookupFile
  rw [own, isFile.found]
  dsimp only
  rw [behind]

/-- What is read of a file that is offered, at a position and at most so much. -/
theorem read_offered (isFile : server.IsStreamFile objectId ref fileData) {start count : Nat}
    (few : count ≤ 1048576)
    (encoded : AtomicReadFileRequest.encode ⟨objectId, .stream start count⟩ = .ok data)
    (answered : handleAtomicReadFile data server = .ok response)
    : AtomicReadFileACK.decode.run response = .ok {
        endOfFile := fileData.length ≤ start + count
        accessMethod := .stream start ((fileData.take (start + count)).drop start)
      } := by
  have fits := AtomicReadFileRequest.fits_start encoded
  have small : count ≤ 0xFFFFFFFF := by omega
  obtain ⟨_, same, decoded⟩ := Decoder.run_of_carries
    (@AtomicReadFileRequest.carries ⟨objectId, .stream start count⟩ ⟨fits, small⟩) trivial
  cases encoded.symm.trans same
  obtain ⟨file, behind, looked, _, stream, _, rfl⟩ := lookupFile_offered isFile
  have part : FileObject.slice file.fileData start (start + count : Nat)
      = (file.fileData.take (start + count)).drop start := by
    rw [FileObject.slice]
    dsimp only
    rw [if_neg (by omega), if_neg (by omega), Int.toNat_natCast, Int.toNat_natCast]
  have short : ((file.fileData.take (start + count)).drop start).length ≤ 1048576 := by
    rw [List.length_drop, List.length_take]
    omega
  unfold handleAtomicReadFile at answered
  rw [decoded] at answered
  simp only [bind, Except.bind, looked, FileObject.readStream, stream, Bool.not_true,
    Bool.false_eq_true, if_false, ← Int.natCast_add, part, Int.ofNat_le] at answered
  obtain ⟨_, same, read⟩ := Decoder.run_of_carries (@AtomicReadFileACK.carries
    ⟨file.fileData.length ≤ start + count, .stream start _⟩ ⟨fits, short⟩) trivial
  cases (raising_eq_ok.mp answered).symm.trans same
  exact read

/-- The file with this identifier has been overwritten from its beginning. -/
def overwritten (contents : ObjectIdentifier → Bytes) (objectId : ObjectIdentifier) (fileData : Bytes)
    : ObjectIdentifier → Bytes := fun other =>
  if other = objectId then overwrite 0 (contents other) 0 fileData else contents other

theorem overwritten_again (contents objectId) (fileData : Bytes)
    : overwritten (overwritten contents objectId fileData) objectId fileData
      = overwritten contents objectId fileData := by
  funext other
  unfold overwritten
  split
  · exact overwrite_zero_again _
  · rfl

theorem Offers.congr {others} (offers : server.Offers deviceId files contents)
    (same : ∀ objectId ∈ files, contents objectId = others objectId)
    : server.Offers deviceId files others :=
  ⟨offers.lists, fun objectId listed => same objectId listed ▸ offers.each objectId listed⟩

/-- A stream that is written from the beginning of a file that is offered is refused, or is there
afterwards.
-/
theorem write_offered (offers : server.Offers deviceId files contents) (listed : objectId ∈ files)
    (encoded : AtomicWriteFileRequest.encode ⟨objectId, .stream 0 fileData⟩ = .ok octets)
    : (∃ raised, handleAtomicWriteFile octets server = (.error raised, server))
      ∨ ∃ response after, handleAtomicWriteFile octets server = (.ok response, after)
        ∧ after.Offers deviceId files (overwritten contents objectId fileData) := by
  obtain ⟨ref, isFile⟩ := offers.each objectId listed
  have start : FitsSigned 0 := ⟨by decide, by decide⟩
  by_cases long : 1048576 < fileData.length
  · obtain ⟨_, failure, same, failed⟩ := long_stream_fails objectId start long
      (AtomicWriteFileRequest.small_data encoded)
    cases encoded.symm.trans same
    refine .inl ⟨failure, ?_⟩
    unfold handleAtomicWriteFile
    rw [Stateful.bind_apply, Stateful.lift_apply, failed]
  · obtain ⟨_, same, decoded⟩ := Decoder.run_of_carries
      (@AtomicWriteFileRequest.carries ⟨objectId, .stream 0 fileData⟩ ⟨start, by omega⟩) trivial
    cases encoded.symm.trans same
    obtain ⟨file, behind, looked, named, stream, writable, old⟩ := lookupFile_offered isFile
    obtain ⟨response, acknowledged, _⟩ := Decoder.run_of_carries
      (@AtomicWriteFileACK.carries ⟨true, 0⟩ start) trivial
    have written : FileObject.write (.stream 0 fileData) file = (.ok 0, FileObject.updateFileSize
        { file with fileData := overwrite 0 file.fileData 0 fileData }) :=
      FileObject.writeStream_accepted stream writable 0 fileData
    have agrees := agrees_write (.stream 0 fileData) file
    rw [written] at agrees
    refine .inr ⟨response, _, ?_, (offers.stored behind agrees).congr fun other listed' => ?_⟩
    · unfold handleAtomicWriteFile
      simp only [Stateful.bind_apply, Stateful.lift_apply, decoded, Stateful.consults_apply, looked,
        writeOf, written, Stateful.modifies_apply, isStreamWrite]
      exact congrArg (fun outcome => (raising outcome, _)) acknowledged
    · obtain ⟨ref', isFile'⟩ := offers.each other listed'
      rw [isFile'.found, overwritten]
      by_cases same : other = objectId
      · subst same
        cases isFile.found.symm.trans isFile'.found
        rw [if_pos rfl, if_pos rfl, ← old]
        rfl
      · obtain ⟨file', behind', named', _⟩ := isFile'.file
        rw [if_neg same, if_neg]
        rintro ⟨⟩
        cases behind.symm.trans behind'
        exact same (named'.symm.trans named)

end Handlers

-- What is read of the device

/-- What is read of a whole property that is not computed is what is stored. -/
theorem readProperty_stored {obj : BACnetObject} {prop : PropertyIdentifier} {value : Value}
    (plain : prop ∉ [.propertyList, .currentCommandPriority, .statusFlags, .presentValue])
    (read : obj.readProperty prop none = .ok value)
    : value = obj.get prop := by
  simp only [List.mem_cons, List.not_mem_nil, or_false, not_or] at plain
  obtain ⟨stored, base, same⟩ := bind_eq_ok.mp read
  rw [if_neg fun reversed => plain.2.2.2 reversed.2] at same
  cases same
  unfold BACnetObject.baseReadProperty at base
  rw [if_neg plain.1, if_neg plain.2.1, if_neg plain.2.2.1] at base
  split at base
  · cases base
  · dsimp only at base
    split at base
    · cases base
    · exact (Except.ok.inj base).symm

theorem answer_of_device {objectIdentifier : ObjectIdentifier} {prop : PropertyIdentifier} {ref : Nat}
    {device : BACnetObject} {identifiers : List ObjectIdentifier} {response : Bytes}
    (resolved : server.server.resolveObjectId objectIdentifier = deviceId)
    (typed : deviceId.objectType = .device)
    (found : server.server.db.get deviceId = some ref)
    (there : server.server.db.heap.get ref = some device)
    (plain : prop ∉ [.propertyList, .currentCommandPriority, .statusFlags, .presentValue])
    (notListed : prop ∉ [.objectList, .activeCovSubscriptions])
    (holds : encodePropertyValue (device.get prop) false
      = encodeItems (identifiers.map .objectIdentifier) false)
    (answered : server.server.handleReadProperty
      { objectIdentifier, propertyIdentifier := prop } = .ok response)
    : ∃ octets, encodeItems (identifiers.map .objectIdentifier) false = .ok octets
        ∧ ReadPropertyACK.decode.run response = .ok {
            objectIdentifier := deviceId
            propertyIdentifier := prop
            propertyValue := octets
          } := by
  simp only [List.mem_cons, List.not_mem_nil, or_false, not_or] at notListed
  unfold Server.handleReadProperty at answered
  simp only [resolved, found, ObjectDatabase.object?, Option.bind_some, there] at answered
  obtain ⟨octets, encoded, acknowledged⟩ := bind_eq_ok.mp answered
  obtain ⟨value, read, property⟩ := bind_eq_ok.mp encoded
  unfold Server.readObjectProperty at read
  rw [if_neg fun listed => notListed.1 listed.2, if_neg fun listed => notListed.2 listed.2,
    ObjectDatabase.readProperty, if_neg fun listed => notListed.1 listed.2.1] at read
  obtain rfl := readProperty_stored plain read
  have items : encodeItems (identifiers.map .objectIdentifier) false = .ok octets := by
    rw [← holds]
    unfold Server.encodeProperty at property
    rw [typed] at property
    split at property
    · cases property
    · exact property
  obtain ⟨_, same, decoded⟩ := Decoder.run_of_carries (@ReadPropertyACK.carries
    { objectIdentifier := deviceId, propertyIdentifier := prop, propertyValue := octets }
    (fun _ member => absurd member (Option.not_mem_none _))
    (wellNested_identifiers items)) trivial
  cases (raising_eq_ok.mp acknowledged).symm.trans same
  exact ⟨octets, items, decoded⟩

end FileServer

end BacPy
