import BacPy.App.Backup

/-! A restore gives every file the recorded contents exactly when no file has become longer than what
is recorded of it.
-/

namespace BacPy

open Library

namespace FileServer

variable {server : FileServer} {deviceId objectId : ObjectIdentifier}
  {files : List ObjectIdentifier} {contents others : ObjectIdentifier → Bytes}

/-- A file has one contents. -/
theorem IsStreamFile.same_data {ref other fileData otherData}
    (isFile : server.IsStreamFile objectId ref fileData)
    (isAlso : server.IsStreamFile objectId other otherData)
    : fileData = otherData := by
  cases isFile.found.symm.trans isAlso.found
  obtain ⟨file, behind, _, _, _, rfl⟩ := isFile.file
  obtain ⟨file', behind', _, _, _, rfl⟩ := isAlso.file
  exact congrArg FileObject.fileData (Option.some.inj (behind.symm.trans behind'))

theorem Offers.iff_same (offers : server.Offers deviceId files others)
    : server.Offers deviceId files contents
      ↔ ∀ objectId ∈ files, others objectId = contents objectId := by
  refine ⟨fun offers' objectId listed => ?_, offers.congr⟩
  obtain ⟨_, isFile⟩ := offers.each objectId listed
  obtain ⟨_, isAlso⟩ := offers'.each objectId listed
  exact isFile.same_data isAlso

end FileServer

namespace Client

variable {deviceId : ObjectIdentifier} {files : List ObjectIdentifier}
  {contents others : ObjectIdentifier → Bytes}

/-- What a restore leaves is what is recorded if no file is longer, and only then. -/
theorem overwrittenAll_eq_recorded_iff (recorded)
    : (∀ objectId ∈ files, overwrittenAll recorded files others objectId = recorded objectId)
      ↔ ∀ objectId ∈ files, (others objectId).length ≤ (recorded objectId).length := by
  refine forall₂_congr fun objectId listed => ?_
  rw [overwrittenAll_eq, if_pos listed, overwrite_zero_eq_iff]

/-- The properties of `DeviceObject` that a backup is concerned with. -/
def restorableDeviceClass : ObjectClass where
  objectType := .device
  propertyDefinitions := standardProperties ++ [
    readOnly .systemStatus (.enum deviceStatusEnum) true
      (.enum deviceStatusEnum DeviceStatus.operational),
    readOnly .backupAndRestoreState (.enum backupAndRestoreStateEnum) false
      (.enum backupAndRestoreStateEnum BackupAndRestoreState.idle),
    readOnly .configurationFiles .list,
    readOnly .lastRestoreTime (.other "object")
  ]
  valueDeclared := fun declared => absurd rfl declared

def onlyFile : ObjectIdentifier := ⟨.file, 1⟩

def listingDevice : BACnetObject :=
  .construct restorableDeviceClass 7 [(.configurationFiles, .list [.objectIdentifier onlyFile])]

def fileObject : BACnetObject := (FileObject.construct 1 (.enum fileAccessMethodEnum 0) []).obj

def oneFile (fileData : Bytes) : FileServer where
  server := {
    db := {
      heap := (Dict.empty.set 0 listingDevice).set 1 fileObject
      objects := (Dict.empty.set ⟨.device, 7⟩ 0).set onlyFile 1
    }
    deviceId := ⟨.device, 7⟩
  }
  contents := Dict.empty.set 1 { fileData }

/-- A session in which so many requests arrive once and are answered. -/
def undisturbed (fileData : Bytes) (requests : Nat) : Session where
  server := oneFile fileData
  link := List.replicate requests {}

theorem keeps_undisturbed (fileData : Bytes) (requests : Nat)
    : Keeps ⟨.device, 7⟩ [onlyFile] (fun _ => fileData) (undisturbed fileData requests) where
  left := {
    lists := ⟨rfl, rfl, 0, listingDevice, rfl, rfl, by decide +kernel, by decide +kernel⟩
    each := by
      intro objectId listed
      obtain rfl := List.mem_singleton.mp listed
      have stream : (⟨fileObject, [], []⟩ : FileObject).isStream = true := by decide +kernel
      have writable : ¬ (fileObject.get .readOnly).truthy := by decide +kernel
      exact ⟨1, rfl, rfl, ⟨fileObject, fileData, []⟩, rfl, rfl, stream, writable, rfl⟩
  }
  right := by
    intro delivery listed server contents offers
    obtain rfl := (List.mem_replicate.mp listed).2
    exact offers

variable [JapaneseCodec]

/-- A backup holds the contents of the files. A restore of it that completes, after whatever has been
written to the files since, gives them these contents again if and only if no file is longer by then.
-/
theorem restored_iff_not_longer {password : Option String} {polls : Nat} {session : Session}
    {data : BackupData} (keeps : Keeps deviceId files contents session)
    (backedUp : (backupDevice password polls session).1 = .ok data)
    : data.configurationFiles = files.map (fun file => (file, contents file))
      ∧ ∀ (others : ObjectIdentifier → Bytes) (password : Option String) (polls : Nat)
          (later : Session), Keeps deviceId files others later →
        (restoreDevice data password polls later).1 = .ok () →
          ((restoreDevice data password polls later).2.server.Offers deviceId files contents
            ↔ ∀ file ∈ files, (others file).length ≤ (contents file).length) := by
  obtain ⟨recorded, _⟩ := Stateful.Triple.returned (triple_backupDevice password polls) keeps backedUp
  refine ⟨recorded, fun others password polls later keeps restored => ?_⟩
  obtain ⟨deviceInstance, configurationFiles⟩ := data
  obtain rfl : configurationFiles = files.map fun file => (file, contents file) := recorded
  obtain ⟨offers, _⟩ :=
    Stateful.Triple.returned (triple_restoreDevice contents deviceInstance password polls) keeps restored
  exact offers.iff_same.trans (overwrittenAll_eq_recorded_iff contents)

def threeOctets : BackupData where
  deviceInstance := 7
  configurationFiles := [(onlyFile, [1, 2, 3])]

omit [JapaneseCodec] in
/-- A file that has been overwritten with as many octets is restored. -/
theorem restored_threeOctets
    : ∃ _ : JapaneseCodec,
        (restoreDevice threeOctets none 0 (undisturbed [9, 9, 9] 5)).2.server.Offers ⟨.device, 7⟩
          [onlyFile] fun _ => [1, 2, 3] := by
  let codec : JapaneseCodec := ⟨fun _ => none⟩
  have backedUp : (backupDevice none 0 (undisturbed [1, 2, 3] 6)).1 = .ok threeOctets := by
    decide +kernel
  have restored : (restoreDevice threeOctets none 0 (undisturbed [9, 9, 9] 5)).1 = .ok () := by
    decide +kernel
  obtain ⟨_, each⟩ := restored_iff_not_longer (keeps_undisturbed [1, 2, 3] 6) backedUp
  exact ⟨codec, (each (fun _ => [9, 9, 9]) none 0 _ (keeps_undisturbed [9, 9, 9] 5) restored).mpr
    fun _ _ => Nat.le_refl 3⟩

omit [JapaneseCodec] in
/-- A file that has grown since the backup keeps its last octet. -/
theorem grown_file_not_restored
    : ¬ ∀ (_ : JapaneseCodec) (deviceId : ObjectIdentifier) (files : List ObjectIdentifier)
          (contents others : ObjectIdentifier → Bytes) (password : Option String) (polls : Nat)
          (session later : Session) (data : BackupData),
        Keeps deviceId files contents session →
        (backupDevice password polls session).1 = .ok data →
        Keeps deviceId files others later →
        (restoreDevice data password polls later).1 = .ok () →
          (restoreDevice data password polls later).2.server.Offers deviceId files contents := by
  intro inverse
  let codec : JapaneseCodec := ⟨fun _ => none⟩
  have offers := inverse codec ⟨.device, 7⟩ [onlyFile] (fun _ => [1, 2, 3]) (fun _ => [9, 9, 9, 9])
    none 0 (undisturbed [1, 2, 3] 6) (undisturbed [9, 9, 9, 9] 5) threeOctets
    (keeps_undisturbed _ _) (by decide +kernel) (keeps_undisturbed _ _) (by decide +kernel)
  obtain ⟨ref, isFile⟩ := offers.each onlyFile (List.mem_singleton_self _)
  obtain ⟨file, behind, _, _, _, same⟩ := isFile.file
  have left : (((restoreDevice threeOctets none 0 (undisturbed [9, 9, 9, 9] 5)).2.server.contents.get
      1).getD {}).fileData = [1, 2, 3, 9] := by
    decide +kernel
  have found : (restoreDevice threeOctets none 0
      (undisturbed [9, 9, 9, 9] 5)).2.server.server.db.get onlyFile = some 1 := by
    decide +kernel
  cases found.symm.trans isFile.found
  obtain ⟨_, _, stored, _⟩ := FileServer.fileBehind_eq_some.mp behind
  rw [left] at stored
  exact absurd (same.symm.trans stored) (by decide)

end Client

end BacPy
