import BacPy.Library.Overwrite
import BacPy.Objects.Classes
import BacPy.Objects.Frames

/-! `FileObject` (Clause 12.13): contents in octets or in records, and the size that goes with them. -/

namespace BacPy

open Library

/-- `FileAccessMethod` -/
def fileAccessMethodEnum : EnumType := { name := "FileAccessMethod", members := [0, 1] }

/-- The class of `FileObject`, without what its constructor adds. -/
def fileClass : ObjectClass where
  objectType := .file
  propertyDefinitions := standardProperties ++ [
    readWrite .fileType .str true (.str ""),
    readOnly .fileSize .int true (.int 0),
    readOnly .modificationDate (.other "BACnetDateTime") true,
    readWrite .archive .bool true (.bool false),
    readOnly .readOnly .bool true (.bool false),
    readOnly .fileAccessMethod (.enum fileAccessMethodEnum) true
  ]
  valueDeclared := fun declared => absurd rfl declared

structure FileObject where
  obj : BACnetObject
  fileData : Bytes := []
  recordData : List Bytes := []

namespace FileObject

/-- A computation on a file that may raise. -/
abbrev Action (Result : Type) := Stateful Raised FileObject Result

/-- `FILE_ACCESS_METHOD == FileAccessMethod.STREAM_ACCESS` -/
def isStream (file : FileObject) : Bool := (file.obj.get .fileAccessMethod).pyEq (.int 0)

/-- `FILE_ACCESS_METHOD == FileAccessMethod.RECORD_ACCESS` -/
def isRecords (file : FileObject) : Bool := (file.obj.get .fileAccessMethod).pyEq (.int 1)

def updateFileSize (file : FileObject) : FileObject :=
  let size := if file.isStream then file.fileData.length else file.recordData.length
  { file with obj := file.obj.set .fileSize (.int size) }

/-- `FileObject.__init__` -/
def construct (instanceNumber : Fin 4194304) (fileAccessMethod : Value)
    (initialProperties : List (PropertyIdentifier × Value))
    : FileObject :=
  updateFileSize
    { obj := (BACnetObject.construct fileClass instanceNumber initialProperties).set
        .fileAccessMethod fileAccessMethod }

def checkWrite (method : FileObject → Bool) : Action Unit := Stateful.consults fun file =>
  if !method file then .error (.bacnetError .services .invalidFileAccessMethod)
  else if (file.obj.get .readOnly).truthy then .error (.bacnetError .object .fileAccessDenied)
  else .ok ()

/-- Where a write starts; a negative position is the end. -/
def startOf (start : Int) (length : Nat) : Nat := if start < 0 then length else start.toNat

-- Streams

/-- `items[start:stop]`; negative bounds count from the end. -/
def slice {Item : Type} (items : List Item) (start stop : Int) : List Item :=
  let bound (index : Int) : Nat := if index < 0 then (index + items.length).toNat else index.toNat
  (items.take (bound stop)).drop (bound start)

/-- `read_stream`. The end of the file is reached when the range asked for reaches it. -/
def readStream (start : Int) (count : Nat) (file : FileObject) : Except Raised (Bytes × Bool) :=
  if !file.isStream then .error (.bacnetError .services .invalidFileAccessMethod)
  else .ok (slice file.fileData start (start + count), file.fileData.length ≤ start + count)

/-- The contents with a stream written into them, after zeros up to its start. -/
def streamInto (fileData : Bytes) (start : Nat) (data : Bytes) : Bytes :=
  let fileData :=
    if fileData.length < start then fileData ++ List.replicate (start - fileData.length) 0
    else fileData
  let afterEnd := start + data.length
  let after := if afterEnd < fileData.length then fileData.drop afterEnd else []
  fileData.take start ++ data ++ after

def writeStream (start : Int) (data : Bytes) : Action Nat := do
  checkWrite isStream
  let start ← Stateful.reads fun file => startOf start file.fileData.length
  Stateful.modifies fun file =>
    updateFileSize { file with fileData := streamInto file.fileData start data }
  pure start

-- Records

def readRecords (start : Int) (count : Nat) (file : FileObject)
    : Except Raised (List Bytes × Bool) :=
  if !file.isRecords then .error (.bacnetError .services .invalidFileAccessMethod)
  else .ok (slice file.recordData start (start + count), file.recordData.length ≤ start + count)

/-- The loop over the records: each replaces the one at its index, or is appended. -/
def storeRecords (recordData : List Bytes) (index : Nat) : List Bytes → List Bytes
  | [] => recordData
  | record :: rest =>
    let recordData :=
      if index < recordData.length then recordData.set index record else recordData ++ [record]
    storeRecords recordData (index + 1) rest

/-- The contents with records written into them, after empty records up to the first. -/
def recordsInto (recordData : List Bytes) (start : Nat) (records : List Bytes) : List Bytes :=
  storeRecords (recordData ++ List.replicate (start - recordData.length) []) start records

def writeRecords (start : Int) (records : List Bytes) : Action Nat := do
  checkWrite isRecords
  let start ← Stateful.reads fun file => startOf start file.recordData.length
  Stateful.modifies fun file =>
    updateFileSize { file with recordData := recordsInto file.recordData start records }
  pure start

-- What a write leaves

variable {file after : FileObject} {start : Int} {returned : Nat}

/-- A stream is written over the octets at its positions. -/
theorem streamInto_eq (fileData : Bytes) (start : Nat) (data : Bytes)
    : streamInto fileData start data = overwrite 0 fileData start data := by
  have long : (if fileData.length < start then
        fileData ++ List.replicate (start - fileData.length) (0 : UInt8)
      else fileData) = extended 0 fileData start := by
    unfold extended
    split
    · rfl
    · next notShort =>
        rw [Nat.sub_eq_zero_of_le (Nat.le_of_not_lt notShort), List.replicate_zero,
          List.append_nil]
  unfold streamInto overwrite
  dsimp only
  rw [long]
  split
  · rfl
  · next atEnd => rw [List.drop_eq_nil_of_le (Nat.le_of_not_lt atEnd)]

/-- The loop over the records puts them in the place of those at their indices, by induction on
them.
-/
theorem storeRecords_eq {recordData index} (inside : index ≤ recordData.length)
    (records : List Bytes)
    : storeRecords recordData index records
      = recordData.take index ++ records ++ recordData.drop (index + records.length) := by
  induction records generalizing recordData index with
  | nil =>
    rw [storeRecords, List.append_nil, List.length_nil, Nat.add_zero, List.take_append_drop]
  | cons record rest ih =>
    rw [storeRecords]
    have shifted : index + (record :: rest).length = index + 1 + rest.length := by
      rw [List.length_cons]
      omega
    rw [shifted]
    by_cases within : index < recordData.length
    · have bound : index + 1 ≤ (recordData.set index record).length := by
        rw [List.length_set]
        exact within
      rw [if_pos within, ih bound, List.drop_set_of_lt (by omega)]
      rw [List.take_add_one, List.take_set_of_le (Nat.le_refl index),
        List.getElem?_set_self within]
      simp
    · have atEnd : index = recordData.length := by omega
      have bound : index + 1 ≤ (recordData ++ [record]).length := by
        rw [List.length_append, atEnd]
        simp
      rw [if_neg within, ih bound, List.drop_eq_nil_of_le (by simp; omega),
        List.drop_eq_nil_of_le (by omega)]
      subst atEnd
      rw [List.take_of_length_le (by simp), List.take_length]
      simp

/-- Records are written over those at their indices. -/
theorem recordsInto_eq (recordData : List Bytes) (start : Nat) (records : List Bytes)
    : recordsInto recordData start records = overwrite [] recordData start records := by
  have inside : start ≤ (extended [] recordData start).length := by
    rw [length_extended]
    exact Nat.le_max_right ..
  exact storeRecords_eq inside records

-- Writes

/-- The access method of an AtomicWriteFile request. -/
inductive Write where
  | stream (start : Int) (data : Bytes)
  | records (start : Int) (records : List Bytes)

/-- What `handle_atomic_write_file` does with a file. -/
def write : Write → Action Nat
  | .stream start data => writeStream start data
  | .records start records => writeRecords start records

/-- The write suits the access method of the file, which is not read-only. -/
def Accepts (file : FileObject) (write : Write) : Prop :=
  (match write with
    | .stream .. => file.isStream
    | .records .. => file.isRecords)
  ∧ ¬ (file.obj.get .readOnly).truthy

def Sized (file : FileObject) : Prop :=
  file.obj.get .fileSize
    = .int (if file.isStream then file.fileData.length else file.recordData.length : Nat)

/-- Items are stored from a position on, or at the end for a negative one. -/
structure Stores {Item : Type} (fill : Item) (old : List Item) (start : Int) (items new : List Item)
    (returned : Nat)
    : Prop where
  inPlace : 0 ≤ start → returned = start ∧ Overwritten fill old start.toNat items new
  atEnd : start < 0 → returned = old.length ∧ new = old ++ items

/-- A write stores its octets or records, and keeps the other form of the contents. -/
def Performs (file : FileObject) (returned : Nat) (after : FileObject) : Write → Prop
  | .stream start data =>
    Stores 0 file.fileData start data after.fileData returned
      ∧ after.recordData = file.recordData
  | .records start records =>
    Stores [] file.recordData start records after.recordData returned
      ∧ after.fileData = file.fileData

/-- The size is kept in step with the contents. -/
theorem sized_updateFileSize (file : FileObject) : (updateFileSize file).Sized := by
  have method : (updateFileSize file).isStream = file.isStream := by
    unfold isStream updateFileSize
    rw [BACnetObject.get_set_ne (by decide)]
  unfold Sized
  rw [method]
  unfold updateFileSize
  dsimp only
  rw [BACnetObject.get_set_self _ (by decide)]

theorem sized_construct (instanceNumber : Fin 4194304) (fileAccessMethod : Value)
    (initialProperties)
    : (construct instanceNumber fileAccessMethod initialProperties).Sized :=
  sized_updateFileSize _

theorem stores_overwrite {Item : Type} (fill : Item) (old items : List Item) (start : Int)
    : Stores fill old start items (overwrite fill old (startOf start old.length) items)
        (startOf start old.length) := by
  unfold startOf
  refine ⟨fun inPlace => ?_, fun atEnd => ?_⟩
  · rw [if_neg (by omega)]
    exact ⟨Int.toNat_of_nonneg inPlace, overwritten_overwrite old⟩
  · rw [if_pos atEnd]
    exact ⟨rfl, overwrite_length old⟩

theorem checkWrite_ok {method} (suits : method file) (writable : ¬ (file.obj.get .readOnly).truthy)
    : checkWrite method file = (.ok (), file) := by
  unfold checkWrite
  rw [Stateful.consults_apply]
  simp [suits, writable]

theorem checkWrite_refused {method} (refused : ¬ (method file ∧ ¬ (file.obj.get .readOnly).truthy))
    : ∃ raised, checkWrite method file = (.error raised, file) := by
  unfold checkWrite
  rw [Stateful.consults_apply]
  by_cases suits : method file
  · have denied : (file.obj.get .readOnly).truthy := by
      by_contra writable
      exact refused ⟨suits, writable⟩
    exact ⟨.bacnetError .object .fileAccessDenied, by simp [suits, denied]⟩
  · exact ⟨.bacnetError .services .invalidFileAccessMethod, by simp [suits]⟩

theorem writeStream_accepted (suits : file.isStream) (writable : ¬ (file.obj.get .readOnly).truthy)
    (start : Int) (data : Bytes)
    : writeStream start data file
      = (.ok (startOf start file.fileData.length), updateFileSize { file with
          fileData := overwrite 0 file.fileData (startOf start file.fileData.length) data }) := by
  unfold writeStream
  rw [Stateful.bind_apply, checkWrite_ok suits writable, ← streamInto_eq]
  rfl

theorem writeRecords_accepted (suits : file.isRecords)
    (writable : ¬ (file.obj.get .readOnly).truthy) (start : Int) (records : List Bytes)
    : writeRecords start records file
      = (.ok (startOf start file.recordData.length), updateFileSize { file with
          recordData :=
            overwrite [] file.recordData (startOf start file.recordData.length) records }) := by
  unfold writeRecords
  rw [Stateful.bind_apply, checkWrite_ok suits writable, ← recordsInto_eq]
  rfl

theorem write_accepted (request : Write) (accepts : file.Accepts request)
    : ∃ returned after, write request file = (.ok returned, after)
        ∧ Performs file returned after request ∧ after.Sized := by
  obtain ⟨suits, writable⟩ := accepts
  cases request with
  | stream start data =>
    exact ⟨_, _, writeStream_accepted suits writable start data, ⟨stores_overwrite .., rfl⟩,
      sized_updateFileSize _⟩
  | records start records =>
    exact ⟨_, _, writeRecords_accepted suits writable start records, ⟨stores_overwrite .., rfl⟩,
      sized_updateFileSize _⟩

/-- Any other write raises and changes nothing. -/
theorem write_refused (request : Write) (refused : ¬ file.Accepts request)
    : ∃ raised, write request file = (.error raised, file) := by
  cases request with
  | stream start data =>
    obtain ⟨raised, checked⟩ := checkWrite_refused refused
    refine ⟨raised, ?_⟩
    change (checkWrite isStream >>= fun _ => _) file = _
    rw [Stateful.bind_apply, checked]
  | records start records =>
    obtain ⟨raised, checked⟩ := checkWrite_refused refused
    refine ⟨raised, ?_⟩
    change (checkWrite isRecords >>= fun _ => _) file = _
    rw [Stateful.bind_apply, checked]

def afterWrites (file : FileObject) (requests : List Write) : FileObject :=
  requests.foldl (fun file request => (write request file).2) file

/-- Every write keeps the size in step, by induction on the writes. -/
theorem sized_afterWrites (sized : file.Sized) (requests : List Write)
    : (file.afterWrites requests).Sized := by
  unfold afterWrites
  induction requests generalizing file with
  | nil => exact sized
  | cons request rest ih =>
    apply ih
    dsimp only
    by_cases accepts : file.Accepts request
    · obtain ⟨_, after, written, _, sizedAfter⟩ := write_accepted request accepts
      rw [written]
      exact sizedAfter
    · obtain ⟨_, unchanged⟩ := write_refused request accepts
      rw [unchanged]
      exact sized

/-- Every write that is accepted stores its data where it says and nowhere else, any other changes
nothing, and after all writes the size is that of the contents.
-/
theorem fileStorage_laws
    : (∀ (file : FileObject) (request : Write),
        (file.Accepts request → ∃ returned after, write request file = (.ok returned, after)
          ∧ Performs file returned after request)
        ∧ (¬ file.Accepts request → ∃ raised, write request file = (.error raised, file)))
      ∧ ∀ instanceNumber fileAccessMethod initialProperties requests,
        ((construct instanceNumber fileAccessMethod initialProperties).afterWrites requests).Sized := by
  refine ⟨fun file request => ⟨fun accepts => ?_, write_refused request⟩, ?_⟩
  · obtain ⟨returned, after, written, performs, _⟩ := write_accepted request accepts
    exact ⟨returned, after, written, performs⟩
  · intro instanceNumber fileAccessMethod initialProperties requests
    exact sized_afterWrites (sized_construct ..) requests

end FileObject

end BacPy
