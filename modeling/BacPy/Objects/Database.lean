import BacPy.Library.GroupedIndex
import BacPy.Objects.Base

/-! `ObjectDatabase`: the objects of a device, with their index by type and the index of names.

Objects are referred to by numbers: the database and its type index hold references to the same
objects, and an object that was removed lives on outside of it.
-/

namespace BacPy

open Library

/-- `ObjectDatabase`, with all objects that were ever made on the heap. Names are found by what
Python hashes and compares them by.
-/
structure ObjectDatabase where
  heap : Dict Nat BACnetObject := .empty
  objects : Dict ObjectIdentifier Nat := .empty
  names : Dict Value ObjectIdentifier := .empty
  typeIndex : GroupedIndex ObjectType ObjectIdentifier Nat := .empty
  deviceObj : Option Nat := none

namespace ObjectDatabase

/-- A computation on the database that may raise. -/
abbrev Action (Result : Type) := Stateful Raised ObjectDatabase Result

def get (db : ObjectDatabase) (objectId : ObjectIdentifier) : Option Nat :=
  db.objects.get objectId

def object? (db : ObjectDatabase) (objectId : ObjectIdentifier) : Option BACnetObject :=
  (db.get objectId).bind db.heap.get

def modify (db : ObjectDatabase) (ref : Nat) (change : BACnetObject → BACnetObject)
    : ObjectDatabase :=
  match db.heap.get ref with
  | none => db
  | some obj => { db with heap := db.heap.set ref (change obj) }

/-- Run a computation on the object behind a reference. -/
def onObject (ref : Nat) (program : Stateful Raised BACnetObject Unit) : Action Unit := fun db =>
  match db.heap.get ref with
  | none => (.ok (), db)
  | some obj => ((program obj).1, { db with heap := db.heap.set ref (program obj).2 })

/-- `object_list`, the oldest first. -/
def objectList (db : ObjectDatabase) : List ObjectIdentifier := db.objects.keys.reverse

def getObjectsOfType (db : ObjectDatabase) (objectType : ObjectType) : List Nat :=
  match db.typeIndex.get objectType with
  | some bucket => bucket.keys.reverse.filterMap bucket.get
  | none => []

-- Names and the revision

def validateNameUnique (name : Value) (exclude : Option ObjectIdentifier := none)
    : Action Unit :=
  Stateful.consults fun db => do
    let key ← name.hashKey
    match db.names.get key with
    | some existing =>
      if some existing ≠ exclude then propertyError .duplicateName else .ok ()
    | none => .ok ()

/-- Delete the entry of a name, if it leads to this object. -/
def forgetName (name : Value) (objectId : ObjectIdentifier) : Action Unit := fun db =>
  if name = .none then (.ok (), db)
  else
    match name.hashKey with
    | .error raised => (.error raised, db)
    | .ok key =>
      if db.names.get key = some objectId then
        (.ok (), { db with names := db.names.pop key })
      else (.ok (), db)

def enterName (name : Value) (objectId : ObjectIdentifier) : Action Unit := fun db =>
  match name.hashKey with
  | .error raised => (.error raised, db)
  | .ok key => (.ok (), { db with names := db.names.set key objectId })

def updateNameIndex (objectId : ObjectIdentifier) (oldName newName : Value) : Action Unit := do
  forgetName oldName objectId
  enterName newName objectId

/-- `current + 1` -/
def plusOne (current : Value) : Except Raised Value :=
  match current.asInt?, current.asFloat? with
  | some number, _ => .ok (.int (number + 1))
  | none, some number => .ok (.float (number + 1))
  | none, none => .error (.typeError "unsupported operand types for +")

def incrementDatabaseRevision : Action Unit := fun db =>
  match db.deviceObj with
  | none => (.ok (), db)
  | some ref =>
    onObject ref (fun device =>
      match plusOne ((device.stored .databaseRevision).getD (.int 0)) with
      | .error raised => (.error raised, device)
      | .ok revision => (.ok (), device.set .databaseRevision revision)) db

-- Objects come and go

def fresh (db : ObjectDatabase) : Nat := db.heap.firstAbsent 0

theorem get_fresh (db : ObjectDatabase) : db.heap.get db.fresh = none := Dict.get_firstAbsent ..

def allocate (db : ObjectDatabase) (obj : BACnetObject) : ObjectDatabase :=
  { db with heap := db.heap.set db.fresh obj }

/-- What `add` refuses. -/
def checkAdd (obj : BACnetObject) : Action Unit := Stateful.consults fun db => do
  if (db.get obj.objectId).isSome then
    .error (.bacnetError .object .objectIdentifierAlreadyExists)
  else if obj.get .objectName = .none then .ok ()
  else
    let key ← (obj.get .objectName).hashKey
    if (db.names.get key).isSome then .error (.bacnetError .object .duplicateName) else .ok ()

def enter (ref : Nat) (obj : BACnetObject) : Action Unit := do
  Stateful.modifies fun db => { db with
    objects := db.objects.set obj.objectId ref
    typeIndex := db.typeIndex.insert obj.objectId.objectType obj.objectId ref }
  Stateful.when (obj.get .objectName ≠ .none) (enterName (obj.get .objectName) obj.objectId)
  Stateful.modifies fun db =>
    let db := if obj.objectId.objectType = .device then { db with deviceObj := some ref } else db
    db.modify ref fun obj => { obj with attached := true }

/-- `add` of the object behind a reference -/
def add (ref : Nat) : Action Unit := fun db =>
  match db.heap.get ref with
  | none => (.ok (), db)
  | some obj => addObject ref obj db
where
  addObject (ref : Nat) (obj : BACnetObject) : Action Unit := do
    checkAdd obj
    enter ref obj
    incrementDatabaseRevision

/-- `remove` of an object that is in the database. -/
def removeObject (objectId : ObjectIdentifier) (name : Value) : Action Unit := do
  forgetName name objectId
  Stateful.modifies fun db =>
    let ref := db.get objectId
    let db := { db with
      typeIndex := db.typeIndex.remove objectId.objectType objectId
      objects := db.objects.pop objectId }
    ref.elim db fun ref => db.modify ref fun obj => { obj with attached := false }
  incrementDatabaseRevision

def remove (objectId : ObjectIdentifier) : Action Unit := fun db =>
  match db.get objectId with
  | none => (.error (.bacnetError .object .unknownObject), db)
  | some ref =>
    if objectId.objectType = .device then
      (.error (.bacnetError .object .objectDeletionNotPermitted), db)
    else
      let name := ((db.heap.get ref).map fun obj => obj.get .objectName).getD .none
      removeObject objectId name db

-- Properties

/-- `read_property`, with the Object_List of a Device from the database. -/
def readProperty (db : ObjectDatabase) (obj : BACnetObject) (prop : PropertyIdentifier)
    (arrayIndex : Option Nat := none)
    : Except Raised Value :=
  if obj.cls.virtualObjectList ∧ prop = .objectList ∧ obj.attached then
    let allIds := Value.list (db.objectList.map .objectIdentifier)
    match arrayIndex with
    | some index => BACnetObject.readElement allIds index
    | none => .ok allIds
  else obj.readProperty prop arrayIndex

/-- A rename reaches the name index, and counts as a change of the configuration. -/
def rename (obj : BACnetObject) (value : Value) : Action Unit := do
  validateNameUnique value (some obj.objectId)
  updateNameIndex obj.objectId (obj.get .objectName) value
  incrementDatabaseRevision

/-- `write_property` of an object that is behind a reference. The index of names changes before
anything is stored.
-/
def writeTo (ref : Nat) (obj : BACnetObject) (prop : PropertyIdentifier) (value : Value)
    (priority arrayIndex : Option Nat) (now : Float)
    : Action Unit := do
  Stateful.lift (obj.checkWrite prop value)
  let definition ← Stateful.lift (obj.writable prop)
  Stateful.when (prop = .objectName ∧ obj.attached) (rename obj value)
  onObject ref (BACnetObject.storeValue definition prop value priority arrayIndex now)

/-- `write_property` of the object behind a reference. -/
def writeProperty (ref : Nat) (prop : PropertyIdentifier) (value : Value)
    (priority arrayIndex : Option Nat) (now : Float)
    : Action Unit := fun db =>
  match db.heap.get ref with
  | none => (.ok (), db)
  | some obj => writeTo ref obj prop value priority arrayIndex now db

end ObjectDatabase

end BacPy
