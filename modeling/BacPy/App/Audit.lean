import BacPy.Objects.Database

/-! `AuditManager`: operations that succeeded are recorded in the buffers of Audit Log objects.
The settings it follows are properties that any value may have been written to.
-/

namespace BacPy

open Library

/-- `AuditOperation`, as far as the handlers of the object services use it. -/
inductive AuditOperation where
  | write | create | delete

/-- The bit position of an operation. -/
def AuditOperation.number : AuditOperation → Nat
  | .write => 1
  | .create => 2
  | .delete => 3

/-- `AuditLevel` -/
def auditLevelEnum : EnumType := { name := "AuditLevel", members := [0, 1, 2, 3] }

namespace BACnetObject

/-- `len(buffer) >= size` -/
def bufferFull (buffer size : Value) : Except Raised Bool :=
  match buffer.asList? with
  | none => .error (.typeError "object of this type has no len()")
  | some items =>
    if size.isNumber then
      .ok (Value.compareNumbers (.int items.length) size ∈ [some .gt, some .eq])
    else .error (.typeError "'>=' not supported between these types")

/-- The buffer after a record has been appended, the oldest one removed if it was full. -/
def appendedTo (buffer size record : Value) : Except Raised (List Value) := do
  let items := (buffer.asList?).getD []
  if ← bufferFull buffer size then
    match items with
    | [] => .error (.builtin (.indexError "pop from empty list"))
    | _ :: rest => .ok (rest ++ [record])
  else .ok (items ++ [record])

/-- The record of an operation: no encoder knows its class. -/
def auditRecord (sequenceNumber : Nat) : Value :=
  .other {
    label := sequenceNumber
    hashable := true
    encoding := .error (.typeError "Cannot encode value of type BACnetAuditLogRecord")
    encodingAsReal := .error (.typeError "Cannot encode value of type BACnetAuditLogRecord")
  }

def appendRecord : Stateful Raised BACnetObject Unit := fun obj =>
  let buffer := (obj.stored .logBuffer).getD (.list [])
  let size := (obj.stored .bufferSize).getD (.int 100)
  let logged : Stateful Raised BACnetObject Unit := fun obj =>
    let obj := { obj with sequenceCounter := obj.sequenceCounter + 1 }
    match appendedTo buffer size (auditRecord obj.sequenceCounter) with
    | .error raised => (.error raised, obj)
    | .ok items =>
      (.ok (), ((obj.set .logBuffer (.list items)).set .recordCount (.int items.length)).set
        .totalRecordCount (.int obj.sequenceCounter))
  if (obj.get .logEnable).truthy then
    if (obj.get .stopWhenFull).truthy then
      match bufferFull buffer size with
      | .error raised => (.error raised, obj)
      | .ok true => (.ok (), obj)
      | .ok false => logged obj
    else logged obj
  else (.ok (), obj)

end BACnetObject

namespace ObjectDatabase

/-- What a `for` loop over a value goes through. The characters, octets and bits of other
sequences than lists are left out, as none of them is an object identifier.
-/
def iterate : Value → Except Raised (List Value)
  | .list items => .ok items
  | .str _ | .bytes _ | .bitString _ => .ok []
  | _ => .error (.typeError "object is not iterable")

def covers (monitored : List Value) (target : ObjectIdentifier) : Bool :=
  .objectIdentifier target ∈ monitored
    ∨ .objectIdentifier ⟨target.objectType, 0x3FFFFF⟩ ∈ monitored

/-- Whether a reporter monitors an object: an empty list means every object. -/
def monitors (reporter : BACnetObject) (target : ObjectIdentifier) : Except Raised Bool := do
  let monitored := (reporter.stored .monitoredObjects).getD (.list [])
  if monitored.truthy then
    let items ← iterate monitored
    .ok (covers items target)
  else .ok true

def findReporters (target : ObjectIdentifier) : List BACnetObject → Except Raised (List BACnetObject)
  | [] => .ok []
  | reporter :: rest => do
      let monitoring ← monitors reporter target
      let later ← findReporters target rest
      .ok (if monitoring then reporter :: later else later)

def resolveAuditLevel (reporter : BACnetObject) : Nat :=
  let level := (reporter.stored .auditLevel).getD (.enum auditLevelEnum 3)
  (auditLevelEnum.members.find? fun (number : Nat) => level.pyEq (.int number)).getD 0

def bitSet (bits : BitString) (operation : AuditOperation) : Bool :=
  match bits.data[operation.number / 8]? with
  | none => false
  | some octet => octet.toNat.testBit (7 - operation.number % 8)

/-- `_should_audit`: every operation of the object services is a configuration change. -/
def shouldAudit (reporter : BACnetObject) (operation : AuditOperation) : Bool :=
  resolveAuditLevel reporter ≠ 0 &&
    match reporter.get .auditableOperations with
    | .bitString bits => bitSet bits operation
    | _ => true

def appendToLogs : Action Unit := do
  let logs ← Stateful.reads fun db => db.getObjectsOfType .auditLog
  Stateful.forEach (fun ref => onObject ref BACnetObject.appendRecord) logs

def recordOperation (operation : AuditOperation) (target : ObjectIdentifier) : Action Unit := do
  let reporters ← Stateful.consults fun db =>
    findReporters target ((db.getObjectsOfType .auditReporter).filterMap db.heap.get)
  Stateful.forEach (fun reporter =>
    Stateful.when (shouldAudit reporter operation) appendToLogs) reporters

end ObjectDatabase

end BacPy
