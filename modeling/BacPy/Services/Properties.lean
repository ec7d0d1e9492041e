import BacPy.Services.ContextFields

/-! The requests of the object access services as they are decoded, and the encoders of the
acknowledgements that carry values.
-/

namespace BacPy

-- Requests

structure PropertyReference where
  propertyIdentifier : PropertyIdentifier
  propertyArrayIndex : Option Nat := none

structure ReadPropertyRequest where
  objectIdentifier : ObjectIdentifier
  propertyIdentifier : PropertyIdentifier
  propertyArrayIndex : Option Nat := none

structure ReadAccessSpecification where
  objectIdentifier : ObjectIdentifier
  listOfPropertyReferences : List PropertyReference

structure WritePropertyRequest where
  objectIdentifier : ObjectIdentifier
  propertyIdentifier : PropertyIdentifier
  propertyValue : Bytes
  propertyArrayIndex : Option Nat := none
  priority : Option Nat := none

structure WriteAccessSpecification where
  objectIdentifier : ObjectIdentifier
  listOfProperties : List BACnetPropertyValue

/-- `AddListElementRequest` and `RemoveListElementRequest` -/
structure ListElementRequest where
  objectIdentifier : ObjectIdentifier
  propertyIdentifier : PropertyIdentifier
  listOfElements : Bytes
  propertyArrayIndex : Option Nat := none

/-- `CreateObjectRequest`: the decoder leaves one of the two specifiers out. -/
structure CreateObjectRequest where
  objectType : Option ObjectType := none
  objectIdentifier : Option ObjectIdentifier := none
  listOfInitialValues : Option (List BACnetPropertyValue) := none

-- Acknowledgements

structure ReadPropertyACK where
  objectIdentifier : ObjectIdentifier
  propertyIdentifier : PropertyIdentifier
  propertyArrayIndex : Option Nat := none
  propertyValue : Bytes := []

def ReadPropertyACK.encode (ack : ReadPropertyACK) : Except PyException Bytes := do
  let object ← encodeContextObjectId 0 ack.objectIdentifier
  let identifier ← encodeContextUnsigned 1 ack.propertyIdentifier.number
  let arrayIndex ← encodeContextOptional 2 ack.propertyArrayIndex
  .ok (object ++ identifier ++ arrayIndex ++ encodeOpeningTag 3 ++ ack.propertyValue
    ++ encodeClosingTag 3)

/-- `property_value` or `property_access_error` of a `ReadResultElement`: exactly one of the two
is given everywhere, and a decoder may find neither.
-/
inductive ReadResult where
  | value (propertyValue : Bytes)
  | error (errorClass : ErrorClass) (errorCode : ErrorCode)
  | neither

structure ReadResultElement where
  propertyIdentifier : PropertyIdentifier
  propertyArrayIndex : Option Nat := none
  result : ReadResult

theorem ErrorClass.toNat_le (errorClass : ErrorClass) : errorClass.toNat ≤ 0xFFFFFFFF := by
  cases errorClass <;> decide

theorem ErrorCode.toNat_le (errorCode : ErrorCode) : errorCode.toNat ≤ 0xFFFFFFFF := by
  cases errorCode <;> decide

/-- The value or the error of a `ReadResultElement`, between tags. -/
def ReadResult.encode : ReadResult → Except PyException Bytes
  | .value propertyValue => .ok (encodeOpeningTag 4 ++ propertyValue ++ encodeClosingTag 4)
  | .error errorClass errorCode => do
      let errorClass ← encodeApplicationEnumerated errorClass.toNat
      let errorCode ← encodeApplicationEnumerated errorCode.toNat
      .ok (encodeOpeningTag 5 ++ errorClass ++ errorCode ++ encodeClosingTag 5)
  | .neither => .ok []

def ReadResultElement.encode (element : ReadResultElement) : Except PyException Bytes := do
  let identifier ← encodeContextUnsigned 2 element.propertyIdentifier.number
  let arrayIndex ← encodeContextOptional 3 element.propertyArrayIndex
  let result ← element.result.encode
  .ok (identifier ++ arrayIndex ++ result)

structure ReadAccessResult where
  objectIdentifier : ObjectIdentifier
  listOfResults : List ReadResultElement

def ReadAccessResult.encode (result : ReadAccessResult) : Except PyException Bytes := do
  let object ← encodeContextObjectId 0 result.objectIdentifier
  let elements ← result.listOfResults.mapM ReadResultElement.encode
  .ok (object ++ encodeOpeningTag 1 ++ elements.flatten ++ encodeClosingTag 1)

/-- `ReadPropertyMultipleACK.encode` -/
def encodeReadPropertyMultipleAck (results : List ReadAccessResult) : Except PyException Bytes := do
  let results ← results.mapM ReadAccessResult.encode
  .ok results.flatten

end BacPy
