import BacPy.Services.FileAccess
import BacPy.Services.PropertyLists

/-! ReadRange (Clause 15.8): a request for a part of a list, by position, by sequence number or by
time.
-/

namespace BacPy

open Library

/-- `RangeByPosition`, `RangeBySequenceNumber` or `RangeByTime` -/
inductive ReadRangeRequest.Range where
  | byPosition (referenceIndex : Nat) (count : Int)
  | bySequenceNumber (referenceSequenceNumber : Nat) (count : Int)
  | byTime (referenceDate : BACnetDate) (referenceTime : BACnetTime) (count : Int)

structure ReadRangeRequest where
  objectIdentifier : ObjectIdentifier
  propertyIdentifier : PropertyIdentifier
  propertyArrayIndex : Option Nat := none
  range : Option ReadRangeRequest.Range := none

structure ResultFlags where
  firstItem : Bool := false
  lastItem : Bool := false
  moreItems : Bool := false
  deriving DecidableEq

structure ReadRangeACK where
  objectIdentifier : ObjectIdentifier
  propertyIdentifier : PropertyIdentifier
  resultFlags : ResultFlags
  itemCount : Nat
  itemData : Bytes
  propertyArrayIndex : Option Nat := none
  firstSequenceNumber : Option Nat := none

-- Acknowledgements

def ResultFlags.toBitString (flags : ResultFlags) : BitString where
  data := [UInt8.ofNat ((flags.firstItem.toNat * 4 + flags.lastItem.toNat * 2
    + flags.moreItems.toNat) * 32)]
  unusedBits := 5

def ReadRangeACK.encode (ack : ReadRangeACK) : Except PyException Bytes :=
  joined [
    encodeContextObjectId 0 ack.objectIdentifier,
    encodeContextUnsigned 1 ack.propertyIdentifier.number,
    encodeContextOptional 2 ack.propertyArrayIndex,
    encodeContextTagged 3 (encodeBitString ack.resultFlags.toBitString),
    encodeContextUnsigned 4 ack.itemCount,
    .ok (encodeOpeningTag 5),
    .ok ack.itemData,
    .ok (encodeClosingTag 5),
    encodeContextOptional 6 ack.firstSequenceNumber
  ]

end BacPy
