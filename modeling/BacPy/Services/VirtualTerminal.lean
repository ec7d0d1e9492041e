import BacPy.Services.Fields

/-! Virtual terminal services (Clause 17): VT-Open, VT-Close and VT-Data. -/

namespace BacPy

/-- `VTClass` -/
def vtClassEnum : EnumType := { name := "VTClass", members := [0, 1, 2, 3, 4, 5, 6] }

/-- `VTOpenRequest` -/
structure VTOpenRequest where
  vtClass : vtClassEnum.Member
  localVtSessionIdentifier : Nat

def VTOpenRequest.decode : Decoder VTOpenRequest := do
  let vtClass ← .field fun octets => Decoder.member vtClassEnum (decodeUnsigned octets)
  let localVtSessionIdentifier ← .unsigned
  pure { vtClass, localVtSessionIdentifier }

/-- `VTOpenACK` -/
structure VTOpenACK where
  remoteVtSessionIdentifier : Nat

def VTOpenACK.encode (ack : VTOpenACK) : Except PyException Bytes :=
  encodeApplicationUnsigned ack.remoteVtSessionIdentifier

def VTOpenACK.decode : Decoder VTOpenACK := do
  let remoteVtSessionIdentifier ← .unsigned
  pure { remoteVtSessionIdentifier }

/-- An identifier of four octets at most is read back from its acknowledgement. -/
theorem VTOpenACK.readsBack {ack} (small : ack.remoteVtSessionIdentifier ≤ 0xFFFFFFFF)
    : Decoder.ReadsBack encode decode ack := by
  obtain ⟨octets, encoded, read⟩ :=
    ((carries_applicationUnsigned small).map VTOpenACK.mk).roundTrip trivial
  exact ⟨octets, encoded, Decoder.run_eq_ok read⟩

/-- `VTCloseRequest` -/
structure VTCloseRequest where
  listOfRemoteVtSessionIdentifiers : List Nat

def VTCloseRequest.decode : Decoder VTCloseRequest := do
  let listOfRemoteVtSessionIdentifiers ← .itemsToEnd .unsigned
  pure { listOfRemoteVtSessionIdentifiers }

/-- `VTDataRequest` -/
structure VTDataRequest where
  vtSessionIdentifier : Nat
  vtNewData : Bytes
  vtDataFlag : Bool

def VTDataRequest.decode : Decoder VTDataRequest := do
  let vtSessionIdentifier ← .unsigned
  let vtNewData ← .octetString
  let vtDataFlag ← .applicationBoolean
  pure { vtSessionIdentifier, vtNewData, vtDataFlag }

/-- `VTDataACK` -/
structure VTDataACK where
  allNewDataAccepted : Bool
  acceptedOctetCount : Option Nat := none

def VTDataACK.encode (ack : VTDataACK) : Except PyException Bytes := do
  let accepted ← encodeApplicationBoolean ack.allNewDataAccepted
  match ack.allNewDataAccepted, ack.acceptedOctetCount with
  | false, some count => (accepted ++ ·) <$> encodeApplicationUnsigned count
  | _, _ => .ok accepted

end BacPy
