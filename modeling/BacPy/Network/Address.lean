import BacPy.Encoding.Octets

/-! BACnet addresses (Clause 6), the peer part of every transaction key. -/

namespace BacPy

theorem inRange_none
    : ∀ number ∈ (none : Option Nat), number = 0xFFFF ∨ 1 ≤ number ∧ number ≤ 65534 :=
  nofun

/-- `BACnetAddress`: optional network number and MAC address. The number is absent (local),
0xFFFF (global broadcast) or 1-65534, as `__post_init__` checks.
-/
structure BACnetAddress where
  network : Option Nat := none
  macAddress : Bytes := []
  inRange : ∀ number ∈ network, number = 0xFFFF ∨ 1 ≤ number ∧ number ≤ 65534 := by
    first | exact inRange_none | decide
  deriving DecidableEq

namespace BACnetAddress

/-- The constructor, which checks the network number. -/
def make (network : Nat) (macAddress : Bytes) : Except PyException BACnetAddress :=
  if inRange : network = 0xFFFF ∨ 1 ≤ network ∧ network ≤ 65534 then
    .ok { network := some network, macAddress, inRange := by simpa using inRange }
  else .error (.valueError s!"Network number must be 1-65534, got {network}")

def isLocal (address : BACnetAddress) : Bool := address.network.isNone

def isGlobalBroadcast (address : BACnetAddress) : Bool := address.network = some 0xFFFF

def isBroadcast (address : BACnetAddress) : Bool :=
  address.isGlobalBroadcast || address.macAddress.isEmpty

theorem make_eq_ok {network macAddress address}
    : make network macAddress = .ok address
      ↔ address.network = some network ∧ address.macAddress = macAddress := by
  obtain ⟨number, mac, valid⟩ := address
  unfold make
  split
  · next inRange => simp [eq_comm]
  · next outOfRange =>
      simp only [reduceCtorEq, false_iff]
      rintro ⟨rfl, _⟩
      exact outOfRange (valid network rfl)

end BACnetAddress

end BacPy
