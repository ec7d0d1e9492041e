import Mathlib.Data.List.Basic

/-! Logs that keep the most recent records up to a capacity.

A log gives up its oldest records for new ones, or refuses new ones while it stops when full.
What it holds is a function of what was appended and of how many records it gave up.
-/

namespace BacPy.Library

/-- A log. It has no limit without a capacity, and `lost` counts the records it gave up. -/
structure BoundedLog (Record : Type*) where
  capacity : Option Nat := none
  stopWhenFull : Bool := false
  appended : List Record := []
  lost : Nat := 0

namespace BoundedLog

variable {Record : Type*} {log : BoundedLog Record} {record : Record} {capacity : Option Nat}
  {stopWhenFull : Bool} {most : Nat}

def records (log : BoundedLog Record) : List Record := log.appended.drop log.lost

def full (log : BoundedLog Record) : Bool := log.capacity.any (· ≤ log.records.length)

/-- Give up the oldest records until the rest fits. -/
def trim (log : BoundedLog Record) : BoundedLog Record :=
  { log with
    lost := log.capacity.elim log.lost fun most => max log.lost (log.appended.length - most) }

def append (log : BoundedLog Record) (record : Record) : BoundedLog Record :=
  if log.stopWhenFull && log.full then log
  else trim { log with appended := log.appended ++ [record] }

def configure (log : BoundedLog Record) (capacity : Option Nat) (stopWhenFull : Bool)
    : BoundedLog Record :=
  trim { log with capacity, stopWhenFull }

/-- Start again with an empty log. -/
def purge (log : BoundedLog Record) : BoundedLog Record := { log with appended := [], lost := 0 }

/-- The log does not hold more than it may, nor did it give up more than it was given. -/
structure Bounded (log : BoundedLog Record) : Prop where
  fits : ∀ most ∈ log.capacity, log.records.length ≤ most
  given : log.lost ≤ log.appended.length

theorem full_iff : log.full ↔ ∃ most ∈ log.capacity, most ≤ log.records.length := by
  cases known : log.capacity <;> simp [full, known]

theorem bounded_trim (given : log.lost ≤ log.appended.length) : log.trim.Bounded := by
  cases known : log.capacity with
  | none => exact ⟨by simp [trim, known], by simpa [trim, known] using given⟩
  | some most =>
    constructor
    · intro other here
      obtain rfl : most = other := by simpa [trim, known] using here
      simp only [records, trim, known, Option.elim_some, List.length_drop]
      omega
    · simp only [trim, known, Option.elim_some]
      omega

theorem Bounded.append (bounded : log.Bounded) : (log.append record).Bounded := by
  unfold BoundedLog.append
  split
  · exact bounded
  · exact bounded_trim (by simpa using Nat.le_succ_of_le bounded.given)

theorem Bounded.configure (bounded : log.Bounded) : (log.configure capacity stopWhenFull).Bounded :=
  bounded_trim bounded.given

theorem bounded_purge : log.purge.Bounded := ⟨by simp [purge, records], Nat.le_refl 0⟩

/-- A log that stops when full refuses what it cannot hold. -/
theorem append_of_stopped (stop : log.stopWhenFull) (full : log.full) : log.append record = log := by
  rw [append, stop, full]
  rfl

theorem stopWhenFull_append : (log.append record).stopWhenFull = log.stopWhenFull := by
  unfold append
  split <;> rfl

theorem capacity_append : (log.append record).capacity = log.capacity := by
  unfold append
  split <;> rfl

/-- While there is room, records are added behind those that are held. -/
theorem records_append_of_room (bounded : log.Bounded) (room : log.full = false)
    : (log.append record).records = log.records ++ [record] := by
  have given := bounded.given
  rw [append, room, Bool.and_false, if_neg (by simp)]
  cases known : log.capacity with
  | none => simp [records, trim, List.drop_append_of_le_length given]
  | some most =>
    have below : log.appended.length - log.lost < most := by
      simpa [full, known, records] using room
    have kept : max log.lost (log.appended.length + 1 - most) = log.lost := by omega
    simp [records, trim, kept, List.drop_append_of_le_length given]

/-- A full log gives up its oldest record for a new one. -/
theorem records_append_of_full (bounded : log.Bounded) (circular : log.stopWhenFull = false)
    (full : log.full) (positive : ∀ most ∈ log.capacity, 0 < most)
    : (log.append record).records = log.records.tail ++ [record] := by
  obtain ⟨most, known, reached⟩ := full_iff.mp full
  have given := bounded.given
  have fits := bounded.fits most known
  have positive := positive most known
  rw [records, List.length_drop] at reached fits
  have shifted : max log.lost (log.appended.length + 1 - most) = log.lost + 1 := by omega
  rw [append, circular, Bool.false_and, if_neg (by simp)]
  simp only [records, trim, Option.mem_def.mp known, Option.elim_some, List.length_append,
    List.length_singleton, shifted, List.tail_drop]
  exact List.drop_append_of_le_length (by omega)

/-- A new configuration that has room for all records keeps them. -/
theorem records_configure_of_room (room : ∀ most ∈ capacity, log.records.length ≤ most)
    : (log.configure capacity stopWhenFull).records = log.records := by
  cases capacity with
  | none => rfl
  | some most =>
    have fits := room most rfl
    rw [records, List.length_drop] at fits
    have kept : max log.lost (log.appended.length - most) = log.lost := by omega
    simp [records, configure, trim, kept]

end BoundedLog

end BacPy.Library
