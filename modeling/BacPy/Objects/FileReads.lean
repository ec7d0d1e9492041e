import BacPy.Library.Slices
import BacPy.Objects.File

/-! Reads of a file against the range of positions that a request asks for. -/

namespace BacPy

open Library

/-- What a read of `count` items from a position on is to return: the items of the contents at these
positions, and whether none lies behind them.
-/
structure ReadsRange {Item : Type} (contents : List Item) (start : Int) (count : Nat)
    (read : List Item × Bool)
    : Prop where
  exact : read.1 = within contents start (start + count)
  endOfFile : read.2 = true ↔ ∀ position < contents.length, (position : Int) < start + count

/-- No bound of the range counts from the end of a file of this length: neither is negative, or
nothing is asked for, or what is so counted lies before the beginning of the file.
-/
def CountsFromStart (length : Nat) (start : Int) (count : Nat) : Prop :=
  0 ≤ start ∨ start + count = 0 ∨ (0 < start + count ∧ length + start ≤ 0)
    ∨ (start + count < 0 ∧ 0 < length ∧ (count = 0 ∨ length + start + count ≤ 0))

namespace FileObject

variable {Item : Type} {contents : List Item} {start : Int} {count : Nat}

/-- A slice with bounds that are not negative holds the items between them. -/
theorem slice_eq_within {stop} (natural : 0 ≤ start) (ends : 0 ≤ stop)
    : slice contents start stop = within contents start stop := by
  rw [slice, within_eq]
  dsimp only
  rw [if_neg (by omega), if_neg (by omega)]

theorem length_slice (contents : List Item) (start stop : Int)
    : (slice contents start stop).length
      = min (if stop < 0 then (stop + contents.length).toNat else stop.toNat) contents.length
        - if start < 0 then (start + contents.length).toNat else start.toNat := by
  rw [slice, List.length_drop, List.length_take]

/-- A negative start gives the items before the end of the range exactly if it is not taken from the
end of the file, by the number of items.
-/
theorem slice_of_negative (negative : start < 0)
    : slice contents start (start + count) = within contents start (start + count)
      ↔ start + count = 0 ∨ (0 < start + count ∧ contents.length + start ≤ 0)
        ∨ (start + count < 0 ∧ (count = 0 ∨ contents.length + start + count ≤ 0)) := by
  constructor
  · intro same
    have lengths := congrArg List.length same
    rw [length_slice, length_within, if_pos negative] at lengths
    split at lengths
    · omega
    · omega
  · intro apart
    by_cases ends : 0 < start + count
    · have before : (contents.length : Int) + start ≤ 0 := by omega
      rw [slice, within_eq]
      dsimp only
      rw [if_pos negative, if_neg (by omega), Int.toNat_of_nonpos (by omega),
        Int.toNat_of_nonpos (Int.le_of_lt negative)]
    · have nothing : within contents start (start + count) = [] := by
        rw [← List.length_eq_zero_iff, length_within]
        omega
      rw [nothing, ← List.length_eq_zero_iff, length_slice, if_pos negative]
      split
      · omega
      · omega

/-- The slice and the flag of a read are those of the range exactly if neither bound counts from the
end of the file.
-/
theorem readsRange_iff (contents : List Item) (start : Int) (count : Nat)
    : ReadsRange contents start count (slice contents start (start + count),
        decide ((contents.length : Int) ≤ start + count))
      ↔ CountsFromStart contents.length start count := by
  have flag : (decide ((contents.length : Int) ≤ start + count) = true
      ↔ ∀ position < contents.length, (position : Int) < start + count)
      ↔ 0 ≤ start + count ∨ 0 < contents.length := by
    rw [decide_eq_true_iff]
    constructor
    · intro exact
      by_contra apart
      have reached := exact.mpr fun position inside => absurd inside (by omega)
      omega
    · intro some
      constructor
      · intro reached position inside
        omega
      · intro each
        by_cases empty : contents.length = 0
        · omega
        · have last := each (contents.length - 1) (by omega)
          omega
  by_cases natural : 0 ≤ start
  · refine ⟨fun _ => .inl natural, fun _ => ⟨slice_eq_within natural (by omega), ?_⟩⟩
    exact flag.mpr (.inl (by omega))
  · have negative : start < 0 := by omega
    constructor
    · rintro ⟨exact, endOfFile⟩
      have apart := (slice_of_negative negative).mp exact
      have reached := flag.mp endOfFile
      unfold CountsFromStart
      omega
    · intro apart
      unfold CountsFromStart at apart
      refine ⟨(slice_of_negative negative).mpr ?_, flag.mpr ?_⟩
      · omega
      · omega

/-- A read of a file, by octets or by records, returns what there is of the range asked for, and
whether nothing is behind it, exactly if neither bound of the range counts from the end of the file.
-/
theorem reads_range_iff (file : FileObject) (start : Int) (count : Nat)
    : (file.isStream → ((∃ read, file.readStream start count = .ok read
          ∧ ReadsRange file.fileData start count read)
        ↔ CountsFromStart file.fileData.length start count))
      ∧ (file.isRecords → ((∃ read, file.readRecords start count = .ok read
          ∧ ReadsRange file.recordData start count read)
        ↔ CountsFromStart file.recordData.length start count)) := by
  constructor
  · intro stream
    rw [← readsRange_iff]
    simp [readStream, stream]
  · intro records
    rw [← readsRange_iff]
    simp [readRecords, records]

def threeOctets : FileObject :=
  (construct 1 (.enum fileAccessMethodEnum 0) []).afterWrites [.stream 0 [97, 98, 99]]

theorem reads_range_iff_threeOctets
    : ∃ read, threeOctets.readStream 1 5 = .ok read
        ∧ ReadsRange threeOctets.fileData 1 5 read :=
  ((reads_range_iff threeOctets 1 5).1 (by decide +kernel)).mpr (.inl (by decide))

/-- One octet from position -2 on is the second octet of the file, where there is none to return. -/
theorem negative_start_reads_end
    : threeOctets.readStream (-2) 1 = .ok ([98], false)
      ∧ ¬ ReadsRange threeOctets.fileData (-2) 1 ([98], false) := by
  refine ⟨by decide +kernel, fun reads => ?_⟩
  have nothing : within threeOctets.fileData (-2) (-2 + 1) = [] := by decide +kernel
  have returned := reads.exact
  rw [Int.natCast_one, nothing] at returned
  cases returned

end FileObject

end BacPy
