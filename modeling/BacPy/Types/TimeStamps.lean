import BacPy.Services.ContextFields

/-! `BACnetTimeStamp`: a time, a sequence number, or a date and a time. The year 2155 shares its octet
with the unspecified year, so a date of that year is not read back.
-/

namespace BacPy

structure BACnetDateTime where
  date : BACnetDate
  time : BACnetTime

/-- `BACnetTimeStamp`, whose discriminator goes with the type of its value. -/
inductive BACnetTimeStamp where
  | time (value : BACnetTime)
  | sequenceNumber (value : Nat)
  | dateTime (value : BACnetDateTime)

namespace BACnetTimeStamp

/-- `BACnetTimeStamp.encode`. The date and the time of a date time have no tags of their own. -/
def encode : BACnetTimeStamp → Except PyException Bytes
  | time value => do
      let content ← encodeTime value
      encodeContextTagged 0 content
  | sequenceNumber value => encodeContextUnsigned 1 value
  | dateTime value => do
      let date ← encodeDate value.date
      let time ← encodeTime value.time
      .ok (enclose 2 (date ++ time))

def decode (data : Bytes) (offset : Nat) : Except PyException (BACnetTimeStamp × Nat) := do
  let (tag, newOffset) ← decodeTag data offset
  if tag.cls ≠ .context then
    .error (.valueError
      s!"Expected context tag for BACnetTimeStamp, got application tag {tag.number}")
  else if tag.number = 0 then
    let value ← decodeTime (slice data newOffset (newOffset + tag.length))
    .ok (time value, newOffset + tag.length)
  else if tag.number = 1 then
    .ok (sequenceNumber (decodeUnsigned (slice data newOffset (newOffset + tag.length))),
      newOffset + tag.length)
  else if tag.number = 2 then
    if ¬ tag.isOpening = true then .error .assertionError
    else
      let date ← decodeDate (slice data newOffset (newOffset + 4))
      let time ← decodeTime (slice data (newOffset + 4) (newOffset + 4 + 4))
      let (closing, ended) ← decodeTag data (newOffset + 4 + 4)
      if closing.isClosing = true ∧ closing.number = 2 then .ok (dateTime { date, time }, ended)
      else .error .assertionError
  else .error (.valueError s!"Invalid BACnetTimeStamp context tag: {tag.number}")

/-- The fields of a time fit an octet each. -/
def ValidTime (time : BACnetTime) : Prop :=
  time.hour ≤ 255 ∧ time.minute ≤ 255 ∧ time.second ≤ 255 ∧ time.hundredth ≤ 255

/-- The fields of a date fit an octet each, the year from 1900 on. -/
def ValidDate (date : BACnetDate) : Prop :=
  (date.year = 0xFF ∨ 1900 ≤ date.year ∧ date.year ≤ 2155) ∧ date.month ≤ 255 ∧ date.day ≤ 255
    ∧ date.dayOfWeek ≤ 255

/-- The encoders accept the parts of the time stamp. -/
def WellFormed : BACnetTimeStamp → Prop
  | time value => ValidTime value
  | sequenceNumber value => value ≤ 0xFFFFFFFF
  | dateTime value => ValidDate value.date ∧ ValidTime value.time

/-- The year that is read back: the last one that can be encoded has the octet of the unspecified
year.
-/
def readYear (year : Nat) : Nat := if year = 2155 then 0xFF else year

def readBack : BACnetTimeStamp → BACnetTimeStamp
  | dateTime value =>
    dateTime { value with date := { value.date with year := readYear value.date.year } }
  | other => other

/-- The time stamp has no date of the year 2155. -/
def YearKept : BACnetTimeStamp → Prop
  | dateTime value => value.date.year ≠ 2155
  | _ => True

theorem readBack_iff {timeStamp : BACnetTimeStamp}
    : timeStamp.readBack = timeStamp ↔ timeStamp.YearKept := by
  cases timeStamp with
  | time value => exact ⟨fun _ => trivial, fun _ => rfl⟩
  | sequenceNumber value => exact ⟨fun _ => trivial, fun _ => rfl⟩
  | dateTime value =>
    obtain ⟨⟨year, month, day, dayOfWeek⟩, time⟩ := value
    simp only [readBack, readYear, YearKept, dateTime.injEq, BACnetDateTime.mk.injEq,
      BACnetDate.mk.injEq, and_true]
    split
    · omega
    · omega

/-- A time is four octets, which are read back. -/
theorem decodeTime_octets {time} (valid : ValidTime time)
    : ∃ octets, encodeTime time = .ok octets ∧ octets.length = 4
        ∧ decodeTime octets = .ok time := by
  obtain ⟨hour, minute, second, hundredth⟩ := valid
  have read {value : Nat} (small : value ≤ 255) : (UInt8.ofNat value).toNat = value := by
    rw [UInt8.toNat_ofNat', Nat.mod_eq_of_lt (by omega)]
  simp only [encodeTime, octet_ok (show time.hour < 256 by omega),
    octet_ok (show time.minute < 256 by omega), octet_ok (show time.second < 256 by omega),
    octet_ok (show time.hundredth < 256 by omega), bind, Except.bind]
  refine ⟨_, rfl, rfl, ?_⟩
  simp only [decodeTime, read hour, read minute, read second, read hundredth]

/-- A date is four octets, which are read back but for the year that they cannot tell. -/
theorem decodeDate_octets {date} (valid : ValidDate date)
    : ∃ octets, encodeDate date = .ok octets ∧ octets.length = 4
        ∧ decodeDate octets = .ok { date with year := readYear date.year } := by
  obtain ⟨year, month, day, dayOfWeek⟩ := valid
  have read {value : Nat} (small : value ≤ 255) : (UInt8.ofNat value).toNat = value := by
    rw [UInt8.toNat_ofNat', Nat.mod_eq_of_lt (by omega)]
  have yearSmall : (if date.year = 0xFF then 0xFF else date.year - 1900) ≤ 255 := by
    split <;> omega
  have mark {value : Nat} (small : value ≤ 255) : UInt8.ofNat value = 0xFF ↔ value = 0xFF := by
    rw [← UInt8.toNat_inj, read small]
    rfl
  have yearRead : (if UInt8.ofNat (if date.year = 0xFF then 0xFF else date.year - 1900) = 0xFF
      then 0xFF else (UInt8.ofNat (if date.year = 0xFF then 0xFF else date.year - 1900)).toNat + 1900)
      = readYear date.year := by
    simp only [mark yearSmall, read yearSmall, readYear]
    repeat' split
    all_goals omega
  have accepted : ¬ (date.year ≠ 0xFF ∧ ¬ (1900 ≤ date.year ∧ date.year ≤ 2155)) := by omega
  simp only [encodeDate, if_neg accepted, octet_ok (show (if date.year = 0xFF then 0xFF
    else date.year - 1900) < 256 by omega), octet_ok (show date.month < 256 by omega),
    octet_ok (show date.day < 256 by omega), octet_ok (show date.dayOfWeek < 256 by omega), bind,
    Except.bind]
  refine ⟨_, rfl, rfl, ?_⟩
  simp only [decodeDate, yearRead, read month, read day, read dayOfWeek]

theorem decode_encode {timeStamp : BACnetTimeStamp} (wellFormed : timeStamp.WellFormed)
    : ∃ octets, timeStamp.encode = .ok octets
        ∧ ∀ (data : Bytes) (offset : Nat) (rest : Bytes), data.drop offset = octets ++ rest →
          decode data offset = .ok (timeStamp.readBack, offset + octets.length) := by
  cases timeStamp with
  | time value =>
    obtain ⟨content, encoded, size, read⟩ := decodeTime_octets wellFormed
    obtain ⟨octets, tagged⟩ := (encodeContextTagged_ok_iff (show 0 ≤ 254 by omega)).mpr
      (show content.length < 256 ^ 4 by omega)
    obtain ⟨header, reads, rfl⟩ := isField_of_tagged tagged (by omega)
    refine ⟨_, bind_eq_ok.mpr ⟨content, encoded, tagged⟩, fun data offset rest here => ?_⟩
    rw [List.append_assoc] at here
    have content_ := slice_here (drop_behind here)
    rw [List.length_append, ← Nat.add_assoc]
    simp only [decode, reads.decoded here, bind, Except.bind, ne_eq, not_true_eq_false, if_false,
      if_true, content_, read]
    rfl
  | sequenceNumber value =>
    obtain ⟨octets, tagged⟩ := (encodeContextUnsigned_ok_iff (show 1 ≤ 254 by omega)).mpr wellFormed
    obtain ⟨content, ⟨header, reads, rfl⟩, same⟩ := isField_of_unsigned tagged
    refine ⟨_, tagged, fun data offset rest here => ?_⟩
    rw [List.append_assoc] at here
    have content_ := slice_here (drop_behind here)
    rw [List.length_append, ← Nat.add_assoc]
    simp only [decode, reads.decoded here, bind, Except.bind, ne_eq, not_true_eq_false, if_false,
      if_true, content_, same, Nat.one_ne_zero]
    rfl
  | dateTime value =>
    obtain ⟨date, encodedDate, dateSize, dateRead⟩ := decodeDate_octets wellFormed.1
    obtain ⟨time, encodedTime, timeSize, timeRead⟩ := decodeTime_octets wellFormed.2
    refine ⟨_, bind_eq_ok.mpr ⟨date, encodedDate, bind_eq_ok.mpr ⟨time, encodedTime, rfl⟩⟩,
      fun data offset rest here => ?_⟩
    rw [enclose, List.append_assoc, List.append_assoc, List.append_assoc] at here
    have opening := encodeOpeningTag_header (show 2 ≤ 254 by omega)
    have closing := encodeClosingTag_header (show 2 ≤ 254 by omega)
    have inside := drop_behind here
    have between := drop_behind inside
    have end_ := drop_behind between
    have dateSlice := slice_here inside
    have timeSlice := slice_here between
    rw [dateSize] at dateSlice timeSlice end_
    rw [timeSize] at timeSlice end_
    have size : offset + (enclose 2 (date ++ time)).length
        = offset + (encodeOpeningTag 2).length + 4 + 4 + (encodeClosingTag 2).length := by
      simp only [enclose, List.length_append, dateSize, timeSize]
      omega
    rw [size]
    simp only [decode, opening.decoded here, bind, Except.bind, ne_eq, not_true_eq_false, if_false,
      if_true, dateSlice, timeSlice, dateRead, timeRead, closing.decoded end_, and_self]
    rfl

end BACnetTimeStamp

end BacPy
