import BacPy.Encoding.ContextValues
import BacPy.Types.AuditRecords
import BacPy.Types.TimeStamps

/-! `COVPropertyValue`: a property with its value as raw octets, and when it changed. -/

namespace BacPy

open Library

structure COVPropertyValue where
  propertyIdentifier : Nat
  value : Bytes
  arrayIndex : Option Nat := none
  timeOfChange : Option BACnetTimeStamp := none

namespace COVPropertyValue

/-- The time of change [3]. -/
def encodeTimeOfChange (timeStamp : BACnetTimeStamp) : Except PyException Bytes := do
  let inner ← timeStamp.encode
  .ok (enclose 3 inner)

def encode (pv : COVPropertyValue) : Except PyException Bytes := do
  let identifier ← encodeContextUnsigned 0 pv.propertyIdentifier
  let arrayIndex ← encodeContextOptional 1 pv.arrayIndex
  let timeOfChange ← encodeOptional encodeTimeOfChange pv.timeOfChange
  .ok (identifier ++ (arrayIndex ++ (enclose 2 pv.value ++ timeOfChange)))

/-- The array index [1], if it comes next. -/
def decodeArrayIndex (data : Bytes) (offset : Nat) : Except PyException (Option Nat × Nat) :=
  if offset < data.length then do
    let (tag, newOffset) ← decodeTag data offset
    if tag.cls = .context ∧ tag.number = 1 ∧ ¬ tag.isOpening = true ∧ ¬ tag.isClosing = true then
      .ok (some (decodeUnsigned (slice data newOffset (newOffset + tag.length))),
        newOffset + tag.length)
    else .ok (none, offset)
  else .ok (none, offset)

/-- The raw value behind its opening tag: everything that is left if no closing tag is found. -/
def decodeValue (data : Bytes) (valueStart : Nat) : Except PyException (Bytes × Nat) := do
  let (closing, offset) ← scanToClosing (some maxNestingDepth) data valueStart
  .ok (slice data valueStart (closing.getD offset), offset)

def decodeTimeOfChange (data : Bytes) (offset : Nat)
    : Except PyException (Option BACnetTimeStamp × Nat) :=
  if offset < data.length then do
    let (tag, newOffset) ← decodeTag data offset
    if tag.isOpening = true ∧ tag.number = 3 then
      let (timeStamp, offset) ← BACnetTimeStamp.decode data newOffset
      let (_, offset) ← decodeTag data offset
      .ok (some timeStamp, offset)
    else .ok (none, offset)
  else .ok (none, offset)

def decode (data : Bytes) (offset : Nat) : Except PyException (COVPropertyValue × Nat) := do
  let (_, identifier, offset) ← decodeElement data offset
  let (arrayIndex, offset) ← decodeArrayIndex data offset
  let (_, valueStart) ← decodeTag data offset
  let (value, offset) ← decodeValue data valueStart
  let (timeOfChange, offset) ← decodeTimeOfChange data offset
  .ok ({ propertyIdentifier := decodeUnsigned identifier, value, arrayIndex, timeOfChange }, offset)

/-- The numbers fit their encoding, and the encoders accept the time. -/
structure WellFormed (pv : COVPropertyValue) : Prop where
  propertyIdentifier : pv.propertyIdentifier ≤ 0xFFFFFFFF
  arrayIndex : ∀ index ∈ pv.arrayIndex, index ≤ 0xFFFFFFFF
  timeOfChange : ∀ timeStamp ∈ pv.timeOfChange, timeStamp.WellFormed

/-- The property value that is read back: its time may be of another year. -/
def readBack (pv : COVPropertyValue) : COVPropertyValue :=
  { pv with timeOfChange := pv.timeOfChange.map BACnetTimeStamp.readBack }

variable {pv : COVPropertyValue} {data octets inner rest : Bytes} {offset : Nat}

theorem readBack_iff
    : pv.readBack = pv ↔ ∀ timeStamp ∈ pv.timeOfChange, timeStamp.YearKept := by
  obtain ⟨identifier, value, arrayIndex, timeOfChange⟩ := pv
  cases timeOfChange with
  | none => simp [readBack]
  | some timeStamp =>
    simp only [readBack, mk.injEq, Option.map_some, Option.some.injEq, true_and,
      BACnetTimeStamp.readBack_iff, Option.mem_def, forall_eq']

theorem encode_ok (wellFormed : pv.WellFormed) : ∃ octets, pv.encode = .ok octets := by
  rw [encode, bind_const_ok_iff fun _ => bind_const_ok_iff fun _ => bind_const_ok_iff fun _ =>
    returned_ok_iff _]
  refine ⟨(encodeContextUnsigned_ok_iff (by omega)).mpr wellFormed.propertyIdentifier,
    encodeContextOptional_ok (by omega) wellFormed.arrayIndex,
    encodeOptional_ok fun timeStamp given => ?_, trivial⟩
  obtain ⟨octets, encoded, _⟩ := BACnetTimeStamp.decode_encode (wellFormed.timeOfChange _ given)
  exact ⟨_, bind_eq_ok.mpr ⟨octets, encoded, rfl⟩⟩

-- The parts

theorem decodeArrayIndex_read {index} (encoded : encodeContextOptional 1 index = .ok inner)
    (here : data.drop offset = inner ++ (encodeOpeningTag 2 ++ rest))
    : decodeArrayIndex data offset = .ok (index, offset + inner.length) := by
  cases index with
  | none =>
    cases encoded
    have opening := encodeOpeningTag_header (show 2 ≤ 254 by omega)
    simp [decodeArrayIndex, opening.decoded here, bind, Except.bind]
  | some value =>
    obtain ⟨content, ⟨header, reads, rfl⟩, same⟩ := isField_of_unsigned encoded
    rw [List.append_assoc] at here
    have content_ := slice_here (drop_behind here)
    rw [List.length_append, ← Nat.add_assoc]
    simp only [decodeArrayIndex, if_pos (reads.inside here), reads.decoded here, bind, Except.bind,
      content_, same, Bool.false_eq_true, not_false_eq_true, and_self, if_true]

theorem decodeValue_read (here : data.drop offset = inner ++ (encodeClosingTag 2 ++ rest))
    (nested : PlainlyNested (some 31) 0 inner)
    : decodeValue data offset
      = .ok (inner, offset + inner.length + (encodeClosingTag 2).length) := by
  have scanned : scanToClosing (some maxNestingDepth) data offset = _ :=
    (scanToClosing_iff (by decide) (encodeClosingTag_header (show 2 ≤ 254 by omega)) rfl here).mpr
      nested
  rw [decodeValue, scanned]
  simp only [bind, Except.bind, Option.getD_some, slice_here here]

/-- Only a balanced value can be returned: where no closing tag is found, what is returned reaches to
the end of the data.
-/
theorem nested_of_decodeValue (here : data.drop offset = inner ++ (encodeClosingTag 2 ++ rest))
    {ended} (read : decodeValue data offset = .ok (inner, ended))
    : PlainlyNested (some 31) 0 inner := by
  obtain ⟨⟨found, position⟩, scanned, same⟩ := bind_eq_ok.mp read
  obtain ⟨value, _⟩ := Prod.mk.inj (Except.ok.inj same)
  cases found with
  | some found =>
    rw [← value]
    exact (closingFound_of_scan scanned found rfl).2.1 (Nat.le_refl 1)
  | none =>
    have end_ := ended_of_scan scanned
    have tooLong := congrArg List.length value
    have closing := (encodeClosingTag_header (show 2 ≤ 254 by omega)).length_pos
    have remaining := congrArg List.length here
    simp only [Option.getD_none, slice, List.length_take, List.length_drop] at tooLong
    simp only [List.length_drop, List.length_append] at remaining
    omega

/-- A well-formed time is read back, up to its year; none is read at the end of the data. -/
theorem decodeTimeOfChange_read {timeOfChange}
    (wellFormed : ∀ timeStamp ∈ timeOfChange, timeStamp.WellFormed)
    (encoded : encodeOptional encodeTimeOfChange timeOfChange = .ok inner)
    (here : data.drop offset = inner)
    : decodeTimeOfChange data offset
      = .ok (timeOfChange.map BACnetTimeStamp.readBack, offset + inner.length) := by
  cases timeOfChange with
  | none =>
    cases encoded
    have remaining := congrArg List.length here
    rw [List.length_drop, List.length_nil] at remaining
    rw [decodeTimeOfChange, if_neg (by omega)]
    rfl
  | some timeStamp =>
    obtain ⟨octets, encodedTime, read⟩ := BACnetTimeStamp.decode_encode (wellFormed _ rfl)
    obtain ⟨octets', encodedTime', same⟩ := bind_eq_ok.mp encoded
    rw [encodedTime] at encodedTime'
    cases encodedTime'
    cases same
    have opening := encodeOpeningTag_header (show 3 ≤ 254 by omega)
    have closing := encodeClosingTag_header (show 3 ≤ 254 by omega)
    rw [enclose] at here
    have inner := drop_behind here
    have end_ := drop_behind inner
    rw [← List.append_nil (encodeClosingTag 3)] at end_
    simp only [decodeTimeOfChange, if_pos (opening.inside here), opening.decoded here, bind,
      Except.bind, and_self, if_true, read _ _ _ inner, closing.decoded end_, Option.map_some,
      enclose, List.length_append, ← Nat.add_assoc]

-- Round trips

theorem encode_parts (encoded : pv.encode = .ok octets)
    : ∃ content identifier arrayIndex timeOfChange, IsField 0 content identifier
        ∧ decodeUnsigned content = pv.propertyIdentifier
        ∧ encodeContextOptional 1 pv.arrayIndex = .ok arrayIndex
        ∧ encodeOptional encodeTimeOfChange pv.timeOfChange = .ok timeOfChange
        ∧ octets.drop 0 = identifier ++ (arrayIndex ++ (encodeOpeningTag 2 ++ (pv.value
          ++ (encodeClosingTag 2 ++ timeOfChange)))) := by
  obtain ⟨identifier, encodedIdentifier, encoded⟩ := bind_eq_ok.mp encoded
  obtain ⟨arrayIndex, encodedIndex, encoded⟩ := bind_eq_ok.mp encoded
  obtain ⟨timeOfChange, encodedTime, same⟩ := bind_eq_ok.mp encoded
  cases same
  obtain ⟨content, field, number⟩ := isField_of_unsigned encodedIdentifier
  refine ⟨content, identifier, arrayIndex, timeOfChange, field, number, encodedIndex, encodedTime, ?_⟩
  simp only [List.drop_zero, enclose, List.append_assoc]

/-- A property value survives the wire exactly if its raw value is balanced and its time is of a
year that is read back.
-/
theorem roundTrip_iff (wellFormed : pv.WellFormed) (encoded : pv.encode = .ok octets)
    : (∃ ended, decode octets 0 = .ok (pv, ended))
      ↔ PlainlyNested (some 31) 0 pv.value ∧ ∀ timeStamp ∈ pv.timeOfChange, timeStamp.YearKept := by
  obtain ⟨content, identifier, arrayIndex, timeOfChange, field, number, encodedIndex, encodedTime,
    here⟩ := encode_parts encoded
  have behind := drop_behind here
  have opening := encodeOpeningTag_header (show 2 ≤ 254 by omega)
  have header := drop_behind behind
  have valueHere := drop_behind header
  have timeHere := drop_behind (drop_behind valueHere)
  have start : decode octets 0 = (do
      let (value, offset) ← decodeValue octets
        (0 + identifier.length + arrayIndex.length + (encodeOpeningTag 2).length)
      let (timeOfChange, offset) ← decodeTimeOfChange octets offset
      .ok ({ pv with value, timeOfChange }, offset)) := by
    simp only [decode, decodeElement_field field here, bind, Except.bind, number,
      decodeArrayIndex_read encodedIndex behind, opening.decoded header]
  have survives (nested : PlainlyNested (some 31) 0 pv.value)
      : ∃ ended, decode octets 0 = .ok (pv.readBack, ended) := by
    rw [start, decodeValue_read valueHere nested]
    simp only [bind, Except.bind,
      decodeTimeOfChange_read wellFormed.timeOfChange encodedTime timeHere]
    exact ⟨_, rfl⟩
  constructor
  · rintro ⟨ended, decoded⟩
    rw [start] at decoded
    obtain ⟨⟨value, later⟩, read, rest⟩ := bind_eq_ok.mp decoded
    obtain ⟨⟨timeOfChange, _⟩, _, same⟩ := bind_eq_ok.mp rest
    have kept : value = pv.value :=
      congrArg COVPropertyValue.value (Prod.mk.inj (Except.ok.inj same)).1
    rw [kept] at read
    have nested := nested_of_decodeValue valueHere read
    obtain ⟨_, again⟩ := survives nested
    rw [start, decoded, Except.ok.injEq, Prod.mk.injEq] at again
    exact ⟨nested, readBack_iff.mp again.1.symm⟩
  · rintro ⟨nested, yearKept⟩
    have again := survives nested
    rwa [readBack_iff.mpr yearKept] at again

end COVPropertyValue

end BacPy

/-! The written out loops against the scanner that the other codecs share: they return the same octets
for a sequence of values exactly if it is balanced also when the value of a Boolean is taken for the
length of a content.
-/

namespace BacPy

open Library

/-- Between its opening and closing tags the octets are returned by every written out loop just as
`extract_context_value` returns them.
-/
structure ScannersAgree (octets : Bytes) : Prop where
  covValue : ∀ (data : Bytes) (offset : Nat) (rest : Bytes),
    data.drop offset = octets ++ (encodeClosingTag 2 ++ rest) →
      Prod.fst <$> COVPropertyValue.decodeValue data offset
        = Prod.fst <$> extractContextValue data offset 2
  targetValue : ∀ (data : Bytes) (offset : Nat) (rest : Bytes) (n : BACnetAuditNotification),
    data.drop offset = octets ++ (encodeClosingTag 14 ++ rest) →
      (fun read => read.1.targetValue) <$> BACnetAuditNotification.decodeConstructed data 14 offset n
        = (fun read => some read.1) <$> extractContextValue data offset 14
  currentValue : ∀ (data : Bytes) (offset : Nat) (rest : Bytes) (n : BACnetAuditNotification),
    data.drop offset = octets ++ (encodeClosingTag 15 ++ rest) →
      (fun read => read.1.currentValue) <$> BACnetAuditNotification.decodeConstructed data 15 offset n
        = (fun read => some read.1) <$> extractContextValue data offset 15
  logRecord : ∀ (data : Bytes) (offset : Nat) (rest : Bytes),
    data.drop offset = octets ++ (encodeClosingTag 1 ++ rest) →
      Prod.fst <$> BACnetAuditLogRecord.decodeInner data offset
        = Prod.fst <$> extractContextValue data offset 1

theorem scannersAgree_iff {values : TaggedValues} (wellFormed : values.WellFormed)
    (shallow : values.levels < maxNestingDepth) {octets : Bytes}
    (encoded : values.encode = .ok octets)
    : ScannersAgree octets ↔ PlainlyNested (some 31) 0 octets := by
  constructor
  · intro agree
    have here : (octets ++ (encodeClosingTag 2 ++ [])).drop 0
        = octets ++ (encodeClosingTag 2 ++ []) := rfl
    have same := agree.covValue _ 0 [] here
    rw [extractContextValue_encode wellFormed encoded shallow (by omega) here] at same
    obtain ⟨⟨value, ended⟩, read, rfl⟩ := map_eq_ok.mp same
    exact COVPropertyValue.nested_of_decodeValue here read
  · intro nested
    have unlimited := nested.unlimited
    refine ⟨fun data offset rest here => ?_, fun data offset rest n here => ?_,
      fun data offset rest n here => ?_, fun data offset rest here => ?_⟩
    · rw [extractContextValue_encode wellFormed encoded shallow (by omega) here,
        COVPropertyValue.decodeValue_read here nested]
    · obtain ⟨found, read⟩ :=
        BACnetAuditNotification.scanValue_read (show 14 ≤ 254 by omega) unlimited here
      rw [extractContextValue_encode wellFormed encoded shallow (by omega) here]
      simp only [BACnetAuditNotification.decodeConstructed, found, bind, Except.bind,
        Option.map_some, read, Functor.map, Except.map, Option.some_or]
    · obtain ⟨found, read⟩ :=
        BACnetAuditNotification.scanValue_read (show 15 ≤ 254 by omega) unlimited here
      rw [extractContextValue_encode wellFormed encoded shallow (by omega) here]
      simp only [BACnetAuditNotification.decodeConstructed, found, bind, Except.bind,
        Option.map_some, read, Functor.map, Except.map, Option.some_or]
    · rw [extractContextValue_encode wellFormed encoded shallow (by omega) here]
      exact (BACnetAuditLogRecord.decodeInner_iff here).mpr unlimited

/-- The written out loops agree with the shared scanner on a sequence of values, and what holds raw
values survives the wire, exactly where these are balanced with every length field read as a number
of octets.
-/
theorem nestedScanners_iff [JapaneseCodec]
    : (∀ (values : TaggedValues) (octets : Bytes), values.WellFormed →
        values.levels < maxNestingDepth → values.encode = .ok octets →
          (ScannersAgree octets ↔ PlainlyNested (some 31) 0 octets))
      ∧ (∀ (pv : COVPropertyValue), pv.WellFormed →
        ((∃ ended, (pv.encode >>= fun octets => COVPropertyValue.decode octets 0) = .ok (pv, ended))
          ↔ PlainlyNested (some 31) 0 pv.value
            ∧ ∀ timeStamp ∈ pv.timeOfChange, timeStamp.YearKept))
      ∧ (∀ (n : BACnetAuditNotification), n.WellFormed →
        ((n.encode >>= BACnetAuditNotification.decode) = .ok n ↔ n.Whole ∧ n.ValuesNested none))
      ∧ (∀ (record : BACnetAuditLogRecord), record.WellFormed →
        ((record.encode >>= BACnetAuditLogRecord.decode) = .ok record
          ↔ record.notification.Whole ∧ record.notification.ValuesNested none)) := by
  refine ⟨fun values octets wellFormed shallow encoded =>
      scannersAgree_iff wellFormed shallow encoded, fun pv wellFormed => ?_,
    fun n wellFormed => BACnetAuditNotification.roundTrip_iff wellFormed,
    fun record wellFormed => BACnetAuditLogRecord.roundTrip_iff wellFormed⟩
  obtain ⟨octets, encoded⟩ := COVPropertyValue.encode_ok wellFormed
  rw [← COVPropertyValue.roundTrip_iff wellFormed encoded, encoded]
  rfl

/-- An Unsigned and a Boolean `False` in a constructed value: all scanners agree, and whatever holds
them survives.
-/
theorem nestedScanners_plain
    : ∃ _ : JapaneseCodec, ScannersAgree [0x3E, 0x21, 0x05, 0x10, 0x3F]
      ∧ (∃ ended, (COVPropertyValue.encode ⟨85, [0x3E, 0x21, 0x05, 0x10, 0x3F], none, none⟩
          >>= fun octets => COVPropertyValue.decode octets 0)
        = .ok (⟨85, [0x3E, 0x21, 0x05, 0x10, 0x3F], none, none⟩, ended))
      ∧ (BACnetAuditNotification.encode { targetValue := some [0x3E, 0x21, 0x05, 0x10, 0x3F] }
          >>= BACnetAuditNotification.decode)
        = .ok { targetValue := some [0x3E, 0x21, 0x05, 0x10, 0x3F] }
      ∧ (BACnetAuditLogRecord.encode
            ⟨1, { currentValue := some [0x3E, 0x21, 0x05, 0x10, 0x3F] }⟩
          >>= BACnetAuditLogRecord.decode)
        = .ok ⟨1, { currentValue := some [0x3E, 0x21, 0x05, 0x10, 0x3F] }⟩ := by
  let codec : JapaneseCodec := ⟨fun _ => none⟩
  have wellFormed : (TaggedValues.constructed 3
      (.primitive .application 2 [0x05] (.boolean false .nil)) .nil).WellFormed := by
    simp [TaggedValues.WellFormed]
  have encoded : (TaggedValues.constructed 3
      (.primitive .application 2 [0x05] (.boolean false .nil)) .nil).encode
      = .ok [0x3E, 0x21, 0x05, 0x10, 0x3F] := by
    decide
  have plain : (TaggedValues.constructed 3
      (.primitive .application 2 [0x05] (.boolean false .nil)) .nil).NoTrue := by
    simp [TaggedValues.NoTrue]
  have nested : PlainlyNested (some 31) 0 [0x3E, 0x21, 0x05, 0x10, 0x3F] :=
    plain.plainlyNested wellFormed encoded (by decide)
  obtain ⟨scanners, property, notification, record⟩ := nestedScanners_iff
  refine ⟨codec, (scanners _ _ wellFormed (by decide) encoded).mpr nested,
    (property _ ⟨by decide, by simp, by simp⟩).mpr ⟨nested, by simp⟩,
    (notification _ ⟨by simp, by simp⟩).mpr ⟨⟨fun _ => rfl, by simp⟩, ?_⟩,
    (record _ ⟨by decide, by simp, by simp⟩).mpr ⟨⟨fun _ => rfl, by simp⟩, ?_⟩⟩
  · refine ⟨fun value given => ?_, by simp⟩
    cases given
    exact nested.unlimited
  · refine ⟨by simp, fun value given => ?_⟩
    cases given
    exact nested.unlimited

/-- A Boolean `True` alone: the closing tag behind it is taken for its content. -/
theorem not_scannersAgree
    : ¬ ∀ (values : TaggedValues) (octets : Bytes), values.WellFormed →
        values.levels < maxNestingDepth → values.encode = .ok octets → ScannersAgree octets := by
  intro all
  have agree := all (.boolean true .nil) [0x11] trivial (by decide) (by decide)
  have differ := agree.covValue [0x11, 0x2F] 0 [] (by decide)
  revert differ
  decide +kernel

end BacPy
