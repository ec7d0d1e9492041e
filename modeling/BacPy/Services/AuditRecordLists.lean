import BacPy.Services.Audit

/-! Lists of log records: every record is followed exactly to its end, as long as its raw values are
balanced, nested no deeper than the limit leaves room for, and the records are not too many.
-/

namespace BacPy

open Library

-- Values that a limited loop comes through

section Limits

variable {limit : Option Nat} {data inner rest chunk : Bytes} {offset number outer : Nat}
  {n : BACnetAuditNotification} {result : Option Nat × Nat}
  {finish : Nat → Nat → Except PyException (Option Nat × Nat)}

/-- A loop that comes through an enclosed value has not met its limit there, and is as deep behind it
as in front of it.
-/
theorem scan_enclosed (inRange : number ≤ 254) (nested : PlainlyNested none 0 inner)
    (here : data.drop offset = enclose number inner ++ rest)
    (scanned : scan data.length (scanRound limit data) finish offset outer = .ok result)
    (outside : 1 ≤ outer)
    : PlainlyNested (limit.map (· - (outer + 1))) 0 inner
      ∧ scan data.length (scanRound limit data) finish (offset + (enclose number inner).length) outer
        = .ok result := by
  have opening := encodeOpeningTag_header inRange
  have closing := encodeClosingTag_header inRange
  rw [enclose, List.append_assoc, List.append_assoc] at here
  have inside := drop_behind here
  have end_ := drop_behind inside
  have down : scanRound limit data offset outer = _ := scanRound_opening opening rfl here
  split at down
  · rw [scan_error (opening.inside here) down] at scanned
    cases scanned
  · next within =>
      rw [scan_next (scanRound_advances _ _) (opening.inside here) down,
        ← Nat.zero_add (outer + 1)] at scanned
      have limited := nested_of_scan nested inside scanned (by omega)
      have room : ∀ most ∈ limit, ∃ level ∈ limit.map (· - (outer + 1)), level + (outer + 1) ≤ most := by
        intro most given
        have fits : ¬ most < outer + 1 := fun beyond => within ⟨most, given, beyond⟩
        exact ⟨most - (outer + 1), by rw [Option.mem_def.mp given]; rfl, by omega⟩
      rw [scan_through limited (by omega) room inside] at scanned
      have up : scanRound limit data _ (outer + 1) = _ := scanRound_closing closing rfl end_
      rw [if_neg (by omega), Nat.add_sub_cancel] at up
      rw [scan_next (scanRound_advances _ _) (closing.inside end_) up] at scanned
      refine ⟨limited, ?_⟩
      simpa only [enclose, List.length_append, Nat.add_assoc] using scanned

/-- The same for the raw values of a notification. -/
theorem valuesNested_of_scan (nested : n.ValuesNested none)
    (here : data.drop offset = n.encodeValues ++ rest)
    (scanned : scan data.length (scanRound limit data) finish offset outer = .ok result)
    (outside : 1 ≤ outer)
    : n.ValuesNested (limit.map (· - (outer + 1))) := by
  rw [BACnetAuditNotification.encodeValues, List.append_assoc] at here
  have behind : scan data.length (scanRound limit data) finish
      (offset + ((n.targetValue.map (enclose 14)).getD []).length) outer = .ok result
      ∧ ∀ value ∈ n.targetValue, PlainlyNested (limit.map (· - (outer + 1))) 0 value := by
    cases given : n.targetValue with
    | none => exact ⟨scanned, fun _ other => (nomatch other)⟩
    | some value =>
      rw [given] at here
      obtain ⟨limited, later⟩ :=
        scan_enclosed (by omega) (nested.1 value given) here scanned outside
      refine ⟨later, fun other same => ?_⟩
      cases same
      exact limited
  refine ⟨behind.2, fun value given => ?_⟩
  have there := drop_behind here
  rw [Option.mem_def.mp given] at there
  exact (scan_enclosed (by omega) (nested.2 value given) there behind.1 outside).1

end Limits

namespace AuditLogQueryACK

variable {data octets rest : Bytes} {offset : Nat} {record : BACnetAuditLogRecord}

theorem recordEnd_advance : ItemsAdvance 1 recordEnd := by
  intro data offset ended tag next _ _ found
  obtain ⟨⟨_, _, scanned⟩, element, found⟩ := bind_eq_ok.mp found
  obtain ⟨⟨inner, recOffset⟩, read, found⟩ := bind_eq_ok.mp found
  have first := decodeElement_forward element
  have second := decodeTag_forward read
  dsimp only at found
  split at found
  · obtain ⟨⟨_, later⟩, scanned, same⟩ := bind_eq_ok.mp found
    have third := scanToClosing_forward scanned
    cases same
    dsimp only at third
    omega
  · cases found
    exact first

/-- The end of an encoded record is found if its raw values are nested fewer than 31 levels. -/
theorem recordEnd_read (wellFormed : record.WellFormed)
    (nested : record.notification.ValuesNested (some 30)) (encoded : record.encode = .ok octets)
    (here : data.drop offset = octets ++ rest)
    : recordEnd data offset = .ok (offset + octets.length) := by
  obtain ⟨number, content, notification, rfl, field, _, inner⟩ :=
    BACnetAuditLogRecord.encode_parts wellFormed encoded
  rw [enclose, List.append_assoc, List.append_assoc, List.append_assoc] at here
  have behind := drop_behind here
  have inside := drop_behind behind
  have balanced : PlainlyNested (some 31) 0 notification :=
    BACnetAuditNotification.plainlyNested_encode (by decide) wellFormed.notification nested inner
  have found : scanToClosing (some maxNestingDepth) data _ = _ := (scanToClosing_iff (by decide)
    (encodeClosingTag_header (show 1 ≤ 254 by omega)) rfl inside).mpr balanced
  simp only [recordEnd, decodeElement_field field here, bind, Except.bind,
    (encodeOpeningTag_header (show 1 ≤ 254 by omega)).decoded behind, if_true, found, enclose,
    List.length_append, ← Nat.add_assoc]

theorem nested_of_recordEnd (wellFormed : record.WellFormed)
    (nested : record.notification.ValuesNested none) (encoded : record.encode = .ok octets)
    (here : data.drop offset = octets ++ rest) {ended} (found : recordEnd data offset = .ok ended)
    : record.notification.ValuesNested (some 30) := by
  obtain ⟨number, content, notification, rfl, field, _, inner⟩ :=
    BACnetAuditLogRecord.encode_parts wellFormed encoded
  rw [enclose, List.append_assoc, List.append_assoc, List.append_assoc] at here
  have behind := drop_behind here
  have inside := drop_behind behind
  obtain ⟨_, element, found⟩ := bind_eq_ok.mp found
  rw [decodeElement_field field here] at element
  cases element
  obtain ⟨_, tag, found⟩ := bind_eq_ok.mp found
  rw [(encodeOpeningTag_header (show 1 ≤ 254 by omega)).decoded behind] at tag
  cases tag
  obtain ⟨result, scanned, _⟩ := bind_eq_ok.mp found
  obtain ⟨source, encodedSource, inner⟩ := bind_eq_ok.mp inner
  obtain ⟨body, encodedBody, same⟩ := bind_eq_ok.mp inner
  cases same
  obtain ⟨operation, fields, result, rfl, ⟨_, field⟩, elements⟩ :=
    BACnetAuditNotification.elements_body wellFormed.notification encodedBody
  have front : PlainlyNested (some 31) 0 (source ++ (operation ++ fields)) :=
    ((BACnetAuditNotification.elements_source encodedSource).plainlyNested (by decide)).append_same
      ((field.plainlyNested _).append_same ((elements _).1.plainlyNested (by decide)))
  have split : data.drop (offset + number.length + (encodeOpeningTag 1).length)
      = (source ++ (operation ++ fields)) ++ (record.notification.encodeValues
        ++ (result ++ (encodeClosingTag 1 ++ rest))) := by
    simp only [inside, List.append_assoc]
  have through : scanToClosing (some maxNestingDepth) data _ = _ :=
    scan_through front (Nat.le_refl 1) (room_inside (by decide)) split
  rw [through] at scanned
  exact valuesNested_of_scan nested (drop_behind split) scanned (Nat.le_refl 1)

theorem encode_start (wellFormed : record.WellFormed) (encoded : record.encode = .ok octets)
    : ∃ header tag later, TagHeader header tag ∧ octets = header ++ later
        ∧ ¬ (tag.isClosing = true ∧ tag.number = 1) := by
  obtain ⟨number, content, notification, rfl, ⟨header, reads, rfl⟩, _, _⟩ :=
    BACnetAuditLogRecord.encode_parts wellFormed encoded
  exact ⟨header, _, _, reads, List.append_assoc _ _ _, by simp⟩

section Loops

variable [JapaneseCodec] {records items : List BACnetAuditLogRecord} {chunks : List Bytes}

/-- The loop reads the records back one by one, by induction on them. -/
theorem decodeRecords_read
    (encoded : List.Forall₂ (fun record chunk => record.encode = .ok chunk) records chunks)
    (wellFormed : ∀ record ∈ records, record.WellFormed)
    (nested : ∀ record ∈ records, record.notification.ValuesNested (some 30))
    (few : items.length + records.length < maxDecodedItems)
    (here : data.drop offset = chunks.flatten ++ (encodeClosingTag 1 ++ rest))
    : decodeRecords data offset items
      = .ok (items ++ records.map fun record =>
            { record with notification := record.notification.overlay {} },
          offset + chunks.flatten.length + (encodeClosingTag 1).length) := by
  induction encoded generalizing offset items with
  | nil =>
    rw [List.map_nil, List.append_nil]
    exact scanItems_closing (show 1 ≤ 254 by omega) here
  | @cons record chunk records chunks first others ih =>
    obtain ⟨fits, laterFit⟩ := List.forall_mem_cons.mp wellFormed
    obtain ⟨shallow, laterShallow⟩ := List.forall_mem_cons.mp nested
    rw [List.length_cons] at few
    rw [List.flatten_cons, List.append_assoc] at here
    obtain ⟨header, tag, later, reads, same, item⟩ := encode_start fits first
    have start := here
    rw [same, List.append_assoc] at start
    have decoded := BACnetAuditLogRecord.decode_encode fits shallow.unlimited first
    rw [← slice_here here] at decoded
    have went : decodeRecords data offset items = _ := scanItems_item recordEnd_advance reads item
      start (recordEnd_read fits shallow first here) decoded (by omega)
    have fewer : (items ++ [{ record with
        notification := record.notification.overlay {} }]).length + records.length
        < maxDecodedItems := by
      rw [List.length_append, List.length_singleton]
      omega
    refine (went.trans (ih laterFit laterShallow fewer (drop_behind here))).trans ?_
    simp only [List.map_cons, List.append_assoc, List.singleton_append, List.flatten_cons,
      List.length_append, Nat.add_assoc]

/-- If the loop comes through, no record is nested too deep, by induction on them. -/
theorem nested_of_decodeRecords {result}
    (encoded : List.Forall₂ (fun record chunk => record.encode = .ok chunk) records chunks)
    (wellFormed : ∀ record ∈ records, record.WellFormed)
    (nested : ∀ record ∈ records, record.notification.ValuesNested none)
    (here : data.drop offset = chunks.flatten ++ rest)
    (decoded : decodeRecords data offset items = .ok result)
    : ∀ record ∈ records, record.notification.ValuesNested (some 30) := by
  induction encoded generalizing offset items with
  | nil => simp
  | @cons record chunk records chunks first others ih =>
    obtain ⟨fits, laterFit⟩ := List.forall_mem_cons.mp wellFormed
    obtain ⟨balanced, laterBalanced⟩ := List.forall_mem_cons.mp nested
    rw [List.flatten_cons, List.append_assoc] at here
    obtain ⟨header, tag, later, reads, same, item⟩ := encode_start fits first
    have start := here
    rw [same, List.append_assoc] at start
    obtain ⟨ended, found, ends, later⟩ :=
      scanItems_item_inv recordEnd_advance reads item start decoded
    have shallow := nested_of_recordEnd fits balanced first here ends
    rw [recordEnd_read fits shallow first here] at ends
    cases ends
    exact List.forall_mem_cons.mpr ⟨shallow, ih laterFit laterBalanced (drop_behind here) later⟩

end Loops

section RoundTrip

variable {ack : AuditLogQueryACK}

theorem encode_parts (encoded : ack.encode = .ok octets)
    : ∃ auditLog chunks header, octets = auditLog ++ (encodeOpeningTag 1 ++ (chunks.flatten
          ++ (encodeClosingTag 1 ++ (header ++ [if ack.noMoreItems then 1 else 0]))))
        ∧ IsField 0 ack.auditLog.encode auditLog
        ∧ List.Forall₂ (fun record chunk => record.encode = .ok chunk) ack.records chunks
        ∧ TagHeader header { number := 2, cls := .context, length := 1 } := by
  obtain ⟨auditLog, identifier, encoded⟩ := bind_eq_ok.mp encoded
  obtain ⟨chunks, records, encoded⟩ := bind_eq_ok.mp encoded
  obtain ⟨noMoreItems, flag, same⟩ := bind_eq_ok.mp encoded
  obtain ⟨header, reads, rfl⟩ := isField_of_tagged flag (by rw [List.length_singleton]; omega)
  refine ⟨auditLog, chunks, header, ?_, isField_of_objectId identifier, mapM_ok_iff.mp records,
    reads⟩
  rw [← Except.ok.inj same, enclose, List.append_assoc, List.append_assoc]

theorem encode_ok (wellFormed : ∀ record ∈ ack.records, record.WellFormed)
    : ∃ octets, ack.encode = .ok octets := by
  have flag : ∃ octets, encodeContextBoolean 2 ack.noMoreItems = .ok octets :=
    (encodeContextTagged_ok_iff (by omega)).mpr (by rw [List.length_singleton]; omega)
  rw [encode, bind_const_ok_iff fun _ => bind_const_ok_iff fun _ => bind_const_ok_iff fun _ =>
    returned_ok_iff _]
  exact ⟨encodeContextObjectId_ok (by omega) ack.auditLog, exists_mapM_ok_iff.mpr
    fun record member => BACnetAuditLogRecord.encode_ok (wellFormed record member), flag, trivial⟩

/-- The octet at the start of the rest of a buffer. -/
theorem octetAt_here {octet} (here : data.drop offset = octet :: rest)
    : octetAt data offset = .ok octet := by
  have first : data[offset]? = some octet := by
    rw [← List.head?_drop, here, List.head?_cons]
  rw [octetAt, first]

variable [JapaneseCodec]

/-- The records that the loop returns are those of the answer. -/
theorem decode_parts {auditLog inner} (field : IsField 0 ack.auditLog.encode auditLog)
    : decode (auditLog ++ (encodeOpeningTag 1 ++ inner))
      = (do
          let (records, offset) ← decodeRecords (auditLog ++ (encodeOpeningTag 1 ++ inner))
            (auditLog.length + (encodeOpeningTag 1).length) []
          let (_, offset) ← decodeTag (auditLog ++ (encodeOpeningTag 1 ++ inner)) offset
          let noMoreItems ← octetAt (auditLog ++ (encodeOpeningTag 1 ++ inner)) offset
          .ok { auditLog := ack.auditLog, records, noMoreItems := noMoreItems ≠ 0 }) := by
  have start : (auditLog ++ (encodeOpeningTag 1 ++ inner)).drop 0
      = auditLog ++ (encodeOpeningTag 1 ++ inner) := List.drop_zero
  have opened := (encodeOpeningTag_header (show 1 ≤ 254 by omega)).decoded (drop_behind start)
  rw [Nat.zero_add] at opened
  simp only [decode, decodeElement_field field start, bind, Except.bind,
    decodeObjectIdentifier_content, Nat.zero_add, opened]

/-- An answer survives the wire exactly if its records are fewer than the limit, and each survives
and leaves room for the opening tag of its own.
-/
theorem roundTrip_iff (wellFormed : ∀ record ∈ ack.records, record.WellFormed)
    : (ack.encode >>= decode) = .ok ack
      ↔ ack.records.length < maxDecodedItems
        ∧ ∀ record ∈ ack.records, record.notification.Whole
          ∧ record.notification.ValuesNested (some 30) := by
  obtain ⟨octets, encoded⟩ := encode_ok wellFormed
  have returned : (ack.encode >>= decode) = decode octets := by rw [encoded]; rfl
  obtain ⟨auditLog, chunks, header, rfl, field, records, reads⟩ := encode_parts encoded
  have start : (auditLog ++ (encodeOpeningTag 1 ++ (chunks.flatten ++ (encodeClosingTag 1
      ++ (header ++ [if ack.noMoreItems then 1 else 0]))))).drop 0 = _ := List.drop_zero
  have inside := drop_behind (drop_behind start)
  rw [Nat.zero_add] at inside
  rw [returned, decode_parts field]
  constructor
  · intro survives
    obtain ⟨result, decoded, survives⟩ := bind_eq_ok.mp survives
    obtain ⟨_, _, survives⟩ := bind_eq_ok.mp survives
    obtain ⟨_, _, same⟩ := bind_eq_ok.mp survives
    have kept : result.1 = ack.records := congrArg AuditLogQueryACK.records (Except.ok.inj same)
    obtain ⟨few, balanced⟩ := items_of_scan recordEnd_advance
      (fun _ _ decoded => BACnetAuditLogRecord.valuesNested_decode decoded) decoded
      ⟨by decide, by simp⟩
    rw [kept] at few balanced
    have fewer : ([] : List BACnetAuditLogRecord).length + ack.records.length < maxDecodedItems := by
      rwa [List.length_nil, Nat.zero_add]
    have nested := nested_of_decodeRecords records wellFormed balanced inside decoded
    have read := decodeRecords_read records wellFormed nested fewer inside
    rw [decoded, List.nil_append, Except.ok.injEq] at read
    have fixed := ((congrArg Prod.fst read).symm.trans kept).trans (List.map_id ack.records).symm
    refine ⟨few, fun record member => ⟨?_, nested record member⟩⟩
    have same := List.map_inj_left.mp fixed record member
    exact BACnetAuditNotification.overlay_default_iff.mp
      (congrArg BACnetAuditLogRecord.notification same)
  · rintro ⟨few, each⟩
    have fewer : ([] : List BACnetAuditLogRecord).length + ack.records.length < maxDecodedItems := by
      rwa [List.length_nil, Nat.zero_add]
    have read := decodeRecords_read records wellFormed (fun record member => (each record member).2)
      fewer inside
    have whole : ack.records.map (fun record =>
        { record with notification := record.notification.overlay {} }) = ack.records := by
      refine (List.map_congr_left fun record member => ?_).trans (List.map_id ack.records)
      rw [BACnetAuditNotification.overlay_default_iff.mpr (each record member).1, id]
    have behind := drop_behind (drop_behind inside)
    rw [read, List.nil_append, whole]
    simp only [bind, Except.bind, reads.decoded behind, octetAt_here (drop_behind behind)]
    obtain ⟨_, _, noMoreItems⟩ := ack
    cases noMoreItems <;> rfl

end RoundTrip

end AuditLogQueryACK

end BacPy
