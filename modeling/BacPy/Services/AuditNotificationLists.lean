import BacPy.Services.AuditRecordLists

/-! Lists of notifications: the search for the end of one goes on to the operation of the next, so
the source in front of that operation is read as a part of the notification before it.
-/

namespace BacPy

open Library
open BACnetAuditNotification (elements_body elements_values elements_source valuesNested_decode)

-- What the decoder makes of a list

namespace BACnetAuditNotification

/-- The notifications as the decoder cuts them: each has the source of the next, and the first is
laid over what stands in front of its operation.
-/
def regrouped (start : BACnetAuditNotification)
    : List BACnetAuditNotification → List BACnetAuditNotification
  | [] => []
  | [n] => [n.setBody start]
  | n :: m :: rest => m.setSource (n.setBody start) :: regrouped {} (m :: rest)

/-- No source is in the encoding. -/
def NoSource (n : BACnetAuditNotification) : Prop := n.sourceDevice = none ∧ n.sourceObject = none

variable {n m start : BACnetAuditNotification}

theorem NoSource.setSource_eq (absent : m.NoSource) (n)
    : m.setSource n = n := by
  rw [setSource, absent.1, absent.2, Option.none_or, Option.none_or]

/-- A whole notification is laid over its own source as it is. -/
theorem setBody_source_iff
    : n.setBody (m.setSource {}) = n
      ↔ n.Whole ∧ n.sourceDevice = m.sourceDevice ∧ n.sourceObject = m.sourceObject := by
  obtain ⟨operation, sourceDevice, sourceObject, sourceComment, targetComment, invokeId,
    sourceUserId, sourceUserRole, targetDevice, targetObject, targetProperty, targetArrayIndex,
    targetPriority, targetValue, currentValue, errorClass, errorCode⟩ := n
  simp only [setBody, setSource, setRequest, setTarget, setOutcome, Option.or_none, mk.injEq, Whole,
    true_and]
  cases targetProperty <;> cases errorClass <;> cases errorCode
  all_goals simp [eq_comm, and_comm, and_assoc]

/-- The decoder returns the notifications themselves exactly if they are whole, the first has the
source in front of its operation and the others have none, by induction on them.
-/
theorem regrouped_eq_iff {rest}
    : regrouped (m.setSource {}) (n :: rest) = n :: rest
      ↔ (∀ item ∈ n :: rest, item.Whole)
        ∧ (n.sourceDevice = m.sourceDevice ∧ n.sourceObject = m.sourceObject)
        ∧ ∀ item ∈ rest, item.NoSource := by
  induction rest generalizing n m with
  | nil =>
    rw [regrouped, List.cons.injEq, setBody_source_iff]
    simp
  | cons next rest ih =>
    have later : regrouped {} (next :: rest) = next :: rest
        ↔ (∀ item ∈ next :: rest, item.Whole) ∧ next.NoSource ∧ ∀ item ∈ rest, item.NoSource :=
      @ih next {}
    rw [regrouped, List.cons.injEq, later]
    simp only [List.forall_mem_cons]
    constructor
    · rintro ⟨first, whole, absent, others⟩
      rw [absent.setSource_eq, setBody_source_iff] at first
      exact ⟨⟨first.1, whole⟩, first.2, absent, others⟩
    · rintro ⟨⟨first, whole⟩, same, absent, others⟩
      rw [absent.setSource_eq, setBody_source_iff]
      exact ⟨⟨first, same⟩, whole, absent, others⟩

end BACnetAuditNotification

-- The end of a notification

/-- The sequence is empty or starts with a tag that closes nothing. -/
theorem Elements.start {levels low high chunk} (elements : Elements levels low high chunk)
    : chunk = [] ∨ ∃ header tag later, TagHeader header tag ∧ chunk = header ++ later
        ∧ tag.isClosing = false := by
  cases elements with
  | nil => exact .inl rfl
  | cons _ _ element _ =>
    obtain ⟨content, header, reads, rfl⟩ | ⟨inner, inRange, rfl, _⟩ := element
    · exact .inr ⟨header, _, _, reads, List.append_assoc _ _ _, rfl⟩
    · exact .inr ⟨_, _, _, encodeOpeningTag_header inRange, by rw [enclose, List.append_assoc], rfl⟩

namespace ConfirmedAuditNotificationRequest

section Ends

variable {data chunk inner rest : Bytes} {offset number ended : Nat} {seenOperation : Bool}

theorem endRound_advances (data : Bytes) : Advances (endRound data) := by
  intro offset seenOperation later changed went
  obtain ⟨⟨tag, newOffset⟩, read, went⟩ := bind_eq_ok.mp went
  have moved := decodeTag_forward read
  dsimp only at went
  split at went
  · cases went
  · split at went
    · obtain ⟨⟨_, scanned⟩, found, same⟩ := bind_eq_ok.mp went
      have forward := scanToClosing_forward found
      obtain ⟨rfl, _⟩ := Round.next.inj (Except.ok.inj same)
      dsimp only at forward
      omega
    · repeat' split at went
      all_goals first
        | cases went
          omega
        | cases went

/-- The search never goes back. -/
theorem endScan_forward
    (found : scan data.length (endRound data) (fun offset _ => .ok offset) offset seenOperation
      = .ok ended)
    : offset ≤ ended := by
  refine scan_induction (fun offset _ ended => offset ≤ ended) (endRound_advances data) ?past ?stop
    ?next found
  case past =>
    intro offset _ ended _ same
    exact Nat.le_of_eq (Except.ok.inj same)
  case stop =>
    intro offset _ ended _ went
    obtain ⟨⟨tag, newOffset⟩, _, went⟩ := bind_eq_ok.mp went
    dsimp only at went
    repeat' split at went
    all_goals first
      | exact Nat.le_of_eq (Round.stop.inj (Except.ok.inj went))
      | (obtain ⟨_, _, same⟩ := bind_eq_ok.mp went; cases same)
      | cases went
  case next =>
    intro offset _ later _ ended _ went ih
    have moved := endRound_advances data _ _ _ _ went
    omega

theorem notificationEnd_advance : ItemsAdvance 0 notificationEnd := by
  intro data offset ended tag next read item found
  have inside := decodeTag_inside read
  cases went : endRound data offset false with
  | error raised =>
    rw [notificationEnd, scan_error inside went] at found
    cases found
  | ok outcome =>
    cases outcome with
    | next later changed =>
      have moved := endRound_advances data _ _ _ _ went
      rw [notificationEnd, scan_next (endRound_advances data) inside went] at found
      have forward := endScan_forward found
      omega
    | stop stopped =>
      obtain ⟨_, again, went⟩ := bind_eq_ok.mp went
      rw [read] at again
      cases again
      dsimp only at went
      rw [if_neg item] at went
      split at went
      · obtain ⟨_, _, same⟩ := bind_eq_ok.mp went
        cases same
      · split at went
        · cases went
        · cases went

/-- The search passes an element that is not an operation. -/
theorem endScan_element (element : Element (some 31) number chunk) (other : number ≠ 4)
    (here : data.drop offset = chunk ++ rest)
    : scan data.length (endRound data) (fun offset _ => .ok offset) offset seenOperation
      = scan data.length (endRound data) (fun offset _ => .ok offset) (offset + chunk.length)
          seenOperation := by
  obtain ⟨content, header, reads, rfl⟩ | ⟨inner, inRange, rfl, nested⟩ := element
  · rw [List.append_assoc] at here
    refine scan_next (endRound_advances data) (reads.inside here) ?_
    simp only [endRound, reads.decoded here, bind, Except.bind, Bool.false_eq_true, false_and,
      if_false, other, and_false, List.length_append, Nat.add_assoc]
  · rw [enclose, List.append_assoc, List.append_assoc] at here
    have opening := encodeOpeningTag_header inRange
    have found : scanToClosing (some maxNestingDepth) data _ = _ := (scanToClosing_iff (by decide)
      (encodeClosingTag_header inRange) rfl (drop_behind here)).mpr nested
    refine scan_next (endRound_advances data) (opening.inside here) ?_
    simp only [endRound, opening.decoded here, bind, Except.bind, Bool.false_eq_true, false_and,
      if_false, if_true, found, enclose, List.length_append, Nat.add_assoc]

/-- The search passes a sequence of them, by induction on it. -/
theorem endScan_elements {low high} (elements : Elements (some 31) low high chunk)
    (others : high ≤ 4 ∨ 4 < low) (here : data.drop offset = chunk ++ rest)
    : scan data.length (endRound data) (fun offset _ => .ok offset) offset seenOperation
      = scan data.length (endRound data) (fun offset _ => .ok offset) (offset + chunk.length)
          seenOperation := by
  induction elements generalizing offset with
  | nil => rfl
  | cons above below element _ ih =>
    rw [List.append_assoc] at here
    rw [endScan_element element (by omega) here, ih (drop_behind here), List.length_append,
      Nat.add_assoc]

/-- The search passes the first operation, and remembers it. -/
theorem endScan_operation {content} (field : IsField 4 content chunk)
    (here : data.drop offset = chunk ++ rest)
    : scan data.length (endRound data) (fun offset _ => .ok offset) offset false
      = scan data.length (endRound data) (fun offset _ => .ok offset) (offset + chunk.length)
          true := by
  obtain ⟨header, reads, rfl⟩ := field
  rw [List.append_assoc] at here
  refine scan_next (endRound_advances data) (reads.inside here) ?_
  simp only [endRound, reads.decoded here, bind, Except.bind, Bool.false_eq_true, false_and,
    if_false, and_self, if_true, List.length_append, Nat.add_assoc]

/-- A search that succeeds in front of a balanced value has come through it, within the limit. -/
theorem endScan_enclosed (inRange : number ≤ 254) (nested : PlainlyNested none 0 inner)
    (here : data.drop offset = enclose number inner ++ rest)
    (found : scan data.length (endRound data) (fun offset _ => .ok offset) offset seenOperation
      = .ok ended)
    : PlainlyNested (some 31) 0 inner := by
  rw [enclose, List.append_assoc, List.append_assoc] at here
  have opening := encodeOpeningTag_header inRange
  have went : endRound data offset seenOperation
      = scanToClosing (some maxNestingDepth) data (offset + (encodeOpeningTag number).length)
        >>= fun found => .ok (.next found.2 seenOperation) := by
    simp only [endRound, opening.decoded here, bind, Except.bind, Bool.false_eq_true, false_and,
      if_false, if_true]
  cases scanned : scanToClosing (some maxNestingDepth) data
      (offset + (encodeOpeningTag number).length) with
  | error raised =>
    rw [scanned] at went
    rw [scan_error (opening.inside here) went] at found
    cases found
  | ok result =>
    change scan _ _ _ _ (0 + 1) = _ at scanned
    exact nested_of_scan nested (drop_behind here) scanned (Nat.le_refl 1)

theorem valuesNested_of_endScan {n : BACnetAuditNotification} (nested : n.ValuesNested none)
    (here : data.drop offset = n.encodeValues ++ rest)
    (found : scan data.length (endRound data) (fun offset _ => .ok offset) offset seenOperation
      = .ok ended)
    : n.ValuesNested (some 31) := by
  rw [BACnetAuditNotification.encodeValues, List.append_assoc] at here
  have first : ∀ value ∈ n.targetValue, PlainlyNested (some 31) 0 value := by
    intro value given
    rw [Option.mem_def.mp given] at here
    exact endScan_enclosed (by omega) (nested.1 value given) here found
  refine ⟨first, fun value given => ?_⟩
  have through : scan data.length (endRound data) (fun offset _ => .ok offset)
      (offset + ((n.targetValue.map (enclose 14)).getD []).length) seenOperation = .ok ended := by
    cases given : n.targetValue with
    | none => exact found
    | some target =>
      have element : Element (some 31) 14 (enclose 14 target) :=
        .inr ⟨target, by omega, rfl, first target given⟩
      rw [given] at here
      exact (endScan_element element (by omega) here).symm.trans found
  have there := drop_behind here
  rw [Option.mem_def.mp given] at there
  exact endScan_enclosed (by omega) (nested.2 value given) there through

/-- What ends a notification: the closing tag of the list, or an operation. -/
def EndsNotification (rest : Bytes) : Prop :=
  ∃ header tag later, TagHeader header tag ∧ rest = header ++ later
    ∧ ((tag.isClosing = true ∧ tag.number = 0)
      ∨ (tag.isOpening = false ∧ tag.cls = .context ∧ tag.number = 4))

theorem endsNotification_closing (later : Bytes) : EndsNotification (encodeClosingTag 0 ++ later) :=
  ⟨_, _, later, encodeClosingTag_header (by omega), rfl, .inl ⟨rfl, rfl⟩⟩

theorem endsNotification_operation {content : Bytes} (field : IsField 4 content chunk)
    (later : Bytes)
    : EndsNotification (chunk ++ later) := by
  obtain ⟨header, reads, rfl⟩ := field
  exact ⟨header, _, content ++ later, reads, List.append_assoc _ _ _, .inr ⟨rfl, rfl, rfl⟩⟩

/-- The search stops there once it has seen the operation. -/
theorem endScan_stop (ends : EndsNotification rest) (here : data.drop offset = rest)
    : scan data.length (endRound data) (fun offset _ => .ok offset) offset true = .ok offset := by
  obtain ⟨header, tag, later, reads, rfl, ⟨closes, number⟩ | ⟨notOpening, cls, number⟩⟩ := ends
  · refine scan_stop (reads.inside here) ?_
    simp only [endRound, reads.decoded here, bind, Except.bind, closes, number, and_self, if_true]
  · refine scan_stop (reads.inside here) ?_
    simp only [endRound, reads.decoded here, bind, Except.bind, notOpening, Bool.false_eq_true,
      if_false, cls, number, OfNat.ofNat_ne_zero, and_false, and_self, if_true]

variable {lead body trail : Bytes} {n : BACnetAuditNotification}

/-- What the search finds first in an encoded notification. -/
theorem notification_start (leads : Elements (some 31) 2 4 lead) (wellFormed : n.WellFormed)
    (encoded : n.encodeBody = .ok body)
    : ∃ header tag later, TagHeader header tag ∧ lead ++ body = header ++ later
        ∧ ¬ (tag.isClosing = true ∧ tag.number = 0) := by
  obtain ⟨operation, fields, result, rfl, ⟨content, header, reads, rfl⟩, _⟩ :=
    elements_body wellFormed encoded
  obtain rfl | ⟨header', tag, later, reads', rfl, notClosing⟩ := leads.start
  · exact ⟨header, _, _, reads, by rw [List.nil_append, List.append_assoc], by simp⟩
  · exact ⟨header', tag, _, reads', List.append_assoc _ _ _, by simp [notClosing]⟩

/-- The search goes from the source in front of an operation to that in front of the next. -/
theorem notificationEnd_read (leads : Elements (some 31) 2 4 lead) (wellFormed : n.WellFormed)
    (nested : n.ValuesNested (some 31)) (encoded : n.encodeBody = .ok body)
    (trails : Elements (some 31) 2 4 trail) (ends : EndsNotification rest)
    (here : data.drop offset = (lead ++ (body ++ trail)) ++ rest)
    : notificationEnd data offset = .ok (offset + (lead ++ (body ++ trail)).length) := by
  obtain ⟨operation, fields, result, rfl, ⟨_, field⟩, elements⟩ :=
    elements_body wellFormed encoded
  obtain ⟨first, second⟩ := elements (some 31)
  simp only [List.append_assoc] at here
  have behindLead := drop_behind here
  have behindOperation := drop_behind behindLead
  have behindFields := drop_behind behindOperation
  have behindValues := drop_behind behindFields
  have behindResult := drop_behind behindValues
  rw [notificationEnd, endScan_elements leads (by omega) here, endScan_operation field behindLead,
    endScan_elements first (by omega) behindOperation,
    endScan_elements (elements_values nested) (by omega) behindFields,
    endScan_elements second (by omega) behindValues, endScan_elements trails (by omega) behindResult,
    endScan_stop ends (drop_behind behindResult)]
  simp only [List.length_append, Nat.add_assoc]

/-- If the search succeeds, the raw values are not nested too deep. -/
theorem nested_of_notificationEnd (leads : Elements (some 31) 2 4 lead) (wellFormed : n.WellFormed)
    (nested : n.ValuesNested none) (encoded : n.encodeBody = .ok body)
    (here : data.drop offset = lead ++ (body ++ rest))
    (found : notificationEnd data offset = .ok ended)
    : n.ValuesNested (some 31) := by
  obtain ⟨operation, fields, result, rfl, ⟨_, field⟩, elements⟩ :=
    elements_body wellFormed encoded
  simp only [List.append_assoc] at here
  have behindLead := drop_behind here
  have behindOperation := drop_behind behindLead
  rw [notificationEnd, endScan_elements leads (by omega) here, endScan_operation field behindLead,
    endScan_elements (elements (some 31)).1 (by omega) behindOperation] at found
  exact valuesNested_of_endScan nested (drop_behind behindOperation) found

end Ends

-- The list

section Loops

variable {data lead body after : Bytes} {offset : Nat} {n : BACnetAuditNotification}
  {rest items : List BACnetAuditNotification} {chunks : List Bytes}
  {set : BACnetAuditNotification → BACnetAuditNotification}

/-- The source of the second notification stands in front of what ends the first. -/
theorem second_source {m : BACnetAuditNotification} {chunk : Bytes} (fits : m.WellFormed)
    (encoded : m.encode = .ok chunk)
    (here : data.drop offset
      = (lead ++ body) ++ ((chunk :: chunks).flatten ++ (encodeClosingTag 0 ++ after)))
    : ∃ source next, m.encodeSource = .ok source ∧ m.encodeBody = .ok next
        ∧ data.drop offset = (lead ++ (body ++ source))
          ++ (([] ++ next) ++ (chunks.flatten ++ (encodeClosingTag 0 ++ after)))
        ∧ EndsNotification
          (([] ++ next) ++ (chunks.flatten ++ (encodeClosingTag 0 ++ after))) := by
  obtain ⟨source, encodedSource, encoded⟩ := bind_eq_ok.mp encoded
  obtain ⟨next, encodedNext, encoded⟩ := bind_eq_ok.mp encoded
  cases encoded
  refine ⟨source, next, encodedSource, encodedNext, ?_, ?_⟩
  · simpa only [List.flatten_cons, List.append_assoc, List.nil_append] using here
  · obtain ⟨operation, fields, result, rfl, ⟨_, field⟩, _⟩ :=
      elements_body fits encodedNext
    rw [List.nil_append, List.append_assoc]
    exact endsNotification_operation field _

theorem encode_ok {request : ConfirmedAuditNotificationRequest}
    (wellFormed : ∀ item ∈ request.notifications, item.WellFormed)
    : ∃ octets, request.encode = .ok octets := by
  rw [encode, bind_const_ok_iff fun _ => returned_ok_iff _]
  exact ⟨exists_mapM_ok_iff.mpr fun item member =>
    BACnetAuditNotification.encode_ok (wellFormed item member), trivial⟩

variable [JapaneseCodec]

/-- The loop cuts the list in front of every operation but the first, by induction on it. -/
theorem decodeNotifications_read (leads : Elements (some 31) 2 4 lead)
    (fills : BACnetAuditNotification.Fills lead set) (first : n.encodeBody = .ok body)
    (encoded : List.Forall₂ (fun item chunk => item.encode = .ok chunk) rest chunks)
    (wellFormed : ∀ item ∈ n :: rest, item.WellFormed)
    (nested : ∀ item ∈ n :: rest, item.ValuesNested (some 31))
    (few : items.length + (n :: rest).length < maxDecodedItems)
    (here : data.drop offset = (lead ++ body) ++ (chunks.flatten ++ (encodeClosingTag 0 ++ after)))
    : ∃ ended, decodeNotifications data offset items
      = .ok (items ++ BACnetAuditNotification.regrouped (set {}) (n :: rest), ended) := by
  induction encoded generalizing n lead body set offset items with
  | nil =>
    have fits := wellFormed n (List.mem_cons_self ..)
    have balanced := nested n (List.mem_cons_self ..)
    obtain ⟨header, tag, later, reads, same, item⟩ := notification_start leads fits first
    have start := here
    rw [same, List.append_assoc] at start
    rw [List.flatten_nil, List.nil_append, ← List.append_nil body] at here
    have read := (fills.append ((BACnetAuditNotification.fills_body fits balanced.unlimited
      first).append BACnetAuditNotification.Fills.nil)).decode
    rw [← slice_here here] at read
    have went : decodeNotifications data offset items = _ :=
      scanItems_item notificationEnd_advance reads item start (notificationEnd_read leads fits
        balanced first .nil (endsNotification_closing after) here) read few
    exact ⟨_, went.trans (scanItems_closing (show 0 ≤ 254 by omega) (drop_behind here))⟩
  | @cons m chunk rest chunks second others ih =>
    obtain ⟨fits, laterFit⟩ := List.forall_mem_cons.mp wellFormed
    obtain ⟨balanced, laterBalanced⟩ := List.forall_mem_cons.mp nested
    obtain ⟨header, tag, later, reads, same, item⟩ := notification_start leads fits first
    have start := here
    rw [same, List.append_assoc] at start
    obtain ⟨source, next, encodedSource, encodedNext, here, ends⟩ :=
      second_source (laterFit m (List.mem_cons_self ..)) second here
    have read := (fills.append ((BACnetAuditNotification.fills_body fits balanced.unlimited
      first).append (BACnetAuditNotification.fills_source encodedSource))).decode
    rw [← slice_here here] at read
    have went : decodeNotifications data offset items = _ :=
      scanItems_item notificationEnd_advance reads item start (notificationEnd_read leads fits
        balanced first (elements_source encodedSource) ends here) read
        (by simp only [List.length_cons] at few; omega)
    -- the next notification has lost its source, and starts with its operation
    have bare : ∃ ended, decodeNotifications data (offset + (lead ++ (body ++ source)).length)
        (items ++ [m.setSource (n.setBody (set {}))])
        = .ok (items ++ [m.setSource (n.setBody (set {}))]
          ++ BACnetAuditNotification.regrouped {} (m :: rest), ended) :=
      ih .nil BACnetAuditNotification.Fills.nil encodedNext laterFit laterBalanced
        (by simp only [List.length_append, List.length_cons, List.length_nil] at few ⊢; omega)
        (drop_behind here)
    obtain ⟨ended, bare⟩ := bare
    refine ⟨ended, went.trans (bare.trans ?_)⟩
    rw [List.append_assoc, List.singleton_append, BACnetAuditNotification.regrouped]

/-- A loop that comes through has found the end of its first notification, and gone on there. -/
theorem decodeNotifications_first {trail tail result} (leads : Elements (some 31) 2 4 lead)
    (fits : n.WellFormed) (balanced : n.ValuesNested none) (first : n.encodeBody = .ok body)
    (trails : Elements (some 31) 2 4 trail) (ends : EndsNotification tail)
    (here : data.drop offset = (lead ++ (body ++ trail)) ++ tail)
    (decoded : decodeNotifications data offset items = .ok result)
    : n.ValuesNested (some 31)
      ∧ ∃ found, decodeNotifications data (offset + (lead ++ (body ++ trail)).length)
        (items ++ [found]) = .ok result := by
  obtain ⟨header, tag, later, reads, same, item⟩ := notification_start leads fits first
  have start := here
  rw [← List.append_assoc, same, List.append_assoc, List.append_assoc] at start
  obtain ⟨ended, found, found_, went⟩ :=
    scanItems_item_inv notificationEnd_advance reads item start decoded
  have shallow : n.ValuesNested (some 31) := by
    rw [List.append_assoc, List.append_assoc] at here
    exact nested_of_notificationEnd leads fits balanced first here found_
  rw [notificationEnd_read leads fits shallow first trails ends here] at found_
  cases found_
  exact ⟨shallow, found, went⟩

/-- If the loop comes through, no notification is nested too deep, by induction on them. -/
theorem nested_of_decodeNotifications {result : List BACnetAuditNotification × Nat}
    (leads : Elements (some 31) 2 4 lead) (first : n.encodeBody = .ok body)
    (encoded : List.Forall₂ (fun item chunk => item.encode = .ok chunk) rest chunks)
    (wellFormed : ∀ item ∈ n :: rest, item.WellFormed)
    (nested : ∀ item ∈ n :: rest, item.ValuesNested none)
    (here : data.drop offset = (lead ++ body) ++ (chunks.flatten ++ (encodeClosingTag 0 ++ after)))
    (decoded : decodeNotifications data offset items = .ok result)
    : ∀ item ∈ n :: rest, item.ValuesNested (some 31) := by
  induction encoded generalizing n lead body offset items with
  | nil =>
    rw [List.flatten_nil, List.nil_append, ← List.append_nil body] at here
    obtain ⟨shallow, _⟩ := decodeNotifications_first leads (wellFormed n (List.mem_cons_self ..))
      (nested n (List.mem_cons_self ..)) first .nil (endsNotification_closing after) here decoded
    exact List.forall_mem_cons.mpr ⟨shallow, by simp⟩
  | @cons m chunk rest chunks second others ih =>
    obtain ⟨fits, laterFit⟩ := List.forall_mem_cons.mp wellFormed
    obtain ⟨balanced, laterBalanced⟩ := List.forall_mem_cons.mp nested
    obtain ⟨source, next, encodedSource, encodedNext, here, ends⟩ :=
      second_source (laterFit m (List.mem_cons_self ..)) second here
    obtain ⟨shallow, found, later⟩ := decodeNotifications_first leads fits balanced first
      (elements_source encodedSource) ends here decoded
    exact List.forall_mem_cons.mpr
      ⟨shallow, ih .nil encodedNext laterFit laterBalanced (drop_behind here) later⟩

/-- The notifications that the loop returns are those of the request. -/
theorem decode_parts (inner : Bytes)
    : decode (enclose 0 inner) = (fun decoded => { notifications := decoded.1 })
        <$> decodeNotifications (enclose 0 inner) (encodeOpeningTag 0).length [] := by
  have start : (enclose 0 inner).drop 0
      = encodeOpeningTag 0 ++ (inner ++ encodeClosingTag 0) := List.drop_zero
  have opened := (encodeOpeningTag_header (show 0 ≤ 254 by omega)).decoded start
  rw [Nat.zero_add] at opened
  simp only [decode, opened, bind, Except.bind, Functor.map, Except.map]

/-- The list behind the opening tag comes back exactly if it is shorter than the limit, each
notification survives and leaves room for a tag of its own, and only the first has a source.
-/
theorem decodeNotifications_iff {chunk} (wellFormed : ∀ item ∈ n :: rest, item.WellFormed)
    (first : n.encode = .ok chunk)
    (encoded : List.Forall₂ (fun item chunk => item.encode = .ok chunk) rest chunks)
    (here : data.drop offset = (chunk :: chunks).flatten ++ (encodeClosingTag 0 ++ after))
    : (∃ ended, decodeNotifications data offset [] = .ok (n :: rest, ended))
      ↔ (n :: rest).length < maxDecodedItems
        ∧ (∀ item ∈ n :: rest, item.Whole ∧ item.ValuesNested (some 31))
        ∧ ∀ item ∈ rest, item.NoSource := by
  obtain ⟨source, encodedSource, first⟩ := bind_eq_ok.mp first
  obtain ⟨body, encodedBody, same⟩ := bind_eq_ok.mp first
  cases same
  rw [List.flatten_cons, List.append_assoc] at here
  have leads : Elements (some 31) 2 4 source :=
    elements_source encodedSource
  have fills := BACnetAuditNotification.fills_source encodedSource
  have read (few : (n :: rest).length < maxDecodedItems)
      (nested : ∀ item ∈ n :: rest, item.ValuesNested (some 31))
      : ∃ ended, decodeNotifications data offset []
        = .ok ([] ++ BACnetAuditNotification.regrouped (n.setSource {}) (n :: rest), ended) :=
    decodeNotifications_read leads fills encodedBody encoded wellFormed nested
      (by rwa [List.length_nil, Nat.zero_add]) here
  constructor
  · rintro ⟨ended, decoded⟩
    obtain ⟨few, balanced⟩ := items_of_scan notificationEnd_advance
      (fun _ _ decoded => valuesNested_decode decoded) decoded
      ⟨by decide, by simp⟩
    have nested := nested_of_decodeNotifications leads encodedBody encoded wellFormed balanced here
      decoded
    obtain ⟨_, again⟩ := read few nested
    rw [decoded, List.nil_append] at again
    obtain ⟨whole, _, bare⟩ := BACnetAuditNotification.regrouped_eq_iff.mp
      (Prod.mk.inj (Except.ok.inj again)).1.symm
    exact ⟨few, fun item member => ⟨whole item member, nested item member⟩, bare⟩
  · rintro ⟨few, each, bare⟩
    obtain ⟨ended, decoded⟩ := read few fun item member => (each item member).2
    have same := BACnetAuditNotification.regrouped_eq_iff.mpr
      ⟨fun item member => (each item member).1, ⟨rfl, rfl⟩, bare⟩
    rw [same, List.nil_append] at decoded
    exact ⟨ended, decoded⟩

/-- A request survives the wire exactly if its list does. -/
theorem roundTrip_iff {request : ConfirmedAuditNotificationRequest}
    (wellFormed : ∀ item ∈ request.notifications, item.WellFormed)
    : (request.encode >>= decode) = .ok request
      ↔ request.notifications.length < maxDecodedItems
        ∧ (∀ item ∈ request.notifications, item.Whole ∧ item.ValuesNested (some 31))
        ∧ ∀ item ∈ request.notifications.tail, item.NoSource := by
  obtain ⟨octets, encoded⟩ := encode_ok wellFormed
  obtain ⟨chunks, each, same⟩ := bind_eq_ok.mp encoded
  cases same
  obtain ⟨notifications⟩ := request
  have returned : (encode { notifications } >>= decode) = .ok { notifications }
      ↔ ∃ ended, decodeNotifications (enclose 0 chunks.flatten) (encodeOpeningTag 0).length []
        = .ok (notifications, ended) := by
    have once : (encode { notifications } >>= decode) = decode (enclose 0 chunks.flatten) := by
      rw [encoded]
      rfl
    rw [once, decode_parts, map_eq_ok]
    simp
  have start : (enclose 0 chunks.flatten).drop (encodeOpeningTag 0).length
      = chunks.flatten ++ (encodeClosingTag 0 ++ []) := by
    rw [List.append_nil, enclose, List.drop_left]
  rw [returned]
  cases mapM_ok_iff.mp each with
  | nil =>
    have read : decodeNotifications (enclose 0 [].flatten) (encodeOpeningTag 0).length [] = _ :=
      scanItems_closing (show 0 ≤ 254 by omega) start
    simp only [read]
    simp [maxDecodedItems]
  | cons first others => exact decodeNotifications_iff wellFormed first others start

end Loops

end ConfirmedAuditNotificationRequest

/-- A list of well-formed notifications comes back exactly if it is shorter than the limit, its
notifications survive by themselves with their raw values nested fewer than 32 levels, and only the
first of them has a source. Records are delimited by their sequence numbers, so that for them the
first two conditions are enough.
-/
theorem auditLists_iff [JapaneseCodec]
    : (∀ (request : ConfirmedAuditNotificationRequest),
        (∀ item ∈ request.notifications, item.WellFormed) →
          ((request.encode >>= ConfirmedAuditNotificationRequest.decode) = .ok request
            ↔ request.notifications.length < maxDecodedItems
              ∧ (∀ item ∈ request.notifications, item.Whole ∧ item.ValuesNested (some 31))
              ∧ ∀ item ∈ request.notifications.tail, item.NoSource))
      ∧ (∀ (ack : AuditLogQueryACK), (∀ record ∈ ack.records, record.WellFormed) →
          ((ack.encode >>= AuditLogQueryACK.decode) = .ok ack
            ↔ ack.records.length < maxDecodedItems
              ∧ ∀ record ∈ ack.records, record.notification.Whole
                ∧ record.notification.ValuesNested (some 30))) :=
  ⟨fun _ wellFormed => ConfirmedAuditNotificationRequest.roundTrip_iff wellFormed,
    fun _ wellFormed => AuditLogQueryACK.roundTrip_iff wellFormed⟩

/-- Two notifications of which the first has a source come back, and so do two records. -/
theorem auditLists_leading_source
    : ∃ _ : JapaneseCodec,
      (ConfirmedAuditNotificationRequest.encode
          ⟨[{ sourceObject := some ⟨⟨8⟩, 1⟩, invokeId := some 7 }, { operation := 2 }]⟩
          >>= ConfirmedAuditNotificationRequest.decode)
        = .ok ⟨[{ sourceObject := some ⟨⟨8⟩, 1⟩, invokeId := some 7 }, { operation := 2 }]⟩
      ∧ (AuditLogQueryACK.encode ⟨⟨⟨61⟩, 1⟩, [⟨1, {}⟩, ⟨2, { sourceObject := some ⟨⟨8⟩, 1⟩ }⟩], true⟩
          >>= AuditLogQueryACK.decode)
        = .ok ⟨⟨⟨61⟩, 1⟩, [⟨1, {}⟩, ⟨2, { sourceObject := some ⟨⟨8⟩, 1⟩ }⟩], true⟩ := by
  let codec : JapaneseCodec := ⟨fun _ => none⟩
  obtain ⟨requests, answers⟩ := auditLists_iff
  refine ⟨codec, (requests _ ?_).mpr ⟨by decide, ?_, ?_⟩, (answers _ ?_).mpr ⟨by decide, ?_⟩⟩
  · simp only [List.forall_mem_cons]
    exact ⟨⟨by simp, by simp⟩, ⟨by simp, by simp⟩, by simp⟩
  · simp [BACnetAuditNotification.Whole, BACnetAuditNotification.ValuesNested]
  · simp [BACnetAuditNotification.NoSource]
  · simp only [List.forall_mem_cons]
    exact ⟨⟨by decide, by simp, by simp⟩, ⟨by decide, by simp, by simp⟩, by simp⟩
  · simp [BACnetAuditNotification.Whole, BACnetAuditNotification.ValuesNested]

/-- Two notifications of which the second has a source: it comes back in the first. -/
theorem not_auditLists
    : ¬ ∃ _ : JapaneseCodec, ∀ (request : ConfirmedAuditNotificationRequest),
        request.notifications.length < maxDecodedItems →
        (∀ item ∈ request.notifications, item.WellFormed ∧ item.Whole ∧ item.ValuesNested (some 30)) →
        (request.encode >>= ConfirmedAuditNotificationRequest.decode) = .ok request := by
  rintro ⟨codec, all⟩
  have survives := all ⟨[{}, { sourceObject := some ⟨⟨8⟩, 1⟩ }]⟩ (by decide) (by
    simp only [List.forall_mem_cons]
    exact ⟨⟨⟨by simp, by simp⟩, by simp [BACnetAuditNotification.Whole],
        by simp [BACnetAuditNotification.ValuesNested]⟩,
      ⟨⟨by simp, by simp⟩, by simp [BACnetAuditNotification.Whole],
        by simp [BACnetAuditNotification.ValuesNested]⟩, by simp⟩)
  rw [ConfirmedAuditNotificationRequest.roundTrip_iff] at survives
  · simp [BACnetAuditNotification.NoSource] at survives
  · simp only [List.forall_mem_cons]
    exact ⟨⟨by simp, by simp⟩, ⟨by simp, by simp⟩, by simp⟩

end BacPy
