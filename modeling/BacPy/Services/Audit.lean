import BacPy.Types.AuditRecords

/-! The audit services (Clause 13.19 to 13.21): lists of notifications and of log records. An item of
such a list has no delimiter of its own.
-/

namespace BacPy

open Library

/-- The items of a list that is decoded, and the offset behind its closing tag. `itemEnd` infers
where the item at an offset ends.
-/
def decodeItems {Item : Type} (tagNumber : Nat) (itemEnd : Bytes → Nat → Except PyException Nat)
    (decodeItem : Bytes → Except PyException Item) (data : Bytes) (offset : Nat)
    (items : List Item)
    : Except PyException (Round (List Item) (List Item × Nat)) := do
  let (peek, peekOffset) ← decodeTag data offset
  if peek.isClosing = true ∧ peek.number = tagNumber then .ok (.stop (items, peekOffset))
  else
    let ended ← itemEnd data offset
    let item ← decodeItem (slice data offset ended)
    let items := items ++ [item]
    if maxDecodedItems ≤ items.length then
      .error (.valueError s!"Decoded item count exceeds limit ({maxDecodedItems})")
    else .ok (.next ended items)

-- Log records

structure AuditLogQueryACK where
  auditLog : ObjectIdentifier
  records : List BACnetAuditLogRecord
  noMoreItems : Bool

namespace AuditLogQueryACK

def encodeContextBoolean (tagNumber : Nat) (value : Bool) : Except PyException Bytes :=
  encodeContextTagged tagNumber [if value then 1 else 0]

def encode (ack : AuditLogQueryACK) : Except PyException Bytes := do
  let auditLog ← encodeContextObjectId 0 ack.auditLog
  let records ← ack.records.mapM BACnetAuditLogRecord.encode
  let noMoreItems ← encodeContextBoolean 2 ack.noMoreItems
  .ok (auditLog ++ (enclose 1 records.flatten ++ noMoreItems))

/-- The end of a record: a field, and a constructed notification if there is one. -/
def recordEnd (data : Bytes) (offset : Nat) : Except PyException Nat := do
  let (_, _, scanned) ← decodeElement data offset
  let (tag, recOffset) ← decodeTag data scanned
  if tag.isOpening then
    let (_, scanned) ← scanToClosing (some maxNestingDepth) data recOffset
    .ok scanned
  else .ok scanned

variable [JapaneseCodec]

/-- The loop over the records. -/
def decodeRecords (data : Bytes) (offset : Nat) (records : List BACnetAuditLogRecord)
    : Except PyException (List BACnetAuditLogRecord × Nat) :=
  scan data.length (decodeItems 1 recordEnd BACnetAuditLogRecord.decode data)
    (fun offset records => .ok (records, offset)) offset records

def decode (data : Bytes) : Except PyException AuditLogQueryACK := do
  let (_, content, offset) ← decodeElement data 0
  let auditLog ← decodeObjectIdentifier content
  let (_, offset) ← decodeTag data offset
  let (records, offset) ← decodeRecords data offset []
  let (_, offset) ← decodeTag data offset
  let noMoreItems ← octetAt data offset
  .ok { auditLog, records, noMoreItems := noMoreItems ≠ 0 }

end AuditLogQueryACK

-- Notifications

/-- `ConfirmedAuditNotificationRequest`, and the unconfirmed one, which is the same. -/
structure ConfirmedAuditNotificationRequest where
  notifications : List BACnetAuditNotification

namespace ConfirmedAuditNotificationRequest

def encode (request : ConfirmedAuditNotificationRequest) : Except PyException Bytes := do
  let notifications ← request.notifications.mapM BACnetAuditNotification.encode
  .ok (enclose 0 notifications.flatten)

/-- A round of the search for the end of a notification: it ends in front of the closing tag of the
list, or of the second operation.
-/
def endRound (data : Bytes) (offset : Nat) (seenOperation : Bool)
    : Except PyException (Round Bool Nat) := do
  let (tag, newOffset) ← decodeTag data offset
  if tag.isClosing = true ∧ tag.number = 0 then .ok (.stop offset)
  else if tag.isOpening then
    let (_, scanned) ← scanToClosing (some maxNestingDepth) data newOffset
    .ok (.next scanned seenOperation)
  else if tag.cls = .context ∧ tag.number = 4 then
    if seenOperation then .ok (.stop offset)
    else .ok (.next (newOffset + tag.length) true)
  else .ok (.next (newOffset + tag.length) seenOperation)

def notificationEnd (data : Bytes) (offset : Nat) : Except PyException Nat :=
  scan data.length (endRound data) (fun offset _ => .ok offset) offset false

variable [JapaneseCodec]

/-- The loop over the notifications. -/
def decodeNotifications (data : Bytes) (offset : Nat) (notifications : List BACnetAuditNotification)
    : Except PyException (List BACnetAuditNotification × Nat) :=
  scan data.length (decodeItems 0 notificationEnd BACnetAuditNotification.decode data)
    (fun offset notifications => .ok (notifications, offset)) offset notifications

def decode (data : Bytes) : Except PyException ConfirmedAuditNotificationRequest := do
  let (_, offset) ← decodeTag data 0
  let (notifications, _) ← decodeNotifications data offset []
  .ok { notifications }

end ConfirmedAuditNotificationRequest

end BacPy

/-! The loop over a list of items: what it does at an item and at the closing tag, and what holds of
every list that it returns.
-/

namespace BacPy

open Library

-- Lists of items

section Items

variable {Item : Type} {tagNumber : Nat} {itemEnd : Bytes → Nat → Except PyException Nat}
  {decodeItem : Bytes → Except PyException Item} {data : Bytes}

def ItemsAdvance (tagNumber : Nat) (itemEnd : Bytes → Nat → Except PyException Nat) : Prop :=
  ∀ (data : Bytes) (offset ended : Nat) (tag : Tag) (next : Nat),
    decodeTag data offset = .ok (tag, next) → ¬ (tag.isClosing = true ∧ tag.number = tagNumber) →
      itemEnd data offset = .ok ended → offset < ended

theorem decodeItems_advances (advance : ItemsAdvance tagNumber itemEnd)
    : Advances (decodeItems tagNumber itemEnd decodeItem data) := by
  intro offset items later changed went
  obtain ⟨⟨peek, peekOffset⟩, read, went⟩ := bind_eq_ok.mp went
  dsimp only at went
  split at went
  · cases went
  · next item =>
      obtain ⟨ended, found, went⟩ := bind_eq_ok.mp went
      obtain ⟨_, _, went⟩ := bind_eq_ok.mp went
      split at went
      · cases went
      · obtain ⟨rfl, _⟩ := Round.next.inj (Except.ok.inj went)
        exact advance _ _ _ _ _ read item found

variable {offset : Nat} {items : List Item} {header rest : Bytes} {tag : Tag}

theorem decodeItems_item (reads : TagHeader header tag)
    (item : ¬ (tag.isClosing = true ∧ tag.number = tagNumber))
    (here : data.drop offset = header ++ rest)
    : decodeItems tagNumber itemEnd decodeItem data offset items
      = itemEnd data offset >>= fun ended => decodeItem (slice data offset ended) >>= fun found =>
        if maxDecodedItems ≤ (items ++ [found]).length then
          .error (.valueError s!"Decoded item count exceeds limit ({maxDecodedItems})")
        else .ok (.next ended (items ++ [found])) := by
  simp only [decodeItems, reads.decoded here, bind, Except.bind, if_neg item]

/-- The loop goes on behind an item. -/
theorem scanItems_item (advance : ItemsAdvance tagNumber itemEnd) (reads : TagHeader header tag)
    (item : ¬ (tag.isClosing = true ∧ tag.number = tagNumber))
    (here : data.drop offset = header ++ rest) {ended found}
    (ends : itemEnd data offset = .ok ended)
    (decoded : decodeItem (slice data offset ended) = .ok found)
    (few : items.length + 1 < maxDecodedItems)
    : scan data.length (decodeItems tagNumber itemEnd decodeItem data)
        (fun offset items => .ok (items, offset)) offset items
      = scan data.length (decodeItems tagNumber itemEnd decodeItem data)
        (fun offset items => .ok (items, offset)) ended (items ++ [found]) := by
  have went : decodeItems tagNumber itemEnd decodeItem data offset items
      = .ok (.next ended (items ++ [found])) := by
    rw [decodeItems_item reads item here, ends]
    simp only [bind, Except.bind, decoded, List.length_append, List.length_singleton,
      if_neg (Nat.not_le.mpr few)]
  exact scan_next (decodeItems_advances advance) (reads.inside here) went

/-- A loop that has succeeded at an item has found its end, and succeeded behind it. -/
theorem scanItems_item_inv (advance : ItemsAdvance tagNumber itemEnd) (reads : TagHeader header tag)
    (item : ¬ (tag.isClosing = true ∧ tag.number = tagNumber))
    (here : data.drop offset = header ++ rest) {result}
    (scanned : scan data.length (decodeItems tagNumber itemEnd decodeItem data)
      (fun offset items => .ok (items, offset)) offset items = .ok result)
    : ∃ ended found, itemEnd data offset = .ok ended
        ∧ scan data.length (decodeItems tagNumber itemEnd decodeItem data)
          (fun offset items => .ok (items, offset)) ended (items ++ [found]) = .ok result := by
  have inside := reads.inside here
  have round : decodeItems tagNumber itemEnd decodeItem data offset items = _ :=
    decodeItems_item reads item here
  cases ends : itemEnd data offset with
  | error raised =>
    rw [ends] at round
    rw [scan_error inside round] at scanned
    cases scanned
  | ok ended =>
    rw [ends] at round
    change _ = decodeItem (slice data offset ended) >>= _ at round
    cases decoded : decodeItem (slice data offset ended) with
    | error raised =>
      rw [decoded] at round
      rw [scan_error inside round] at scanned
      cases scanned
    | ok found =>
      rw [decoded] at round
      simp only [bind, Except.bind] at round
      split at round
      · rw [scan_error inside round] at scanned
        cases scanned
      · rw [scan_next (decodeItems_advances advance) inside round] at scanned
        exact ⟨ended, found, rfl, scanned⟩

/-- The closing tag of the list ends the loop. -/
theorem scanItems_closing (inRange : tagNumber ≤ 254)
    (here : data.drop offset = encodeClosingTag tagNumber ++ rest)
    : scan data.length (decodeItems tagNumber itemEnd decodeItem data)
        (fun offset items => .ok (items, offset)) offset items
      = .ok (items, offset + (encodeClosingTag tagNumber).length) := by
  have closing := encodeClosingTag_header inRange
  refine scan_stop (closing.inside here) ?_
  simp only [decodeItems, closing.decoded here, bind, Except.bind, and_self, if_true]

/-- What holds of all items that can be decoded holds of those in the result, and they are fewer than
the limit.
-/
theorem items_of_scan (advance : ItemsAdvance tagNumber itemEnd) {Property : Item → Prop}
    (each : ∀ data item, decodeItem data = .ok item → Property item) {result : List Item × Nat}
    (scanned : scan data.length (decodeItems tagNumber itemEnd decodeItem data)
      (fun offset items => .ok (items, offset)) offset items = .ok result)
    (before : items.length < maxDecodedItems ∧ ∀ item ∈ items, Property item)
    : result.1.length < maxDecodedItems ∧ ∀ item ∈ result.1, Property item := by
  refine scan_induction
    (fun _ items result => items.length < maxDecodedItems ∧ (∀ item ∈ items, Property item) →
      result.1.length < maxDecodedItems ∧ ∀ item ∈ result.1, Property item)
    (decodeItems_advances advance) ?past ?stop ?next scanned before
  case past =>
    intro offset items result _ ended before
    cases ended
    exact before
  case stop =>
    intro offset items result _ went before
    obtain ⟨_, _, went⟩ := bind_eq_ok.mp went
    dsimp only at went
    split at went
    · obtain rfl := Round.stop.inj (Except.ok.inj went)
      exact before
    · obtain ⟨_, _, went⟩ := bind_eq_ok.mp went
      obtain ⟨_, _, went⟩ := bind_eq_ok.mp went
      split at went
      · cases went
      · cases went
  case next =>
    intro offset items later changed result _ went ih before
    refine ih ?_
    obtain ⟨_, _, went⟩ := bind_eq_ok.mp went
    dsimp only at went
    split at went
    · cases went
    · obtain ⟨_, _, went⟩ := bind_eq_ok.mp went
      obtain ⟨item, decoded, went⟩ := bind_eq_ok.mp went
      split at went
      · cases went
      · next few =>
          obtain ⟨_, rfl⟩ := Round.next.inj (Except.ok.inj went)
          refine ⟨Nat.not_le.mp few, fun other member => ?_⟩
          rcases List.mem_append.mp member with earlier | last
          · exact before.2 other earlier
          · obtain rfl := List.mem_singleton.mp last
            exact each _ _ decoded

end Items

end BacPy
