import BacPy.Encoding.PlainNesting
import BacPy.Services.ContextFields

/-! Audit notifications and the records that hold them (Clause 19.6). A notification is a sequence of
optional context-tagged fields; the values of the target are kept as raw octets.
-/

namespace BacPy

open Library

def encodeUnsigned64 (value : Nat) : Except PyException Bytes :=
  if value ≤ 0xFF then
    .ok [UInt8.ofNat value]
  else if 0xFFFFFFFFFFFFFFFF < value then
    .error (.valueError s!"Unsigned64 integer exceeds 8-byte maximum, got {value}")
  else
    .ok (toBytes value ((Nat.log2 value + 1 + 7) / 8))

def decodeUnsigned64 (data : Bytes) : Nat := fromBytes data

-- Notifications

/-- `BACnetAuditNotification`. The members of `AuditOperation` are numbered from 0, `GENERAL` is the
last of them.
-/
structure BACnetAuditNotification where
  operation : Fin 16 := 15
  sourceDevice : Option ObjectIdentifier := none
  sourceObject : Option ObjectIdentifier := none
  sourceComment : Option String := none
  targetComment : Option String := none
  invokeId : Option Nat := none
  sourceUserId : Option Nat := none
  sourceUserRole : Option Nat := none
  targetDevice : Option ObjectIdentifier := none
  targetObject : Option ObjectIdentifier := none
  targetProperty : Option Nat := none
  targetArrayIndex : Option Nat := none
  targetPriority : Option Nat := none
  targetValue : Option Bytes := none
  currentValue : Option Bytes := none
  resultErrorClass : Option Nat := none
  resultErrorCode : Option Nat := none

namespace BACnetAuditNotification

/-- A `BACnetRecipient`, which is always its choice [1], a device. -/
def encodeRecipient (tagNumber : Nat) (device : ObjectIdentifier) : Except PyException Bytes := do
  let inner ← encodeContextObjectId 1 device
  .ok (enclose tagNumber inner)

/-- A comment of the source [5] or the target [6]. -/
def encodeComment (tagNumber : Nat) (comment : String) : Except PyException Bytes :=
  encodeContextTagged tagNumber (encodeCharacterString comment)

/-- The property reference [12]. The index goes with the property. -/
def encodeTargetProperty (arrayIndex : Option Nat) (property : Nat) : Except PyException Bytes := do
  let identifier ← encodeContextUnsigned 0 property
  let index ← encodeContextOptional 1 arrayIndex
  .ok (enclose 12 (identifier ++ index))

/-- The error [16], if both of its parts are there. -/
def encodeResult : Option Nat → Option Nat → Except PyException Bytes
  | some errorClass, some errorCode => do
      let class_ ← encodeContextEnumerated 0 errorClass
      let code ← encodeContextEnumerated 1 errorCode
      .ok (enclose 16 (class_ ++ code))
  | _, _ => .ok []

/-- The fields in front of the operation: where it came from. -/
def encodeSource (n : BACnetAuditNotification) : Except PyException Bytes := do
  let sourceDevice ← encodeOptional (encodeRecipient 2) n.sourceDevice
  let sourceObject ← encodeOptional (encodeContextObjectId 3) n.sourceObject
  .ok (sourceDevice ++ sourceObject)

/-- The fields that describe the request. -/
def encodeRequest (n : BACnetAuditNotification) : Except PyException Bytes := do
  let sourceComment ← encodeOptional (encodeComment 5) n.sourceComment
  let targetComment ← encodeOptional (encodeComment 6) n.targetComment
  let invokeId ← encodeContextOptional 7 n.invokeId
  let sourceUserId ← encodeContextOptional 8 n.sourceUserId
  let sourceUserRole ← encodeContextOptional 9 n.sourceUserRole
  .ok (sourceComment ++ (targetComment ++ (invokeId ++ (sourceUserId ++ sourceUserRole))))

/-- The fields that say what it was for. -/
def encodeTarget (n : BACnetAuditNotification) : Except PyException Bytes := do
  let targetDevice ← encodeOptional (encodeRecipient 10) n.targetDevice
  let targetObject ← encodeOptional (encodeContextObjectId 11) n.targetObject
  let targetProperty ← encodeOptional (encodeTargetProperty n.targetArrayIndex) n.targetProperty
  let targetPriority ← encodeContextOptional 13 n.targetPriority
  .ok (targetDevice ++ (targetObject ++ (targetProperty ++ targetPriority)))

def encodeValues (n : BACnetAuditNotification) : Bytes :=
  (n.targetValue.map (enclose 14)).getD [] ++ (n.currentValue.map (enclose 15)).getD []

def encodeBody (n : BACnetAuditNotification) : Except PyException Bytes := do
  let operation ← encodeContextEnumerated 4 n.operation
  let request ← n.encodeRequest
  let target ← n.encodeTarget
  let result ← encodeResult n.resultErrorClass n.resultErrorCode
  .ok (operation ++ (request ++ (target ++ (n.encodeValues ++ result))))

def encode (n : BACnetAuditNotification) : Except PyException Bytes := do
  let source ← n.encodeSource
  let body ← n.encodeBody
  .ok (source ++ body)

-- Decoding

/-- `AuditOperation(value)` -/
def auditOperation (value : Nat) : Except PyException (Fin 16) :=
  if known : value < 16 then .ok ⟨value, known⟩
  else .error (.valueError s!"{value} is not a valid AuditOperation")

/-- The branches of the loop for tags that do not open anything. -/
def decodePrimitive [JapaneseCodec] (number : Nat) (content : Bytes) (n : BACnetAuditNotification)
    : Except PyException BACnetAuditNotification :=
  match number with
  | 3 => do
      let identifier ← decodeObjectIdentifier content
      .ok { n with sourceObject := some identifier }
  | 4 => do
      let operation ← auditOperation (decodeUnsigned content)
      .ok { n with operation }
  | 5 => do
      let comment ← decodeCharacterString content
      .ok { n with sourceComment := some comment }
  | 6 => do
      let comment ← decodeCharacterString content
      .ok { n with targetComment := some comment }
  | 7 => .ok { n with invokeId := some (decodeUnsigned content) }
  | 8 => .ok { n with sourceUserId := some (decodeUnsigned content) }
  | 9 => .ok { n with sourceUserRole := some (decodeUnsigned content) }
  | 11 => do
      let identifier ← decodeObjectIdentifier content
      .ok { n with targetObject := some identifier }
  | 13 => .ok { n with targetPriority := some (decodeUnsigned content) }
  -- any other field is skipped
  | _ => .ok n

def recipientDevice (number : Nat) (content : Bytes)
    : Except PyException (Option ObjectIdentifier) :=
  if number = 1 then some <$> decodeObjectIdentifier content else .ok none

/-- The recipient behind an opening tag [2] or [10], and the offset behind the closing tag. -/
def decodeRecipient (data : Bytes) (offset : Nat)
    : Except PyException (Option ObjectIdentifier × Nat) := do
  let (tag, content, offset) ← decodeElement data offset
  let device ← recipientDevice tag.number content
  let (_, offset) ← decodeTag data offset
  .ok (device, offset)

/-- The array index [1] of a property reference, if it comes next. -/
def decodeArrayIndex (data : Bytes) (offset : Nat) : Except PyException (Option Nat × Nat) :=
  if offset < data.length then do
    let (peek, peekOffset) ← decodeTag data offset
    if peek.cls = .context ∧ peek.number = 1 ∧ ¬ peek.isClosing = true then
      .ok (some (decodeUnsigned (slice data peekOffset (peekOffset + peek.length))),
        peekOffset + peek.length)
    else .ok (none, offset)
  else .ok (none, offset)

/-- The property reference behind an opening tag [12]. -/
def decodeTargetProperty (data : Bytes) (offset : Nat)
    : Except PyException (Nat × Option Nat × Nat) := do
  let (_, property, offset) ← decodeElement data offset
  let (index, offset) ← decodeArrayIndex data offset
  let (_, offset) ← decodeTag data offset
  .ok (decodeUnsigned property, index, offset)

/-- The error behind an opening tag [16]. -/
def decodeResult (data : Bytes) (offset : Nat) : Except PyException (Nat × Nat × Nat) := do
  let (_, errorClass, offset) ← decodeElement data offset
  let (_, errorCode, offset) ← decodeElement data offset
  let (_, offset) ← decodeTag data offset
  .ok (decodeUnsigned errorClass, decodeUnsigned errorCode, offset)

/-- The branches of the loop for opening tags, from behind the tag. A raw value is only stored
if its closing tag is found.
-/
def decodeConstructed (data : Bytes) (number offset : Nat) (n : BACnetAuditNotification)
    : Except PyException (BACnetAuditNotification × Nat) :=
  match number with
  | 2 => do
      let (device, offset) ← decodeRecipient data offset
      .ok ({ n with sourceDevice := device.or n.sourceDevice }, offset)
  | 10 => do
      let (device, offset) ← decodeRecipient data offset
      .ok ({ n with targetDevice := device.or n.targetDevice }, offset)
  | 12 => do
      let (property, index, offset) ← decodeTargetProperty data offset
      .ok ({ n with
        targetProperty := some property
        targetArrayIndex := index.or n.targetArrayIndex }, offset)
  | 14 => do
      let (closing, ended) ← scanToClosing none data offset
      .ok ({ n with targetValue := (closing.map (slice data offset)).or n.targetValue }, ended)
  | 15 => do
      let (closing, ended) ← scanToClosing none data offset
      .ok ({ n with currentValue := (closing.map (slice data offset)).or n.currentValue }, ended)
  | 16 => do
      let (errorClass, errorCode, offset) ← decodeResult data offset
      .ok ({ n with
        resultErrorClass := some errorClass
        resultErrorCode := some errorCode }, offset)
  -- the timestamps and unknown fields are skipped
  | _ => do
      let (_, ended) ← scanToClosing none data offset
      .ok (n, ended)

/-- A round of the loop of `decode`. -/
def decodeField [JapaneseCodec] (data : Bytes) (offset : Nat) (n : BACnetAuditNotification)
    : Except PyException (Round BACnetAuditNotification BACnetAuditNotification) := do
  let (tag, newOffset) ← decodeTag data offset
  if tag.cls ≠ .context then .ok (.next (newOffset + tag.length) n)
  else if tag.isOpening then
    let (n, later) ← decodeConstructed data tag.number newOffset n
    .ok (.next later n)
  else
    let n ← decodePrimitive tag.number (slice data newOffset (newOffset + tag.length)) n
    .ok (.next (newOffset + tag.length) n)

/-- The loop of `decode` from an offset, with the fields read so far. -/
def decodeFrom [JapaneseCodec] (data : Bytes) (offset : Nat) (n : BACnetAuditNotification)
    : Except PyException BACnetAuditNotification :=
  scan data.length (decodeField data) (fun _ n => .ok n) offset n

def decode [JapaneseCodec] (data : Bytes) : Except PyException BACnetAuditNotification :=
  decodeFrom data 0 {}

end BACnetAuditNotification

-- Records

structure BACnetAuditLogRecord where
  sequenceNumber : Nat
  notification : BACnetAuditNotification

namespace BACnetAuditLogRecord

def encode (record : BACnetAuditLogRecord) : Except PyException Bytes := do
  let number ← encodeUnsigned64 record.sequenceNumber
  let sequenceNumber ← encodeContextTagged 0 number
  let notification ← record.notification.encode
  .ok (sequenceNumber ++ enclose 1 notification)

/-- The octets between the tags [1]. Without a closing tag their end has never been assigned. -/
def decodeInner (data : Bytes) (innerStart : Nat) : Except PyException (Bytes × Nat) := do
  let (innerEnd, offset) ← scanToClosing none data innerStart
  match innerEnd with
  | none => .error (.unboundLocalError "inner_end")
  | some innerEnd => .ok (slice data innerStart innerEnd, offset)

def decode [JapaneseCodec] (data : Bytes) : Except PyException BACnetAuditLogRecord := do
  let (_, number, offset) ← decodeElement data 0
  let (_, innerStart) ← decodeTag data offset
  let (inner, _) ← decodeInner data innerStart
  let notification ← BACnetAuditNotification.decode inner
  .ok { sequenceNumber := decodeUnsigned64 number, notification }

end BACnetAuditLogRecord

end BacPy

/-! The fields of an audit notification on the wire: what the encoder writes for each of them, and
that the loop of the decoder stores it where it was taken from.
-/

namespace BacPy

open Library

namespace BACnetAuditNotification

section Decoding

variable {data chunk inner rest : Bytes} {offset number : Nat} {n : BACnetAuditNotification}

theorem decodeRecipient_forward {device later}
    (read : decodeRecipient data offset = .ok (device, later))
    : offset < later := by
  obtain ⟨⟨tag, content, next⟩, element, read⟩ := bind_eq_ok.mp read
  obtain ⟨_, _, read⟩ := bind_eq_ok.mp read
  obtain ⟨⟨_, ended⟩, closing, same⟩ := bind_eq_ok.mp read
  have first := decodeElement_forward element
  have last := decodeTag_forward closing
  simp only [Except.ok.injEq, Prod.mk.injEq] at same
  omega

theorem decodeArrayIndex_forward {index later}
    (read : decodeArrayIndex data offset = .ok (index, later))
    : offset ≤ later := by
  unfold decodeArrayIndex at read
  split at read
  · obtain ⟨⟨peek, peekOffset⟩, tag, read⟩ := bind_eq_ok.mp read
    have moved := decodeTag_forward tag
    dsimp only at read
    split at read
    · simp only [Except.ok.injEq, Prod.mk.injEq] at read
      omega
    · simp only [Except.ok.injEq, Prod.mk.injEq] at read
      omega
  · simp only [Except.ok.injEq, Prod.mk.injEq] at read
    omega

theorem decodeTargetProperty_forward {property index later}
    (read : decodeTargetProperty data offset = .ok (property, index, later))
    : offset < later := by
  obtain ⟨⟨tag, content, next⟩, element, read⟩ := bind_eq_ok.mp read
  obtain ⟨⟨_, behind⟩, peeked, read⟩ := bind_eq_ok.mp read
  obtain ⟨⟨_, ended⟩, closing, same⟩ := bind_eq_ok.mp read
  have first := decodeElement_forward element
  have second := decodeArrayIndex_forward peeked
  have last := decodeTag_forward closing
  simp only [Except.ok.injEq, Prod.mk.injEq] at same
  omega

theorem decodeResult_forward {errorClass errorCode later}
    (read : decodeResult data offset = .ok (errorClass, errorCode, later))
    : offset < later := by
  obtain ⟨⟨tag, content, next⟩, element, read⟩ := bind_eq_ok.mp read
  obtain ⟨⟨tag', content', behind⟩, element', read⟩ := bind_eq_ok.mp read
  obtain ⟨⟨_, ended⟩, closing, same⟩ := bind_eq_ok.mp read
  have first := decodeElement_forward element
  have second := decodeElement_forward element'
  have last := decodeTag_forward closing
  simp only [Except.ok.injEq, Prod.mk.injEq] at same
  omega

/-- The branches for opening tags never go back either. -/
theorem decodeConstructed_forward {n' later}
    (read : decodeConstructed data number offset n = .ok (n', later))
    : offset ≤ later := by
  unfold decodeConstructed at read
  split at read
  all_goals obtain ⟨found, inner, same⟩ := bind_eq_ok.mp read
  all_goals
    obtain ⟨_, rfl⟩ := Prod.mk.inj (Except.ok.inj same)
    first
      | exact Nat.le_of_lt (decodeRecipient_forward inner)
      | exact Nat.le_of_lt (decodeTargetProperty_forward inner)
      | exact Nat.le_of_lt (decodeResult_forward inner)
      | exact scanToClosing_forward inner

theorem decodeRecipient_read {device} (inRange : number ≤ 254)
    (encoded : encodeContextObjectId 1 device = .ok inner)
    (here : data.drop offset = inner ++ (encodeClosingTag number ++ rest))
    : decodeRecipient data offset
      = .ok (some device, offset + inner.length + (encodeClosingTag number).length) := by
  have field := isField_of_objectId encoded
  simp only [decodeRecipient, decodeElement_field field here, bind, Except.bind, recipientDevice,
    if_true, decodeObjectIdentifier_content, Functor.map, Except.map,
    (encodeClosingTag_header inRange).decoded (drop_behind here)]

theorem decodeArrayIndex_read {index} (encoded : encodeContextOptional 1 index = .ok inner)
    (here : data.drop offset = inner ++ (encodeClosingTag 12 ++ rest))
    : decodeArrayIndex data offset = .ok (index, offset + inner.length) := by
  cases index with
  | none =>
    cases encoded
    have closing := encodeClosingTag_header (show 12 ≤ 254 by omega)
    simp [decodeArrayIndex, closing.decoded here, bind, Except.bind]
  | some value =>
    obtain ⟨content, ⟨header, reads, rfl⟩, same⟩ := isField_of_unsigned encoded
    rw [List.append_assoc] at here
    have content_ := slice_here (drop_behind here)
    rw [List.length_append, ← Nat.add_assoc]
    simp only [decodeArrayIndex, if_pos (reads.inside here), reads.decoded here, bind, Except.bind,
      content_, same, true_and, Bool.false_eq_true, not_false_eq_true, if_true]

/-- The property reference is read back. -/
theorem decodeTargetProperty_read {property : Nat} {index : Option Nat} {first second : Bytes}
    (encoded : encodeContextUnsigned 0 property = .ok first)
    (encoded' : encodeContextOptional 1 index = .ok second)
    (here : data.drop offset = (first ++ second) ++ (encodeClosingTag 12 ++ rest))
    : decodeTargetProperty data offset
      = .ok (property, index,
          offset + (first ++ second).length + (encodeClosingTag 12).length) := by
  obtain ⟨content, field, same⟩ := isField_of_unsigned encoded
  rw [List.append_assoc] at here
  have behind := drop_behind here
  have closing := encodeClosingTag_header (show 12 ≤ 254 by omega)
  rw [List.length_append, ← Nat.add_assoc]
  simp only [decodeTargetProperty, decodeElement_field field here, bind, Except.bind,
    decodeArrayIndex_read encoded' behind, closing.decoded (drop_behind behind), same]

theorem decodeResult_read {errorClass errorCode first second}
    (encoded : encodeContextEnumerated 0 errorClass = .ok first)
    (encoded' : encodeContextEnumerated 1 errorCode = .ok second)
    (here : data.drop offset = (first ++ second) ++ (encodeClosingTag 16 ++ rest))
    : decodeResult data offset
      = .ok (errorClass, errorCode,
          offset + (first ++ second).length + (encodeClosingTag 16).length) := by
  obtain ⟨content, field, same⟩ := isField_of_enumerated encoded
  obtain ⟨content', field', same'⟩ := isField_of_enumerated encoded'
  rw [List.append_assoc] at here
  have behind := drop_behind here
  have closing := encodeClosingTag_header (show 16 ≤ 254 by omega)
  rw [List.length_append, ← Nat.add_assoc]
  simp only [decodeResult, decodeElement_field field here, bind, Except.bind,
    decodeElement_field field' behind, closing.decoded (drop_behind behind), same, same']

/-- A balanced raw value is read back. -/
theorem scanValue_read (inRange : number ≤ 254) (nested : PlainlyNested none 0 inner)
    (here : data.drop offset = inner ++ (encodeClosingTag number ++ rest))
    : scanToClosing none data offset
        = .ok (some (offset + inner.length),
            offset + inner.length + (encodeClosingTag number).length)
      ∧ slice data offset (offset + inner.length) = inner :=
  ⟨(scanToClosing_iff (by simp) (encodeClosingTag_header inRange) rfl here).mpr
    nested,
    slice_here here⟩

variable [JapaneseCodec]

theorem decodeField_advances (data : Bytes) : Advances (decodeField data) := by
  intro offset n later changed went
  obtain ⟨⟨tag, newOffset⟩, read, went⟩ := bind_eq_ok.mp went
  have moved := decodeTag_forward read
  dsimp only at went
  split at went
  · obtain ⟨rfl, _⟩ := Round.next.inj (Except.ok.inj went)
    omega
  · split at went
    · obtain ⟨⟨_, ended⟩, inner, same⟩ := bind_eq_ok.mp went
      have forward := decodeConstructed_forward inner
      obtain ⟨rfl, _⟩ := Round.next.inj (Except.ok.inj same)
      omega
    · obtain ⟨_, _, same⟩ := bind_eq_ok.mp went
      obtain ⟨rfl, _⟩ := Round.next.inj (Except.ok.inj same)
      omega

-- What the loop makes of a part

/-- In the loop the chunk changes the fields as `set` does, and nothing else is read. -/
def Fills (chunk : Bytes) (set : BACnetAuditNotification → BACnetAuditNotification) : Prop :=
  ∀ (data : Bytes) (offset : Nat) (rest : Bytes) (n : BACnetAuditNotification),
    data.drop offset = chunk ++ rest →
      decodeFrom data offset n = decodeFrom data (offset + chunk.length) (set n)

theorem Fills.nil : Fills [] fun n => n :=
  fun _ _ _ _ _ => rfl

theorem Fills.append {second set set'} (fills : Fills chunk set) (fills' : Fills second set')
    : Fills (chunk ++ second) fun n => set' (set n) := by
  intro data offset rest n here
  rw [List.append_assoc] at here
  rw [fills data offset _ n here, fills' data _ _ _ (drop_behind here), List.length_append,
    Nat.add_assoc]

/-- A field without an opening tag is stored by its branch. -/
theorem fills_field {content} (field : IsField number content chunk) {set}
    (stores : ∀ n, decodePrimitive number content n = .ok (set n))
    : Fills chunk set := by
  intro data offset rest n here
  obtain ⟨header, reads, rfl⟩ := field
  rw [List.append_assoc] at here
  have value := slice_here (drop_behind here)
  have went : decodeField data offset n
      = .ok (.next (offset + (header ++ content).length) (set n)) := by
    rw [List.length_append, ← Nat.add_assoc]
    simp only [decodeField, reads.decoded here, bind, Except.bind, value, stores, ne_eq,
      not_true_eq_false, if_false, Bool.false_eq_true]
  exact scan_next (decodeField_advances data) (reads.inside here) went

/-- An enclosed part is stored by its branch. -/
theorem fills_enclosed (inRange : number ≤ 254) {set}
    (stores : ∀ (data : Bytes) (offset : Nat) (rest : Bytes) (n : BACnetAuditNotification),
      data.drop offset = inner ++ (encodeClosingTag number ++ rest) →
        decodeConstructed data number offset n
          = .ok (set n, offset + inner.length + (encodeClosingTag number).length))
    : Fills (enclose number inner) set := by
  intro data offset rest n here
  rw [enclose, List.append_assoc, List.append_assoc] at here
  have opening := encodeOpeningTag_header inRange
  have went : decodeField data offset n
      = .ok (.next (offset + (enclose number inner).length) (set n)) := by
    simp only [decodeField, opening.decoded here, bind, Except.bind, ne_eq, not_true_eq_false,
      if_false, if_true, stores data _ rest n (drop_behind here), enclose, List.length_append,
      Nat.add_assoc]
  exact scan_next (decodeField_advances data) (opening.inside here) went

/-- A part that need not be there is stored if it is. -/
theorem fills_optional {Field : Type} {encoder field}
    (set : Option Field → BACnetAuditNotification → BACnetAuditNotification)
    (encoded : encodeOptional encoder field = .ok chunk) (absent : ∀ n, set none n = n)
    (present : ∀ value ∈ field, encoder value = .ok chunk → Fills chunk (set (some value)))
    : Fills chunk (set field) := by
  cases field with
  | none =>
    cases encoded
    rw [show set none = fun n => n from funext absent]
    exact Fills.nil
  | some value => exact present value rfl encoded

theorem fills_optionalUnsigned {field}
    (set : Option Nat → BACnetAuditNotification → BACnetAuditNotification)
    (encoded : encodeContextOptional number field = .ok chunk) (absent : ∀ n, set none n = n)
    (stores : ∀ content n, decodePrimitive number content n
      = .ok (set (some (decodeUnsigned content)) n))
    : Fills chunk (set field) := by
  cases field with
  | none =>
    cases encoded
    rw [show set none = fun n => n from funext absent]
    exact Fills.nil
  | some value =>
    obtain ⟨content, field, value⟩ := isField_of_unsigned encoded
    have fills := fills_field field (stores content)
    rwa [value] at fills

end Decoding

end BACnetAuditNotification

end BacPy
