import BacPy.App.ReadPropertyMultiple
import BacPy.Objects.CommandPriority
import BacPy.Objects.Untouched

/-! A property that is read after it was written: which octets come back as they were sent. -/

namespace BacPy

open Library
open BACnetObject (Agrees storeValue coerceValue)
open ApplicationValue (encodings unwrapped)
open ObjectDatabase (writeProperty Untouched recordOperation logTouched object? readProperty add)

-- Properties that are read as they are stored

namespace BACnetObject

variable {obj : BACnetObject} {prop : PropertyIdentifier} {definition : PropertyDefinition}

/-- The property is the present value, which is read as the opposite of what is stored. -/
def Reversed (obj : BACnetObject) (prop : PropertyIdentifier) : Prop :=
  prop = .presentValue ∧ obj.reversed = true

instance (obj : BACnetObject) (prop : PropertyIdentifier) : Decidable (obj.Reversed prop) :=
  inferInstanceAs (Decidable (_ ∧ _))

/-- What a reversed polarity makes of a present value. -/
def opposite (value : Value) : Value :=
  if value.pyEq (.int 0) then .enum binaryPvEnum 1 else .enum binaryPvEnum 0

theorem definition_of_writable (access : obj.writable prop = .ok definition)
    : obj.cls.definition? prop = some definition := by
  unfold writable at access
  split at access
  · cases access
  · next found =>
      split at access
      · cases access
      · rw [found, Except.ok.inj access]

/-- A property that can be written is none of the ones that are only computed, or that show the
arrays of the commands.
-/
theorem not_fixed_of_writable (access : obj.writable prop = .ok definition)
    : prop ∉ fixedProperties := by
  intro fixed
  have found := definition_of_writable access
  have member := List.mem_of_find?_eq_some found
  have named := List.find?_some found
  rw [decide_eq_true_eq] at named
  have readOnly := obj.cls.fixedReadOnly definition member (named ▸ fixed)
  have notPresentValue : prop ≠ .presentValue := by
    rintro rfl
    revert fixed
    decide
  unfold writable at access
  rw [found] at access
  dsimp only at access
  rw [if_pos ⟨readOnly, fun exempt => notPresentValue exempt.1⟩] at access
  cases access

/-- A whole property that is not computed is read as it is stored, apart from the polarity. -/
theorem readProperty_whole (found : obj.cls.definition? prop = some definition)
    (free : prop ∉ fixedProperties)
    : obj.readProperty prop none
      = if obj.get prop = .none ∧ definition.required = true then
          propertyError .valueNotInitialized
        else .ok (if obj.Reversed prop then opposite (obj.get prop) else obj.get prop) := by
  have plain : prop ∉ [.propertyList, .currentCommandPriority, .statusFlags] := by
    have fixed : [PropertyIdentifier.propertyList, .currentCommandPriority, .statusFlags]
        ⊆ fixedProperties := by decide
    exact fun member => free (fixed member)
  unfold readProperty
  rw [baseReadProperty_plain plain found]
  by_cases missing : obj.get prop = .none ∧ definition.required = true
  · rw [if_pos missing, if_pos missing]
    rfl
  · rw [if_neg missing, if_neg missing]
    simp only [bind, Except.bind]
    split
    · next binary =>
        rw [throughPolarity]
        simp only [Reversed, reversed, binary, Bool.true_and, true_and]
        split <;> rfl
    · next notBinary =>
        rw [if_neg]
        rintro ⟨is, reverse⟩
        rw [reversed, Bool.and_eq_true] at reverse
        exact notBinary ⟨reverse.1, is⟩

end BACnetObject

namespace Server

-- Acknowledged writes

variable {server : Server} {now : Float} {ref : Nat} {obj : BACnetObject}

/-- The parts of a server that no write changes. -/
structure SameDevice (before after : Server) : Prop where
  objects : after.db.objects = before.db.objects
  device : after.device = before.device
  deviceId : after.deviceId = before.deviceId

/-- A notification of a change leaves all objects alone. -/
theorem notifyChange_keeps (ref : Nat) (prop : PropertyIdentifier) (now : Float) (server : Server)
    : (notifyChange ref prop now server).2.db = server.db
      ∧ (notifyChange ref prop now server).2.device = server.device
      ∧ (notifyChange ref prop now server).2.deviceId = server.deviceId := by
  unfold notifyChange
  cases server.db.heap.get ref with
  | none => exact ⟨rfl, rfl, rfl⟩
  | some obj =>
    dsimp only
    unfold onCov
    cases server.cov with
    | none => exact ⟨rfl, rfl, rfl⟩
    | some manager => exact ⟨rfl, rfl, rfl⟩

variable [JapaneseCodec]

/-- What an acknowledged write leaves: the value is stored, and only a record of the write may have
changed the object after that.
-/
theorem handleWriteProperty_spec {request}
    (found : server.db.get (server.resolveObjectId request.objectIdentifier) = some ref)
    (stored : server.db.heap.get ref = some obj)
    (acknowledged : (handleWriteProperty now request server).1 = .ok ())
    : ∃ value definition start final,
        decodeWritten request.propertyValue = .ok value
        ∧ obj.writable request.propertyIdentifier = .ok definition
        ∧ Agrees [.databaseRevision] obj start
        ∧ (request.propertyIdentifier ≠ .objectName → start = obj)
        ∧ (storeValue definition request.propertyIdentifier value request.priority
            request.propertyArrayIndex now start).1 = .ok ()
        ∧ (handleWriteProperty now request server).2.db.heap.get ref = some final
        ∧ Agrees (server.db.logTouched ref)
            (storeValue definition request.propertyIdentifier value request.priority
              request.propertyArrayIndex now start).2 final
        ∧ SameDevice server (handleWriteProperty now request server).2 := by
  have looked : lookup request.objectIdentifier server = (.ok ref, server) := by
    unfold lookup
    rw [Stateful.consults_apply, found]
  unfold handleWriteProperty at acknowledged ⊢
  rw [Stateful.bind_apply, looked] at acknowledged ⊢
  dsimp only at acknowledged ⊢
  unfold writeEntry at acknowledged ⊢
  obtain ⟨value, decoded, later⟩ := Stateful.bind_lift_ok_iff.mp acknowledged
  obtain ⟨_, reached, written, later⟩ := Stateful.bind_ok_iff.mp later
  obtain ⟨_, notified, told, later⟩ := Stateful.bind_ok_iff.mp later
  have outcome : (writeProperty ref request.propertyIdentifier value request.priority
      request.propertyArrayIndex now server.db).1 = .ok () := congrArg Prod.fst written
  have changed : { server with db := (writeProperty ref request.propertyIdentifier
      value request.priority request.propertyArrayIndex now server.db).2 } = reached :=
    congrArg Prod.snd written
  obtain ⟨definition, start, access, agrees, plain, stores, there⟩ :=
    ObjectDatabase.writeProperty_spec stored outcome
  have sameIndices : Untouched (server.db.writeTouched ref request.propertyIdentifier)
      server.db reached.db := by
    rw [← changed]
    exact ObjectDatabase.untouched_writeProperty
  obtain ⟨sameDb, sameDevice, sameDeviceId⟩ :=
    notifyChange_keeps ref request.propertyIdentifier now reached
  rw [told] at sameDb sameDevice sameDeviceId
  dsimp only at sameDb sameDevice sameDeviceId
  have recorded := (ObjectDatabase.untouched_recordOperation .write
    (notified.identifierOf ref)).final (ObjectDatabase.Untouched.refl notified.db)
  rw [← changed] at sameDb sameDevice sameDeviceId
  obtain ⟨final, last, logged⟩ := recorded.heap ref _ (by rw [sameDb]; exact there)
  have whole : (do
      let value ← Stateful.lift (decodeWritten request.propertyValue)
      onDb (writeProperty ref request.propertyIdentifier value request.priority
        request.propertyArrayIndex now)
      notifyChange ref request.propertyIdentifier now
      let target ← Stateful.reads fun server => server.identifierOf ref
      onDb (recordOperation .write target) : Action Unit) server
      = onDb (recordOperation .write (notified.identifierOf ref)) notified := by
    rw [Stateful.bind_apply, Stateful.lift_apply, decoded]
    dsimp only
    rw [Stateful.bind_apply, written]
    dsimp only
    rw [Stateful.bind_apply, told]
    rfl
  refine ⟨value, definition, start, final, decoded, access, agrees, plain, stores, ?_⟩
  rw [whole]
  refine ⟨last, ?_, ?_, sameDevice, sameDeviceId⟩
  · have sameLogs : notified.db.logTouched ref = server.db.logTouched ref := by
      rw [logTouched, logTouched, ← sameIndices.getObjectsOfType,
        ← changed, sameDb]
    exact sameLogs ▸ logged
  · rw [← sameIndices.objects, ← changed, ← sameDb]
    exact recorded.objects

-- Answers

omit [JapaneseCodec] in
/-- An acknowledgement for a whole property has its value between fixed octets. -/
theorem ack_encode (objectIdentifier) (propertyIdentifier : PropertyIdentifier)
    : ∃ before, ∀ propertyValue,
        ({ objectIdentifier, propertyIdentifier, propertyValue } : ReadPropertyACK).encode
          = .ok (before ++ propertyValue ++ encodeClosingTag 3) := by
  obtain ⟨object, objectEncoded⟩ : ∃ octets, encodeContextObjectId 0 objectIdentifier
      = .ok octets := by
    refine (encodeContextTagged_ok_iff (by decide)).mpr ?_
    rw [ObjectIdentifier.encode, length_toBytes]
    decide
  obtain ⟨identifier, identifierEncoded⟩ : ∃ octets, encodeContextUnsigned 1
      propertyIdentifier.number = .ok octets := by
    refine (encodeContextUnsigned_ok_iff (by decide)).mpr ?_
    have := propertyIdentifier.number.isLt
    omega
  refine ⟨object ++ identifier ++ [] ++ encodeOpeningTag 3, fun propertyValue => ?_⟩
  unfold ReadPropertyACK.encode encodeContextOptional
  simp only [objectEncoded, identifierEncoded, bind, Except.bind]

/-- A ReadProperty of a whole property succeeds, and returns some octets as the value. -/
def Returns (server : Server) (objectIdentifier : ObjectIdentifier) (prop : PropertyIdentifier)
    (propertyValue : Bytes)
    : Prop :=
  ∃ answer, ({
      objectIdentifier := server.resolveObjectId objectIdentifier
      propertyIdentifier := prop
      propertyValue
    } : ReadPropertyACK).encode = .ok answer
    ∧ server.handleReadProperty { objectIdentifier, propertyIdentifier := prop } = .ok answer

omit [JapaneseCodec] in
theorem returns_iff {objectIdentifier} {prop : PropertyIdentifier}
    (found : server.db.get (server.resolveObjectId objectIdentifier) = some ref)
    (stored : server.db.heap.get ref = some obj) {propertyValue}
    : server.Returns objectIdentifier prop propertyValue
      ↔ server.readEncoded (server.resolveObjectId objectIdentifier) ref obj
          { propertyIdentifier := prop } = .ok propertyValue := by
  obtain ⟨before, encodes⟩ := ack_encode (server.resolveObjectId objectIdentifier) prop
  have there : server.db.object? (server.resolveObjectId objectIdentifier) = some obj := by
    rw [object?, found, Option.bind_some, stored]
  unfold Returns handleReadProperty
  simp only [found, there]
  cases server.readEncoded (server.resolveObjectId objectIdentifier) ref obj
      { propertyIdentifier := prop } with
  | error raised => simp [bind, Except.bind]
  | ok octets =>
    simp only [bind, Except.bind, encodes, raising_ok, Except.ok.injEq]
    constructor
    · rintro ⟨answer, rfl, same⟩
      simpa using same
    · rintro rfl
      exact ⟨_, rfl, rfl⟩

/-- Nothing but the stored value decides what is read: the property is not one that the device
computes, nor one that the record of the write changes.
-/
structure ReadsStored (server : Server) (ref : Nat) (obj : BACnetObject)
    (prop : PropertyIdentifier)
    : Prop where
  objectList : prop = .objectList
    → ref ≠ server.device ∧ ¬ (obj.cls.virtualObjectList = true ∧ obj.attached = true)
  subscriptions : prop = .activeCovSubscriptions → ref ≠ server.device
  logged : prop ∉ server.db.logTouched ref

theorem readEncoded_after {request}
    (found : server.db.get (server.resolveObjectId request.objectIdentifier) = some ref)
    (stored : server.db.heap.get ref = some obj) (whole : request.propertyArrayIndex = none)
    (plain : obj.commandsOf request.propertyIdentifier = none)
    (readsStored : server.ReadsStored ref obj request.propertyIdentifier)
    (acknowledged : (handleWriteProperty now request server).1 = .ok ())
    : ∃ value definition,
        decodeWritten request.propertyValue = .ok value
        ∧ obj.writable request.propertyIdentifier = .ok definition
        ∧ ∀ propertyValue, (handleWriteProperty now request server).2.Returns
            request.objectIdentifier request.propertyIdentifier propertyValue
          ↔ ¬ (coerceValue definition value = .none ∧ definition.required = true)
            ∧ encodeProperty
              (if obj.Reversed request.propertyIdentifier then
                BACnetObject.opposite (coerceValue definition value)
              else coerceValue definition value)
              (server.resolveObjectId request.objectIdentifier).objectType = .ok propertyValue := by
  obtain ⟨value, definition, start, final, decoded, access, agrees, same, _, last, logged, device⟩ :=
    handleWriteProperty_spec found stored acknowledged
  refine ⟨value, definition, decoded, access, fun propertyValue => ?_⟩
  have free := BACnetObject.not_fixed_of_writable access
  have notPolarity : PropertyIdentifier.polarity ≠ request.propertyIdentifier := by
    intro is
    rw [← is] at free
    exact free (by decide)
  have notArray : request.propertyIdentifier
      ∉ [PropertyIdentifier.priorityArray, .valueSourceArray, .commandTimeArray] := by
    have fixed : [PropertyIdentifier.priorityArray, .valueSourceArray, .commandTimeArray]
        ⊆ fixedProperties := by decide
    exact fun member => free (fixed member)
  have plainStart : start.commandsOf request.propertyIdentifier = none := by
    by_cases named : request.propertyIdentifier = .objectName
    · rw [named]
      rfl
    · rwa [same named]
  rw [whole, BACnetObject.storeValue_whole plainStart] at logged
  have cls : final.cls = obj.cls := logged.cls.trans agrees.cls
  have attached : final.attached = obj.attached := logged.attached.trans agrees.attached
  have shown : final.get request.propertyIdentifier = coerceValue definition value := by
    rw [logged.get readsStored.logged, BACnetObject.get_set_self _ notArray]
  have polarity : final.stored .polarity = obj.stored .polarity := by
    have apart : PropertyIdentifier.polarity ∉ server.db.logTouched ref := by
      rw [logTouched]
      split <;> decide
    rw [logged.stored _ apart, BACnetObject.stored_set_ne notPolarity,
      agrees.stored _ (by decide)]
  have reverses : final.Reversed request.propertyIdentifier
      ↔ obj.Reversed request.propertyIdentifier := by
    rw [BACnetObject.Reversed, BACnetObject.Reversed, BACnetObject.reversed, BACnetObject.reversed,
      cls, polarity]
  have resolved : (handleWriteProperty now request server).2.resolveObjectId request.objectIdentifier
      = server.resolveObjectId request.objectIdentifier := by
    rw [resolveObjectId, resolveObjectId, device.deviceId]
  have foundAfter : (handleWriteProperty now request server).2.db.get
      ((handleWriteProperty now request server).2.resolveObjectId request.objectIdentifier)
        = some ref := by
    rw [resolved, ObjectDatabase.get, device.objects]
    exact found
  have read : (handleWriteProperty now request server).2.readObjectProperty ref final
      request.propertyIdentifier none = final.readProperty request.propertyIdentifier none := by
    unfold readObjectProperty
    rw [if_neg, if_neg]
    · unfold readProperty
      rw [if_neg]
      rintro ⟨virtual, is, attachedAfter⟩
      exact (readsStored.objectList is).2 ⟨cls ▸ virtual, attached ▸ attachedAfter⟩
    · rintro ⟨here, is⟩
      exact readsStored.subscriptions is (here.trans device.device)
    · rintro ⟨here, is⟩
      exact (readsStored.objectList is).1 (here.trans device.device)
  rw [returns_iff foundAfter last, resolved]
  unfold readEncoded
  dsimp only
  rw [read, BACnetObject.readProperty_whole (cls ▸ BACnetObject.definition_of_writable access) free,
    shown]
  by_cases missing : coerceValue definition value = .none ∧ definition.required = true
  · rw [if_pos missing]
    simp [propertyError, bind, Except.bind, missing]
  · rw [if_neg missing]
    simp only [bind, Except.bind, missing, not_false_eq_true, true_and, reverses]

-- Values that come back

omit [JapaneseCodec] in
theorem encodeProperty_eq_ok {value objectType octets}
    : encodeProperty value objectType = .ok octets
      ↔ encodePropertyValue value (objectType ∈ analogTypes) = .ok octets := by
  unfold encodeProperty
  split
  · next refused => simp [refused, propertyError]
  · rfl

omit [JapaneseCodec] in
/-- Coercion to an enumeration does not change which number a value equals. -/
theorem pyEq_coerceValue (definition : PropertyDefinition) (number : Nat)
    : (coerceValue definition (.int number)).pyEq (.int 0) = decide (number = 0) := by
  have plain : ∀ value, value = Value.int number ∨ (∃ type, value = Value.enum type number)
      → value.pyEq (.int 0) = decide (number = 0) := by
    rintro value (rfl | ⟨type, rfl⟩)
    · simp [Value.pyEq, Value.isNan, Value.asFloat?, Value.normal]
    · simp [Value.pyEq, Value.isNan, Value.asFloat?, Value.normal]
  apply plain
  rcases coerce_int definition.datatype (number : Int) with ⟨_, type, same⟩ | ⟨_, same⟩
  · rw [coerceValue_scalar, same]
    exact Or.inr ⟨type, rfl⟩
  · rw [coerceValue_scalar, same]
    exact Or.inl rfl

/-- What comes back through a reversed polarity is never what was written. -/
theorem encodeProperty_reversed (definition : PropertyDefinition) (objectType : ObjectType)
    {value octets} (decoded : decodeWritten octets = .ok value)
    : encodeProperty (BACnetObject.opposite (coerceValue definition value)) objectType
      ≠ .ok octets := by
  have one : decodeWritten [0x91, 1] = .ok (.int (1 : Nat)) := rfl
  have zero : decodeWritten [0x91, 0] = .ok (.int (0 : Nat)) := rfl
  intro again
  unfold BACnetObject.opposite at again
  split at again
  · next isZero =>
      cases again
      cases one.symm.trans decoded
      rw [pyEq_coerceValue] at isZero
      cases isZero
  · next notZero =>
      cases again
      cases zero.symm.trans decoded
      rw [pyEq_coerceValue] at notZero
      exact notZero rfl

/-- What is written to a property comes back from it, where it is read as it is stored: the types
of all values are the ones that the encoder chooses, and a required property is not emptied.
-/
def Keeps (definition : PropertyDefinition) (intAsReal : Bool) : List ApplicationValue → Prop
  | [] => False
  | [value] => definition.datatype.keeps intAsReal value = true
      ∧ (value = .null → definition.required = false)
  | values => ∀ value ∈ values, value.survives intAsReal = true

omit [JapaneseCodec] in
theorem coerce_eq_none {datatype : Datatype} {value : ApplicationValue}
    : datatype.coerce value.decoded = .none ↔ value = .null := by
  cases value with
  | null => cases datatype <;> simp [ApplicationValue.decoded, Datatype.coerce]
  | unsigned value | signed value | enumerated value =>
    simp only [ApplicationValue.decoded, reduceCtorEq, iff_false]
    rcases coerce_int datatype value with ⟨_, type, same⟩ | ⟨_, same⟩ <;> simp [same]
  | real value | double value =>
    simp only [ApplicationValue.decoded, reduceCtorEq, iff_false, coerce_float]
    split <;> simp
  | _ => cases datatype <;> simp [ApplicationValue.decoded, Datatype.coerce]

/-- Integers do not become Reals next to octet strings, which come back without their tags. -/
def Comparable (intAsReal : Bool) (values : List ApplicationValue) : Prop :=
  intAsReal = true → 1 < values.length → ∀ data, ApplicationValue.octetString data ∉ values

omit [JapaneseCodec] in
theorem encodeProperty_written (definition : PropertyDefinition) (objectType : ObjectType)
    {values : List ApplicationValue} {octets : Bytes}
    (encoded : encodings values = .ok octets) {value : Value}
    (decoded : value = unwrapped values)
    : (Keeps definition (objectType ∈ analogTypes) values
        → ¬ (coerceValue definition value = .none ∧ definition.required = true)
          ∧ encodeProperty (coerceValue definition value) objectType = .ok octets)
      ∧ (Comparable (objectType ∈ analogTypes) values
        → ¬ (coerceValue definition value = .none ∧ definition.required = true)
        → encodeProperty (coerceValue definition value) objectType = .ok octets
        → Keeps definition (objectType ∈ analogTypes) values) := by
  rw [encodeProperty_eq_ok]
  match values with
  | [] =>
    cases encoded
    subst decoded
    refine ⟨False.elim, fun _ _ again => ?_⟩
    have null : coerceValue definition .none = .none := by
      rw [coerceValue_scalar]
      cases definition.datatype <;> rfl
    rw [unwrapped, null] at again
    cases again
  | [single] =>
    subst decoded
    obtain ⟨first, later, here, there, same⟩ := ApplicationValue.encodings_cons.mp encoded
    cases there
    rw [List.append_nil] at same
    subst same
    rw [unwrapped, coerceValue_scalar, encodePropertyValue,
      ApplicationValue.kept_iff definition.datatype _ here, Value.scalar.injEq, coerce_eq_none]
    constructor
    · rintro ⟨kept, optional⟩
      exact ⟨fun missing => by simp [optional missing.1] at missing, kept⟩
    · exact fun _ present kept => ⟨kept, fun null => by simpa [null] using present⟩
  | first :: second :: rest =>
    subst decoded
    simp only [unwrapped, coerceValue_list, encodePropertyValue]
    refine ⟨fun kept => ⟨by simp, ApplicationValue.items_kept encoded kept⟩, ?_⟩
    intro comparable _ again
    exact (ApplicationValue.items_kept_iff encoded fun real => comparable real (by simp)).mp again

/-- What is written is what is read: the property is read as it is stored, not through a reversed
polarity, and keeps the values.
-/
def Faithful (server : Server) (ref : Nat) (obj : BACnetObject) (definition : PropertyDefinition)
    (request : WritePropertyRequest) (values : List ApplicationValue)
    : Prop :=
  server.ReadsStored ref obj request.propertyIdentifier
    ∧ ¬ obj.Reversed request.propertyIdentifier
    ∧ Keeps definition
      ((server.resolveObjectId request.objectIdentifier).objectType ∈ analogTypes) values

/-- A server with one Integer Value that takes no commands, and no device object. -/
def plainInteger : Server where
  db := (add 0
    (({} : ObjectDatabase).allocate (.construct integerValueObject 1 []))).2
  device := 1

def presentValueWrite (propertyValue : Bytes) : WritePropertyRequest where
  objectIdentifier := ⟨.integerValue, 1⟩
  propertyIdentifier := .presentValue
  propertyValue

end Server

end BacPy
