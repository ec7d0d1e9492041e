import BacPy.App.WritePropertyMultiple

/-! ReadPropertyMultiple: every property is answered by its value or by an error, unless one of the
values is out of the range of its encoding.
-/

namespace BacPy

-- The acknowledgement

def indexFits (arrayIndex : Option Nat) : Bool := arrayIndex.all fun index => index ≤ 0xFFFFFFFF

theorem encodeContextOptional_ok_iff {number} (small : number ≤ 14) {arrayIndex}
    : (∃ octets, encodeContextOptional number arrayIndex = .ok octets) ↔ indexFits arrayIndex := by
  cases arrayIndex with
  | none => simp [encodeContextOptional, indexFits]
  | some index =>
    rw [encodeContextOptional, encodeContextUnsigned_ok_iff (show number ≤ 254 by omega), indexFits, Option.all_some,
      decide_eq_true_eq]

/-- Values have been encoded before, and every error has its numbers. -/
theorem ReadResult.encode_ok (result : ReadResult) : ∃ octets, result.encode = .ok octets := by
  cases result with
  | value propertyValue => exact ⟨_, rfl⟩
  | error errorClass errorCode =>
    obtain ⟨first, encodedClass⟩ :=
      encodeApplicationEnumerated_ok_iff.mpr (ErrorClass.toNat_le errorClass)
    obtain ⟨second, encodedCode⟩ :=
      encodeApplicationEnumerated_ok_iff.mpr (ErrorCode.toNat_le errorCode)
    exact ⟨_, bind_eq_ok.mpr ⟨first, encodedClass, bind_eq_ok.mpr ⟨second, encodedCode, rfl⟩⟩⟩
  | neither => exact ⟨_, rfl⟩

theorem ReadResultElement.encode_ok_iff {element : ReadResultElement}
    : (∃ octets, element.encode = .ok octets) ↔ indexFits element.propertyArrayIndex := by
  have identifier : ∃ octets, encodeContextUnsigned 2 element.propertyIdentifier.number
      = .ok octets := by
    refine (encodeContextUnsigned_ok_iff (by decide)).mpr ?_
    have := element.propertyIdentifier.number.isLt
    omega
  unfold ReadResultElement.encode
  rw [bind_const_ok_iff fun _ => bind_const_ok_iff fun _ => bind_const_ok_iff fun _ =>
    returned_ok_iff _, encodeContextOptional_ok_iff (by decide)]
  exact ⟨fun all => all.2.1, fun fits => ⟨identifier, fits, element.result.encode_ok, trivial⟩⟩

/-- The results for an object can be encoded exactly if every one of them can. -/
theorem ReadAccessResult.encode_ok_iff {result : ReadAccessResult}
    : (∃ octets, result.encode = .ok octets)
      ↔ ∀ element ∈ result.listOfResults, ∃ octets, element.encode = .ok octets := by
  have object : ∃ octets, encodeContextObjectId 0 result.objectIdentifier = .ok octets := by
    refine (encodeContextTagged_ok_iff (by decide)).mpr ?_
    rw [ObjectIdentifier.encode, length_toBytes]
    decide
  rw [ReadAccessResult.encode, bind_const_ok_iff fun _ => bind_const_ok_iff fun _ =>
    returned_ok_iff _, exists_mapM_ok_iff]
  exact ⟨fun all => all.2.1, fun fits => ⟨object, fits, trivial⟩⟩

-- Reading

/-- The exception is one of the protocol. -/
def Raised.isBacnetError : Raised → Bool
  | .bacnetError _ _ => true
  | _ => false

/-- Nothing but protocol errors is raised. -/
def OnlyBacnetErrors {Result : Type} (outcome : Except Raised Result) : Prop :=
  ∀ raised, outcome = .error raised → raised.isBacnetError

theorem onlyBacnetErrors_ok {Result : Type} (result : Result)
    : OnlyBacnetErrors (.ok result : Except Raised Result) := by
  intro raised same
  cases same

theorem onlyBacnetErrors_propertyError {Result : Type} (code : ErrorCode)
    : OnlyBacnetErrors (propertyError code : Except Raised Result) := by
  intro raised same
  rw [← Except.error.inj same]
  rfl

namespace BACnetObject

theorem readElement_onlyBacnetErrors (value : Value) (index : Nat)
    : OnlyBacnetErrors (readElement value index) := by
  unfold readElement
  cases value.asList? with
  | none => exact onlyBacnetErrors_propertyError _
  | some items =>
    dsimp only
    split
    · exact onlyBacnetErrors_ok _
    · split
      · exact onlyBacnetErrors_ok _
      · exact onlyBacnetErrors_propertyError _

theorem getCurrentCommandPriority_onlyBacnetErrors (obj : BACnetObject)
    : OnlyBacnetErrors obj.getCurrentCommandPriority := by
  unfold getCurrentCommandPriority
  cases obj.commands with
  | none => exact onlyBacnetErrors_propertyError _
  | some slots =>
    dsimp only
    split
    · exact onlyBacnetErrors_ok _
    · exact onlyBacnetErrors_ok _

theorem getStatusFlags_onlyBacnetErrors (obj : BACnetObject)
    : OnlyBacnetErrors obj.getStatusFlags := by
  unfold getStatusFlags
  split
  · exact onlyBacnetErrors_propertyError _
  · exact onlyBacnetErrors_ok _

theorem baseReadProperty_onlyBacnetErrors (obj : BACnetObject) (prop : PropertyIdentifier)
    (arrayIndex : Option Nat)
    : OnlyBacnetErrors (obj.baseReadProperty prop arrayIndex) := by
  unfold baseReadProperty
  split
  · exact onlyBacnetErrors_ok _
  · split
    · exact getCurrentCommandPriority_onlyBacnetErrors obj
    · split
      · exact getStatusFlags_onlyBacnetErrors obj
      · cases obj.cls.definition? prop with
        | none => exact onlyBacnetErrors_propertyError _
        | some definition =>
          dsimp only
          split
          · exact onlyBacnetErrors_propertyError _
          · cases arrayIndex with
            | none => exact onlyBacnetErrors_ok _
            | some index => exact readElement_onlyBacnetErrors _ index

theorem readProperty_onlyBacnetErrors (obj : BACnetObject) (prop : PropertyIdentifier)
    (arrayIndex : Option Nat)
    : OnlyBacnetErrors (obj.readProperty prop arrayIndex) := by
  have base := baseReadProperty_onlyBacnetErrors obj prop arrayIndex
  unfold readProperty
  cases read : obj.baseReadProperty prop arrayIndex with
  | error raised =>
    rw [read] at base
    exact base
  | ok value =>
    intro raised same
    simp only [bind, Except.bind] at same
    split at same <;> cases same

end BACnetObject

namespace Server

variable {server : Server} {objectId : ObjectIdentifier} {ref : Nat} {obj : BACnetObject}
  {reference : PropertyReference}

/-- Reading a property raises protocol errors only. -/
theorem readObjectProperty_onlyBacnetErrors (server : Server) (ref : Nat) (obj : BACnetObject)
    (prop : PropertyIdentifier) (arrayIndex : Option Nat)
    : OnlyBacnetErrors (server.readObjectProperty ref obj prop arrayIndex) := by
  unfold readObjectProperty ObjectDatabase.readProperty
  dsimp only
  split
  · cases arrayIndex with
    | none => exact onlyBacnetErrors_ok _
    | some index => exact BACnetObject.readElement_onlyBacnetErrors _ index
  · split
    · exact onlyBacnetErrors_ok _
    · split
      · cases arrayIndex with
        | none => exact onlyBacnetErrors_ok _
        | some index => exact BACnetObject.readElement_onlyBacnetErrors _ index
      · exact BACnetObject.readProperty_onlyBacnetErrors obj prop arrayIndex

/-- The value that is read for a reference, if there is one, is not out of the range of its
encoding.
-/
def InRange (server : Server) (objectId : ObjectIdentifier) (ref : Nat) (obj : BACnetObject)
    (reference : PropertyReference)
    : Prop :=
  ∀ value, server.readObjectProperty ref obj reference.propertyIdentifier
      reference.propertyArrayIndex = .ok value
    → value.encoding (objectId.objectType ∈ analogTypes) ≠ .outOfRange

/-- A result answers a reference: it has the octets of the value, or the error of the property. -/
structure Answers (server : Server) (objectId : ObjectIdentifier) (ref : Nat) (obj : BACnetObject)
    (reference : PropertyReference) (element : ReadResultElement)
    : Prop where
  propertyIdentifier : element.propertyIdentifier = reference.propertyIdentifier
  propertyArrayIndex : element.propertyArrayIndex = reference.propertyArrayIndex
  result :
    match element.result with
    | .value octets => server.readEncoded objectId ref obj reference = .ok octets
    | .error errorClass errorCode =>
      server.readEncoded objectId ref obj reference = .error (.bacnetError errorClass errorCode)
    | .neither => False

theorem readResult_ok_iff {element : ReadResultElement}
    : server.readResult objectId ref obj reference = .ok element
      ↔ server.Answers objectId ref obj reference element := by
  obtain ⟨property, index, result⟩ := element
  unfold readResult
  cases encoded : server.readEncoded objectId ref obj reference with
  | ok octets =>
    constructor
    · intro same
      cases same
      exact ⟨rfl, rfl, encoded⟩
    · rintro ⟨rfl, rfl, answer⟩
      cases result with
      | value other =>
        cases encoded.symm.trans answer
        rfl
      | error errorClass errorCode => cases encoded.symm.trans answer
      | neither => exact answer.elim
  | error raised =>
    cases raised with
    | bacnetError errorClass errorCode =>
      constructor
      · intro same
        cases same
        exact ⟨rfl, rfl, encoded⟩
      · rintro ⟨rfl, rfl, answer⟩
        cases result with
        | value other => cases encoded.symm.trans answer
        | error otherClass otherCode =>
          cases encoded.symm.trans answer
          rfl
        | neither => exact answer.elim
    | _ =>
      constructor
      · intro same
        cases same
      · rintro ⟨_, _, answer⟩
        cases result with
        | neither => exact answer.elim
        | _ => cases encoded.symm.trans answer

theorem exists_readResult_iff
    : (∃ element, server.readResult objectId ref obj reference = .ok element)
      ↔ server.InRange objectId ref obj reference := by
  have errors := readObjectProperty_onlyBacnetErrors server ref obj reference.propertyIdentifier
    reference.propertyArrayIndex
  unfold readResult readEncoded InRange
  cases read : server.readObjectProperty ref obj reference.propertyIdentifier
      reference.propertyArrayIndex with
  | error raised =>
    cases raised with
    | bacnetError errorClass errorCode => simp [bind, Except.bind]
    | _ =>
      have impossible := errors _ read
      cases impossible
  | ok value =>
    have ends := of_encodePropertyValue value (objectId.objectType ∈ analogTypes)
    simp only [bind, Except.bind, Except.ok.injEq, forall_eq', ← ends, encodeProperty]
    cases encodePropertyValue value (objectId.objectType ∈ analogTypes) with
    | ok octets => simp [Encoding.of]
    | error raised => cases raised <;> simp [Encoding.of, propertyError]

/-- Everything that is read for a reference can go into an acknowledgement. -/
def Reportable (server : Server) (objectId : ObjectIdentifier) (ref : Nat) (obj : BACnetObject)
    (reference : PropertyReference)
    : Prop :=
  server.InRange objectId ref obj reference ∧ indexFits reference.propertyArrayIndex

theorem exists_readResult_encode_iff
    : (∃ element, server.readResult objectId ref obj reference = .ok element
        ∧ ∃ octets, element.encode = .ok octets)
      ↔ server.Reportable objectId ref obj reference := by
  unfold Reportable
  rw [← exists_readResult_iff]
  constructor
  · rintro ⟨element, result, encodes⟩
    have fits := ReadResultElement.encode_ok_iff.mp encodes
    rw [(readResult_ok_iff.mp result).propertyArrayIndex] at fits
    exact ⟨⟨element, result⟩, fits⟩
  · rintro ⟨⟨element, result⟩, fits⟩
    rw [← (readResult_ok_iff.mp result).propertyArrayIndex] at fits
    exact ⟨element, result, ReadResultElement.encode_ok_iff.mpr fits⟩

-- Whole requests

def unknownResult (reference : PropertyReference) : ReadResultElement where
  propertyIdentifier := reference.propertyIdentifier
  propertyArrayIndex := reference.propertyArrayIndex
  result := .error .object .unknownObject

/-- The results for one object: one for each of the expanded references, in their order, or one
error for each reference as it is where the object is not known.
-/
structure AnswersAll (server : Server) (spec : ReadAccessSpecification) (result : ReadAccessResult)
    : Prop where
  objectIdentifier : result.objectIdentifier = server.resolveObjectId spec.objectIdentifier
  listOfResults :
    match server.db.get (server.resolveObjectId spec.objectIdentifier),
      server.db.object? (server.resolveObjectId spec.objectIdentifier) with
    | some ref, some obj =>
      List.Forall₂ (server.Answers (server.resolveObjectId spec.objectIdentifier) ref obj)
        (expandPropertyReferences obj spec.listOfPropertyReferences) result.listOfResults
    | _, _ => result.listOfResults = spec.listOfPropertyReferences.map unknownResult

/-- An acknowledgement is returned, and it answers every reference of every object in order. -/
def Answered (server : Server) (specs : List ReadAccessSpecification) : Prop :=
  ∃ results ack, server.handleReadPropertyMultiple specs = .ok ack
    ∧ encodeReadPropertyMultipleAck results = .ok ack
    ∧ List.Forall₂ server.AnswersAll specs results

/-- All that is read for one object can go into an acknowledgement. -/
def SpecReportable (server : Server) (spec : ReadAccessSpecification) : Prop :=
  match server.db.get (server.resolveObjectId spec.objectIdentifier),
    server.db.object? (server.resolveObjectId spec.objectIdentifier) with
  | some ref, some obj =>
    ∀ reference ∈ expandPropertyReferences obj spec.listOfPropertyReferences,
      server.Reportable (server.resolveObjectId spec.objectIdentifier) ref obj reference
  | _, _ => ∀ reference ∈ spec.listOfPropertyReferences, indexFits reference.propertyArrayIndex

/-- An object has results exactly if they answer all references. -/
theorem readAccess_ok_iff {spec result}
    : server.readAccess spec = .ok result ↔ server.AnswersAll spec result := by
  obtain ⟨identifier, elements⟩ := result
  have unknown : (Except.ok {
        objectIdentifier := server.resolveObjectId spec.objectIdentifier
        listOfResults := spec.listOfPropertyReferences.map unknownResult
      } : Except Raised ReadAccessResult) = .ok ⟨identifier, elements⟩
      ↔ identifier = server.resolveObjectId spec.objectIdentifier
        ∧ elements = spec.listOfPropertyReferences.map unknownResult := by
    rw [Except.ok.injEq, ReadAccessResult.mk.injEq]
    exact and_congr eq_comm eq_comm
  have unfolded : server.AnswersAll spec ⟨identifier, elements⟩
      ↔ identifier = server.resolveObjectId spec.objectIdentifier ∧
        match server.db.get (server.resolveObjectId spec.objectIdentifier),
          server.db.object? (server.resolveObjectId spec.objectIdentifier) with
        | some ref, some obj =>
          List.Forall₂ (server.Answers (server.resolveObjectId spec.objectIdentifier) ref obj)
            (expandPropertyReferences obj spec.listOfPropertyReferences) elements
        | _, _ => elements = spec.listOfPropertyReferences.map unknownResult :=
    ⟨fun answers => ⟨answers.objectIdentifier, answers.listOfResults⟩,
      fun parts => ⟨parts.1, parts.2⟩⟩
  rw [unfolded]
  unfold readAccess
  dsimp only
  cases server.db.get (server.resolveObjectId spec.objectIdentifier) with
  | none => exact unknown
  | some ref =>
    cases server.db.object? (server.resolveObjectId spec.objectIdentifier) with
    | none => exact unknown
    | some obj =>
      dsimp only
      simp only [bind_eq_ok, mapM_ok_iff, readResult_ok_iff]
      constructor
      · rintro ⟨others, answers, same⟩
        cases same
        exact ⟨rfl, answers⟩
      · rintro ⟨rfl, answers⟩
        exact ⟨elements, answers, rfl⟩

theorem exists_readAccess_encode_iff {spec : ReadAccessSpecification}
    : (∃ result, server.readAccess spec = .ok result ∧ ∃ octets, result.encode = .ok octets)
      ↔ server.SpecReportable spec := by
  have unknown : (∃ result : ReadAccessResult, (Except.ok {
        objectIdentifier := server.resolveObjectId spec.objectIdentifier
        listOfResults := spec.listOfPropertyReferences.map unknownResult
      } : Except Raised ReadAccessResult) = .ok result ∧ ∃ octets, result.encode = .ok octets)
      ↔ ∀ reference ∈ spec.listOfPropertyReferences, indexFits reference.propertyArrayIndex := by
    simp only [Except.ok.injEq, exists_eq_left', ReadAccessResult.encode_ok_iff, List.forall_mem_map,
      ReadResultElement.encode_ok_iff, unknownResult]
  unfold readAccess SpecReportable
  dsimp only
  cases server.db.get (server.resolveObjectId spec.objectIdentifier) with
  | none => exact unknown
  | some ref =>
    cases server.db.object? (server.resolveObjectId spec.objectIdentifier) with
    | none => exact unknown
    | some obj =>
      dsimp only
      simp only [← exists_readResult_encode_iff, ← exists_mapM_mapM_ok_iff, bind_eq_ok,
        exists_mapM_ok_iff]
      constructor
      · rintro ⟨result, ⟨elements, answers, same⟩, encodes⟩
        cases same
        exact ⟨elements, answers, ReadAccessResult.encode_ok_iff.mp encodes⟩
      · rintro ⟨elements, answers, encodes⟩
        exact ⟨⟨_, elements⟩, ⟨elements, answers, rfl⟩,
          ReadAccessResult.encode_ok_iff.mpr encodes⟩

/-- A request is answered as a whole exactly if every value that is read for it is in the range of
its encoding, and every array index in the range of an unsigned number.
-/
theorem answered_iff (server : Server) (specs : List ReadAccessSpecification)
    : server.Answered specs ↔ ∀ spec ∈ specs, server.SpecReportable spec := by
  simp only [← exists_readAccess_encode_iff, ← exists_mapM_mapM_ok_iff]
  constructor
  · rintro ⟨_, ack, handled, _, _⟩
    obtain ⟨results, read, encodes⟩ := bind_eq_ok.mp handled
    refine ⟨results, read, ?_⟩
    unfold encodeReadPropertyMultipleAck at encodes
    cases encoded : results.mapM ReadAccessResult.encode with
    | error raised =>
      rw [encoded] at encodes
      cases encodes
    | ok parts => exact ⟨parts, rfl⟩
  · rintro ⟨results, read, parts, encoded⟩
    have ack : encodeReadPropertyMultipleAck results = .ok parts.flatten :=
      bind_eq_ok.mpr ⟨parts, encoded, rfl⟩
    refine ⟨results, parts.flatten, bind_eq_ok.mpr ⟨results, read, by rw [ack]; rfl⟩, ack, ?_⟩
    exact (mapM_ok_iff.mp read).imp fun spec result => readAccess_ok_iff.mp

def negativeWrite : WritePropertyRequest where
  objectIdentifier := ⟨.integerValue, 1⟩
  propertyIdentifier := .presentValue
  propertyValue := [0x31, 0xFB]

/-- A negative present value that was accepted makes a request fail as a whole. -/
theorem unanswered_negative
    : ¬ ∀ (_ : JapaneseCodec) (server : Server) (request : WritePropertyRequest)
          (specs : List ReadAccessSpecification),
        (handleWriteProperty 0 request server).1 = .ok ()
        → (handleWriteProperty 0 request server).2.Answered specs := by
  intro answered
  let codec : JapaneseCodec := ⟨fun _ => none⟩
  have accepted : (handleWriteProperty 0 negativeWrite oneInteger).1 = .ok () := by
    decide +kernel
  let specs : List ReadAccessSpecification :=
    [⟨⟨.integerValue, 1⟩, [{ propertyIdentifier := .presentValue }]⟩]
  obtain ⟨_, ack, handled, _⟩ := answered codec oneInteger negativeWrite specs accepted
  have escapes : ((handleWriteProperty 0 negativeWrite oneInteger).2.handleReadPropertyMultiple
      specs).isOk = false := by
    decide +kernel
  rw [handled] at escapes
  cases escapes

end Server

end BacPy
