import BacPy.Encoding.ApduRoundTrip
import BacPy.Encoding.ContextValues
import BacPy.Services.Fields
import BacPy.Services.Properties

/-! The services that carry lists of property values: ReadPropertyMultiple, WritePropertyMultiple,
CreateObject and the COV notifications. An item of a list ends where the tag that comes next is none
of its own, and its value is cut out between the tags that enclose it.
-/

namespace BacPy

open Library
open Tag (IsContext Opens Closes)

-- Fields

/-- `PropertyIdentifier(value)` -/
def PropertyIdentifier.ofNumber (number : Nat) : Except PyException PropertyIdentifier :=
  if small : number < 4194304 then .ok ⟨⟨number, small⟩⟩
  else .error (.valueError s!"{number} is not a valid PropertyIdentifier")

/-- `ObjectType(value)` -/
def ObjectType.ofNumber (number : Nat) : Except PyException ObjectType :=
  if small : number < 1024 then .ok ⟨⟨number, small⟩⟩
  else .error (.valueError s!"{number} is not a valid ObjectType")

namespace Decoder

/-- A property identifier behind any tag. -/
abbrev propertyIdentifier : Decoder PropertyIdentifier :=
  field fun octets => PropertyIdentifier.ofNumber (decodeUnsigned octets)

/-- An optional number whose tag is looked for without a look at the end of the octets. -/
def unsignedAhead (accepts : Tag → Bool) : Decoder (Option Nat) := of fun data offset => do
  let (tag, newOffset) ← decodeTag data offset
  if accepts tag then
    .ok (some (decodeUnsigned (slice data newOffset (newOffset + tag.length))),
      newOffset + tag.length)
  else .ok (none, offset)

/-- The raw octets up to the closing tag, as `extract_context_value` returns them. -/
def rawValue (number : Nat) : Decoder Bytes :=
  of fun data offset => extractContextValue data offset number

end Decoder

-- Property references and property values

def PropertyReference.encode (reference : PropertyReference) : Except PyException Bytes :=
  joined [
    encodeContextUnsigned 0 reference.propertyIdentifier.number,
    encodeContextOptional 1 reference.propertyArrayIndex
  ]

def PropertyReference.decode : Decoder PropertyReference := do
  let propertyIdentifier ← .propertyIdentifier
  let propertyArrayIndex ← .optionalContext 1 fun octets => .ok (decodeUnsigned octets)
  pure { propertyIdentifier, propertyArrayIndex }

/-- The priority of a `BACnetPropertyValue`, if it has one, is one of the 16. -/
def BACnetPropertyValue.decodePriority : Decoder (Option Nat) := do
  let priority ← .optionalContext 3 fun octets => .ok (decodeUnsigned octets)
  if ∃ number ∈ priority, ¬ (1 ≤ number ∧ number ≤ 16) then
    .fail (.rejectError .parameterOutOfRange)
  else pure priority

def BACnetPropertyValue.decodeFrom : Decoder BACnetPropertyValue := do
  let propertyIdentifier ← .propertyIdentifier
  let propertyArrayIndex ← .unsignedAhead fun tag =>
    tag.cls = .context ∧ tag.number = 1 ∧ tag.isOpening = false
  let _opening ← .tag
  let value ← .rawValue 2
  let priority ← decodePriority
  pure { propertyIdentifier, propertyArrayIndex, value, priority }

-- ReadPropertyMultiple

def ReadAccessSpecification.encode (spec : ReadAccessSpecification) : Except PyException Bytes :=
  joined [
    encodeContextObjectId 0 spec.objectIdentifier,
    .ok (encodeOpeningTag 1),
    joined (spec.listOfPropertyReferences.map PropertyReference.encode),
    .ok (encodeClosingTag 1)
  ]

def ReadAccessSpecification.decode : Decoder ReadAccessSpecification := do
  let objectIdentifier ← .objectIdentifier
  let _opening ← .tag
  let listOfPropertyReferences ← .items 1 PropertyReference.decode
  pure { objectIdentifier, listOfPropertyReferences }

structure ReadPropertyMultipleRequest where
  listOfReadAccessSpecs : List ReadAccessSpecification

namespace ReadPropertyMultipleRequest

def encode (request : ReadPropertyMultipleRequest) : Except PyException Bytes :=
  joined (request.listOfReadAccessSpecs.map ReadAccessSpecification.encode)

def decode : Decoder ReadPropertyMultipleRequest := do
  let listOfReadAccessSpecs ← .itemsToEnd ReadAccessSpecification.decode
  pure { listOfReadAccessSpecs }

end ReadPropertyMultipleRequest

/-- Which opening tag comes next, if one of the two does. The octets may not end here. -/
def ReadResult.decodeChoice : Decoder (Option Nat) := .of fun data offset => do
  let (tag, newOffset) ← decodeTag data offset
  if tag.isOpening = true ∧ (tag.number = 4 ∨ tag.number = 5) then .ok (some tag.number, newOffset)
  else .ok (none, offset)

def ReadResult.decode : Decoder ReadResult := do
  let number ← decodeChoice
  if number = some 4 then
    let propertyValue ← .rawValue 4
    pure (.value propertyValue)
  else if number = some 5 then
    let errorClass ← .unsigned
    let errorCode ← .unsigned
    let _closing ← .tag
    let errorClass ← Parser.lift (raising (enumMember "ErrorClass" ErrorClass.ofNat? errorClass))
    let errorCode ← Parser.lift (raising (enumMember "ErrorCode" ErrorCode.ofNat? errorCode))
    pure (.error errorClass errorCode)
  else pure .neither

def ReadResultElement.decode : Decoder ReadResultElement := do
  let propertyIdentifier ← .propertyIdentifier
  let propertyArrayIndex ← .unsignedAhead fun tag =>
    tag.cls = .context ∧ tag.number = 3 ∧ tag.isOpening = false ∧ tag.isClosing = false
  let result ← ReadResult.decode
  pure { propertyIdentifier, propertyArrayIndex, result }

def ReadAccessResult.decode : Decoder ReadAccessResult := do
  let objectIdentifier ← .objectIdentifier
  let _opening ← .tag
  let listOfResults ← .items 1 ReadResultElement.decode
  pure { objectIdentifier, listOfResults }

/-- `ReadPropertyMultipleACK.decode` -/
def decodeReadPropertyMultipleAck : Decoder (List ReadAccessResult) :=
  .itemsToEnd ReadAccessResult.decode

-- WritePropertyMultiple

def WriteAccessSpecification.encode (spec : WriteAccessSpecification) : Except PyException Bytes :=
  joined [
    encodeContextObjectId 0 spec.objectIdentifier,
    .ok (encodeOpeningTag 1),
    joined (spec.listOfProperties.map BACnetPropertyValue.encode),
    .ok (encodeClosingTag 1)
  ]

def WriteAccessSpecification.decode : Decoder WriteAccessSpecification := do
  let objectIdentifier ← .objectIdentifier
  let _opening ← .tag
  let listOfProperties ← .items 1 BACnetPropertyValue.decodeFrom
  pure { objectIdentifier, listOfProperties }

structure WritePropertyMultipleRequest where
  listOfWriteAccessSpecs : List WriteAccessSpecification

namespace WritePropertyMultipleRequest

def encode (request : WritePropertyMultipleRequest) : Except PyException Bytes :=
  joined (request.listOfWriteAccessSpecs.map WriteAccessSpecification.encode)

def decode : Decoder WritePropertyMultipleRequest := do
  let listOfWriteAccessSpecs ← .itemsToEnd WriteAccessSpecification.decode
  pure { listOfWriteAccessSpecs }

end WritePropertyMultipleRequest

-- COV notifications and CreateObject

def COVNotificationRequest.decode : Decoder COVNotificationRequest := do
  let subscriberProcessIdentifier ← .unsigned
  let initiatingDeviceIdentifier ← .objectIdentifier
  let monitoredObjectIdentifier ← .objectIdentifier
  let timeRemaining ← .unsigned
  let _opening ← .tag
  let listOfValues ← .items 4 BACnetPropertyValue.decodeFrom
  pure {
    subscriberProcessIdentifier
    initiatingDeviceIdentifier
    monitoredObjectIdentifier
    timeRemaining
    listOfValues
  }

namespace CreateObjectRequest

/-- The object specifier: an object identifier goes before an object type. -/
def encodeSpecifier (request : CreateObjectRequest) : Except PyException Bytes :=
  match request.objectIdentifier, request.objectType with
  | some objectIdentifier, _ => encodeContextObjectId 1 objectIdentifier
  | none, some objectType => encodeContextEnumerated 0 objectType.number
  | none, none => .ok []

/-- The initial values, if there are any: an empty list is left out like no list. -/
def encodeInitialValues : Option (List BACnetPropertyValue) → Except PyException Bytes
  | none => .ok []
  | some [] => .ok []
  | some (first :: others) => joined [
      .ok (encodeOpeningTag 1),
      joined ((first :: others).map BACnetPropertyValue.encode),
      .ok (encodeClosingTag 1)
    ]

def encode (request : CreateObjectRequest) : Except PyException Bytes :=
  joined [
    .ok (encodeOpeningTag 0),
    request.encodeSpecifier,
    .ok (encodeClosingTag 0),
    encodeInitialValues request.listOfInitialValues
  ]

def decodeSpecifier : Decoder (Option ObjectType × Option ObjectIdentifier) := do
  let (tag, content) ← .element
  if tag.cls = .context ∧ tag.number = 0 then
    let objectType ← Parser.lift (raising (ObjectType.ofNumber (decodeUnsigned content)))
    pure (some objectType, none)
  else if tag.cls = .context ∧ tag.number = 1 then
    let objectIdentifier ← Parser.lift (raising (decodeObjectIdentifier content))
    pure (none, some objectIdentifier)
  else
    .fail (.builtin (.valueError
      s!"Unexpected tag {tag.number} in CreateObject objectSpecifier CHOICE"))

def decodeInitialValues : Decoder (Option (List BACnetPropertyValue)) := do
  let given ← .optionalOpening 1
  if given then
    let values ← .items 1 BACnetPropertyValue.decodeFrom
    pure (some values)
  else pure none

def decode : Decoder CreateObjectRequest := do
  let opening ← .tag
  if opening.isOpening = false ∨ opening.number ≠ 0 then
    .fail (.builtin (.valueError
      s!"Expected opening tag 0 for objectSpecifier, got tag {opening.number}"))
  else
    let (objectType, objectIdentifier) ← decodeSpecifier
    let _closing ← .tag
    let listOfInitialValues ← decodeInitialValues
    pure { objectType, objectIdentifier, listOfInitialValues }

end CreateObjectRequest

-- Encoders as parts in a row

/-- Encodings that are made one by one and put together, by induction on the list. -/
theorem mapM_flatten {Item Refusal : Type} (encode : Item → Except Refusal Bytes) (items : List Item)
    : (items.mapM encode >>= fun chunks => .ok chunks.flatten) = joined (items.map encode) := by
  induction items with
  | nil => rfl
  | cons item others ih =>
    rw [List.map_cons, List.mapM_cons]
    cases here : encode item with
    | error refusal => rfl
    | ok first =>
      rw [joined, ← ih]
      cases others.mapM encode <;> rfl

theorem BACnetPropertyValue.encode_joined (pv : BACnetPropertyValue)
    : pv.encode = joined [
        encodeContextUnsigned 0 pv.propertyIdentifier.number,
        encodeContextOptional 1 pv.propertyArrayIndex,
        .ok (encodeOpeningTag 2),
        .ok pv.value,
        .ok (encodeClosingTag 2),
        encodeContextOptional 3 pv.priority
      ] := by
  unfold encode
  cases encodeContextUnsigned 0 pv.propertyIdentifier.number with
  | error refusal => rfl
  | ok identifier =>
    cases encodeContextOptional 1 pv.propertyArrayIndex with
    | error refusal => rfl
    | ok arrayIndex =>
      cases encodeContextOptional 3 pv.priority with
      | error refusal => rfl
      | ok priority => simp [joined, bind, Except.bind]

theorem ReadResultElement.encode_joined (element : ReadResultElement)
    : element.encode = joined [
        encodeContextUnsigned 2 element.propertyIdentifier.number,
        encodeContextOptional 3 element.propertyArrayIndex,
        element.result.encode
      ] := by
  unfold encode
  cases encodeContextUnsigned 2 element.propertyIdentifier.number with
  | error refusal => rfl
  | ok identifier =>
    cases encodeContextOptional 3 element.propertyArrayIndex with
    | error refusal => rfl
    | ok arrayIndex =>
      cases element.result.encode with
      | error refusal => rfl
      | ok result => simp [joined, bind, Except.bind]

theorem ReadAccessResult.encode_joined (result : ReadAccessResult)
    : result.encode = joined [
        encodeContextObjectId 0 result.objectIdentifier,
        .ok (encodeOpeningTag 1),
        joined (result.listOfResults.map ReadResultElement.encode),
        .ok (encodeClosingTag 1)
      ] := by
  unfold encode
  rw [← mapM_flatten]
  cases encodeContextObjectId 0 result.objectIdentifier with
  | error refusal => rfl
  | ok object =>
    cases result.listOfResults.mapM ReadResultElement.encode with
    | error refusal => rfl
    | ok elements => simp [joined, bind, Except.bind]

theorem COVNotificationRequest.encode_joined (request : COVNotificationRequest)
    : request.encode = joined [
        encodeContextUnsigned 0 request.subscriberProcessIdentifier,
        encodeContextObjectId 1 request.initiatingDeviceIdentifier,
        encodeContextObjectId 2 request.monitoredObjectIdentifier,
        encodeContextUnsigned 3 request.timeRemaining,
        .ok (encodeOpeningTag 4),
        joined (request.listOfValues.map BACnetPropertyValue.encode),
        .ok (encodeClosingTag 4)
      ] := by
  unfold encode
  rw [← mapM_flatten]
  cases encodeContextUnsigned 0 request.subscriberProcessIdentifier with
  | error refusal => rfl
  | ok process =>
    cases encodeContextObjectId 1 request.initiatingDeviceIdentifier with
    | error refusal => rfl
    | ok device =>
      cases encodeContextObjectId 2 request.monitoredObjectIdentifier with
      | error refusal => rfl
      | ok monitored =>
        cases encodeContextUnsigned 3 request.timeRemaining with
        | error refusal => rfl
        | ok timeRemaining =>
          cases request.listOfValues.mapM BACnetPropertyValue.encode with
          | error refusal => rfl
          | ok values => simp [joined, bind, Except.bind]

-- What fields carry

/-- The octets are well-nested tagged data, fewer than 32 levels deep. -/
def WellNested (octets : Bytes) : Prop :=
  ∃ values : TaggedValues, values.WellFormed ∧ values.levels < 32 ∧ values.encode = .ok octets

section Fields

variable {number : Nat}

theorem containsFew_propertyIdentifier (value : PropertyIdentifier)
    : ContainsFew (encodeUnsignedInt (value.number : Nat))
        (fun octets => PropertyIdentifier.ofNumber (decodeUnsigned octets)) value := by
  have small := value.number.isLt
  obtain ⟨octets, encoded, few, decoded⟩ := containsFew_unsigned
    (show (value.number : Nat) ≤ 0xFFFFFFFF by omega)
  have same : decodeUnsigned octets = value.number := Except.ok.inj decoded
  refine ⟨octets, encoded, few, ?_⟩
  dsimp only
  rw [same]
  exact dif_pos small

theorem carries_propertyIdentifier (inRange : number ≤ 254) (value : PropertyIdentifier)
    : CarriesField (IsContext number) (encodeContextUnsigned number (value.number : Nat))
        .propertyIdentifier value :=
  carries_context inRange (containsFew_propertyIdentifier value).contains

theorem carries_unsignedFound {looksFor : Tag → Bool} {value : Nat} (inRange : number ≤ 254)
    (small : value ≤ 0xFFFFFFFF) (found : ∀ tag, IsContext number tag → looksFor tag = true)
    : CarriesField (IsContext number) (encodeContextUnsigned number value)
        (Decoder.unsignedAhead looksFor) (some value) := by
  obtain ⟨octets, encoded, sane, decoded⟩ := contains_unsigned small
  obtain ⟨header, tagged⟩ := (encodeTag_ok_iff inRange .context).mpr
    (show octets.length < 256 ^ 4 by omega)
  have reads := encodeTag_header tagged sane
  have own := found { number, cls := .context, length := octets.length } ⟨rfl, rfl, rfl, rfl⟩
  refine ⟨header ++ octets, ?_, fun before after _ => ?_, fun tail _ => ?_⟩
  · exact bind_eq_ok.mpr ⟨octets, encoded, bind_eq_ok.mpr ⟨header, tagged, rfl⟩⟩
  · have here : (before ++ (header ++ octets ++ after)).drop before.length
        = header ++ (octets ++ after) := by
      rw [List.append_assoc, List.drop_left]
    have value := slice_here (drop_behind here)
    apply Decoder.of_run
    rw [reads.decoded here, List.length_append, ← Nat.add_assoc]
    simp only [bind, Except.bind, own, if_true, value, Except.ok.inj decoded]
  · rw [List.append_assoc]
    exact .of_header reads ⟨rfl, rfl, rfl, rfl⟩

/-- An optional number that is looked for, in front of a tag that is not taken for its own. -/
theorem carries_unsignedAhead {looksFor : Tag → Bool} {accepts : Tag → Prop} {field : Option Nat}
    (inRange : number ≤ 254) (small : ∀ value ∈ field, value ≤ 0xFFFFFFFF)
    (found : ∀ tag, IsContext number tag → looksFor tag = true)
    (other : ∀ tag, accepts tag → looksFor tag = false)
    : Carries (StartsWith accepts) (StartsWith fun tag => IsContext number tag ∨ accepts tag)
        (encodeContextOptional number field) (Decoder.unsignedAhead looksFor) field := by
  cases field with
  | none =>
    refine ⟨[], rfl, fun before after starts => ?_, fun tail starts => starts.mono fun _ => .inr⟩
    obtain ⟨tag, later, accepted, read⟩ := starts.read before
    apply Decoder.of_run
    rw [List.nil_append, read]
    exact if_neg (Bool.not_eq_true _ ▸ other tag accepted)
  | some value =>
    exact (carries_unsignedFound inRange (small value rfl) found).weaken (fun _ _ => trivial)
      fun _ starts => starts.mono fun _ => .inl

/-- The content of an enumerated field is a number like any other. -/
theorem contains_number {value} (small : value ≤ 0xFFFFFFFF)
    : Contains (encodeEnumerated value) (fun octets => .ok (decodeUnsigned octets)) value := by
  obtain ⟨octets, encoded, sane, decoded⟩ := contains_unsigned small
  rw [encodeUnsignedInt_natCast] at encoded
  exact ⟨octets, encoded, sane, decoded⟩

theorem carries_rawValue {octets} (inRange : number ≤ 254) (nested : WellNested octets)
    : Carries (fun _ => True) (fun _ => True)
        (joined [.ok octets, (.ok (encodeClosingTag number) : Except PyException Bytes)])
        (Decoder.rawValue number) octets := by
  obtain ⟨values, wellFormed, shallow, encoded⟩ := nested
  refine ⟨octets ++ encodeClosingTag number, ?_, fun before after _ => ?_, fun _ _ => trivial⟩
  · exact congrArg (fun closing => Except.ok (octets ++ closing)) (List.append_nil _)
  · have here : (before ++ (octets ++ encodeClosingTag number ++ after)).drop before.length
        = octets ++ (encodeClosingTag number ++ after) := by
      rw [List.append_assoc, List.drop_left]
    have read := extractContextValue_encode wellFormed encoded shallow inRange here
    rw [Nat.add_assoc, ← List.length_append] at read
    exact Decoder.of_run read

end Fields

-- Round trips

/-- The array index fits four octets. -/
def PropertyReference.Fits (reference : PropertyReference) : Prop :=
  ∀ index ∈ reference.propertyArrayIndex, index ≤ 0xFFFFFFFF

/-- The array index fits four octets, the value is well nested and the priority is one of the 16. -/
structure BACnetPropertyValue.WellFormed (pv : BACnetPropertyValue) : Prop where
  index : ∀ index ∈ pv.propertyArrayIndex, index ≤ 0xFFFFFFFF
  value : WellNested pv.value
  priority : ∀ number ∈ pv.priority, 1 ≤ number ∧ number ≤ 16

def ReadResult.WellFormed : ReadResult → Prop
  | value propertyValue => WellNested propertyValue
  | error _ _ => True
  | neither => True

structure ReadResultElement.WellFormed (element : ReadResultElement) : Prop where
  index : ∀ index ∈ element.propertyArrayIndex, index ≤ 0xFFFFFFFF
  result : element.result.WellFormed

theorem PropertyReference.carries {reference : PropertyReference} (fits : reference.Fits)
    : Carries (Next fun tag => ¬ IsContext 1 tag) (StartsWith (IsContext 0))
        reference.encode decode reference :=
  (carries_propertyIdentifier (by decide) reference.propertyIdentifier).andThen
    ((carries_contextOptional (by decide) fits fun _ other => other).before (.nil reference))

theorem BACnetPropertyValue.carries_priority {priority}
    (inRange : ∀ number ∈ priority, 1 ≤ number ∧ number ≤ 16)
    : Carries (Next fun tag => ¬ IsContext 3 tag)
        (Next fun tag => IsContext 3 tag ∨ ¬ IsContext 3 tag)
        (encodeContextOptional 3 priority) decodePriority priority := by
  have small : ∀ number ∈ priority, number ≤ 0xFFFFFFFF := by
    intro number given
    have := inRange number given
    omega
  refine (carries_contextOptional (by decide) small fun _ other => other).made (if_neg ?_)
  rintro ⟨number, given, out⟩
  exact out (inRange number given)

theorem BACnetPropertyValue.carries {pv} (wellFormed : pv.WellFormed)
    : Carries (Next fun tag => ¬ IsContext 3 tag) (StartsWith (IsContext 0)) pv.encode
        decodeFrom pv := by
  rw [encode_joined]
  exact (carries_propertyIdentifier (by decide) pv.propertyIdentifier).andThen
    ((carries_unsignedAhead (by decide) wellFormed.index (by grind [IsContext])
        (by grind [Opens])).before
      ((carries_openingTag (show 2 ≤ 254 by decide)).andThen
        ((carries_rawValue (by decide) wellFormed.value).consItems
          ((carries_priority wellFormed.priority).before (.nil pv)))))

namespace ReadResult

/-- An opening tag that says which of the two comes. -/
theorem carries_choice {number} (which : number = 4 ∨ number = 5)
    : CarriesField (Opens number) (.ok (encodeOpeningTag number) : Except PyException Bytes)
        decodeChoice (some number) := by
  have reads := encodeOpeningTag_header (show number ≤ 254 by omega)
  refine ⟨_, rfl, fun before after _ => ?_, fun tail _ => .of_header reads ⟨rfl, rfl, rfl, rfl⟩⟩
  apply Decoder.of_run
  rw [reads before after]
  exact if_pos ⟨rfl, which⟩

theorem parses_noChoice {accepts} (other : ∀ tag, accepts tag → tag.isOpening = false)
    : Parses (StartsWith accepts) decodeChoice [] none := by
  intro before after starts
  obtain ⟨tag, later, accepted, read⟩ := starts.read before
  apply Decoder.of_run
  rw [List.nil_append, read]
  exact if_neg (by simp [other tag accepted])

theorem encode_value (octets : Bytes)
    : (value octets).encode
      = joined [.ok (encodeOpeningTag 4), .ok octets, .ok (encodeClosingTag 4)] := by
  simp [encode, joined]

theorem encode_error (errorClass : ErrorClass) (errorCode : ErrorCode)
    : (error errorClass errorCode).encode = joined [
        .ok (encodeOpeningTag 5),
        encodeApplicationEnumerated errorClass.toNat,
        encodeApplicationEnumerated errorCode.toNat,
        .ok (encodeClosingTag 5)
      ] := by
  dsimp only [encode]
  cases encodeApplicationEnumerated errorClass.toNat with
  | error refusal => rfl
  | ok first =>
    cases encodeApplicationEnumerated errorCode.toNat with
    | error refusal => rfl
    | ok second => simp [joined, bind, Except.bind]

/-- A value, an error, or neither in front of tags that do not open anything. -/
theorem carries {result} (wellFormed : result.WellFormed) {accepts}
    (other : ∀ tag, accepts tag → tag.isOpening = false)
    : Carries (StartsWith accepts)
        (StartsWith fun tag => Opens 4 tag ∨ Opens 5 tag ∨ accepts tag)
        result.encode decode result := by
  cases result with
  | value octets =>
    have opened : CarriesField (Opens 4) (value octets).encode decode (.value octets) := by
      rw [encode_value]
      exact (carries_choice (.inl rfl)).andThen
        ((carries_rawValue (show 4 ≤ 254 by decide) wellFormed).consItems (.nil _))
    exact opened.weaken (fun _ _ => trivial) fun _ starts => starts.mono fun _ => .inl
  | error errorClass errorCode =>
    have known : raising (enumMember "ErrorClass" ErrorClass.ofNat? errorClass.toNat)
        = .ok errorClass := by
      rw [enumMember, ErrorClass.ofNat?_toNat, raising_ok]
    have known' : raising (enumMember "ErrorCode" ErrorCode.ofNat? errorCode.toNat)
        = .ok errorCode := by
      rw [enumMember, ErrorCode.ofNat?_toNat, raising_ok]
    have members : Carries (fun _ => True) (fun _ => True)
        (joined ([] : List (Except PyException Bytes))) (do
          let errorClass ← Parser.lift (raising (enumMember "ErrorClass" ErrorClass.ofNat?
            errorClass.toNat))
          let errorCode ← Parser.lift (raising (enumMember "ErrorCode" ErrorCode.ofNat?
            errorCode.toNat))
          pure (.error errorClass errorCode)) (error errorClass errorCode) := by
      rw [known, known']
      exact .behind (Parses.pure _) (.behind (Parses.pure _) (.nil _))
    have opened : CarriesField (Opens 5) (error errorClass errorCode).encode decode
        (.error errorClass errorCode) := by
      rw [encode_error]
      exact (carries_choice (.inr rfl)).andThen
        ((carries_application (by decide) (contains_number (ErrorClass.toNat_le errorClass))).andThen
          ((carries_application (by decide) (contains_number (ErrorCode.toNat_le errorCode))).andThen
            ((carries_closingTag (show 5 ≤ 254 by decide)).andThen members)))
    exact opened.weaken (fun _ _ => trivial) fun _ starts => starts.mono fun _ => .inr ∘ .inl
  | neither =>
    have nothing : Carries (StartsWith accepts) (StartsWith accepts) neither.encode decode
        .neither :=
      .behind (parses_noChoice other) (.nil _)
    exact nothing.weaken (fun _ starts => starts) fun _ starts =>
      starts.mono fun _ => .inr ∘ .inr

end ReadResult

theorem ReadResultElement.carries {element} (wellFormed : element.WellFormed)
    : Carries (StartsWith fun tag => IsContext 2 tag ∨ Closes 1 tag)
        (StartsWith (IsContext 2)) element.encode decode element := by
  rw [encode_joined]
  exact (carries_propertyIdentifier (by decide) element.propertyIdentifier).andThen
    ((carries_unsignedAhead (by decide) wellFormed.index (by grind [IsContext])
        (by grind [IsContext, Opens, Closes])).before
      ((ReadResult.carries wellFormed.result (by grind [IsContext, Closes])).before
        (.nil element)))

section Enclosed

variable {Item : Type} {item : Decoder Item} {encode : Item → Except PyException Bytes}

/-- An object with a list of items between tags with the number 1. -/
theorem carries_enclosed {Value : Type} {accepts allowed items}
    (each : ∀ value ∈ items, Carries allowed (StartsWith accepts) (encode value) item value)
    (few : items.length < maxDecodedItems)
    (opens : ∀ tag, accepts tag → ¬ (tag.isClosing = true ∧ tag.number = 1))
    (undisturbed : ∀ tail, StartsWith accepts tail → allowed tail)
    (ends : ∀ tail, StartsWith (Closes 1) tail → allowed tail)
    (objectIdentifier : ObjectIdentifier) (make : ObjectIdentifier → List Item → Value)
    : CarriesField (IsContext 0)
        (joined [
          encodeContextObjectId 0 objectIdentifier,
          .ok (encodeOpeningTag 1),
          joined (items.map encode),
          .ok (encodeClosingTag 1)
        ])
        (do
          let objectIdentifier ← .objectIdentifier
          let _opening ← .tag
          let items ← .items 1 item
          pure (make objectIdentifier items))
        (make objectIdentifier items) :=
  (carries_contextObjectId (by decide) objectIdentifier).andThen
    ((carries_openingTag (show 1 ≤ 254 by decide)).andThen
      ((carries_items (by decide) each few opens undisturbed ends).consItems (.nil _)))

end Enclosed

theorem carries_propertyValues {number} (inRange : number ≤ 254) {values}
    (few : values.length < maxDecodedItems) (wellFormed : ∀ pv ∈ values, pv.WellFormed)
    : Carries (fun _ => True) (fun _ => True)
        (joined [joined (values.map BACnetPropertyValue.encode),
          (.ok (encodeClosingTag number) : Except PyException Bytes)])
        (Decoder.items number BACnetPropertyValue.decodeFrom) values :=
  carries_items inRange (fun pv listed => BACnetPropertyValue.carries (wellFormed pv listed)) few
    (by grind [IsContext]) (fun _ starts => starts.next (by grind [IsContext]))
    fun _ starts => starts.next (by grind [IsContext, Closes])

-- Whole messages

/-- A list of references that is not too long, with indices that fit. -/
structure ReadAccessSpecification.Fits (spec : ReadAccessSpecification) : Prop where
  few : spec.listOfPropertyReferences.length < 10000
  each : ∀ reference ∈ spec.listOfPropertyReferences, reference.Fits

structure ReadAccessResult.WellFormed (result : ReadAccessResult) : Prop where
  few : result.listOfResults.length < 10000
  each : ∀ element ∈ result.listOfResults, element.WellFormed

structure WriteAccessSpecification.WellFormed (spec : WriteAccessSpecification) : Prop where
  few : spec.listOfProperties.length < 10000
  each : ∀ pv ∈ spec.listOfProperties, pv.WellFormed

structure COVNotificationRequest.WellFormed (request : COVNotificationRequest) : Prop where
  process : request.subscriberProcessIdentifier ≤ 0xFFFFFFFF
  timeRemaining : 0 ≤ request.timeRemaining ∧ request.timeRemaining ≤ 0xFFFFFFFF
  few : request.listOfValues.length < 10000
  each : ∀ pv ∈ request.listOfValues, pv.WellFormed

/-- Exactly one of the two specifiers is given. -/
structure CreateObjectRequest.WellFormed (request : CreateObjectRequest) : Prop where
  specifier : request.objectType.isSome ↔ request.objectIdentifier = none
  few : ∀ values ∈ request.listOfInitialValues, values.length < 10000
  each : ∀ values ∈ request.listOfInitialValues, ∀ pv ∈ values, pv.WellFormed

theorem ReadAccessSpecification.carries {spec} (fits : spec.Fits)
    : CarriesField (IsContext 0) spec.encode decode spec :=
  carries_enclosed (fun reference listed => PropertyReference.carries (fits.each reference listed))
    fits.few (by grind [IsContext]) (fun _ starts => starts.next (by grind [IsContext]))
    (fun _ starts => starts.next (by grind [IsContext, Closes])) spec.objectIdentifier
    ReadAccessSpecification.mk

theorem ReadAccessResult.carries {result} (wellFormed : result.WellFormed)
    : CarriesField (IsContext 0) result.encode decode result := by
  rw [encode_joined]
  exact carries_enclosed
    (fun element listed => ReadResultElement.carries (wellFormed.each element listed))
    wellFormed.few (by grind [IsContext]) (fun _ starts => starts.mono fun _ => .inl)
    (fun _ starts => starts.mono fun _ => .inr) result.objectIdentifier ReadAccessResult.mk

theorem WriteAccessSpecification.carries {spec} (wellFormed : spec.WellFormed)
    : CarriesField (IsContext 0) spec.encode decode spec :=
  (carries_contextObjectId (by decide) spec.objectIdentifier).andThen
    ((carries_openingTag (show 1 ≤ 254 by decide)).andThen
      ((carries_propertyValues (by decide) wellFormed.few wellFormed.each).consItems (.nil spec)))

theorem ReadPropertyMultipleRequest.carries (request : ReadPropertyMultipleRequest)
    (few : request.listOfReadAccessSpecs.length < 10000)
    (fits : ∀ spec ∈ request.listOfReadAccessSpecs, spec.Fits)
    : Carries (· = []) (fun _ => True) request.encode decode request :=
  (carries_itemsToEnd (fun spec listed => ReadAccessSpecification.carries (fits spec listed)) few
    (fun _ _ => trivial) trivial).map ReadPropertyMultipleRequest.mk

theorem carries_readPropertyMultipleAck {results} (few : results.length < 10000)
    (wellFormed : ∀ result ∈ results, result.WellFormed)
    : Carries (· = []) (fun _ => True) (encodeReadPropertyMultipleAck results)
        decodeReadPropertyMultipleAck results := by
  rw [encodeReadPropertyMultipleAck, mapM_flatten]
  exact carries_itemsToEnd (fun result listed => ReadAccessResult.carries (wellFormed result listed))
    few (fun _ _ => trivial) trivial

theorem WritePropertyMultipleRequest.carries (request : WritePropertyMultipleRequest)
    (few : request.listOfWriteAccessSpecs.length < 10000)
    (wellFormed : ∀ spec ∈ request.listOfWriteAccessSpecs, spec.WellFormed)
    : Carries (· = []) (fun _ => True) request.encode decode request :=
  (carries_itemsToEnd
    (fun spec listed => WriteAccessSpecification.carries (wellFormed spec listed)) few
    (fun _ _ => trivial) trivial).map WritePropertyMultipleRequest.mk

theorem COVNotificationRequest.carries {request} (wellFormed : request.WellFormed)
    : CarriesField (IsContext 0) request.encode decode request := by
  obtain ⟨process, device, monitored, timeRemaining, values⟩ := request
  obtain ⟨remaining, rfl⟩ := Int.eq_ofNat_of_zero_le wellFormed.timeRemaining.1
  have small := Int.ofNat_le.mp wellFormed.timeRemaining.2
  rw [encode_joined]
  exact (carries_contextUnsigned (by decide) wellFormed.process).andThen
    ((carries_contextObjectId (by decide) device).andThen
      ((carries_contextObjectId (by decide) monitored).andThen
        ((carries_contextUnsigned (by decide) small).andThen
          ((carries_openingTag (show 4 ≤ 254 by decide)).andThen
            ((carries_propertyValues (by decide) wellFormed.few wellFormed.each).consItems
              (.nil _))))))

namespace CreateObjectRequest

/-- The given one of the two specifiers is read back. -/
theorem carries_specifier {request : CreateObjectRequest}
    (specifier : request.objectType.isSome ↔ request.objectIdentifier = none)
    : Carries (fun _ => True) (fun _ => True) request.encodeSpecifier decodeSpecifier
        (request.objectType, request.objectIdentifier) := by
  obtain ⟨objectType, objectIdentifier, values⟩ := request
  cases objectIdentifier with
  | none =>
    obtain ⟨type, rfl⟩ := Option.isSome_iff_exists.mp (specifier.mpr rfl)
    have small := type.number.isLt
    obtain ⟨octets, encoded, sane, decoded⟩ := contains_number
      (show (type.number : Nat) ≤ 0xFFFFFFFF by omega)
    have known : ObjectType.ofNumber (decodeUnsigned octets) = .ok type := by
      have same : decodeUnsigned octets = type.number := Except.ok.inj decoded
      rw [same]
      exact dif_pos small
    have written : encodeContextEnumerated 0 type.number = encodeContextTagged 0 octets :=
      congrArg (· >>= encodeContextTagged 0) encoded
    have read : CarriesField (IsContext 0) (encodeContextEnumerated 0 type.number)
        decodeSpecifier (some type, none) := by
      rw [written]
      refine (carries_element (by decide) sane).made ?_
      dsimp only
      rw [if_pos ⟨rfl, rfl⟩, known, raising_ok]
      rfl
    exact read.weaken (fun _ _ => trivial) fun _ _ => trivial
  | some identifier =>
    obtain rfl : objectType = none := by simpa using specifier
    have sane : identifier.encode.length ≤ 1048576 := by
      rw [ObjectIdentifier.encode, length_toBytes]
      omega
    have known := decodeObjectIdentifier_content identifier
    have read : CarriesField (IsContext 1) (encodeContextObjectId 1 identifier) decodeSpecifier
        (none, some identifier) := by
      refine (carries_element (by decide) sane).made ?_
      dsimp only
      rw [if_neg (fun other => absurd other.2 (by decide)), if_pos ⟨rfl, rfl⟩, known, raising_ok]
      rfl
    exact read.weaken (fun _ _ => trivial) fun _ _ => trivial

/-- Initial values are read back up to the end of the octets, unless they are an empty list. -/
theorem carries_initialValues {initialValues} (nonempty : initialValues ≠ some [])
    (few : ∀ values ∈ initialValues, values.length < 10000)
    (each : ∀ values ∈ initialValues, ∀ pv ∈ values, pv.WellFormed)
    : Carries (Next fun _ => False) (fun _ => True) (encodeInitialValues initialValues)
        decodeInitialValues initialValues := by
  rcases initialValues with _ | _ | ⟨first, others⟩
  · have nothing : Parses (Next fun _ => False) (Decoder.optionalOpening 1) [] false :=
      parses_noOpening fun _ => False.elim
    exact ⟨[], rfl, nothing.bind (.pure _) fun _ next => next, fun _ _ => trivial⟩
  · exact absurd rfl nonempty
  · have read : CarriesField (Opens 1) (encodeInitialValues (some (first :: others)))
        decodeInitialValues (some (first :: others)) :=
      (carries_optionalOpening (by decide)).andThen
        ((carries_propertyValues (by decide) (few _ rfl) (each _ rfl)).consItems (.nil _))
    exact read.weaken (fun _ _ => trivial) fun _ _ => trivial

theorem carries {request : CreateObjectRequest} (wellFormed : request.WellFormed)
    (nonempty : request.listOfInitialValues ≠ some [])
    : Carries (Next fun _ => False) (StartsWith (Opens 0)) request.encode decode request :=
  (carries_openingTag (show 0 ≤ 254 by decide)).andThen
    ((carries_specifier wellFormed.specifier).andThen
      ((carries_closingTag (show 0 ≤ 254 by decide)).andThen
        ((carries_initialValues nonempty wellFormed.few wellFormed.each).before (.nil request))))

theorem not_readsBack_empty {request} (wellFormed : request.WellFormed)
    (empty : request.listOfInitialValues = some [])
    : ¬ Decoder.ReadsBack encode decode request := by
  obtain ⟨objectType, objectIdentifier, _⟩ := request
  obtain rfl := empty
  have without : WellFormed { objectType, objectIdentifier } := ⟨wellFormed.specifier, nofun, nofun⟩
  obtain ⟨octets, encoded, decoded⟩ := Decoder.run_of_carries (carries without nofun) (.inl rfl)
  rintro ⟨octets', encoded', decoded'⟩
  cases encoded.symm.trans encoded'
  cases Except.ok.inj (decoded.symm.trans decoded')

end CreateObjectRequest

/-- Well-formed messages come back, unless they create an object with an empty list of initial values:
that is sent as no list at all.
-/
theorem property_lists_read_back (creation : CreateObjectRequest) :
    (∀ request : ReadPropertyMultipleRequest, request.listOfReadAccessSpecs.length < 10000 →
        (∀ spec ∈ request.listOfReadAccessSpecs, spec.Fits) →
        Decoder.ReadsBack ReadPropertyMultipleRequest.encode ReadPropertyMultipleRequest.decode
          request)
      ∧ (∀ results : List ReadAccessResult, results.length < 10000 →
        (∀ result ∈ results, result.WellFormed) →
        Decoder.ReadsBack encodeReadPropertyMultipleAck decodeReadPropertyMultipleAck results)
      ∧ (∀ request : WritePropertyMultipleRequest, request.listOfWriteAccessSpecs.length < 10000 →
        (∀ spec ∈ request.listOfWriteAccessSpecs, spec.WellFormed) →
        Decoder.ReadsBack WritePropertyMultipleRequest.encode WritePropertyMultipleRequest.decode
          request)
      ∧ (∀ request : COVNotificationRequest, request.WellFormed →
        Decoder.ReadsBack COVNotificationRequest.encode COVNotificationRequest.decode request)
      ∧ (creation.WellFormed →
        (Decoder.ReadsBack CreateObjectRequest.encode CreateObjectRequest.decode creation
          ↔ creation.listOfInitialValues ≠ some [])) :=
  ⟨fun request few fits => Decoder.run_of_carries (request.carries few fits) rfl,
    fun _ few wellFormed => Decoder.run_of_carries (carries_readPropertyMultipleAck few wellFormed) rfl,
    fun request few wellFormed => Decoder.run_of_carries (request.carries few wellFormed) rfl,
    fun _ wellFormed => Decoder.run_of_carries (COVNotificationRequest.carries wellFormed) trivial,
    fun wellFormed => ⟨
      fun returned empty => CreateObjectRequest.not_readsBack_empty wellFormed empty returned,
      fun nonempty => Decoder.run_of_carries (CreateObjectRequest.carries wellFormed nonempty)
        (.inl rfl)⟩⟩

/-- An unsigned number inside a constructed value. -/
def nestedNumber : Bytes := [0x3E, 0x21, 0x05, 0x3F]

theorem nestedNumber_wellNested : WellNested nestedNumber :=
  ⟨.constructed 3 (.primitive .application 2 [5] .nil) .nil,
    ⟨by decide, ⟨by decide, by decide, by decide, trivial⟩, trivial⟩, by decide, by decide⟩

/-- Indices and priorities that are there or not, an error, and an empty list. -/
theorem lists_read_back :
    Decoder.ReadsBack ReadPropertyMultipleRequest.encode ReadPropertyMultipleRequest.decode
        ⟨[⟨⟨.device, 1⟩, [{ propertyIdentifier := .all },
          { propertyIdentifier := .presentValue, propertyArrayIndex := some 300 }]⟩, ⟨⟨.file, 0⟩, []⟩]⟩
      ∧ Decoder.ReadsBack encodeReadPropertyMultipleAck decodeReadPropertyMultipleAck
        [⟨⟨.device, 1⟩, [
          { propertyIdentifier := .presentValue, propertyArrayIndex := some 0
            result := .value nestedNumber },
          { propertyIdentifier := .objectName, result := .error .property .unknownProperty }]⟩]
      ∧ Decoder.ReadsBack WritePropertyMultipleRequest.encode WritePropertyMultipleRequest.decode
        ⟨[⟨⟨.analogValue, 1⟩, [
          { propertyIdentifier := .presentValue, value := nestedNumber, priority := some 16 },
          { propertyIdentifier := .presentValue, propertyArrayIndex := some 2,
            value := nestedNumber }]⟩]⟩
      ∧ Decoder.ReadsBack COVNotificationRequest.encode COVNotificationRequest.decode
        ⟨7, ⟨.device, 1⟩, ⟨.analogValue, 1⟩, 60,
          [{ propertyIdentifier := .presentValue, value := nestedNumber }]⟩
      ∧ Decoder.ReadsBack CreateObjectRequest.encode CreateObjectRequest.decode
        { objectType := some .analogValue
          listOfInitialValues := some [{
            propertyIdentifier := .presentValue
            value := nestedNumber
          }] } := by
  have value (priority : Option Nat) (inRange : ∀ number ∈ priority, 1 ≤ number ∧ number ≤ 16)
      : BACnetPropertyValue.WellFormed
        { propertyIdentifier := .presentValue, value := nestedNumber, priority } :=
    ⟨nofun, nestedNumber_wellNested, inRange⟩
  obtain ⟨read, answer, write, notify, create⟩ := property_lists_read_back
    { objectType := some .analogValue
      listOfInitialValues := some [{
        propertyIdentifier := .presentValue
        value := nestedNumber
      }] }
  refine ⟨read _ (by decide) ?_, answer _ (by decide) ?_, write _ (by decide) ?_,
    notify _ ⟨by decide, by decide, by decide, ?_⟩, (create ⟨by decide, ?_, ?_⟩).mpr nofun⟩
  · rw [List.forall_mem_cons, List.forall_mem_singleton]
    refine ⟨⟨by decide, ?_⟩, by decide, nofun⟩
    rw [List.forall_mem_cons, List.forall_mem_singleton]
    refine ⟨nofun, ?_⟩
    rintro index ⟨⟩
    decide
  · rw [List.forall_mem_singleton]
    refine ⟨by decide, ?_⟩
    rw [List.forall_mem_cons, List.forall_mem_singleton]
    exact ⟨⟨by decide, nestedNumber_wellNested⟩, nofun, trivial⟩
  · rw [List.forall_mem_singleton]
    refine ⟨by decide, ?_⟩
    rw [List.forall_mem_cons, List.forall_mem_singleton]
    exact ⟨value _ (by decide), by decide, nestedNumber_wellNested, nofun⟩
  · rw [List.forall_mem_singleton]
    exact value _ nofun
  · rintro _ ⟨⟩
    decide
  · rintro _ ⟨⟩
    rw [List.forall_mem_singleton]
    exact value _ nofun

/-- An analog value with an empty list of initial values comes back without a list. -/
theorem not_empty_list_read_back :
    CreateObjectRequest.WellFormed
        { objectType := some .analogValue, listOfInitialValues := some [] }
      ∧ ¬ Decoder.ReadsBack CreateObjectRequest.encode CreateObjectRequest.decode
        { objectType := some .analogValue, listOfInitialValues := some [] } := by
  have wellFormed : CreateObjectRequest.WellFormed
      { objectType := some .analogValue, listOfInitialValues := some [] } :=
    ⟨by decide, by decide, by rintro _ ⟨⟩; exact nofun⟩
  exact ⟨wellFormed, CreateObjectRequest.not_readsBack_empty wellFormed rfl⟩

end BacPy
