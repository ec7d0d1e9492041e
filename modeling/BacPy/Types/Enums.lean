import Mathlib.Data.List.Basic

/-! The closed enumerations of the response PDUs, with the lookup by value `Enum(value)`. -/

namespace BacPy

/-- `PduType` (Clause 20.1): the high nibble of the first APDU octet. -/
inductive PduType where
  | confirmedRequest | unconfirmedRequest | simpleAck | complexAck | segmentAck | error
  | reject | abort
  deriving DecidableEq

/-- The number of each `PduType`. -/
def PduType.toNat : PduType → Nat
  | .confirmedRequest => 0
  | .unconfirmedRequest => 1
  | .simpleAck => 2
  | .complexAck => 3
  | .segmentAck => 4
  | .error => 5
  | .reject => 6
  | .abort => 7

/-- All members of `PduType`, in the order of their definition. -/
def PduType.members : List PduType :=
  [.confirmedRequest, .unconfirmedRequest, .simpleAck, .complexAck, .segmentAck,
   .error, .reject, .abort]

/-- `PduType(value)`: the member with that number, if there is one. -/
def PduType.ofNat? (value : Nat) : Option PduType :=
  PduType.members.find? fun member => member.toNat == value

/-- `ErrorClass` (Clause 18.1.1). -/
inductive ErrorClass where
  | device | object | property | resources | security | services | vt | communication
  deriving DecidableEq

/-- The number of each `ErrorClass`. -/
def ErrorClass.toNat : ErrorClass → Nat
  | .device => 0
  | .object => 1
  | .property => 2
  | .resources => 3
  | .security => 4
  | .services => 5
  | .vt => 6
  | .communication => 7

/-- All members of `ErrorClass`, in the order of their definition. -/
def ErrorClass.members : List ErrorClass :=
  [.device, .object, .property, .resources, .security, .services, .vt, .communication]

/-- `ErrorClass(value)`: the member with that number, if there is one. -/
def ErrorClass.ofNat? (value : Nat) : Option ErrorClass :=
  ErrorClass.members.find? fun member => member.toNat == value

/-- `ErrorCode` (Clause 18, Clause 21 numerical order). The number 33 is not used. -/
inductive ErrorCode where
  | other | authenticationFailed | configurationInProgress | deviceBusy
  | dynamicCreationNotSupported | fileAccessDenied | incompatibleSecurityLevels
  | inconsistentParameters | inconsistentSelectionCriterion | invalidDataType
  | invalidFileAccessMethod | invalidFileStartPosition | invalidOperatorName
  | invalidParameterDataType | invalidTimeStamp | keyGenerationError
  | missingRequiredParameter | noObjectsOfSpecifiedType | noSpaceForObject
  | noSpaceToAddListElement | noSpaceToWriteProperty | noVtSessionsAvailable
  | propertyIsNotAList | objectDeletionNotPermitted | objectIdentifierAlreadyExists
  | operationalProblem | passwordFailure | readAccessDenied | securityNotSupported
  | serviceRequestDenied | timeout | unknownObject | unknownProperty | unknownVtClass
  | unknownVtSession | unsupportedObjectType | valueOutOfRange | vtSessionAlreadyClosed
  | vtSessionTerminationFailure | writeAccessDenied | characterSetNotSupported
  | invalidArrayIndex | covSubscriptionFailed | notCovProperty
  | optionalFunctionalityNotSupported | invalidConfigurationData | datatypeNotSupported
  | duplicateName | duplicateObjectId | propertyIsNotAnArray | abortBufferOverflow
  | abortInvalidApduInThisState | abortPreemptedByHigherPriorityTask
  | abortSegmentationNotSupported | abortProprietary | abortOther | invalidTag
  | networkDown | rejectBufferOverflow | rejectInconsistentParameters
  | rejectInvalidParameterDataType | rejectInvalidTag | rejectMissingRequiredParameter
  | rejectParameterOutOfRange | rejectTooManyArguments | rejectUndefinedEnumeration
  | rejectUnrecognizedService | rejectProprietary | rejectOther | unknownDevice
  | unknownRoute | valueNotInitialized | invalidEventState | noAlarmConfigured
  | logBufferFull | loggedValuePurged | noPropertySpecified
  | notConfiguredForTriggeredLogging | unknownSubscription | parameterOutOfRange
  | listElementNotFound | busy | communicationDisabled | success | accessDenied
  | badDestinationAddress | badDestinationDeviceId | badSignature | badSourceAddress
  | badTimestamp | cannotUseKey | cannotVerifyMessageId | correctKeyRevision
  | destinationDeviceIdRequired | duplicateMessage | encryptionNotConfigured
  | encryptionRequired | incorrectKey | invalidKeyData | keyUpdateInProgress
  | malformedMessage | notKeyServer | securityNotConfigured | sourceSecurityRequired
  | tooManyKeys | unknownAuthenticationType | unknownKey | unknownKeyRevision
  | unknownSourceMessage | notRouterToDnet | routerBusy | unknownNetworkMessage
  | messageTooLong | securityError | addressingError | writeBdtFailed | readBdtFailed
  | registerForeignDeviceFailed | readFdtFailed | deleteFdtEntryFailed
  | distributeBroadcastFailed | unknownFileSize | abortApduTooLong
  | abortApplicationExceededReplyTime | abortOutOfResources | abortTsmTimeout
  | abortWindowSizeOutOfRange | fileFull | inconsistentConfiguration
  | inconsistentObjectType | internalError | notConfigured | outOfMemory | valueTooLong
  | abortInsufficientSecurity | abortSecurityError | duplicateEntry
  | invalidValueInThisState
  deriving DecidableEq

/-- The number of each `ErrorCode`. -/
def ErrorCode.toNat : ErrorCode → Nat
  | .other => 0
  | .authenticationFailed => 1
  | .configurationInProgress => 2
  | .deviceBusy => 3
  | .dynamicCreationNotSupported => 4
  | .fileAccessDenied => 5
  | .incompatibleSecurityLevels => 6
  | .inconsistentParameters => 7
  | .inconsistentSelectionCriterion => 8
  | .invalidDataType => 9
  | .invalidFileAccessMethod => 10
  | .invalidFileStartPosition => 11
  | .invalidOperatorName => 12
  | .invalidParameterDataType => 13
  | .invalidTimeStamp => 14
  | .keyGenerationError => 15
  | .missingRequiredParameter => 16
  | .noObjectsOfSpecifiedType => 17
  | .noSpaceForObject => 18
  | .noSpaceToAddListElement => 19
  | .noSpaceToWriteProperty => 20
  | .noVtSessionsAvailable => 21
  | .propertyIsNotAList => 22
  | .objectDeletionNotPermitted => 23
  | .objectIdentifierAlreadyExists => 24
  | .operationalProblem => 25
  | .passwordFailure => 26
  | .readAccessDenied => 27
  | .securityNotSupported => 28
  | .serviceRequestDenied => 29
  | .timeout => 30
  | .unknownObject => 31
  | .unknownProperty => 32
  | .unknownVtClass => 34
  | .unknownVtSession => 35
  | .unsupportedObjectType => 36
  | .valueOutOfRange => 37
  | .vtSessionAlreadyClosed => 38
  | .vtSessionTerminationFailure => 39
  | .writeAccessDenied => 40
  | .characterSetNotSupported => 41
  | .invalidArrayIndex => 42
  | .covSubscriptionFailed => 43
  | .notCovProperty => 44
  | .optionalFunctionalityNotSupported => 45
  | .invalidConfigurationData => 46
  | .datatypeNotSupported => 47
  | .duplicateName => 48
  | .duplicateObjectId => 49
  | .propertyIsNotAnArray => 50
  | .abortBufferOverflow => 51
  | .abortInvalidApduInThisState => 52
  | .abortPreemptedByHigherPriorityTask => 53
  | .abortSegmentationNotSupported => 54
  | .abortProprietary => 55
  | .abortOther => 56
  | .invalidTag => 57
  | .networkDown => 58
  | .rejectBufferOverflow => 59
  | .rejectInconsistentParameters => 60
  | .rejectInvalidParameterDataType => 61
  | .rejectInvalidTag => 62
  | .rejectMissingRequiredParameter => 63
  | .rejectParameterOutOfRange => 64
  | .rejectTooManyArguments => 65
  | .rejectUndefinedEnumeration => 66
  | .rejectUnrecognizedService => 67
  | .rejectProprietary => 68
  | .rejectOther => 69
  | .unknownDevice => 70
  | .unknownRoute => 71
  | .valueNotInitialized => 72
  | .invalidEventState => 73
  | .noAlarmConfigured => 74
  | .logBufferFull => 75
  | .loggedValuePurged => 76
  | .noPropertySpecified => 77
  | .notConfiguredForTriggeredLogging => 78
  | .unknownSubscription => 79
  | .parameterOutOfRange => 80
  | .listElementNotFound => 81
  | .busy => 82
  | .communicationDisabled => 83
  | .success => 84
  | .accessDenied => 85
  | .badDestinationAddress => 86
  | .badDestinationDeviceId => 87
  | .badSignature => 88
  | .badSourceAddress => 89
  | .badTimestamp => 90
  | .cannotUseKey => 91
  | .cannotVerifyMessageId => 92
  | .correctKeyRevision => 93
  | .destinationDeviceIdRequired => 94
  | .duplicateMessage => 95
  | .encryptionNotConfigured => 96
  | .encryptionRequired => 97
  | .incorrectKey => 98
  | .invalidKeyData => 99
  | .keyUpdateInProgress => 100
  | .malformedMessage => 101
  | .notKeyServer => 102
  | .securityNotConfigured => 103
  | .sourceSecurityRequired => 104
  | .tooManyKeys => 105
  | .unknownAuthenticationType => 106
  | .unknownKey => 107
  | .unknownKeyRevision => 108
  | .unknownSourceMessage => 109
  | .notRouterToDnet => 110
  | .routerBusy => 111
  | .unknownNetworkMessage => 112
  | .messageTooLong => 113
  | .securityError => 114
  | .addressingError => 115
  | .writeBdtFailed => 116
  | .readBdtFailed => 117
  | .registerForeignDeviceFailed => 118
  | .readFdtFailed => 119
  | .deleteFdtEntryFailed => 120
  | .distributeBroadcastFailed => 121
  | .unknownFileSize => 122
  | .abortApduTooLong => 123
  | .abortApplicationExceededReplyTime => 124
  | .abortOutOfResources => 125
  | .abortTsmTimeout => 126
  | .abortWindowSizeOutOfRange => 127
  | .fileFull => 128
  | .inconsistentConfiguration => 129
  | .inconsistentObjectType => 130
  | .internalError => 131
  | .notConfigured => 132
  | .outOfMemory => 133
  | .valueTooLong => 134
  | .abortInsufficientSecurity => 135
  | .abortSecurityError => 136
  | .duplicateEntry => 137
  | .invalidValueInThisState => 138

/-- All members of `ErrorCode`, in the order of their definition. -/
def ErrorCode.members : List ErrorCode :=
  [.other, .authenticationFailed, .configurationInProgress, .deviceBusy,
   .dynamicCreationNotSupported, .fileAccessDenied, .incompatibleSecurityLevels,
   .inconsistentParameters, .inconsistentSelectionCriterion, .invalidDataType,
   .invalidFileAccessMethod, .invalidFileStartPosition, .invalidOperatorName,
   .invalidParameterDataType, .invalidTimeStamp, .keyGenerationError,
   .missingRequiredParameter, .noObjectsOfSpecifiedType, .noSpaceForObject,
   .noSpaceToAddListElement, .noSpaceToWriteProperty, .noVtSessionsAvailable,
   .propertyIsNotAList, .objectDeletionNotPermitted, .objectIdentifierAlreadyExists,
   .operationalProblem, .passwordFailure, .readAccessDenied, .securityNotSupported,
   .serviceRequestDenied, .timeout, .unknownObject, .unknownProperty, .unknownVtClass,
   .unknownVtSession, .unsupportedObjectType, .valueOutOfRange,
   .vtSessionAlreadyClosed, .vtSessionTerminationFailure, .writeAccessDenied,
   .characterSetNotSupported, .invalidArrayIndex, .covSubscriptionFailed,
   .notCovProperty, .optionalFunctionalityNotSupported, .invalidConfigurationData,
   .datatypeNotSupported, .duplicateName, .duplicateObjectId, .propertyIsNotAnArray,
   .abortBufferOverflow, .abortInvalidApduInThisState,
   .abortPreemptedByHigherPriorityTask, .abortSegmentationNotSupported,
   .abortProprietary, .abortOther, .invalidTag, .networkDown, .rejectBufferOverflow,
   .rejectInconsistentParameters, .rejectInvalidParameterDataType, .rejectInvalidTag,
   .rejectMissingRequiredParameter, .rejectParameterOutOfRange,
   .rejectTooManyArguments, .rejectUndefinedEnumeration, .rejectUnrecognizedService,
   .rejectProprietary, .rejectOther, .unknownDevice, .unknownRoute,
   .valueNotInitialized, .invalidEventState, .noAlarmConfigured, .logBufferFull,
   .loggedValuePurged, .noPropertySpecified, .notConfiguredForTriggeredLogging,
   .unknownSubscription, .parameterOutOfRange, .listElementNotFound, .busy,
   .communicationDisabled, .success, .accessDenied, .badDestinationAddress,
   .badDestinationDeviceId, .badSignature, .badSourceAddress, .badTimestamp,
   .cannotUseKey, .cannotVerifyMessageId, .correctKeyRevision,
   .destinationDeviceIdRequired, .duplicateMessage, .encryptionNotConfigured,
   .encryptionRequired, .incorrectKey, .invalidKeyData, .keyUpdateInProgress,
   .malformedMessage, .notKeyServer, .securityNotConfigured, .sourceSecurityRequired,
   .tooManyKeys, .unknownAuthenticationType, .unknownKey, .unknownKeyRevision,
   .unknownSourceMessage, .notRouterToDnet, .routerBusy, .unknownNetworkMessage,
   .messageTooLong, .securityError, .addressingError, .writeBdtFailed, .readBdtFailed,
   .registerForeignDeviceFailed, .readFdtFailed, .deleteFdtEntryFailed,
   .distributeBroadcastFailed, .unknownFileSize, .abortApduTooLong,
   .abortApplicationExceededReplyTime, .abortOutOfResources, .abortTsmTimeout,
   .abortWindowSizeOutOfRange, .fileFull, .inconsistentConfiguration,
   .inconsistentObjectType, .internalError, .notConfigured, .outOfMemory,
   .valueTooLong, .abortInsufficientSecurity, .abortSecurityError, .duplicateEntry,
   .invalidValueInThisState]

/-- `ErrorCode(value)`: the member with that number, if there is one. -/
def ErrorCode.ofNat? (value : Nat) : Option ErrorCode :=
  ErrorCode.members.find? fun member => member.toNat == value

/-- `AbortReason` (Clause 20.1.9). -/
inductive AbortReason where
  | other | bufferOverflow | invalidApduInThisState | preemptedByHigherPriorityTask
  | segmentationNotSupported | securityError | insufficientSecurity
  | windowSizeOutOfRange | applicationExceededReplyTime | outOfResources | tsmTimeout
  | apduTooLong
  deriving DecidableEq

/-- The number of each `AbortReason`. -/
def AbortReason.toNat : AbortReason → Nat
  | .other => 0
  | .bufferOverflow => 1
  | .invalidApduInThisState => 2
  | .preemptedByHigherPriorityTask => 3
  | .segmentationNotSupported => 4
  | .securityError => 5
  | .insufficientSecurity => 6
  | .windowSizeOutOfRange => 7
  | .applicationExceededReplyTime => 8
  | .outOfResources => 9
  | .tsmTimeout => 10
  | .apduTooLong => 11

/-- All members of `AbortReason`, in the order of their definition. -/
def AbortReason.members : List AbortReason :=
  [.other, .bufferOverflow, .invalidApduInThisState, .preemptedByHigherPriorityTask,
   .segmentationNotSupported, .securityError, .insufficientSecurity,
   .windowSizeOutOfRange, .applicationExceededReplyTime, .outOfResources, .tsmTimeout,
   .apduTooLong]

/-- `AbortReason(value)`: the member with that number, if there is one. -/
def AbortReason.ofNat? (value : Nat) : Option AbortReason :=
  AbortReason.members.find? fun member => member.toNat == value

/-- `RejectReason` (Clause 20.1.8). -/
inductive RejectReason where
  | other | bufferOverflow | inconsistentParameters | invalidParameterDataType
  | invalidTag | missingRequiredParameter | parameterOutOfRange | tooManyArguments
  | undefinedEnumeration | unrecognizedService
  deriving DecidableEq

/-- The number of each `RejectReason`. -/
def RejectReason.toNat : RejectReason → Nat
  | .other => 0
  | .bufferOverflow => 1
  | .inconsistentParameters => 2
  | .invalidParameterDataType => 3
  | .invalidTag => 4
  | .missingRequiredParameter => 5
  | .parameterOutOfRange => 6
  | .tooManyArguments => 7
  | .undefinedEnumeration => 8
  | .unrecognizedService => 9

/-- All members of `RejectReason`, in the order of their definition. -/
def RejectReason.members : List RejectReason :=
  [.other, .bufferOverflow, .inconsistentParameters, .invalidParameterDataType,
   .invalidTag, .missingRequiredParameter, .parameterOutOfRange, .tooManyArguments,
   .undefinedEnumeration, .unrecognizedService]

/-- `RejectReason(value)`: the member with that number, if there is one. -/
def RejectReason.ofNat? (value : Nat) : Option RejectReason :=
  RejectReason.members.find? fun member => member.toNat == value

/-- `EnableDisable` (Clause 16.4): the communication states of a device. -/
inductive EnableDisable where
  | enable | disable | disableInitiation
  deriving DecidableEq

/-- `ConfirmedServiceChoice.DEVICE_COMMUNICATION_CONTROL` (Clause 21). -/
def deviceCommunicationControl : Nat := 17

/-- `ConfirmedServiceChoice.REINITIALIZE_DEVICE` (Clause 21). -/
def reinitializeDevice : Nat := 20

-- Which numbers the enumerations know

theorem isSome_find?_number {Member : Type*} (number : Member → Nat) (members : List Member)
    (value : Nat)
    : (members.find? fun member => number member == value).isSome
      ↔ value ∈ members.map number := by
  simp [List.find?_isSome]

theorem ErrorClass.isSome_ofNat? (value : Nat)
    : (ErrorClass.ofNat? value).isSome ↔ value ≤ 7 := by
  rw [ErrorClass.ofNat?, isSome_find?_number]
  simp only [ErrorClass.members, List.map_cons, List.map_nil, ErrorClass.toNat, List.mem_cons,
    List.not_mem_nil, or_false]
  omega

theorem ErrorCode.isSome_ofNat? (value : Nat)
    : (ErrorCode.ofNat? value).isSome ↔ value ≤ 138 ∧ value ≠ 33 := by
  rw [ErrorCode.ofNat?, isSome_find?_number]
  constructor
  · intro member
    have bound : ∀ number ∈ ErrorCode.members.map ErrorCode.toNat,
        number ≤ 138 ∧ number ≠ 33 := by
      decide +kernel
    exact bound value member
  · rintro ⟨small, used⟩
    have known : ∀ number < 139, number ≠ 33
        → number ∈ ErrorCode.members.map ErrorCode.toNat := by
      decide +kernel
    exact known value (by omega) used

theorem AbortReason.isSome_ofNat? (value : Nat)
    : (AbortReason.ofNat? value).isSome ↔ value ≤ 11 := by
  rw [AbortReason.ofNat?, isSome_find?_number]
  simp only [AbortReason.members, List.map_cons, List.map_nil, AbortReason.toNat,
    List.mem_cons, List.not_mem_nil, or_false]
  omega

theorem RejectReason.isSome_ofNat? (value : Nat)
    : (RejectReason.ofNat? value).isSome ↔ value ≤ 9 := by
  rw [RejectReason.ofNat?, isSome_find?_number]
  simp only [RejectReason.members, List.map_cons, List.map_nil, RejectReason.toNat,
    List.mem_cons, List.not_mem_nil, or_false]
  omega

end BacPy
