import BacPy.Services.Fields

/-! The atomic file access services (Clause 14): a choice of stream access and record access. The
records of a file are counted, and only an octet string of more than a mebibyte is refused.
-/

namespace BacPy

open Library

-- AtomicReadFile

/-- `StreamReadAccess` or `RecordReadAccess` -/
inductive ReadAccess where
  | stream (fileStartPosition : Int) (requestedOctetCount : Nat)
  | records (fileStartRecord : Int) (requestedRecordCount : Nat)

structure AtomicReadFileRequest where
  fileIdentifier : ObjectIdentifier
  accessMethod : ReadAccess

namespace AtomicReadFileRequest

def encode (request : AtomicReadFileRequest) : Except PyException Bytes :=
  joined (encodeApplicationObjectId request.fileIdentifier
    :: match request.accessMethod with
      | .stream fileStartPosition requestedOctetCount => [
          .ok (encodeOpeningTag 0),
          encodeApplicationSigned fileStartPosition,
          encodeApplicationUnsigned requestedOctetCount,
          .ok (encodeClosingTag 0)
        ]
      | .records fileStartRecord requestedRecordCount => [
          .ok (encodeOpeningTag 1),
          encodeApplicationSigned fileStartRecord,
          encodeApplicationUnsigned requestedRecordCount,
          .ok (encodeClosingTag 1)
        ])

def decode : Decoder AtomicReadFileRequest := do
  let fileIdentifier ← .objectIdentifier
  let tag ← .tag
  if tag.number = 0 ∧ tag.isOpening = true then
    let fileStartPosition ← .signed
    let requestedOctetCount ← .unsigned
    let _closing ← .tag
    pure { fileIdentifier, accessMethod := .stream fileStartPosition requestedOctetCount }
  else if tag.number = 1 ∧ tag.isOpening = true then
    let fileStartRecord ← .signed
    let requestedRecordCount ← .unsigned
    let _closing ← .tag
    pure { fileIdentifier, accessMethod := .records fileStartRecord requestedRecordCount }
  else .fail (.builtin (.valueError s!"Unexpected tag {tag.number} in AtomicReadFile CHOICE"))

end AtomicReadFileRequest

/-- `StreamReadACK` or `RecordReadACK` -/
inductive ReadAcknowledgement where
  | stream (fileStartPosition : Int) (fileData : Bytes)
  | records (fileStartRecord : Int) (returnedRecordCount : Nat) (fileRecordData : List Bytes)

structure AtomicReadFileACK where
  endOfFile : Bool
  accessMethod : ReadAcknowledgement

namespace AtomicReadFileACK

def encode (ack : AtomicReadFileACK) : Except PyException Bytes :=
  joined (encodeApplicationBoolean ack.endOfFile
    :: match ack.accessMethod with
      | .stream fileStartPosition fileData => [
          .ok (encodeOpeningTag 0),
          encodeApplicationSigned fileStartPosition,
          encodeApplicationOctetString fileData,
          .ok (encodeClosingTag 0)
        ]
      | .records fileStartRecord returnedRecordCount fileRecordData => [
          .ok (encodeOpeningTag 1),
          encodeApplicationSigned fileStartRecord,
          encodeApplicationUnsigned returnedRecordCount,
          joined (fileRecordData.map encodeApplicationOctetString),
          .ok (encodeClosingTag 1)
        ])

def decode : Decoder AtomicReadFileACK := do
  let endOfFile ← .applicationBoolean
  let tag ← .tag
  if tag.number = 0 ∧ tag.isOpening = true then
    let fileStartPosition ← .signed
    let fileData ← .octetString
    let _closing ← .tag
    pure { endOfFile, accessMethod := .stream fileStartPosition fileData }
  else if tag.number = 1 ∧ tag.isOpening = true then
    let fileStartRecord ← .signed
    let returnedRecordCount ← .unsigned
    let fileRecordData ← repeated Decoder.octetString returnedRecordCount
    let _closing ← .tag
    pure { endOfFile, accessMethod := .records fileStartRecord returnedRecordCount fileRecordData }
  else .fail (.builtin (.valueError s!"Unexpected tag {tag.number} in AtomicReadFileACK CHOICE"))

end AtomicReadFileACK

-- AtomicWriteFile

/-- `StreamWriteAccess` or `RecordWriteAccess` -/
inductive WriteAccess where
  | stream (fileStartPosition : Int) (fileData : Bytes)
  | records (fileStartRecord : Int) (recordCount : Nat) (fileRecordData : List Bytes)

structure AtomicWriteFileRequest where
  fileIdentifier : ObjectIdentifier
  accessMethod : WriteAccess

namespace AtomicWriteFileRequest

def encode (request : AtomicWriteFileRequest) : Except PyException Bytes :=
  joined (encodeApplicationObjectId request.fileIdentifier
    :: match request.accessMethod with
      | .stream fileStartPosition fileData => [
          .ok (encodeOpeningTag 0),
          encodeApplicationSigned fileStartPosition,
          encodeApplicationOctetString fileData,
          .ok (encodeClosingTag 0)
        ]
      | .records fileStartRecord recordCount fileRecordData => [
          .ok (encodeOpeningTag 1),
          encodeApplicationSigned fileStartRecord,
          encodeApplicationUnsigned recordCount,
          joined (fileRecordData.map encodeApplicationOctetString),
          .ok (encodeClosingTag 1)
        ])

def decode : Decoder AtomicWriteFileRequest := do
  let fileIdentifier ← .objectIdentifier
  let tag ← .tag
  if tag.number = 0 ∧ tag.isOpening = true then
    let fileStartPosition ← .signed
    let fileData ← .octetString
    let _closing ← .tag
    pure { fileIdentifier, accessMethod := .stream fileStartPosition fileData }
  else if tag.number = 1 ∧ tag.isOpening = true then
    let fileStartRecord ← .signed
    let recordCount ← .unsigned
    let fileRecordData ← repeated Decoder.octetString recordCount
    let _closing ← .tag
    pure { fileIdentifier, accessMethod := .records fileStartRecord recordCount fileRecordData }
  else .fail (.builtin (.valueError s!"Unexpected tag {tag.number} in AtomicWriteFile CHOICE"))

end AtomicWriteFileRequest

structure AtomicWriteFileACK where
  isStream : Bool
  fileStart : Int

namespace AtomicWriteFileACK

def encode (ack : AtomicWriteFileACK) : Except PyException Bytes := do
  let fileStart ← encodeSigned ack.fileStart
  encodeContextTagged (if ack.isStream then 0 else 1) fileStart

def decode : Decoder AtomicWriteFileACK := do
  let (tag, content) ← .element
  pure { isStream := tag.number = 0, fileStart := decodeSigned content }

end AtomicWriteFileACK

-- Round trips

/-- The number fits an INTEGER of four octets. -/
def FitsSigned (value : Int) : Prop := -0x80000000 ≤ value ∧ value ≤ 0x7FFFFFFF

/-- The numbers fit their encoding. -/
def ReadAccess.Fits : ReadAccess → Prop
  | stream start count => FitsSigned start ∧ count ≤ 0xFFFFFFFF
  | records start count => FitsSigned start ∧ count ≤ 0xFFFFFFFF

theorem AtomicReadFileRequest.carries {request} (fits : request.accessMethod.Fits)
    : CarriesField (Tag.IsApplication 12) request.encode decode request := by
  obtain ⟨fileIdentifier, accessMethod⟩ := request
  cases accessMethod with
  | stream start count =>
    exact (carries_applicationObjectId fileIdentifier).andThen
      ((carries_openingTag (show 0 ≤ 254 by decide)).andThen
        ((carries_applicationSigned fits.1.1 fits.1.2).andThen
          ((carries_applicationUnsigned fits.2).andThen
            ((carries_closingTag (by decide)).andThen (.nil _)))))
  | records start count =>
    exact (carries_applicationObjectId fileIdentifier).andThen
      ((carries_openingTag (show 1 ≤ 254 by decide)).andThen
        ((carries_applicationSigned fits.1.1 fits.1.2).andThen
          ((carries_applicationUnsigned fits.2).andThen
            ((carries_closingTag (by decide)).andThen (.nil _)))))

/-- File data or records of a file whose numbers fit their encoding: the records are counted, and no
octet string is taken for an attack.
-/
structure FitsRecords (start : Int) (count : Nat) (records : List Bytes) : Prop where
  start : FitsSigned start
  small : count ≤ 0xFFFFFFFF
  counted : count = records.length
  sane : ∀ octets ∈ records, octets.length ≤ 1048576

def ReadAcknowledgement.Fits : ReadAcknowledgement → Prop
  | stream start octets => FitsSigned start ∧ octets.length ≤ 1048576
  | records start count octets => FitsRecords start count octets

def WriteAccess.Fits : WriteAccess → Prop
  | stream start octets => FitsSigned start ∧ octets.length ≤ 1048576
  | records start count octets => FitsRecords start count octets

/-- As many records as are counted, in front of what closes their construction. -/
theorem carries_records {count records} (counted : count = records.length)
    (sane : ∀ octets ∈ records, octets.length ≤ 1048576)
    : Carries (fun _ => True) (fun _ => True) (joined (records.map encodeApplicationOctetString))
        (repeated Decoder.octetString count) records := by
  subst counted
  exact .repeated fun octets listed => carries_applicationOctetString (sane octets listed)

theorem AtomicReadFileACK.carries {ack} (fits : ack.accessMethod.Fits)
    : CarriesField (Tag.IsApplication 1) ack.encode decode ack := by
  obtain ⟨endOfFile, accessMethod⟩ := ack
  cases accessMethod with
  | stream start octets =>
    exact (carries_applicationBoolean endOfFile).andThen
      ((carries_openingTag (show 0 ≤ 254 by decide)).andThen
        ((carries_applicationSigned fits.1.1 fits.1.2).andThen
          ((carries_applicationOctetString fits.2).andThen
            ((carries_closingTag (by decide)).andThen (.nil _)))))
  | records start count octets =>
    exact (carries_applicationBoolean endOfFile).andThen
      ((carries_openingTag (show 1 ≤ 254 by decide)).andThen
        ((carries_applicationSigned fits.start.1 fits.start.2).andThen
          ((carries_applicationUnsigned fits.small).andThen
            ((carries_records fits.counted fits.sane).andThen
              ((carries_closingTag (by decide)).andThen (.nil _))))))

theorem AtomicWriteFileRequest.carries {request} (fits : request.accessMethod.Fits)
    : CarriesField (Tag.IsApplication 12) request.encode decode request := by
  obtain ⟨fileIdentifier, accessMethod⟩ := request
  cases accessMethod with
  | stream start octets =>
    exact (carries_applicationObjectId fileIdentifier).andThen
      ((carries_openingTag (show 0 ≤ 254 by decide)).andThen
        ((carries_applicationSigned fits.1.1 fits.1.2).andThen
          ((carries_applicationOctetString fits.2).andThen
            ((carries_closingTag (by decide)).andThen (.nil _)))))
  | records start count octets =>
    exact (carries_applicationObjectId fileIdentifier).andThen
      ((carries_openingTag (show 1 ≤ 254 by decide)).andThen
        ((carries_applicationSigned fits.start.1 fits.start.2).andThen
          ((carries_applicationUnsigned fits.small).andThen
            ((carries_records fits.counted fits.sane).andThen
              ((carries_closingTag (by decide)).andThen (.nil _))))))

/-- The tag of the number tells stream access from record access. -/
theorem AtomicWriteFileACK.carries {ack} (fits : FitsSigned ack.fileStart)
    : CarriesField (Tag.IsContext (if ack.isStream then 0 else 1)) ack.encode decode ack := by
  obtain ⟨isStream, fileStart⟩ := ack
  obtain ⟨content, encoded, sane, decoded⟩ := contains_signed fits.1 fits.2
  have number : (if isStream then 0 else 1) ≤ 254 := by cases isStream <;> decide
  have written : encode { isStream, fileStart }
      = encodeContextTagged (if isStream then 0 else 1) content := by
    change encodeSigned fileStart >>= _ = _
    rw [encoded]
    rfl
  rw [written]
  refine (carries_element number sane).made (congrArg pure ?_)
  have start : decodeSigned content = fileStart := Except.ok.inj decoded
  cases isStream <;> simp [start]

theorem fits_of_encodedSigned {value octets} (encoded : encodeApplicationSigned value = .ok octets)
    : FitsSigned value := by
  obtain ⟨content, signed, _⟩ := bind_eq_ok.mp encoded
  unfold encodeSigned at signed
  split at signed
  · cases signed
  · next inRange => exact ⟨by omega, by omega⟩

theorem AtomicReadFileRequest.fits_start {fileIdentifier start count octets}
    (encoded : encode ⟨fileIdentifier, .stream start count⟩ = .ok octets)
    : FitsSigned start := by
  simp only [encode, joined_cons_eq_ok] at encoded
  obtain ⟨_, _, _, ⟨_, _, _, ⟨_, _, signed, _⟩, _⟩, _⟩ := encoded
  exact fits_of_encodedSigned signed

theorem AtomicWriteFileRequest.small_data {fileIdentifier start fileData octets}
    (encoded : encode ⟨fileIdentifier, .stream start fileData⟩ = .ok octets)
    : fileData.length ≤ 0xFFFFFFFF := by
  simp only [encode, joined_cons_eq_ok] at encoded
  obtain ⟨_, _, _, ⟨_, _, _, ⟨_, _, _, ⟨_, _, data, _⟩, _⟩, _⟩, _⟩ := encoded
  obtain ⟨header, tagged, _⟩ := bind_eq_ok.mp data
  have small := (encodeTag_ok_iff (show 6 ≤ 254 by decide) .application).mp ⟨header, tagged⟩
  omega

-- Long streams

/-- The tag of more than a mebibyte is taken for an attack. -/
theorem octetString_refused {header length} (long : 1048576 < length)
    (tagged : encodeTag 6 .application length = .ok header) (before after : Bytes)
    : ∃ failure, Decoder.octetString (before ++ (header ++ after)) before.length
        = .error failure := by
  have read := decodeTag_application before after (show 6 ≤ 14 by decide) tagged
  rw [if_pos long] at read
  obtain ⟨failure, content⟩ : ∃ failure, Decoder.content (before ++ (header ++ after)) before.length
      = .error failure := by
    rw [Decoder.content, Decoder.of, decodeElement, read]
    exact ⟨_, rfl⟩
  exact ⟨failure, Parser.bind_error content⟩

/-- File data of more than a mebibyte is written, and refused by the reader. -/
theorem long_stream_fails (fileIdentifier) {start fileData} (fits : FitsSigned start)
    (long : 1048576 < fileData.length) (small : fileData.length ≤ 0xFFFFFFFF)
    : ∃ octets failure,
        AtomicWriteFileRequest.encode ⟨fileIdentifier, .stream start fileData⟩ = .ok octets
        ∧ AtomicWriteFileRequest.decode.run octets = .error failure := by
  obtain ⟨identifier, encoded, identified, _⟩ := carries_applicationObjectId fileIdentifier
  obtain ⟨opening, opened, opens, _⟩ :=
    @carries_openingTag PyException 0 (by decide)
  obtain ⟨position, written, positioned, _⟩ := carries_applicationSigned fits.1 fits.2
  obtain ⟨header, tagged⟩ := (encodeTag_ok_iff (show 6 ≤ 254 by decide) .application).mpr
    (show fileData.length < 256 ^ 4 by omega)
  have data : encodeApplicationOctetString fileData = .ok (header ++ fileData) :=
    bind_eq_ok.mpr ⟨header, tagged, rfl⟩
  have whole : AtomicWriteFileRequest.encode ⟨fileIdentifier, .stream start fileData⟩
      = .ok (identifier ++ (opening ++ (position ++ (header ++ fileData
          ++ (encodeClosingTag 0 ++ []))))) := by
    simp only [AtomicWriteFileRequest.encode, joined_cons_eq_ok]
    exact ⟨_, _, encoded, ⟨_, _, opened, ⟨_, _, written, ⟨_, _, data, ⟨_, _, rfl, rfl, rfl⟩, rfl⟩,
      rfl⟩, rfl⟩, rfl⟩
  obtain ⟨failure, refused⟩ := octetString_refused long tagged (identifier ++ opening ++ position)
    (fileData ++ (encodeClosingTag 0 ++ []))
  have first := identified [] (opening ++ (position ++ (header ++ fileData
    ++ (encodeClosingTag 0 ++ [])))) trivial
  have second := opens identifier (position ++ (header ++ fileData
    ++ (encodeClosingTag 0 ++ []))) trivial
  have third := positioned (identifier ++ opening) (header ++ fileData
    ++ (encodeClosingTag 0 ++ [])) trivial
  simp only [List.nil_append, List.append_assoc, List.length_append, List.length_nil, Nat.zero_add,
    ← Nat.add_assoc]
    at first second third refused
  have fails : AtomicWriteFileRequest.decode (identifier ++ (opening ++ (position ++ (header
      ++ (fileData ++ (encodeClosingTag 0 ++ [])))))) 0 = .error failure := by
    rw [AtomicWriteFileRequest.decode, Parser.bind_run first, Parser.bind_run second]
    exact (Parser.bind_run third).trans (Parser.bind_error refused)
  refine ⟨_, failure, whole, Decoder.run_eq_error ?_⟩
  rwa [List.append_assoc]

end BacPy
