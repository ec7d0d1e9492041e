import BacPy.Encoding.Tags
import BacPy.Types.Values

/-! Application-tagged values (Clause 20.2): `encode_property_value`, which chooses the tag by the
Python type, and `decode_application_value`, which chooses the type by the tag.
-/

namespace BacPy

open Float.Model

/-- The built-in exceptions of the primitive codecs among everything that may be raised. -/
def raising {Result : Type} (outcome : Except PyException Result) : Except Raised Result :=
  outcome.mapError .builtin

@[simp] theorem raising_ok {Result : Type} (result : Result) : raising (.ok result) = .ok result :=
  rfl

@[simp] theorem raising_error {Result : Type} (raised : PyException)
    : raising (.error raised : Except PyException Result) = .error (.builtin raised) :=
  rfl

-- Integers

/-- `encode_unsigned` of any `int`. -/
def encodeUnsignedInt (value : Int) : Except PyException Bytes :=
  if value < 0 then .error (.valueError s!"Unsigned integer must be >= 0, got {value}")
  else encodeUnsigned value.toNat

/-- `value.bit_length()` of a natural number. -/
def bitLength (value : Nat) : Nat := if value = 0 then 0 else Nat.log2 value + 1

def minSignedBytes (value : Int) : Nat :=
  if value = 0 then 1
  else if 0 < value then (bitLength value.toNat + 8) / 8
  else (bitLength (-value - 1).toNat + 8) / 8

/-- `encode_signed`: two's complement in the minimum number of octets. -/
def encodeSigned (value : Int) : Except PyException Bytes :=
  if value < -0x80000000 ∨ 0x7FFFFFFF < value then
    .error (.valueError
      s!"Signed integer out of 4-byte range (-2147483648..2147483647), got {value}")
  else
    let size := minSignedBytes value
    .ok (toBytes (value % 256 ^ size).toNat size)

def decodeSigned (data : Bytes) : Int :=
  let value := fromBytes data
  if 256 ^ data.length ≤ 2 * value then value - 256 ^ data.length else value

-- Floating point

/-- The binary32 number nearest to a float, ties to even. -/
def narrow (value : Float) : Float32 :=
  .ofModel (.pack (match value.toModel.unpack with
    | .finite sign mantissa exponent _ =>
      UnpackedFloat.round Format.binary32 sign mantissa exponent
    | special => special))

/-- The float with the value of a binary32 number. -/
def widen (value : Float32) : Float :=
  .ofModel (.pack (match value.toModel.unpack with
    | .finite sign mantissa exponent _ =>
      UnpackedFloat.round Format.binary64 sign mantissa exponent
    | special => special))

/-- `encode_real`: a finite value that rounds to infinity is refused. -/
def encodeReal (value : Float) : Except Raised Bytes :=
  if value.isFinite && !(narrow value).isFinite then
    .error (.overflowError "float too large to pack with f format")
  else
    .ok (toBytes (narrow value).toBits.toNat 4)

def decodeReal (data : Bytes) : Except PyException Float :=
  if data.length < 4 then
    .error (.valueError s!"decode_real requires at least 4 bytes, got {data.length}")
  else
    .ok (widen (Float32.ofBits (UInt32.ofNat (fromBytes (data.take 4)))))

def encodeDouble (value : Float) : Bytes := toBytes value.toBits.toNat 8

def decodeDouble (data : Bytes) : Except PyException Float :=
  if data.length < 8 then
    .error (.valueError s!"decode_double requires at least 8 bytes, got {data.length}")
  else
    .ok (Float.ofBits (UInt64.ofNat (fromBytes (data.take 8))))

-- Strings

/-- The `iso2022_jp` codec of the standard library, whose tables are not embedded. -/
class JapaneseCodec where
  decode : Bytes → Option String

def decodeUtf8 (data : Bytes) : Option String := String.fromUTF8? ⟨data.toArray⟩

/-- The character with a code point, which must not be a surrogate. -/
def character? (code : Nat) : Option Char :=
  if code.isValidChar then some (Char.ofNat code) else none

/-- `data.decode("utf-32-be")` -/
def decodeUtf32 : Bytes → Option (List Char)
  | [] => some []
  | first :: second :: third :: fourth :: rest => do
      let head ← character? (fromBytes [first, second, third, fourth])
      let tail ← decodeUtf32 rest
      some (head :: tail)
  | _ => none

/-- `data.decode("utf-16-be")`: a high surrogate is followed by a low one. -/
def decodeUtf16 : Bytes → Option (List Char)
  | [] => some []
  | first :: second :: third :: fourth :: rest => do
      let high := fromBytes [first, second]
      let low := fromBytes [third, fourth]
      if 0xD800 ≤ high ∧ high < 0xDC00 then
        if 0xDC00 ≤ low ∧ low < 0xE000 then
          let head ← character? (0x10000 + (high - 0xD800) * 0x400 + (low - 0xDC00))
          let tail ← decodeUtf16 rest
          some (head :: tail)
        else none
      else
        let head ← character? high
        let tail ← decodeUtf16 (third :: fourth :: rest)
        some (head :: tail)
  | [first, second] => do
      let head ← character? (fromBytes [first, second])
      some [head]
  | _ => none

/-- `data.decode("iso-8859-1")` -/
def decodeLatin1 (data : Bytes) : String :=
  String.ofList (data.map fun octet => Char.ofNat octet.toNat)

/-- `encode_character_string` with its default character set, UTF-8. -/
def encodeCharacterString (value : String) : Bytes := 0 :: value.toUTF8.data.toList

/-- `decode_character_string`: an unknown character set is read as latin-1. -/
def decodeCharacterString [JapaneseCodec] (data : Bytes) : Except PyException String :=
  match data with
  | [] =>
    .error (.valueError "CharacterString data too short: need at least 1 byte for charset")
  | charset :: content =>
    let decoded : Option String :=
      match charset.toNat with
      | 0 => decodeUtf8 content
      | 1 | 2 => JapaneseCodec.decode content
      | 3 => (decodeUtf32 content).map String.ofList
      | 4 => (decodeUtf16 content).map String.ofList
      | _ => some (decodeLatin1 content)
    match decoded with
    | some value => .ok value
    | none => .error (.valueError "codec can't decode bytes")

-- Bit strings, dates, times and object identifiers

def encodeBitString (value : BitString) : Bytes := UInt8.ofNat value.unusedBits :: value.data

def decodeBitString (data : Bytes) : Except PyException BitString :=
  match data with
  | [] =>
    .error (.valueError "BitString data too short: need at least 1 byte for unused-bits count")
  | unusedBits :: data =>
    if inRange : unusedBits.toNat ≤ 7 ∧ (data = [] → unusedBits.toNat = 0) then
      .ok { data, unusedBits := unusedBits.toNat, inRange }
    else .error (.valueError "unused_bits out of range")

def encodeDate (date : BACnetDate) : Except PyException Bytes := do
  if date.year ≠ 0xFF ∧ ¬ (1900 ≤ date.year ∧ date.year ≤ 2155) then
    .error (.valueError
      s!"BACnetDate year must be 1900-2155 or 0xFF (unspecified), got {date.year}")
  else
    let year ← octet (if date.year = 0xFF then 0xFF else date.year - 1900)
    let month ← octet date.month
    let day ← octet date.day
    let dayOfWeek ← octet date.dayOfWeek
    .ok [year, month, day, dayOfWeek]

def decodeDate (data : Bytes) : Except PyException BACnetDate :=
  match data with
  | year :: month :: day :: dayOfWeek :: _ =>
    .ok {
      year := if year = 0xFF then 0xFF else year.toNat + 1900
      month := month.toNat
      day := day.toNat
      dayOfWeek := dayOfWeek.toNat
    }
  | _ => .error (.valueError s!"Date data too short: need 4 bytes, got {data.length}")

def encodeTime (time : BACnetTime) : Except PyException Bytes := do
  let hour ← octet time.hour
  let minute ← octet time.minute
  let second ← octet time.second
  let hundredth ← octet time.hundredth
  .ok [hour, minute, second, hundredth]

def decodeTime (data : Bytes) : Except PyException BACnetTime :=
  match data with
  | hour :: minute :: second :: hundredth :: _ =>
    .ok {
      hour := hour.toNat
      minute := minute.toNat
      second := second.toNat
      hundredth := hundredth.toNat
    }
  | _ => .error (.valueError s!"Time data too short: need 4 bytes, got {data.length}")

def ObjectIdentifier.encode (identifier : ObjectIdentifier) : Bytes :=
  toBytes (identifier.objectType.number * 4194304 + identifier.instanceNumber) 4

/-- `decode_object_identifier`, and the identifier made of its result: both fields are in range. -/
def decodeObjectIdentifier (data : Bytes) : Except PyException ObjectIdentifier :=
  if data.length < 4 then
    .error (.valueError s!"ObjectIdentifier data too short: need 4 bytes, got {data.length}")
  else
    let value := fromBytes (data.take 4)
    .ok { objectType := ⟨Fin.ofNat 1024 (value / 4194304)⟩, instanceNumber := Fin.ofNat _ value }

-- Property values to octets

def StatusFlags.toBitString (flags : StatusFlags) : BitString where
  data := [UInt8.ofNat (flags.inAlarm.toNat * 128 + flags.fault.toNat * 64
    + flags.overridden.toNat * 32 + flags.outOfService.toNat * 16)]
  unusedBits := 4

def encodeApplicationBoolean (value : Bool) : Except PyException Bytes :=
  encodeTag 1 .application value.toNat

def encodeApplicationUnsigned (value : Int) : Except PyException Bytes := do
  let data ← encodeUnsignedInt value
  encodeApplicationTagged 2 data

def encodeApplicationSigned (value : Int) : Except PyException Bytes := do
  let data ← encodeSigned value
  encodeApplicationTagged 3 data

def encodeApplicationReal (value : Float) : Except Raised Bytes := do
  let data ← encodeReal value
  raising (encodeApplicationTagged 4 data)

/-- `encode_property_value` of anything but a list. -/
def encodeScalar (value : Scalar) (intAsReal : Bool) : Except Raised Bytes :=
  match value with
  | .none => raising (encodeApplicationTagged 0 [])
  | .objectIdentifier value => raising (encodeApplicationTagged 12 value.encode)
  | .statusFlags value => raising (encodeApplicationTagged 8 (encodeBitString value.toBitString))
  -- opening and closing tag 0
  | .noneSource => .ok [0x0E, 0x0F]
  | .foreign value => if intAsReal then value.encodingAsReal else value.encoding
  | .bitString value => raising (encodeApplicationTagged 8 (encodeBitString value))
  | .date value => raising (encodeDate value >>= encodeApplicationTagged 10)
  | .time value => raising (encodeTime value >>= encodeApplicationTagged 11)
  | .str value => raising (encodeApplicationTagged 7 (encodeCharacterString value))
  | .bool value => raising (encodeApplicationBoolean value)
  | .enum _ number => raising (encodeApplicationEnumerated number)
  | .double value => raising (encodeApplicationTagged 5 (encodeDouble value))
  | .float value => encodeApplicationReal value
  | .int value =>
    if intAsReal then Value.floatOfInt value >>= encodeApplicationReal
    else raising (encodeApplicationUnsigned value)
  -- `bytes` pass through as already encoded
  | .bytes value => .ok value

mutual

def encodePropertyValue (value : Value) (intAsReal : Bool) : Except Raised Bytes :=
  match value with
  | .scalar value => encodeScalar value intAsReal
  | .list items => encodeItems items intAsReal

def encodeItems (items : List Value) (intAsReal : Bool) : Except Raised Bytes :=
  match items with
  | [] => .ok []
  | item :: rest => do
      let first ← encodePropertyValue item intAsReal
      let later ← encodeItems rest intAsReal
      .ok (first ++ later)

end

-- Octets to property values

/-- The content of an application-tagged value, by tag number from Unsigned on. -/
def decodeContent [JapaneseCodec] (number : Nat) (content : Bytes) : Except PyException Value :=
  match number with
  | 2 => .ok (.int (decodeUnsigned content))
  | 3 => .ok (.int (decodeSigned content))
  | 4 => Value.float <$> decodeReal content
  | 5 => Value.float <$> decodeDouble content
  | 6 => .ok (.bytes content)
  | 7 => Value.str <$> decodeCharacterString content
  | 8 => Value.bitString <$> decodeBitString content
  | 9 => .ok (.int (decodeEnumerated content))
  | 10 => Value.date <$> decodeDate content
  | 11 => Value.time <$> decodeTime content
  | 12 => Value.objectIdentifier <$> decodeObjectIdentifier content
  | number => .error (.valueError s!"Unknown application tag number: {number}")

def decodeApplicationValue [JapaneseCodec] (data : Bytes) : Except PyException Value := do
  let (tag, offset) ← decodeTag data 0
  if tag.cls ≠ .application then
    .error (.valueError s!"Expected application tag, got context tag {tag.number}")
  else if tag.number = 0 then .ok .none
  else if tag.number = 1 then .ok (.bool (tag.length ≠ 0))
  else if data.length < offset + tag.length then
    .error (.valueError s!"Application tag content truncated: tag claims {tag.length} bytes")
  else
    decodeContent tag.number (slice data offset (offset + tag.length))

def maxDecodedValues : Nat := 10000

/-- The loop of `decode_all_application_values` from an offset. Every round reads at least the
octet of a tag, so as many rounds as the data has octets are enough.
-/
def decodeValuesFrom [JapaneseCodec] (data : Bytes)
    : Nat → Nat → Nat → Except PyException (List Value)
  | 0, _, _ => .ok []
  | fuel + 1, offset, count => do
      if data.length ≤ offset then .ok []
      else if maxDecodedValues ≤ count then
        .error (.valueError s!"Decoded value count exceeds maximum ({maxDecodedValues})")
      else
        let (tag, tagEnd) ← decodeTag data offset
        if tag.cls ≠ .application then
          .error (.valueError s!"Expected application tag at offset {offset}")
        else
          -- a Boolean has its value in the tag
          let elementEnd := if tag.number = 1 then tagEnd else tagEnd + tag.length
          let value ← decodeApplicationValue (slice data offset elementEnd)
          let later ← decodeValuesFrom data fuel elementEnd (count + 1)
          .ok (value :: later)

def decodeAllApplicationValues [JapaneseCodec] (data : Bytes) : Except PyException (List Value) :=
  decodeValuesFrom data (data.length + 1) 0 0

/-- `decode_and_unwrap`: nothing is `None`, one value is itself, more are a list. -/
def decodeAndUnwrap [JapaneseCodec] (data : Bytes) : Except PyException Value := do
  let values ← decodeAllApplicationValues data
  match values with
  | [value] => .ok value
  | [] => .ok .none
  | values => .ok (.list values)

end BacPy
