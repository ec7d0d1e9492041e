import BacPy.Library.Patterns
import BacPy.Network.Address

/-! The text form of BACnet addresses: what `str` prints, and what `parse_address` makes of a text. -/

namespace BacPy

open Library

/-- A text, as its characters. -/
abbrev Text : Type := List Char

-- Characters and numbers

/-- The zeros of all scripts that have decimal digits; the other digits follow them. -/
def decimalZeros : List Nat := [
  0x30, 0x660, 0x6F0, 0x7C0, 0x966, 0x9E6, 0xA66, 0xAE6, 0xB66, 0xBE6, 0xC66, 0xCE6, 0xD66, 0xDE6,
  0xE50, 0xED0, 0xF20, 0x1040, 0x1090, 0x17E0, 0x1810, 0x1946, 0x19D0, 0x1A80, 0x1A90, 0x1B50,
  0x1BB0, 0x1C40, 0x1C50, 0xA620, 0xA8D0, 0xA900, 0xA9D0, 0xA9F0, 0xAA50, 0xABF0, 0xFF10, 0x104A0,
  0x10D30, 0x11066, 0x110F0, 0x11136, 0x111D0, 0x112F0, 0x11450, 0x114D0, 0x11650, 0x116C0, 0x11730,
  0x118E0, 0x11950, 0x11C50, 0x11D50, 0x11DA0, 0x11F50, 0x16A60, 0x16AC0, 0x16B50, 0x1D7CE, 0x1D7D8,
  0x1D7E2, 0x1D7EC, 0x1D7F6, 0x1E140, 0x1E2F0, 0x1E4F0, 0x1E950, 0x1FBF0]

/-- The value of a decimal digit of any script. -/
def decimalValue (symbol : Char) : Option Nat :=
  (decimalZeros.find? fun first => first ≤ symbol.toNat ∧ symbol.toNat < first + 10).map
    fun first => symbol.toNat - first

/-- `\d` -/
def isDecimal (symbol : Char) : Bool := (decimalValue symbol).isSome

/-- `[0-9a-fA-F]` -/
def isHex (symbol : Char) : Bool :=
  ('0' ≤ symbol ∧ symbol ≤ '9') ∨ ('a' ≤ symbol ∧ symbol ≤ 'f') ∨ ('A' ≤ symbol ∧ symbol ≤ 'F')

/-- `str.isspace` of one character. -/
def isSpace (symbol : Char) : Bool :=
  symbol.toNat ∈ [
    0x9, 0xA, 0xB, 0xC, 0xD, 0x1C, 0x1D, 0x1E, 0x1F, 0x20, 0x85, 0xA0, 0x1680, 0x2000, 0x2001,
    0x2002, 0x2003, 0x2004, 0x2005, 0x2006, 0x2007, 0x2008, 0x2009, 0x200A, 0x2028, 0x2029, 0x202F,
    0x205F, 0x3000]

def strip (text : Text) : Text :=
  ((text.dropWhile isSpace).reverse.dropWhile isSpace).reverse

def decimal (number : Nat) : Text := Nat.toDigits 10 number

/-- `int` of decimal digits, which is limited in their number. -/
def parseInt (digits : Text) : Except PyException Nat :=
  if 4300 < digits.length then
    .error (.valueError
      (s!"Exceeds the limit (4300 digits) for integer string conversion: value has {digits.length} "
        ++ "digits; use sys.set_int_max_str_digits() to increase the limit"))
  else .ok (digits.foldl (fun number digit => 10 * number + (decimalValue digit).getD 0) 0)

/-- The value of a hexadecimal digit. -/
def hexValue (symbol : Char) : Nat :=
  if symbol ≤ '9' then symbol.toNat - 48
  else if symbol ≤ 'F' then symbol.toNat - 55
  else symbol.toNat - 87

/-- `int` of hexadecimal digits. -/
def parseHex (digits : Text) : Nat :=
  digits.foldl (fun number digit => 16 * number + hexValue digit) 0

/-- `bytes.hex` -/
def hexText (data : Bytes) : Text :=
  data.flatMap fun octet => [Nat.digitChar (octet.toNat / 16), Nat.digitChar (octet.toNat % 16)]

/-- `bytes.fromhex` of pairs of digits. -/
def fromHex : Text → Bytes
  | high :: low :: rest => UInt8.ofNat (parseHex [high, low]) :: fromHex rest
  | _ => []

/-- `str.split` at a symbol. -/
def splitAtEvery (separator : Char) : Text → List Text
  | [] => [[]]
  | symbol :: rest =>
    if symbol = separator then [] :: splitAtEvery separator rest
    else
      match splitAtEvery separator rest with
      | part :: parts => (symbol :: part) :: parts
      | [] => [[symbol]]

/-- `repr` of a text of printable characters: in apostrophes (39), or in quotation marks (34) if it has
the former and not the latter, with backslashes (92) where they are needed.
-/
def reprText (text : Text) : Text :=
  let quote := Char.ofNat (if Char.ofNat 39 ∈ text ∧ Char.ofNat 34 ∉ text then 34 else 39)
  let escaped := text.flatMap fun symbol =>
    if symbol = quote ∨ symbol = Char.ofNat 92 then [Char.ofNat 92, symbol] else [symbol]
  quote :: escaped ++ [quote]

-- Printing

/-- The functions of the platform that turn the texts of hosts into octets and back. -/
class Inet where
  /-- `socket.inet_aton` -/
  inetAton : Text → Except PyException Bytes
  /-- `socket.inet_pton` for IPv6; an `OSError` is the absence of a result -/
  inetPton : Text → Option Bytes
  /-- `socket.inet_ntop` for IPv6 -/
  inetNtop : Bytes → Text

/-- The host of `BIPAddress.decode`: a dotted quad. -/
def dottedQuad : Bytes → Text
  | [] => []
  | [octet] => decimal octet.toNat
  | octet :: rest => decimal octet.toNat ++ '.' :: dottedQuad rest

/-- What is relied on: the text of an IPv6 address consists of hexadecimal digits, colons and dots, and
is read back, as a dotted quad is.
-/
structure Inet.Inverse (platform : Inet) : Prop where
  aton_dottedQuad : ∀ octets, octets.length = 4 → platform.inetAton (dottedQuad octets) = .ok octets
  pton_ntop : ∀ octets, octets.length = 16 → platform.inetPton (platform.inetNtop octets) = some octets
  ntop_nonempty : ∀ octets, octets.length = 16 → platform.inetNtop octets ≠ []
  ntop_symbols : ∀ octets, octets.length = 16
    → ∀ symbol ∈ platform.inetNtop octets, isHex symbol ∨ symbol = ':' ∨ symbol = '.'

namespace BACnetAddress

def isRemoteBroadcast (address : BACnetAddress) : Bool :=
  address.network.isSome ∧ address.network ≠ some 0xFFFF ∧ address.macAddress.isEmpty

def onNetwork (network : Option Nat) (text : Text) : Text :=
  match network with
  | none => text
  | some network => decimal network ++ ':' :: text

/-- `f"{bip.host}:{bip.port}"` -/
def bipText (macAddress : Bytes) : Text :=
  dottedQuad (slice macAddress 0 4) ++ ':' :: decimal (fromBytes (slice macAddress 4 6))

/-- `f"[{bip6.host}]:{bip6.port}"` -/
def bip6Text [platform : Inet] (macAddress : Bytes) : Text :=
  '[' :: (platform.inetNtop (slice macAddress 0 16)
    ++ ']' :: ':' :: decimal (fromBytes (slice macAddress 16 18)))

def str [Inet] (address : BACnetAddress) : Text :=
  if address.isGlobalBroadcast then ['*']
  else if address.isRemoteBroadcast then onNetwork address.network ['*']
  else if address.macAddress.length = 6 then
    onNetwork address.network (bipText address.macAddress)
  else if address.macAddress.length = 18 then
    onNetwork address.network (bip6Text address.macAddress)
  else if address.macAddress ≠ [] then onNetwork address.network (hexText address.macAddress)
  else []

end BACnetAddress

-- Patterns

/-- `\d` -/
def digit : Pattern Char := .one isDecimal

/-- `[0-9a-fA-F]{2}` -/
def hexPair : Pattern Char := .seq (.one isHex) (.one isHex)

/-- `:` and what follows it. -/
def colonThen (pattern : Pattern Char) : Pattern Char := .seq (.literal ':') pattern

/-- `\.` and what follows it. -/
def dotThen (pattern : Pattern Char) : Pattern Char := .seq (.literal '.') pattern

/-- `(?:(\d+):)?` and what follows it. -/
def networkThen (pattern : Pattern Char) : Pattern Char :=
  .seq (.opt (.seq (.group 1 (.plus digit)) (.literal ':'))) pattern

/-- `\d{1,3}` -/
def upToThreeDigits : Pattern Char := .seq digit (.opt (.seq digit (.opt digit)))

/-- `\d{1,3}\.\d{1,3}\.\d{1,3}\.\d{1,3}` -/
def quadPattern : Pattern Char :=
  .seq upToThreeDigits (dotThen (.seq upToThreeDigits (dotThen (.seq upToThreeDigits
    (dotThen upToThreeDigits)))))

/-- `(?::(\d+))?` -/
def portPattern : Pattern Char := .opt (colonThen (.group 3 (.plus digit)))

/-- `_ADDR_RE`. A text that has been stripped does not end in a line break, so that `$` is its end. -/
def addrRe : Pattern Char :=
  networkThen (.alt (.seq (.group 2 quadPattern) portPattern) (.group 4 (.literal '*')))

def etherRe : Pattern Char :=
  networkThen (.group 2 (.seq hexPair (colonThen (.seq hexPair (colonThen (.seq hexPair
    (colonThen (.seq hexPair (colonThen (.seq hexPair (colonThen hexPair)))))))))))

def addr6Re : Pattern Char :=
  networkThen (.seq (.literal '[') (.seq (.group 2 (.plus (.one fun symbol => symbol ≠ ']')))
    (.seq (.literal ']') portPattern)))

def remoteHexRe : Pattern Char :=
  .seq (.group 1 (.plus digit)) (colonThen (.group 2 (.seq hexPair (.many hexPair))))

-- Parsing

/-- The number of the network in front of an address, if there is one. -/
def parseNetwork (captures : Captures Char) : Except PyException (Option Nat) :=
  match captures.get 1 with
  | none => .ok none
  | some digits => some <$> parseInt digits

/-- The port behind an address, or the default port. -/
def parsePort (captures : Captures Char) : Except PyException Nat := do
  let port ← match captures.get 3 with
    | none => .ok 0xBAC0
    | some digits => parseInt digits
  if 65535 < port then .error (.valueError s!"Port number out of range: {port}")
  else .ok port

theorem inRange_global
    : ∀ number ∈ some 0xFFFF, number = 0xFFFF ∨ 1 ≤ number ∧ number ≤ 65534 :=
  fun _ same => Or.inl (Option.some.inj same).symm

def globalBroadcast : BACnetAddress := { network := some 0xFFFF, inRange := inRange_global }

/-- `remote_station(network, mac)`, or the local station without a network. -/
def stationOf (network : Option Nat) (macAddress : Bytes) : Except PyException BACnetAddress :=
  match network with
  | none => .ok { macAddress }
  | some network => BACnetAddress.make network macAddress

/-- An Ethernet MAC address. -/
def parseEther (captures : Captures Char) : Except PyException BACnetAddress := do
  let network ← parseNetwork captures
  stationOf network ((splitAtEvery ':' ((captures.get 2).getD [])).map fun part =>
    UInt8.ofNat (parseHex part))

/-- An IPv6 address in brackets. -/
def parseAddr6 [platform : Inet] (captures : Captures Char) : Except PyException BACnetAddress := do
  let network ← parseNetwork captures
  let port ← parsePort captures
  let host := (captures.get 2).getD []
  match platform.inetPton host with
  | none => .error (.valueError s!"Invalid IPv6 address: {String.ofList (reprText host)}")
  | some octets => stationOf network (octets ++ toBytes port 2)

/-- An IPv4 address, or a broadcast. -/
def parseAddr [platform : Inet] (captures : Captures Char) : Except PyException BACnetAddress := do
  let network ← parseNetwork captures
  match captures.get 4 with
  | some _ =>
    match network with
    | none => .ok globalBroadcast
    | some network => BACnetAddress.make network []
  | none =>
    let port ← parsePort captures
    let octets ← platform.inetAton ((captures.get 2).getD [])
    stationOf network (octets ++ toBytes port 2)

/-- A station of another network with any MAC address. -/
def parseRemoteHex (captures : Captures Char) : Except PyException BACnetAddress := do
  let network ← parseInt ((captures.get 1).getD [])
  BACnetAddress.make network (fromHex ((captures.get 2).getD []))

def parseAddress [Inet] (text : Text) : Except PyException BACnetAddress :=
  let addr := strip text
  if addr.isEmpty then .error (.valueError "Address string must not be empty")
  else
    match etherRe.fullMatch addr with
    | some captures => parseEther captures
    | none =>
      match addr6Re.fullMatch addr with
      | some captures => parseAddr6 captures
      | none =>
        match addrRe.fullMatch addr with
        | some captures => parseAddr captures
        | none =>
          match remoteHexRe.fullMatch addr with
          | some captures => parseRemoteHex captures
          | none =>
            .error (.valueError
              (s!"Cannot parse address: {String.ofList (reprText addr)}. "
                ++ "Expected format like '192.168.1.100', '192.168.1.100:47808', "
                ++ "'2:192.168.1.100', '[::1]:47808', 'AA:BB:CC:DD:EE:FF', "
                ++ "'4352:01' (network:hex_mac), or '*'"))

end BacPy
