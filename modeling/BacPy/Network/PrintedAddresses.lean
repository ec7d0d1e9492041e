import BacPy.Network.AddressPatterns

/-! Which printed addresses are parsed as the addresses that they were printed from. -/

namespace BacPy

open Library Library.Pattern
open BACnetAddress (onNetwork bipText bip6Text str isGlobalBroadcast isRemoteBroadcast make_eq_ok)
open Or (inl inr)

variable {text : Text} {symbol : Char} {number : Nat} {captures kept : Captures Char}

-- White space

def Printed (symbol : Char) : Prop :=
  isHex symbol ∨ symbol = ':' ∨ symbol = '.' ∨ symbol = '[' ∨ symbol = ']' ∨ symbol = '*'

theorem toNat_of_isHex (hex : isHex symbol) : 48 ≤ symbol.toNat ∧ symbol.toNat ≤ 102 := by
  have range := of_decide_eq_true hex
  have size {first second : Char} (ordered : first ≤ second) : first.toNat ≤ second.toNat := ordered
  rcases range with ⟨lower, upper⟩ | ⟨lower, upper⟩ | ⟨lower, upper⟩
  · exact ⟨size lower, Nat.le_trans (size upper) (by decide)⟩
  · exact ⟨Nat.le_trans (by decide) (size lower), size upper⟩
  · exact ⟨Nat.le_trans (by decide) (size lower), Nat.le_trans (size upper) (by decide)⟩

theorem not_isSpace (printed : Printed symbol) : isSpace symbol = false := by
  rcases printed with hex | rfl | rfl | rfl | rfl | rfl
  · have range := toNat_of_isHex hex
    refine decide_eq_false fun member => ?_
    simp only [List.mem_cons, List.not_mem_nil, or_false] at member
    omega
  all_goals decide

theorem dropWhile_none (all : ∀ symbol ∈ text, isSpace symbol = false)
    : text.dropWhile isSpace = text := by
  cases text with
  | nil => rfl
  | cons symbol text =>
    exact List.dropWhile_cons_of_neg (by rw [all _ (List.mem_cons_self ..)]; exact Bool.false_ne_true)

theorem strip_printed (printed : ∀ symbol ∈ text, Printed symbol) : strip text = text := by
  have none : ∀ symbol ∈ text, isSpace symbol = false := fun _ member => not_isSpace (printed _ member)
  have reversed : ∀ symbol ∈ text.reverse, isSpace symbol = false :=
    fun _ member => none _ (List.mem_reverse.mp member)
  rw [strip, dropWhile_none none, dropWhile_none reversed, List.reverse_reverse]

theorem isHex_of_isDigit (isDigit : symbol.isDigit) : isHex symbol := by
  rw [Char.isDigit, Bool.and_eq_true, decide_eq_true_eq, decide_eq_true_eq] at isDigit
  exact decide_eq_true (inl isDigit)

theorem printed_decimal : ∀ symbol ∈ decimal number, Printed symbol :=
  fun _ member => inl (isHex_of_isDigit (isDigit_of_mem_decimal member))

theorem printed_onNetwork (network : Option Nat) (printed : ∀ symbol ∈ text, Printed symbol)
    : ∀ symbol ∈ onNetwork network text, Printed symbol := by
  cases network with
  | none => exact printed
  | some number =>
    exact List.forall_mem_append.mpr ⟨printed_decimal,
      List.forall_mem_cons.mpr ⟨inr (inl rfl), printed⟩⟩

theorem printed_dottedQuad (octets : Bytes) : ∀ symbol ∈ dottedQuad octets, Printed symbol := by
  induction octets with
  | nil => exact fun _ member => absurd member List.not_mem_nil
  | cons octet rest ih =>
    cases rest with
    | nil => exact printed_decimal
    | cons next rest =>
      exact List.forall_mem_append.mpr ⟨printed_decimal,
        List.forall_mem_cons.mpr ⟨inr (inr (inl rfl)), ih⟩⟩

/-- A host and a port. -/
theorem printed_port {port} (printed : ∀ symbol ∈ text, Printed symbol)
    : ∀ symbol ∈ text ++ ':' :: decimal port, Printed symbol :=
  List.forall_mem_append.mpr ⟨printed,
    List.forall_mem_cons.mpr ⟨inr (inl rfl), printed_decimal⟩⟩

-- Parsing what was printed

variable {network : Option Nat}

theorem get_onNetworkCaptures (network : Option Nat) {group} (other : group ≠ 1)
    : (onNetworkCaptures network kept).get group = kept.get group := by
  cases network with
  | none => rfl
  | some number =>
    have skipped : decide ((1, decimal number).1 = group) = false :=
      decide_eq_false fun same => other same.symm
    unfold onNetworkCaptures Captures.get
    rw [List.filter_cons_of_neg (by rw [skipped]; exact Bool.false_ne_true)]

/-- The number of the network is read back. -/
theorem parseNetwork_onNetwork (fits : ∀ number ∈ network, number < 65536)
    (others : ∀ item ∈ kept, item.1 ≠ 1)
    : parseNetwork (onNetworkCaptures network kept) = .ok network := by
  have nothing : kept.filter (fun item => item.1 = 1) = [] :=
    List.filter_eq_nil_iff.mpr fun item member => by simpa using others item member
  unfold parseNetwork
  cases network with
  | none =>
    have absent : (onNetworkCaptures none kept).get 1 = none := by
      simp only [onNetworkCaptures, Captures.get, nothing, List.getLast?_nil, Option.map_none]
    rw [absent]
  | some number =>
    have found : (onNetworkCaptures (some number) kept).get 1 = some (decimal number) := by
      simp only [onNetworkCaptures, Captures.get, List.filter_cons, decide_true, if_true, nothing,
        List.getLast?_singleton, Option.map_some]
    rw [found]
    simp only [parseInt_decimal (fits number rfl), Functor.map, Except.map]

theorem get_host_port (host port : Text)
    : Captures.get [(2, host), (3, port)] 2 = some host
      ∧ Captures.get [(2, host), (3, port)] 3 = some port
      ∧ Captures.get [(2, host), (3, port)] 4 = none :=
  ⟨rfl, rfl, rfl⟩

theorem parsePort_decimal {port} (small : port < 65536)
    (found : captures.get 3 = some (decimal port))
    : parsePort captures = .ok port := by
  unfold parsePort
  rw [found]
  simp only [parseInt_decimal small, bind, Except.bind]
  rw [if_neg (by omega)]

theorem stationOf_network (address : BACnetAddress)
    : stationOf address.network address.macAddress = .ok address := by
  obtain ⟨network, macAddress, inRange⟩ := address
  cases network with
  | none => rfl
  | some number => exact BACnetAddress.make_eq_ok.mpr ⟨rfl, rfl⟩

theorem network_fits (address : BACnetAddress) : ∀ number ∈ address.network, number < 65536 := by
  intro number member
  rcases address.inRange number member with rfl | range
  · decide
  · omega

theorem mem_onNetwork (network : Option Nat) (member : symbol ∈ text)
    : symbol ∈ onNetwork network text := by
  cases network with
  | none => exact member
  | some number => exact List.mem_append_right _ (List.mem_cons_of_mem _ member)

/-- No symbol comes with the number of the network but digits and a colon. -/
theorem not_mem_onNetwork (network : Option Nat) (free : symbol ∉ text)
    (notDigit : symbol.isDigit = false) (notColon : symbol ≠ ':')
    : symbol ∉ onNetwork network text := by
  cases network with
  | none => exact free
  | some number =>
    intro member
    rcases List.mem_append.mp member with member | member
    · exact absurd (isDigit_of_mem_decimal member) (by rw [notDigit]; exact Bool.false_ne_true)
    · rcases List.mem_cons.mp member with colon | member
      · exact notColon colon
      · exact free member

theorem not_mem_port {port} (free : symbol ∉ text) (notDigit : symbol.isDigit = false)
    (notColon : symbol ≠ ':')
    : symbol ∉ text ++ ':' :: decimal port := by
  intro member
  rcases List.mem_append.mp member with member | member
  · exact free member
  · rcases List.mem_cons.mp member with colon | member
    · exact notColon colon
    · exact absurd (isDigit_of_mem_decimal member) (by rw [notDigit]; exact Bool.false_ne_true)

/-- Two parts of octets, the second of which is a number, make up the octets. -/
theorem slice_whole {data start} (size : data.length = start + 2)
    : slice data 0 start ++ toBytes (fromBytes (slice data start (start + 2))) 2 = data := by
  have tail : slice data start (start + 2) = data.drop start := by
    rw [slice, ← size, ← List.length_drop, List.take_length]
  have width : (data.drop start).length = 2 := by
    rw [List.length_drop, size, Nat.add_sub_cancel_left]
  have back := toBytes_fromBytes (data.drop start)
  rw [width] at back
  rw [tail, back]
  exact List.take_append_drop start data

theorem fromBytes_slice_lt (data : Bytes) (start : Nat)
    : fromBytes (slice data start (start + 2)) < 65536 := by
  have short : (slice data start (start + 2)).length ≤ 2 := by
    rw [slice, List.length_take]
    omega
  exact Nat.lt_of_lt_of_le (fromBytes_lt _) (Nat.pow_le_pow_right (by decide) short)

theorem length_slice_zero {data stop} (inside : stop ≤ data.length)
    : (slice data 0 stop).length = stop := by
  rw [slice, List.length_take, List.drop_zero]
  exact Nat.min_eq_left inside

section Platform

variable [platform : Inet]

theorem parseAddress_addr6 (printed : ∀ symbol ∈ text, Printed symbol) (something : text ≠ [])
    (notEther : etherRe.fullMatch text = none) (found : addr6Re.fullMatch text = some captures)
    : parseAddress text = parseAddr6 captures := by
  unfold parseAddress
  simp only [strip_printed printed, List.isEmpty_iff, something, if_false, notEther, found]

theorem parseAddress_addr (printed : ∀ symbol ∈ text, Printed symbol) (something : text ≠ [])
    (notEther : etherRe.fullMatch text = none) (notAddr6 : addr6Re.fullMatch text = none)
    (found : addrRe.fullMatch text = some captures)
    : parseAddress text = parseAddr captures := by
  unfold parseAddress
  simp only [strip_printed printed, List.isEmpty_iff, something, if_false, notEther, notAddr6, found]

theorem parseAddress_remoteHex (printed : ∀ symbol ∈ text, Printed symbol) (something : text ≠ [])
    (notEther : etherRe.fullMatch text = none) (notAddr6 : addr6Re.fullMatch text = none)
    (notAddr : addrRe.fullMatch text = none) (found : remoteHexRe.fullMatch text = some captures)
    : parseAddress text = parseRemoteHex captures := by
  unfold parseAddress
  simp only [strip_printed printed, List.isEmpty_iff, something, if_false, notEther, notAddr6,
    notAddr, found]

/-- A text that no pattern matches is refused. -/
theorem parseAddress_unmatched (printed : ∀ symbol ∈ text, Printed symbol)
    (notEther : etherRe.fullMatch text = none) (notAddr6 : addr6Re.fullMatch text = none)
    (notAddr : addrRe.fullMatch text = none) (notHex : remoteHexRe.fullMatch text = none)
    : ∃ message, parseAddress text = .error (.valueError message) := by
  unfold parseAddress
  simp only [strip_printed printed, notEther, notAddr6, notAddr, notHex]
  split
  · exact ⟨_, rfl⟩
  · exact ⟨_, rfl⟩

/-- A printed broadcast to one network, or to all, is parsed as one. -/
theorem parseAddress_star (network : Option Nat) (fits : ∀ number ∈ network, number < 65536)
    : parseAddress (onNetwork network ['*'])
      = BACnetAddress.make (network.getD 0xFFFF) [] := by
  have star : '*' ∈ onNetwork network ['*'] := by
    cases network with
    | none => exact List.mem_singleton_self _
    | some number => simp [onNetwork]
  have noBracket : '[' ∉ onNetwork network ['*'] := by
    cases network with
    | none => decide
    | some number =>
      intro member
      rcases List.mem_append.mp member with member | member
      · exact absurd (isDigit_of_mem_decimal member) (by decide)
      · exact absurd member (by decide)
  have all : ∀ symbol ∈ ['*'], Printed symbol := by simp [Printed]
  have printed := printed_onNetwork network all
  rw [parseAddress_addr printed (List.ne_nil_of_mem star)
    (not_etherRe star (by decide) (by decide) (by decide)) (not_addr6Re noBracket)
    (addrRe_star network), parseAddr, parseNetwork_onNetwork fits (by simp)]
  have wildcard : (onNetworkCaptures network [(4, ['*'])]).get 4 = some ['*'] :=
    get_onNetworkCaptures network (by decide)
  simp only [bind, Except.bind, wildcard]
  cases network with
  | none => exact (BACnetAddress.make_eq_ok.mpr ⟨rfl, rfl⟩).symm
  | some number => rfl

/-- A printed IPv4 address is parsed as what it was printed from. -/
theorem parseAddress_bip (inverse : platform.Inverse) {address}
    (six : address.macAddress.length = 6)
    : parseAddress (onNetwork address.network
        (bipText address.macAddress)) = .ok address := by
  have four : (slice address.macAddress 0 4).length = 4 := length_slice_zero (by omega)
  obtain ⟨dot, _, _, noBracket⟩ := quad_symbols (matches_quadPattern four)
  have dotted := mem_onNetwork address.network (List.mem_append_left
    (':' :: decimal (fromBytes (slice address.macAddress 4 6))) dot)
  have printed : ∀ symbol ∈ bipText address.macAddress, Printed symbol :=
    printed_port (printed_dottedQuad _)
  have noBracket : '[' ∉ bipText address.macAddress :=
    not_mem_port noBracket (by decide) (by decide)
  rw [bipText] at printed noBracket ⊢
  rw [parseAddress_addr (printed_onNetwork address.network printed) (List.ne_nil_of_mem dotted)
    (not_etherRe dotted (by decide) (by decide) (by decide))
    (not_addr6Re (not_mem_onNetwork address.network noBracket (by decide) (by decide)))
    (addrRe_bipText address.network four _), parseAddr,
    parseNetwork_onNetwork (network_fits address) (by simp)]
  obtain ⟨hostFound, portFound, noStar⟩ := get_host_port (dottedQuad (slice address.macAddress 0 4))
    (decimal (fromBytes (slice address.macAddress 4 6)))
  have port := parsePort_decimal (fromBytes_slice_lt address.macAddress 4)
    ((get_onNetworkCaptures address.network (by decide)).trans portFound)
  simp only [bind, Except.bind, get_onNetworkCaptures _ (show 4 ≠ 1 by decide), noStar, port,
    get_onNetworkCaptures _ (show 2 ≠ 1 by decide), hostFound, Option.getD_some,
    inverse.aton_dottedQuad _ four]
  rw [slice_whole six, stationOf_network]

/-- A printed IPv6 address is parsed as what it was printed from. -/
theorem parseAddress_bip6 (inverse : platform.Inverse) {address}
    (eighteen : address.macAddress.length = 18)
    : parseAddress (onNetwork address.network
        (bip6Text address.macAddress)) = .ok address := by
  have sixteen : (slice address.macAddress 0 16).length = 16 := length_slice_zero (by omega)
  have symbols := inverse.ntop_symbols _ sixteen
  have opening : '[' ∈ bip6Text address.macAddress := List.mem_cons_self ..
  have bracket := mem_onNetwork address.network opening
  have closed : ']' ∉ platform.inetNtop (slice address.macAddress 0 16) := by
    intro member
    rcases symbols _ member with hex | same | same
    · exact absurd hex (by decide)
    · exact absurd same (by decide)
    · exact absurd same (by decide)
  have printed : ∀ symbol ∈ bip6Text address.macAddress, Printed symbol := by
    refine List.forall_mem_cons.mpr ⟨inr (inr (inr (inl rfl))), ?_⟩
    refine List.forall_mem_append.mpr ⟨fun symbol member => ?_, ?_⟩
    · rcases symbols _ member with hex | colon | dot
      · exact inl hex
      · exact inr (inl colon)
      · exact inr (inr (inl dot))
    · exact List.forall_mem_cons.mpr ⟨inr (inr (inr (inr (inl rfl)))),
        List.forall_mem_cons.mpr ⟨inr (inl rfl), printed_decimal⟩⟩
  rw [bip6Text] at printed bracket ⊢
  rw [parseAddress_addr6 (printed_onNetwork address.network printed) (List.ne_nil_of_mem bracket)
    (not_etherRe bracket (by decide) (by decide) (by decide))
    (addr6Re_bip6Text address.network (inverse.ntop_nonempty _ sixteen) closed _), parseAddr6,
    parseNetwork_onNetwork (network_fits address) (by simp)]
  obtain ⟨hostFound, portFound, _⟩ := get_host_port
    (platform.inetNtop (slice address.macAddress 0 16))
    (decimal (fromBytes (slice address.macAddress 16 18)))
  have port := parsePort_decimal (fromBytes_slice_lt address.macAddress 16)
    ((get_onNetworkCaptures address.network (by decide)).trans portFound)
  simp only [bind, Except.bind, port, get_onNetworkCaptures _ (show 2 ≠ 1 by decide), hostFound,
    Option.getD_some, inverse.pton_ntop _ sixteen]
  rw [slice_whole eighteen, stationOf_network]

/-- A printed station of another network is parsed as what it was printed from. -/
theorem parseAddress_hexText {address number} (known : address.network = some number)
    (something : address.macAddress ≠ [])
    : parseAddress (decimal number ++ ':' :: hexText address.macAddress) = .ok address := by
  have fits := network_fits address number known
  have free {symbol : Char} (notHex : isHex symbol = false) (notColon : symbol ≠ ':')
      : symbol ∉ decimal number ++ ':' :: hexText address.macAddress := by
    intro member
    rcases List.mem_append.mp member with member | member
    · exact absurd (isHex_of_isDigit (isDigit_of_mem_decimal member))
        (by rw [notHex]; exact Bool.false_ne_true)
    · rcases List.mem_cons.mp member with colon | member
      · exact notColon colon
      · exact absurd (mem_hexText member) (by rw [notHex]; exact Bool.false_ne_true)
  have colonFree : ':' ∉ hexText address.macAddress :=
    fun member => absurd (mem_hexText member) (by decide)
  have printed : ∀ symbol ∈ decimal number ++ ':' :: hexText address.macAddress, Printed symbol :=
    List.forall_mem_append.mpr ⟨printed_decimal, List.forall_mem_cons.mpr
      ⟨inr (inl rfl), fun _ member => inl (mem_hexText member)⟩⟩
  rw [parseAddress_remoteHex printed (List.append_ne_nil_of_left_ne_nil decimal_ne_nil _)
    (not_etherRe_of_oneColon colonFree number) (not_addr6Re (free (by decide) (by decide)))
    (not_addrRe (free (by decide) (by decide)) (free (by decide) (by decide)))
    (remoteHexRe_hexText something number)]
  change (do
    let network ← parseInt (decimal number)
    BACnetAddress.make network (fromHex (hexText address.macAddress))) = _
  rw [parseInt_decimal fits, fromHex_hexText]
  exact BACnetAddress.make_eq_ok.mpr ⟨known, rfl⟩

/-- Hexadecimal digits alone are no address. -/
theorem parseAddress_localHex (data : Bytes)
    : ∃ message, parseAddress (hexText data) = .error (.valueError message) := by
  have free {symbol : Char} (notHex : isHex symbol = false) : symbol ∉ hexText data :=
    fun member => absurd (mem_hexText member) (by rw [notHex]; exact Bool.false_ne_true)
  exact parseAddress_unmatched (fun _ member => inl (mem_hexText member))
    (not_etherRe_of_colonFree (free (by decide))) (not_addr6Re (free (by decide)))
    (not_addrRe (free (by decide)) (free (by decide))) (not_remoteHexRe (free (by decide)))

/-- The addresses that are read back: IPv4 and IPv6 stations of the local network, broadcasts to all
networks without a MAC address, and all of one other network.
-/
def BACnetAddress.IsReadable (address : BACnetAddress) : Prop :=
  match address.network with
  | none => address.macAddress.length = 6 ∨ address.macAddress.length = 18
  | some network => network = 0xFFFF → address.macAddress = []

theorem parse_local (inverse : platform.Inverse) {address} (known : address.network = none)
    : parseAddress address.str = .ok address
      ↔ address.macAddress.length = 6 ∨ address.macAddress.length = 18 := by
  unfold str isGlobalBroadcast isRemoteBroadcast
  rw [if_neg (by simp [known]), if_neg (by simp [known])]
  by_cases six : address.macAddress.length = 6
  · rw [if_pos six]
    exact iff_of_true (parseAddress_bip inverse six) (inl six)
  · rw [if_neg six]
    by_cases eighteen : address.macAddress.length = 18
    · rw [if_pos eighteen]
      exact iff_of_true (parseAddress_bip6 inverse eighteen) (inr eighteen)
    · rw [if_neg eighteen]
      refine iff_of_false (fun parsed => ?_) (not_or.mpr ⟨six, eighteen⟩)
      split at parsed
      · obtain ⟨message, refused⟩ := parseAddress_localHex address.macAddress
        rw [known] at parsed
        exact absurd (parsed.symm.trans refused) (by simp)
      · cases parsed

theorem parse_global {address} (known : address.network = some 0xFFFF)
    : parseAddress address.str = .ok address ↔ address.macAddress = [] := by
  unfold str
  rw [if_pos (by simp [isGlobalBroadcast, known])]
  have parsed := parseAddress_star none (fun _ same => absurd same (Option.not_mem_none _))
  have star : onNetwork none ['*'] = ['*'] := rfl
  rw [star] at parsed
  rw [parsed, make_eq_ok, known]
  exact ⟨fun both => both.2, fun nothing => ⟨rfl, nothing⟩⟩

theorem parse_remote (inverse : platform.Inverse) {address number}
    (known : address.network = some number) (other : number ≠ 0xFFFF)
    : parseAddress address.str = .ok address := by
  unfold str
  rw [if_neg (by simp [isGlobalBroadcast, known, other])]
  by_cases nothing : address.macAddress = []
  · rw [if_pos (by simp [isRemoteBroadcast, known, other, nothing]),
      parseAddress_star _ (network_fits address)]
    exact BACnetAddress.make_eq_ok.mpr ⟨by simp [known], nothing⟩
  · rw [if_neg (by simp [isRemoteBroadcast, nothing])]
    split
    · next six => exact parseAddress_bip inverse six
    · split
      · next eighteen => exact parseAddress_bip6 inverse eighteen
      · rw [known]
        exact parseAddress_hexText known nothing

end Platform

/-- Groups of two octets between colons, none of them left out or shortened. -/
def groups : Bytes → Text
  | first :: second :: third :: rest => hexText [first, second] ++ ':' :: groups (third :: rest)
  | octets => hexText octets

/-- A platform that prints all groups of an IPv6 address with all their digits. -/
@[reducible] def plainInet : Inet where
  inetAton text := (splitAtEvery '.' text).mapM fun part => UInt8.ofNat <$> parseInt part
  inetPton text :=
    let octets := fromHex (text.filter fun symbol => symbol ≠ ':')
    if octets.length = 16 then some octets else none
  inetNtop := groups

theorem filter_hexText (data : Bytes)
    : (hexText data).filter (fun symbol => symbol ≠ ':') = hexText data := by
  refine List.filter_eq_self.mpr fun symbol member => decide_eq_true ?_
  rintro rfl
  exact absurd (mem_hexText member) (by decide)

theorem filter_groups (octets : Bytes)
    : (groups octets).filter (fun symbol => symbol ≠ ':') = hexText octets := by
  induction octets using List.twoStepInduction with
  | nil | singleton _ => exact filter_hexText _
  | cons_cons first second rest ih _ =>
    cases rest with
    | nil => exact filter_hexText _
    | cons third rest =>
      rw [groups, List.filter_append, filter_hexText, List.filter_cons_of_neg (by simp), ih]
      rfl

theorem mem_groups (octets : Bytes) : ∀ symbol ∈ groups octets, isHex symbol ∨ symbol = ':' := by
  have hex : ∀ data : Bytes, ∀ symbol ∈ hexText data, isHex symbol ∨ symbol = ':' :=
    fun _ _ member => inl (mem_hexText member)
  induction octets using List.twoStepInduction with
  | nil | singleton _ => exact hex _
  | cons_cons first second rest ih _ =>
    cases rest with
    | nil => exact hex _
    | cons third rest =>
      rw [groups]
      exact List.forall_mem_append.mpr ⟨hex _, List.forall_mem_cons.mpr ⟨inr rfl, ih⟩⟩

theorem ne_of_free {separator} (free : separator ∉ symbol :: text) : symbol ≠ separator := by
  rintro rfl
  exact free (List.mem_cons_self ..)

theorem splitAtEvery_free {separator} (free : separator ∉ text)
    : splitAtEvery separator text = [text] := by
  induction text with
  | nil => rfl
  | cons symbol text ih =>
    rw [splitAtEvery, if_neg (ne_of_free free),
      ih fun member => free (List.mem_cons_of_mem _ member)]

theorem splitAtEvery_append {separator} (free : separator ∉ text) (rest : Text)
    : splitAtEvery separator (text ++ separator :: rest) = text :: splitAtEvery separator rest := by
  induction text with
  | nil => rw [List.nil_append, splitAtEvery, if_pos rfl]
  | cons symbol text ih =>
    rw [List.cons_append, splitAtEvery, if_neg (ne_of_free free),
      ih fun member => free (List.mem_cons_of_mem _ member)]

theorem dot_not_mem_decimal : '.' ∉ decimal number :=
  fun member => absurd (isDigit_of_mem_decimal member) (by decide)

theorem splitAtEvery_dottedQuad {octets} (something : octets ≠ [])
    : splitAtEvery '.' (dottedQuad octets) = octets.map fun octet => decimal octet.toNat := by
  induction octets with
  | nil => exact absurd rfl something
  | cons octet rest ih =>
    cases rest with
    | nil => exact splitAtEvery_free dot_not_mem_decimal
    | cons second rest =>
      change splitAtEvery '.' (decimal octet.toNat ++ '.' :: dottedQuad (second :: rest)) = _
      rw [splitAtEvery_append dot_not_mem_decimal, ih (List.cons_ne_nil _ _)]
      rfl

theorem parse_parts (octets : Bytes)
    : (octets.map fun octet => decimal octet.toNat).mapM
        (fun part => UInt8.ofNat <$> parseInt part) = .ok octets := by
  induction octets with
  | nil => rfl
  | cons octet rest ih =>
    have small : octet.toNat < 65536 := Nat.lt_trans octet.toNat_lt (by decide)
    rw [List.map_cons, List.mapM_cons, ih, parseInt_decimal small]
    change Except.ok (UInt8.ofNat octet.toNat :: rest) = _
    rw [UInt8.ofNat_toNat]

theorem plainInet_inverse : plainInet.Inverse where
  aton_dottedQuad octets four := by
    have something : octets ≠ [] := List.ne_nil_of_length_pos (by omega)
    change (splitAtEvery '.' (dottedQuad octets)).mapM (fun part => UInt8.ofNat <$> parseInt part) = _
    rw [splitAtEvery_dottedQuad something, parse_parts]
  pton_ntop octets sixteen := by
    have back : fromHex ((groups octets).filter fun symbol => symbol ≠ ':') = octets := by
      rw [filter_groups, fromHex_hexText]
    change (if (fromHex ((groups octets).filter fun symbol => symbol ≠ ':')).length = 16 then
      some (fromHex ((groups octets).filter fun symbol => symbol ≠ ':')) else none) = _
    rw [back, if_pos sixteen]
  ntop_nonempty octets sixteen nothing := by
    have back := fromHex_hexText octets
    rw [← filter_groups, show groups octets = [] from nothing] at back
    rw [← back] at sixteen
    exact absurd sixteen (by decide)
  ntop_symbols octets _ symbol member := (mem_groups octets symbol member).imp id inl

end BacPy
