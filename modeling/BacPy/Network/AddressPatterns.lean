import BacPy.Network.AddressText

/-! What the patterns of `parse_address` make of printed addresses: the parts that were printed, in one
way only, or nothing at all.
-/

namespace BacPy

open Library

variable {text net rest host body : Text} {symbol : Char} {number : Nat}

-- Digits

theorem toNat_of_isDigit (isDigit : symbol.isDigit) : 48 ≤ symbol.toNat ∧ symbol.toNat ≤ 57 := by
  rw [Char.isDigit, Bool.and_eq_true, decide_eq_true_eq, decide_eq_true_eq] at isDigit
  exact isDigit

theorem decimalValue_of_isDigit (isDigit : symbol.isDigit)
    : decimalValue symbol = some (symbol.toNat - 48) := by
  have range := toNat_of_isDigit isDigit
  have first : decide (0x30 ≤ symbol.toNat ∧ symbol.toNat < 0x30 + 10) = true :=
    decide_eq_true (by omega)
  obtain ⟨others, starts⟩ : ∃ others, decimalZeros = 0x30 :: others := ⟨_, rfl⟩
  simp only [decimalValue, starts, List.find?_cons, first, Option.map_some]

theorem isDecimal_of_isDigit (isDigit : symbol.isDigit) : isDecimal symbol := by
  rw [isDecimal, decimalValue_of_isDigit isDigit]
  rfl

theorem isDigit_of_mem_decimal (member : symbol ∈ decimal number) : symbol.isDigit :=
  Nat.isDigit_of_mem_toDigits (by decide) (by decide) member

theorem decimal_ne_nil : decimal number ≠ [] := Nat.toDigits_ne_nil

theorem foldl_decimal (digits : Text) (all : ∀ symbol ∈ digits, symbol.isDigit) (start : Nat)
    : digits.foldl (fun number digit => 10 * number + (decimalValue digit).getD 0) start
      = Nat.ofDigitChars 10 digits start := by
  induction digits generalizing start with
  | nil => exact Nat.ofDigitChars_nil.symm
  | cons symbol digits ih =>
    obtain ⟨isDigit, others⟩ := List.forall_mem_cons.mp all
    rw [List.foldl_cons, Nat.ofDigitChars_cons, decimalValue_of_isDigit isDigit, ih others]
    rfl

/-- A number of two octets is read from its decimal digits. -/
theorem parseInt_decimal (small : number < 65536) : parseInt (decimal number) = .ok number := by
  have short : (decimal number).length ≤ 5 :=
    (Nat.length_toDigits_le_iff (by decide) (by decide)).mpr (by omega)
  rw [parseInt, if_neg (by omega), foldl_decimal _ fun _ => isDigit_of_mem_decimal]
  exact congrArg Except.ok Nat.ofDigitChars_ten_toDigits

/-- A number of one octet has up to three digits. -/
theorem length_decimal_octet (octet : UInt8) : (decimal octet.toNat).length ≤ 3 :=
  (Nat.length_toDigits_le_iff (by decide) (by decide)).mpr
    (Nat.lt_trans octet.toNat_lt (by decide))

theorem isHex_digitChar (value : Nat) (small : value < 16) : isHex (Nat.digitChar value) := by
  revert value
  decide

theorem mem_hexText {data} (member : symbol ∈ hexText data) : isHex symbol := by
  obtain ⟨octet, _, member⟩ := List.mem_flatMap.mp member
  have small := octet.toNat_lt
  rcases List.mem_pair.mp member with rfl | rfl
  · exact isHex_digitChar _ (by omega)
  · exact isHex_digitChar _ (by omega)

theorem octet_of_digits (octet : UInt8)
    : UInt8.ofNat (parseHex [Nat.digitChar (octet.toNat / 16), Nat.digitChar (octet.toNat % 16)])
      = octet := by
  obtain ⟨bits⟩ := octet
  revert bits
  decide +kernel

/-- Octets are read from their hexadecimal digits. -/
theorem fromHex_hexText (data : Bytes) : fromHex (hexText data) = data := by
  induction data with
  | nil => rfl
  | cons octet data ih =>
    change UInt8.ofNat _ :: fromHex (hexText data) = _
    rw [ih, octet_of_digits]

-- Parts of patterns

variable {pattern : Pattern Char} {captures kept : Captures Char}

open Pattern

/-- The symbol that is after a number is not a part of it. -/
theorem colon_not_decimal (all : ∀ symbol ∈ text, isDecimal symbol) : ':' ∉ text :=
  fun member => absurd (all _ member) (by decide)

theorem colon_not_mem_decimal : ':' ∉ decimal number :=
  fun member => absurd (isDigit_of_mem_decimal member) (by decide)

theorem all_decimal (number : Nat) : ∀ symbol ∈ decimal number, isDecimal symbol :=
  fun _ member => isDecimal_of_isDigit (isDigit_of_mem_decimal member)

theorem matches_colonThen_iff
    : Matches (colonThen pattern) text captures
      ↔ ∃ rest, text = ':' :: rest ∧ Matches pattern rest captures := by
  rw [colonThen, matches_seq_iff]
  constructor
  · rintro ⟨part, later, kept, more, rfl, rfl, before, behind⟩
    obtain ⟨rfl, rfl⟩ := matches_literal_iff.mp before
    exact ⟨later, rfl, behind⟩
  · rintro ⟨rest, rfl, behind⟩
    exact ⟨[':'], rest, [], captures, rfl, rfl, matches_literal_iff.mpr ⟨rfl, rfl⟩, behind⟩

theorem matches_number_iff {group}
    : Matches (.group group (.plus digit)) text captures
      ↔ text ≠ [] ∧ (∀ symbol ∈ text, isDecimal symbol) ∧ captures = [(group, text)] := by
  rw [matches_group_iff]
  constructor
  · rintro ⟨kept, rfl, matched⟩
    obtain ⟨something, all, rfl⟩ := matches_plus_one_iff.mp matched
    exact ⟨something, all, rfl⟩
  · rintro ⟨something, all, rfl⟩
    exact ⟨[], rfl, matches_plus_one_iff.mpr ⟨something, all, rfl⟩⟩

theorem matches_portPattern_iff
    : Matches portPattern text captures
      ↔ (∃ digits, text = ':' :: digits ∧ digits ≠ [] ∧ (∀ symbol ∈ digits, isDecimal symbol)
          ∧ captures = [(3, digits)])
        ∨ text = [] ∧ captures = [] := by
  rw [portPattern, matches_opt_iff, matches_colonThen_iff]
  simp only [matches_number_iff]

/-- With a network number in front, or without. -/
theorem matches_networkThen_iff
    : Matches (networkThen pattern) text captures
      ↔ (∃ net rest kept, text = net ++ ':' :: rest ∧ net ≠ [] ∧ (∀ symbol ∈ net, isDecimal symbol)
          ∧ captures = (1, net) :: kept ∧ Matches pattern rest kept)
        ∨ Matches pattern text captures := by
  rw [networkThen, matches_seq_iff]
  constructor
  · rintro ⟨part, later, kept, more, rfl, rfl, before, behind⟩
    obtain before | ⟨rfl, rfl⟩ := matches_opt_iff.mp before
    · obtain ⟨net, colon, digits, nothing, rfl, rfl, number, literal⟩ := matches_seq_iff.mp before
      obtain ⟨rfl, rfl⟩ := matches_literal_iff.mp literal
      obtain ⟨something, all, rfl⟩ := matches_number_iff.mp number
      exact Or.inl ⟨net, later, more, List.append_assoc .., something, all, rfl, behind⟩
    · exact Or.inr behind
  · rintro (⟨net, rest, kept, rfl, something, all, rfl, behind⟩ | behind)
    · refine ⟨net ++ [':'], rest, [(1, net)], kept, by simp, rfl, ?_, behind⟩
      exact matches_opt_iff.mpr (Or.inl (matches_seq_iff.mpr ⟨net, [':'], [(1, net)], [], rfl, rfl,
        matches_number_iff.mpr ⟨something, all, rfl⟩, matches_literal_iff.mpr ⟨rfl, rfl⟩⟩))
    · exact ⟨[], text, [], captures, rfl, rfl, matches_opt_iff.mpr (Or.inr ⟨rfl, rfl⟩), behind⟩

/-- What the groups keep of a text behind the number of a network, if there is one. -/
def onNetworkCaptures (network : Option Nat) (kept : Captures Char) : Captures Char :=
  match network with
  | none => kept
  | some network => (1, decimal network) :: kept

/-- A text that can be matched in one way only is also matched behind the number of a network, if it
cannot be confused with a text that has a number in front of it.
-/
theorem fullMatch_onNetwork (network : Option Nat) (matched : Matches pattern body kept)
    (unique : ∀ others, Matches pattern body others → others = kept)
    (unnumbered : ∀ net rest, body = net ++ ':' :: rest → ∃ symbol ∈ net, isDecimal symbol = false)
    (apart : ∀ number others, ¬ Matches pattern (decimal number ++ ':' :: body) others)
    : (networkThen pattern).fullMatch (BACnetAddress.onNetwork network body)
      = some (onNetworkCaptures network kept) := by
  cases network with
  | none =>
    refine fullMatch_eq_some (matches_networkThen_iff.mpr (Or.inr matched)) fun others found => ?_
    obtain ⟨net, rest, _, same, _, all, _⟩ | found := matches_networkThen_iff.mp found
    · obtain ⟨symbol, member, isNot⟩ := unnumbered net rest same
      exact absurd (all symbol member) (by rw [isNot]; exact Bool.false_ne_true)
    · exact unique others found
  | some number =>
    refine fullMatch_eq_some (matches_networkThen_iff.mpr (Or.inl ⟨decimal number, body, kept, rfl,
      decimal_ne_nil, all_decimal number, rfl, matched⟩)) fun others found => ?_
    obtain ⟨net, rest, more, same, _, all, rfl, found⟩ | found := matches_networkThen_iff.mp found
    · obtain ⟨rfl, rfl⟩ := split_at_first colon_not_mem_decimal (colon_not_decimal all) same
      rw [unique more found]
      rfl
    · exact absurd found (apart number others)

-- IPv4 addresses and broadcasts

/-- What is behind the network number in `_ADDR_RE`. -/
def addrBody : Pattern Char :=
  .alt (.seq (.group 2 quadPattern) portPattern) (.group 4 (.literal '*'))

theorem quadPattern_silent : quadPattern.Silent := by
  simp [quadPattern, upToThreeDigits, dotThen, digit, opt, literal, Silent]

theorem quadPattern_within : quadPattern.Within fun symbol => isDecimal symbol ∨ symbol = '.' := by
  simp +contextual [quadPattern, upToThreeDigits, dotThen, digit, opt, literal, Within]

theorem quadPattern_mentions : quadPattern.Mentions fun symbol => symbol = '.' := by
  simp [quadPattern, dotThen, literal, Mentions]

theorem matches_upToThreeDigits (something : text ≠ []) (short : text.length ≤ 3)
    (all : ∀ symbol ∈ text, isDecimal symbol)
    : Matches upToThreeDigits text [] := by
  have one {symbol : Char} (is : isDecimal symbol) : Matches digit [symbol] [] :=
    matches_one_iff.mpr ⟨symbol, is, rfl, rfl⟩
  have last {symbol : Char} (is : isDecimal symbol) : Matches (.opt digit) [symbol] [] :=
    matches_opt_iff.mpr (Or.inl (one is))
  have none {item : Pattern Char} : Matches (.opt item) [] [] :=
    matches_opt_iff.mpr (Or.inr ⟨rfl, rfl⟩)
  have two {first : Char} {rest : Text} (is : isDecimal first) (more : Matches (.opt digit) rest [])
      : Matches (.opt (.seq digit (.opt digit))) (first :: rest) [] :=
    matches_opt_iff.mpr (Or.inl (.seq (one is) more))
  obtain ⟨first, rest, rfl⟩ := List.exists_cons_of_ne_nil something
  obtain ⟨isFirst, all⟩ := List.forall_mem_cons.mp all
  refine .seq (one isFirst) ?_
  cases rest with
  | nil => exact none
  | cons second rest =>
    obtain ⟨isSecond, all⟩ := List.forall_mem_cons.mp all
    cases rest with
    | nil => exact two isSecond none
    | cons third rest =>
      obtain ⟨isThird, _⟩ := List.forall_mem_cons.mp all
      simp only [List.length_cons] at short
      obtain rfl := List.length_eq_zero_iff.mp (show rest.length = 0 by omega)
      exact two isSecond (last isThird)

theorem matches_octet (octet : UInt8) : Matches upToThreeDigits (decimal octet.toNat) [] :=
  matches_upToThreeDigits decimal_ne_nil (length_decimal_octet octet) (all_decimal _)

theorem matches_dotThen (matched : Matches pattern rest []) : Matches (dotThen pattern) ('.' :: rest) [] :=
  .seq (matches_literal_iff.mpr ⟨rfl, rfl⟩) matched

theorem matches_quadPattern {octets} (four : octets.length = 4)
    : Matches quadPattern (dottedQuad octets) [] := by
  obtain ⟨first, second, third, fourth, rfl⟩ := List.length_eq_four.mp four
  exact .seq (matches_octet first) (matches_dotThen (.seq (matches_octet second)
    (matches_dotThen (.seq (matches_octet third) (matches_dotThen (matches_octet fourth))))))

theorem matches_addrBody_iff
    : Matches addrBody text captures
      ↔ (∃ host port kept, text = host ++ port ∧ captures = (2, host) :: kept
          ∧ Matches quadPattern host [] ∧ Matches portPattern port kept)
        ∨ text = ['*'] ∧ captures = [(4, ['*'])] := by
  rw [addrBody, matches_alt_iff, matches_seq_iff, matches_group_iff]
  constructor
  · rintro (⟨host, port, kept, more, rfl, rfl, before, behind⟩ | ⟨kept, rfl, star⟩)
    · obtain ⟨nothing, rfl, quad⟩ := matches_group_iff.mp before
      obtain rfl := quad.silent quadPattern_silent
      exact Or.inl ⟨host, port, more, rfl, rfl, quad, behind⟩
    · obtain ⟨rfl, rfl⟩ := matches_literal_iff.mp star
      exact Or.inr ⟨rfl, rfl⟩
  · rintro (⟨host, port, kept, rfl, rfl, quad, behind⟩ | ⟨rfl, rfl⟩)
    · exact Or.inl ⟨host, port, [(2, host)], kept, rfl, rfl, .group quad, behind⟩
    · exact Or.inr ⟨[], rfl, matches_literal_iff.mpr ⟨rfl, rfl⟩⟩

/-- A dotted quad has a dot, and no colons, stars and brackets. -/
theorem quad_symbols (quad : Matches quadPattern host [])
    : '.' ∈ host ∧ ':' ∉ host ∧ '*' ∉ host ∧ '[' ∉ host := by
  have all := quad.within quadPattern_within
  obtain ⟨_, member, rfl⟩ := quad.mentions quadPattern_mentions
  exact ⟨member, fun colon => absurd (all _ colon) (by decide),
    fun star => absurd (all _ star) (by decide), fun bracket => absurd (all _ bracket) (by decide)⟩

/-- A host in front of a port is found in one way. -/
theorem split_port {port others rest} (colonFree : ':' ∉ host) (quad : Matches quadPattern text [])
    (matched : Matches portPattern rest others) (same : host ++ ':' :: decimal port = text ++ rest)
    : text = host ∧ others = [(3, decimal port)] := by
  have textFree := (quad_symbols quad).2.1
  obtain ⟨digits, rfl, _, _, rfl⟩ | ⟨rfl, rfl⟩ := matches_portPattern_iff.mp matched
  · obtain ⟨rfl, rfl⟩ := split_at_first colonFree textFree same
    exact ⟨rfl, rfl⟩
  · rw [List.append_nil] at same
    exact absurd (same ▸ List.mem_append_right _ (List.mem_cons_self ..)) textFree

/-- A printed IPv4 address is found with its parts. -/
theorem addrRe_bipText (network : Option Nat) {octets} (four : octets.length = 4) (port : Nat)
    : addrRe.fullMatch (BACnetAddress.onNetwork network (dottedQuad octets ++ ':' :: decimal port))
      = some (onNetworkCaptures network [(2, dottedQuad octets), (3, decimal port)]) := by
  have quad := matches_quadPattern four
  obtain ⟨dot, colonFree, _⟩ := quad_symbols quad
  refine fullMatch_onNetwork network (matches_addrBody_iff.mpr (Or.inl ⟨_, _, _, rfl, rfl, quad,
    matches_portPattern_iff.mpr (Or.inl ⟨_, rfl, decimal_ne_nil, all_decimal port, rfl⟩)⟩)) ?_ ?_ ?_
  · intro others found
    obtain ⟨host, rest, more, same, rfl, other, behind⟩ | ⟨same, _⟩ := matches_addrBody_iff.mp found
    · obtain ⟨rfl, rfl⟩ := split_port colonFree other behind same
      rfl
    · exact absurd (same ▸ List.mem_append_right _ (List.mem_cons_self ..) : ':' ∈ ['*'])
        (by decide)
  · intro net rest same
    by_cases colon : ':' ∈ net
    · exact ⟨':', colon, by decide⟩
    · obtain ⟨rfl, _⟩ := split_at_first colonFree colon same
      exact ⟨'.', dot, by decide⟩
  · intro number others found
    obtain ⟨host, rest, more, same, rfl, other, behind⟩ | ⟨same, _⟩ := matches_addrBody_iff.mp found
    · have hostFree := (quad_symbols other).2.1
      obtain ⟨digits, rfl, _⟩ | ⟨rfl, rfl⟩ := matches_portPattern_iff.mp behind
      · obtain ⟨rfl, _⟩ := split_at_first colon_not_mem_decimal hostFree same
        exact absurd (isDigit_of_mem_decimal (quad_symbols other).1) (by decide)
      · rw [List.append_nil] at same
        exact absurd (same ▸ List.mem_append_right _ (List.mem_cons_self ..)) hostFree
    · exact absurd (same ▸ List.mem_append_right _ (List.mem_cons_self ..) : ':' ∈ ['*'])
        (by decide)

/-- A printed broadcast is found as one. -/
theorem addrRe_star (network : Option Nat)
    : addrRe.fullMatch (BACnetAddress.onNetwork network ['*'])
      = some (onNetworkCaptures network [(4, ['*'])]) := by
  have starred {text : Text} {others : Captures Char} (ends : '*' ∈ text) (found : Matches addrBody text others)
      : text = ['*'] ∧ others = [(4, ['*'])] := by
    obtain ⟨host, rest, more, rfl, _, quad, behind⟩ | same := matches_addrBody_iff.mp found
    · rcases List.mem_append.mp ends with member | member
      · exact absurd member (quad_symbols quad).2.2.1
      · obtain ⟨digits, rfl, _, all, _⟩ | ⟨rfl, _⟩ := matches_portPattern_iff.mp behind
        · rcases List.mem_cons.mp member with star | member
          · exact absurd star (by decide)
          · exact absurd (all _ member) (by decide)
        · exact absurd member List.not_mem_nil
    · exact same
  refine fullMatch_onNetwork network (matches_addrBody_iff.mpr (Or.inr ⟨rfl, rfl⟩)) ?_ ?_ ?_
  · exact fun others found => (starred (List.mem_singleton_self _) found).2
  · intro net rest same
    have colon : ':' ∈ ['*'] := same ▸ List.mem_append_right _ (List.mem_cons_self ..)
    exact absurd colon (by decide)
  · intro number others found
    have ends : '*' ∈ decimal number ++ [':', '*'] := by simp
    have colon : ':' ∈ ['*'] := (starred ends found).1 ▸ List.mem_append_right _ (by simp)
    exact absurd colon (by decide)

-- IPv6 addresses

/-- What is behind the network number in `_ADDR6_RE`. -/
def addr6Body : Pattern Char :=
  .seq (.literal '[') (.seq (.group 2 (.plus (.one fun symbol => symbol ≠ ']')))
    (.seq (.literal ']') portPattern))

theorem matches_addr6Body_iff
    : Matches addr6Body text captures
      ↔ ∃ host port kept, text = '[' :: (host ++ ']' :: port) ∧ host ≠ [] ∧ ']' ∉ host
        ∧ captures = (2, host) :: kept ∧ Matches portPattern port kept := by
  rw [addr6Body, matches_seq_iff]
  constructor
  · rintro ⟨opening, rest, nothing, kept, rfl, rfl, bracket, behind⟩
    obtain ⟨rfl, rfl⟩ := matches_literal_iff.mp bracket
    obtain ⟨host, rest, inside, kept, rfl, rfl, before, closed⟩ := matches_seq_iff.mp behind
    obtain ⟨closing, port, none, kept, rfl, rfl, closing, last⟩ := matches_seq_iff.mp closed
    obtain ⟨rfl, rfl⟩ := matches_literal_iff.mp closing
    obtain ⟨inner, rfl, symbols⟩ := matches_group_iff.mp before
    obtain ⟨something, all, rfl⟩ := matches_plus_one_iff.mp symbols
    exact ⟨host, port, kept, rfl, something,
      fun member => absurd (all _ member) (by decide), rfl, last⟩
  · rintro ⟨host, port, kept, rfl, something, free, rfl, behind⟩
    refine ⟨['['], host ++ ']' :: port, [], (2, host) :: kept, rfl, rfl,
      matches_literal_iff.mpr ⟨rfl, rfl⟩, ?_⟩
    refine matches_seq_iff.mpr ⟨host, ']' :: port, [(2, host)], kept, rfl, rfl, .group ?_,
      .seq (matches_literal_iff.mpr ⟨rfl, rfl⟩) behind⟩
    refine matches_plus_one_iff.mpr ⟨something, fun symbol member => decide_eq_true ?_, rfl⟩
    rintro rfl
    exact free member

/-- A printed IPv6 address is found with its parts. -/
theorem addr6Re_bip6Text (network : Option Nat) (something : host ≠ []) (free : ']' ∉ host)
    (port : Nat)
    : addr6Re.fullMatch (BACnetAddress.onNetwork network
        ('[' :: (host ++ ']' :: ':' :: decimal port)))
      = some (onNetworkCaptures network [(2, host), (3, decimal port)]) := by
  refine fullMatch_onNetwork network (matches_addr6Body_iff.mpr ⟨_, _, _, rfl, something, free, rfl,
    matches_portPattern_iff.mpr (Or.inl ⟨_, rfl, decimal_ne_nil, all_decimal port, rfl⟩)⟩) ?_ ?_ ?_
  · intro others found
    obtain ⟨other, rest, more, same, _, otherFree, rfl, behind⟩ := matches_addr6Body_iff.mp found
    obtain ⟨rfl, rfl⟩ := split_at_first free otherFree (List.cons.inj same).2
    obtain ⟨digits, same, _, _, rfl⟩ | ⟨same, _⟩ := matches_portPattern_iff.mp behind
    · rw [(List.cons.inj same).2]
    · cases same
  · intro net rest same
    cases net with
    | nil => exact absurd (List.cons.inj same).1 (by decide)
    | cons first net =>
      obtain ⟨rfl, _⟩ := List.cons.inj same
      exact ⟨'[', List.mem_cons_self .., by decide⟩
  · intro number others found
    obtain ⟨other, rest, more, same, _⟩ := matches_addr6Body_iff.mp found
    obtain ⟨first, digits, starts⟩ := List.exists_cons_of_ne_nil (@decimal_ne_nil number)
    rw [starts] at same
    have isDigit := isDigit_of_mem_decimal (starts ▸ List.mem_cons_self .. : first ∈ decimal number)
    rw [(List.cons.inj same).1] at isDigit
    exact absurd isDigit (by decide)

-- Hexadecimal MAC addresses

theorem matches_hexPair_iff
    : Matches hexPair text captures
      ↔ ∃ high low, isHex high ∧ isHex low ∧ text = [high, low] ∧ captures = [] := by
  rw [hexPair, matches_seq_iff]
  constructor
  · rintro ⟨part, later, kept, more, rfl, rfl, before, behind⟩
    obtain ⟨high, isHigh, rfl, rfl⟩ := matches_one_iff.mp before
    obtain ⟨low, isLow, rfl, rfl⟩ := matches_one_iff.mp behind
    exact ⟨high, low, isHigh, isLow, rfl, rfl⟩
  · rintro ⟨high, low, isHigh, isLow, rfl, rfl⟩
    exact ⟨[high], [low], [], [], rfl, rfl, .one isHigh, .one isLow⟩

theorem matches_hexPair (octet : UInt8)
    : Matches hexPair [Nat.digitChar (octet.toNat / 16), Nat.digitChar (octet.toNat % 16)] [] := by
  have small := octet.toNat_lt
  exact matches_hexPair_iff.mpr ⟨_, _, isHex_digitChar _ (by omega), isHex_digitChar _ (by omega),
    rfl, rfl⟩

theorem matches_many_hexPair (data : Bytes) : Matches (.many hexPair) (hexText data) [] := by
  induction data with
  | nil => exact .done
  | cons octet data ih =>
    exact .round (List.cons_ne_nil _ _) (matches_hexPair octet) ih

theorem hexPairs_silent : (Pattern.seq hexPair (.many hexPair)).Silent := by
  simp [hexPair, Silent]

/-- A printed MAC address of another network is found with its parts. -/
theorem remoteHexRe_hexText {data} (something : data ≠ []) (number : Nat)
    : remoteHexRe.fullMatch (decimal number ++ ':' :: hexText data)
      = some [(1, decimal number), (2, hexText data)] := by
  obtain ⟨octet, rest, rfl⟩ := List.exists_cons_of_ne_nil something
  have pairs : Matches (.group 2 (.seq hexPair (.many hexPair))) (hexText (octet :: rest))
      [(2, hexText (octet :: rest))] :=
    .group (.seq (matches_hexPair octet) (matches_many_hexPair rest))
  refine fullMatch_eq_some (.seq (matches_number_iff.mpr ⟨decimal_ne_nil, all_decimal number, rfl⟩)
    (matches_colonThen_iff.mpr ⟨_, rfl, pairs⟩)) fun others found => ?_
  obtain ⟨net, later, kept, more, same, rfl, before, behind⟩ := matches_seq_iff.mp found
  obtain ⟨digits, rfl, mac⟩ := matches_colonThen_iff.mp behind
  obtain ⟨_, all, rfl⟩ := matches_number_iff.mp before
  obtain ⟨rfl, rfl⟩ := split_at_first colon_not_mem_decimal (colon_not_decimal all) same
  obtain ⟨nothing, rfl, inner⟩ := matches_group_iff.mp mac
  obtain rfl := inner.silent hexPairs_silent
  rfl

-- Texts that are not matched

theorem etherRe_within
    : etherRe.Within fun symbol => isDecimal symbol ∨ isHex symbol ∨ symbol = ':' := by
  simp +contextual [etherRe, networkThen, hexPair, colonThen, digit, plus, opt, literal, Within]

/-- An Ethernet address has no other symbols than digits and colons. -/
theorem not_etherRe (member : symbol ∈ text) (notDecimal : isDecimal symbol = false)
    (notHex : isHex symbol = false) (notColon : symbol ≠ ':')
    : etherRe.fullMatch text = none := by
  refine fullMatch_eq_none_iff.mpr fun captures found => ?_
  rcases found.within etherRe_within symbol member with is | is | is
  · exact absurd is (by rw [notDecimal]; exact Bool.false_ne_true)
  · exact absurd is (by rw [notHex]; exact Bool.false_ne_true)
  · exact notColon is

theorem colon_mem (matched : Matches pattern text captures)
    (mentions : pattern.Mentions fun symbol => symbol = ':')
    : ':' ∈ text := by
  obtain ⟨_, member, rfl⟩ := matched.mentions mentions
  exact member

/-- An Ethernet address has colons. -/
theorem not_etherRe_of_colonFree (free : ':' ∉ text) : etherRe.fullMatch text = none :=
  fullMatch_eq_none_iff.mpr fun _ found =>
    free (colon_mem found (by simp [etherRe, networkThen, colonThen, literal, Mentions]))

theorem not_addr6Re (free : '[' ∉ text) : addr6Re.fullMatch text = none := by
  refine fullMatch_eq_none_iff.mpr fun captures found => ?_
  have mentions : addr6Re.Mentions fun symbol => symbol = '[' := by
    simp [addr6Re, networkThen, literal, Mentions]
  obtain ⟨_, member, rfl⟩ := found.mentions mentions
  exact free member

theorem not_addrRe (dotFree : '.' ∉ text) (starFree : '*' ∉ text)
    : addrRe.fullMatch text = none := by
  refine fullMatch_eq_none_iff.mpr fun captures found => ?_
  have mentions : addrRe.Mentions fun symbol => symbol = '.' ∨ symbol = '*' := by
    simp [addrRe, networkThen, quadPattern, dotThen, literal, Mentions]
  obtain ⟨_, member, rfl | rfl⟩ := found.mentions mentions
  · exact dotFree member
  · exact starFree member

theorem not_remoteHexRe (free : ':' ∉ text) : remoteHexRe.fullMatch text = none :=
  fullMatch_eq_none_iff.mpr fun _ found =>
    free (colon_mem found (by simp [remoteHexRe, colonThen, literal, Mentions]))

/-- A number and hexadecimal digits behind one colon are no Ethernet address, which has five. -/
theorem not_etherRe_of_oneColon (free : ':' ∉ rest) (number : Nat)
    : etherRe.fullMatch (decimal number ++ ':' :: rest) = none := by
  refine fullMatch_eq_none_iff.mpr fun captures found => ?_
  obtain ⟨net, behind, kept, same, _, all, _, ether⟩ | ether := matches_networkThen_iff.mp found
  · obtain ⟨rfl, rfl⟩ := split_at_first colon_not_mem_decimal (colon_not_decimal all) same
    exact free (colon_mem ether (by simp [colonThen, literal, Mentions]))
  · obtain ⟨inner, _, pairs⟩ := matches_group_iff.mp ether
    obtain ⟨pair, behind, _, _, same, _, first, others⟩ := matches_seq_iff.mp pairs
    obtain ⟨high, low, isHigh, isLow, rfl, _⟩ := matches_hexPair_iff.mp first
    obtain ⟨later, rfl, more⟩ := matches_colonThen_iff.mp others
    have pairFree : ':' ∉ [high, low] := by
      intro member
      rcases List.mem_pair.mp member with rfl | rfl
      · exact absurd isHigh (by decide)
      · exact absurd isLow (by decide)
    obtain ⟨_, rfl⟩ := split_at_first colon_not_mem_decimal pairFree same
    exact free (colon_mem more (by simp [colonThen, literal, Mentions]))

end BacPy
