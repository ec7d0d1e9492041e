import BacPy.Encoding.NestedValues

/-! The octets that the written out loops take for a whole value: those that are a balanced sequence
of tags when the length field of every tag, also that of an application Boolean, is a number of
octets behind it.
-/

namespace BacPy

open Library

/-- The octets close what is open, at `depth`, and nest tags at most `levels` deep, when every tag
has as much content as its length field says.
-/
inductive PlainlyNested (levels : Option Nat) : Nat → Bytes → Prop
  | done : PlainlyNested levels 0 []
  | primitive {depth : Nat} {header content rest : Bytes} {tag : Tag} (reads : TagHeader header tag)
      (notOpening : tag.isOpening = false) (notClosing : tag.isClosing = false)
      (size : content.length = tag.length) (behind : PlainlyNested levels depth rest)
      : PlainlyNested levels depth (header ++ (content ++ rest))
  | opening {depth : Nat} {header rest : Bytes} {tag : Tag} (reads : TagHeader header tag)
      (opens : tag.isOpening = true) (shallow : ∀ most ∈ levels, depth < most)
      (behind : PlainlyNested levels (depth + 1) rest)
      : PlainlyNested levels depth (header ++ rest)
  | closing {depth : Nat} {header rest : Bytes} {tag : Tag} (reads : TagHeader header tag)
      (closes : tag.isClosing = true) (behind : PlainlyNested levels depth rest)
      : PlainlyNested levels (depth + 1) (header ++ rest)

namespace PlainlyNested

variable {levels : Option Nat} {depth : Nat} {octets rest : Bytes}

/-- Balanced octets may stand in front of others at any depth that leaves room for theirs, by
induction on the first.
-/
theorem append {most outer} (nested : PlainlyNested levels depth octets)
    (room : ∀ limit ∈ most, ∃ level ∈ levels, level + outer ≤ limit)
    (behind : PlainlyNested most outer rest)
    : PlainlyNested most (depth + outer) (octets ++ rest) := by
  induction nested with
  | done => rwa [Nat.zero_add, List.nil_append]
  | primitive reads notOpening notClosing size _ ih =>
    rw [List.append_assoc, List.append_assoc]
    exact .primitive reads notOpening notClosing size ih
  | opening reads opens shallow _ ih =>
    rw [List.append_assoc]
    refine .opening reads opens (fun limit within => ?_) (by rwa [Nat.add_right_comm] at ih)
    obtain ⟨level, given, fits⟩ := room limit within
    have below := shallow level given
    omega
  | closing reads closes _ ih =>
    rw [List.append_assoc, Nat.add_right_comm]
    exact .closing reads closes ih

/-- Two balanced sequences in a row are one. -/
theorem append_same (first : PlainlyNested levels 0 octets) (second : PlainlyNested levels 0 rest)
    : PlainlyNested levels 0 (octets ++ rest) :=
  first.append (fun limit within => ⟨limit, within, Nat.le_refl limit⟩) second

/-- A limit may be dropped. -/
theorem unlimited (nested : PlainlyNested levels depth octets)
    : PlainlyNested none depth octets := by
  have whole : PlainlyNested none (depth + 0) (octets ++ []) :=
    nested.append (fun _ given => nomatch given) .done
  rwa [List.append_nil] at whole

end PlainlyNested

-- One round of the written out loop

section Scans

variable {limit : Option Nat} {data octets rest header : Bytes} {tag : Tag} {offset depth : Nat}

theorem scanRound_primitive (reads : TagHeader header tag) (notOpening : tag.isOpening = false)
    (notClosing : tag.isClosing = false) (here : data.drop offset = header ++ rest)
    : scanRound limit data offset depth
      = .ok (.next (offset + header.length + tag.length) depth) := by
  simp only [scanRound, reads.decoded here, bind, Except.bind, notOpening, notClosing,
    Bool.false_eq_true, if_false]

theorem scanRound_opening (reads : TagHeader header tag) (opens : tag.isOpening = true)
    (here : data.drop offset = header ++ rest)
    : scanRound limit data offset depth
      = if ∃ most ∈ limit, most < depth + 1 then
          .error (.valueError s!"Nesting depth exceeds {limit.getD 0}")
        else .ok (.next (offset + header.length) (depth + 1)) := by
  simp only [scanRound, reads.decoded here, bind, Except.bind, opens, if_true]

theorem scanRound_closing (reads : TagHeader header tag) (closes : tag.isClosing = true)
    (here : data.drop offset = header ++ rest)
    : scanRound limit data offset depth
      = if depth = 1 then .ok (.stop (some offset, offset + header.length))
        else .ok (.next (offset + header.length) (depth - 1)) := by
  have notOpening : tag.isOpening = false := by
    by_contra opens
    rw [Bool.not_eq_false] at opens
    rw [(decodeTag_marked (reads.decoded here)).1 opens] at closes
    cases closes
  simp only [scanRound, reads.decoded here, bind, Except.bind, notOpening, closes,
    Bool.false_eq_true, if_false, if_true]

-- Whole scans

/-- The loop goes through balanced octets that leave the limit alone, by induction on them. -/
theorem scan_through {levels outer} (nested : PlainlyNested levels depth octets)
    (outside : 1 ≤ outer) (room : ∀ most ∈ limit, ∃ level ∈ levels, level + outer ≤ most)
    (here : data.drop offset = octets ++ rest) {finish}
    : scan data.length (scanRound limit data) finish offset (depth + outer)
      = scan data.length (scanRound limit data) finish (offset + octets.length) outer := by
  induction nested generalizing offset with
  | done => simp only [Nat.zero_add, List.length_nil, Nat.add_zero]
  | primitive reads notOpening notClosing size _ ih =>
    rw [List.append_assoc, List.append_assoc] at here
    rw [scan_next (scanRound_advances _ _) (reads.inside here)
      (scanRound_primitive reads notOpening notClosing here), ← size,
      ih (drop_behind (drop_behind here))]
    simp only [List.length_append, Nat.add_assoc]
  | @opening depth header later tag reads opens shallow _ ih =>
    rw [List.append_assoc] at here
    have within : ¬ ∃ most ∈ limit, most < depth + outer + 1 := by
      rintro ⟨most, given, beyond⟩
      obtain ⟨level, allowed, fits⟩ := room most given
      have below := shallow level allowed
      omega
    have went : scanRound limit data offset (depth + outer) = _ :=
      scanRound_opening reads opens here
    rw [if_neg within, Nat.add_right_comm] at went
    rw [scan_next (scanRound_advances _ _) (reads.inside here) went, ih (drop_behind here)]
    simp only [List.length_append, Nat.add_assoc]
  | @closing depth header later tag reads closes _ ih =>
    rw [List.append_assoc] at here
    have went : scanRound limit data offset (depth + 1 + outer) = _ :=
      scanRound_closing reads closes here
    rw [if_neg (by omega), show depth + 1 + outer - 1 = depth + outer by omega] at went
    rw [scan_next (scanRound_advances _ _) (reads.inside here) went, ih (drop_behind here)]
    simp only [List.length_append, Nat.add_assoc]

/-- A loop that comes through balanced octets has not met its limit in them. -/
theorem nested_of_scan {outer} (nested : PlainlyNested none depth octets)
    (here : data.drop offset = octets ++ rest) {finish result}
    (scanned : scan data.length (scanRound limit data) finish offset (depth + outer) = .ok result)
    (outside : 1 ≤ outer)
    : PlainlyNested (limit.map (· - outer)) depth octets := by
  induction nested generalizing offset with
  | done => exact .done
  | primitive reads notOpening notClosing size _ ih =>
    rw [List.append_assoc, List.append_assoc] at here
    rw [scan_next (scanRound_advances _ _) (reads.inside here)
      (scanRound_primitive reads notOpening notClosing here), ← size] at scanned
    exact .primitive reads notOpening notClosing size (ih (drop_behind (drop_behind here)) scanned)
  | @opening depth header later tag reads opens shallow _ ih =>
    rw [List.append_assoc] at here
    have went : scanRound limit data offset (depth + outer) = _ :=
      scanRound_opening reads opens here
    split at went
    · rw [scan_error (reads.inside here) went] at scanned
      cases scanned
    · next within =>
        rw [scan_next (scanRound_advances _ _) (reads.inside here) went,
          Nat.add_right_comm] at scanned
        refine .opening reads opens (fun level allowed => ?_) (ih (drop_behind here) scanned)
        obtain ⟨most, given, rfl⟩ := Option.map_eq_some_iff.mp (Option.mem_def.mp allowed)
        have fits : ¬ most < depth + outer + 1 := fun beyond => within ⟨most, given, beyond⟩
        omega
  | @closing depth header later tag reads closes _ ih =>
    rw [List.append_assoc] at here
    have went : scanRound limit data offset (depth + 1 + outer) = _ :=
      scanRound_closing reads closes here
    rw [if_neg (by omega), show depth + 1 + outer - 1 = depth + outer by omega] at went
    rw [scan_next (scanRound_advances _ _) (reads.inside here) went] at scanned
    exact .closing reads closes (ih (drop_behind here) scanned)

/-- What a loop that ends with a closing tag has gone through: balanced octets, from the offset to
that tag.
-/
def ClosingFound (limit : Option Nat) (data : Bytes) (offset depth : Nat)
    (result : Option Nat × Nat) : Prop :=
  ∀ position ∈ result.1, offset ≤ position
    ∧ (1 ≤ depth → PlainlyNested (limit.map (· - 1)) (depth - 1) (slice data offset position))
    ∧ ∃ closing tag, TagHeader closing tag ∧ tag.isClosing = true
      ∧ data.drop position = closing ++ data.drop result.2 ∧ result.2 = position + closing.length

/-- All that a round can do that does not fail. -/
theorem scanRound_cases {outcome} (went : scanRound limit data offset depth = .ok outcome)
    : ∃ header tag, TagHeader header tag
        ∧ data.drop offset = header ++ data.drop (offset + header.length)
        ∧ ((tag.isOpening = true ∧ (∀ most ∈ limit, depth + 1 ≤ most)
            ∧ outcome = .next (offset + header.length) (depth + 1))
          ∨ (tag.isClosing = true ∧ depth = 1
            ∧ outcome = .stop (some offset, offset + header.length))
          ∨ (tag.isClosing = true ∧ depth ≠ 1
            ∧ outcome = .next (offset + header.length) (depth - 1))
          ∨ (tag.isOpening = false ∧ tag.isClosing = false
            ∧ outcome = .next (offset + header.length + tag.length) depth)) := by
  obtain ⟨⟨tag, newOffset⟩, read, _⟩ := bind_eq_ok.mp went
  obtain ⟨header, reads, rfl, _, here⟩ := decodeTag_read read
  refine ⟨header, tag, reads, here, ?_⟩
  cases opens : tag.isOpening with
  | true =>
    rw [scanRound_opening reads opens here] at went
    split at went
    · cases went
    · next within =>
        refine .inl ⟨rfl, fun most given => ?_, (Except.ok.inj went).symm⟩
        have fits : ¬ most < depth + 1 := fun beyond => within ⟨most, given, beyond⟩
        omega
  | false =>
    cases closes : tag.isClosing with
    | true =>
      rw [scanRound_closing reads closes here] at went
      split at went
      · next innermost => exact .inr (.inl ⟨rfl, innermost, (Except.ok.inj went).symm⟩)
      · next nested => exact .inr (.inr (.inl ⟨rfl, nested, (Except.ok.inj went).symm⟩))
    | false =>
      rw [scanRound_primitive reads opens closes here] at went
      exact .inr (.inr (.inr ⟨rfl, rfl, (Except.ok.inj went).symm⟩))

/-- A loop that finds a closing tag has gone through balanced octets, by the rule for loops. -/
theorem closingFound_of_scan {result}
    (scanned : scan data.length (scanRound limit data) (fun offset _ => .ok (none, offset))
      offset depth = .ok result)
    : ClosingFound limit data offset depth result := by
  refine scan_induction (ClosingFound limit data) (scanRound_advances limit data) ?past ?stop ?next
    scanned
  case past =>
    intro offset depth result _ ended position found
    cases ended
    cases found
  case stop =>
    intro offset depth result _ went position found
    obtain ⟨header, tag, reads, here, ⟨_, _, other⟩ | ⟨closes, rfl, stopped⟩ | ⟨_, _, other⟩
      | ⟨_, _, other⟩⟩ := scanRound_cases went
    · cases other
    · obtain rfl := Round.stop.inj stopped
      cases found
      have empty : slice data offset offset = [] := by simp [slice]
      refine ⟨Nat.le_refl _, fun _ => ?_, header, tag, reads, closes, here, rfl⟩
      rw [empty]
      exact .done
    · cases other
    · cases other
  case next =>
    intro offset depth later changed result _ went ih position found
    obtain ⟨behind, nested, closing, closingTag, closingReads, closes, there, ended⟩ :=
      ih position found
    have end_ := closingReads.inside there
    refine ⟨?_, fun outside => ?_, closing, closingTag, closingReads, closes, there, ended⟩
    · have moved := scanRound_advances _ _ _ _ _ _ went
      omega
    obtain ⟨header, tag, reads, here, ⟨opens, shallow, same⟩ | ⟨_, _, other⟩ | ⟨down, deep, same⟩
      | ⟨notOpening, notClosing, same⟩⟩ := scanRound_cases went
    · obtain ⟨rfl, rfl⟩ := Round.next.inj same
      rw [slice_behind here rfl behind]
      refine .opening reads opens (fun level allowed => ?_) ?_
      · obtain ⟨most, given, rfl⟩ := Option.map_eq_some_iff.mp (Option.mem_def.mp allowed)
        have fits := shallow most given
        omega
      · have inner := nested (by omega)
        rwa [show depth + 1 - 1 = depth - 1 + 1 by omega] at inner
    · cases other
    · obtain ⟨rfl, rfl⟩ := Round.next.inj same
      rw [slice_behind here rfl behind, show depth - 1 = depth - 1 - 1 + 1 by omega]
      exact .closing reads down (nested (by omega))
    · obtain ⟨rfl, rfl⟩ := Round.next.inj same
      have content := @drop_eq_slice_append data _ _
        (Nat.le_add_right (offset + header.length) tag.length)
      have size := @length_slice data _ _
        (show offset + header.length + tag.length ≤ data.length by omega)
      rw [slice_behind here rfl (by omega), slice_behind content (by rw [size]) behind]
      exact .primitive reads notOpening notClosing size (nested outside)

/-- A loop that finds no closing tag has come to the end of the data. -/
theorem ended_of_scan {position}
    (scanned : scan data.length (scanRound limit data) (fun offset _ => .ok (none, offset))
      offset depth = .ok (none, position))
    : data.length ≤ position := by
  refine scan_induction (fun _ _ result => result.1 = none → data.length ≤ result.2)
    (scanRound_advances limit data) ?past ?stop ?next scanned rfl
  case past =>
    intro offset depth result past ended _
    cases ended
    exact past
  case stop =>
    intro offset depth result _ went missing
    obtain ⟨header, tag, _, _, ⟨_, _, other⟩ | ⟨_, _, stopped⟩ | ⟨_, _, other⟩ | ⟨_, _, other⟩⟩ :=
      scanRound_cases went
    · cases other
    · obtain rfl := Round.stop.inj stopped
      cases missing
    · cases other
    · cases other
  case next =>
    intro _ _ _ _ _ _ _ ih
    exact ih

/-- Inside an opening tag there is room for one level less. -/
theorem room_inside {levels : Option Nat} (positive : ∀ most ∈ levels, 1 ≤ most)
    : ∀ most ∈ levels, ∃ level ∈ levels.map (· - 1), level + 1 ≤ most := by
  intro most given
  have above := positive most given
  exact ⟨most - 1, by rw [Option.mem_def.mp given]; rfl, by omega⟩

/-- The loop returns what stands in front of a closing tag exactly if that is balanced. -/
theorem scanToClosing_iff (positive : ∀ most ∈ limit, 1 ≤ most) {closing : Bytes}
    {closingTag : Tag} (reads : TagHeader closing closingTag)
    (closes : closingTag.isClosing = true) (here : data.drop offset = octets ++ (closing ++ rest))
    : scanToClosing limit data offset
        = .ok (some (offset + octets.length), offset + octets.length + closing.length)
      ↔ PlainlyNested (limit.map (· - 1)) 0 octets := by
  constructor
  · intro scanned
    obtain ⟨_, nested, _⟩ := closingFound_of_scan scanned _ rfl
    rw [← slice_here here]
    exact nested (Nat.le_refl 1)
  · intro nested
    have end_ := drop_behind here
    have found : scanRound limit data (offset + octets.length) 1
        = .ok (.stop (some (offset + octets.length), offset + octets.length + closing.length)) :=
      scanRound_closing reads closes end_
    have through : scanToClosing limit data offset = _ :=
      scan_through nested (Nat.le_refl 1) (room_inside positive) here
    rw [through, scan_stop (reads.inside end_) found]

end Scans

/-- The written out loop never goes back. -/
theorem scanToClosing_forward {limit data offset result}
    (scanned : scanToClosing limit data offset = .ok result)
    : offset ≤ result.2 := by
  refine scan_induction (fun offset _ result => offset ≤ result.2) (scanRound_advances limit data)
    ?past ?stop ?next scanned
  case past =>
    intro offset depth result _ ended
    cases ended
    exact Nat.le_refl _
  case stop =>
    intro offset depth result _ went
    obtain ⟨header, tag, _, _, ⟨_, _, other⟩ | ⟨_, _, stopped⟩ | ⟨_, _, other⟩ | ⟨_, _, other⟩⟩ :=
      scanRound_cases went
    · cases other
    · obtain rfl := Round.stop.inj stopped
      exact Nat.le_add_right _ _
    · cases other
    · cases other
  case next =>
    intro offset depth later changed result _ went ih
    have moved := scanRound_advances _ _ _ _ _ _ went
    omega

/-- Sequences without a Boolean `True` are balanced also in this reading, by induction on them. -/
theorem TaggedValues.NoTrue.plainlyNested {values : TaggedValues} (plain : values.NoTrue)
    (wellFormed : values.WellFormed) {octets : Bytes} (encoded : values.encode = .ok octets)
    {levels : Option Nat} (shallow : ∀ most ∈ levels, values.levels ≤ most)
    : PlainlyNested levels 0 octets := by
  induction values generalizing octets levels with
  | nil =>
    cases encoded
    exact .done
  | primitive cls number content rest ih =>
    obtain ⟨_, sane, _, others⟩ := wellFormed
    obtain ⟨header, first, encoded⟩ := bind_eq_ok.mp encoded
    obtain ⟨behind, second, encoded⟩ := bind_eq_ok.mp encoded
    cases encoded
    exact .primitive (encodeTag_header first sane) rfl rfl rfl
      (ih plain others second shallow)
  | boolean value rest ih =>
    obtain ⟨rfl, plain⟩ := plain
    obtain ⟨header, first, encoded⟩ := bind_eq_ok.mp encoded
    obtain ⟨behind, second, encoded⟩ := bind_eq_ok.mp encoded
    cases encoded
    have noContent : ([] : Bytes).length = 0 := rfl
    exact .primitive (encodeTag_header first (by simp)) rfl rfl noContent
      (ih plain wellFormed second shallow)
  | constructed number values rest ihValues ihRest =>
    obtain ⟨inRange, inner, others⟩ := wellFormed
    obtain ⟨within, first, encoded⟩ := bind_eq_ok.mp encoded
    obtain ⟨behind, second, encoded⟩ := bind_eq_ok.mp encoded
    cases encoded
    have deep : ∀ most ∈ levels, values.levels + 1 ≤ most ∧ rest.levels ≤ most :=
      fun most given => Nat.max_le.mp (shallow most given)
    have positive : ∀ most ∈ levels, 1 ≤ most := fun most given => by
      have enough := (deep most given).1
      omega
    have closed : PlainlyNested levels (0 + 1) (encodeClosingTag number ++ behind) :=
      .closing (encodeClosingTag_header inRange) rfl
        (ihRest plain.2 others second fun most given => (deep most given).2)
    have inside : PlainlyNested (levels.map (· - 1)) 0 within := by
      refine ihValues plain.1 inner first fun level allowed => ?_
      obtain ⟨most, given, rfl⟩ := Option.map_eq_some_iff.mp (Option.mem_def.mp allowed)
      have enough := (deep most given).1
      omega
    exact .opening (encodeOpeningTag_header inRange) rfl positive
      (inside.append (room_inside positive) closed)

end BacPy
