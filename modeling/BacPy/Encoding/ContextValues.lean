import BacPy.Encoding.ApduSafety
import BacPy.Encoding.NestedValues

/-! `extract_context_value` on any octets: it returns what stands in front of the closing tag that
matches, if there is one, and raises a ValueError otherwise, without a read outside of the buffer.
-/

namespace BacPy

open Library

-- Balanced octets

/-- How many octets are the content behind a tag: an application Boolean has none. -/
def Tag.contentLength (tag : Tag) : Nat :=
  if tag.cls = .application ∧ tag.number = 1 then 0 else tag.length

/-- The octets close what is open, at `depth`, and nest tags fewer than 32 deep. The headers may have
any form that the decoder accepts.
-/
inductive Balanced : Nat → Bytes → Prop
  | done : Balanced 0 []
  | value {depth : Nat} {header content rest : Bytes} {tag : Tag} (reads : TagHeader header tag)
      (notOpening : tag.isOpening = false) (notClosing : tag.isClosing = false)
      (size : content.length = tag.contentLength) (behind : Balanced depth rest)
      : Balanced depth (header ++ (content ++ rest))
  | opening {depth : Nat} {header rest : Bytes} {tag : Tag} (reads : TagHeader header tag)
      (opens : tag.isOpening = true) (shallow : depth + 1 < maxNestingDepth)
      (behind : Balanced (depth + 1) rest)
      : Balanced depth (header ++ rest)
  | closing {depth : Nat} {header rest : Bytes} {tag : Tag} (reads : TagHeader header tag)
      (closes : tag.isClosing = true) (behind : Balanced depth rest)
      : Balanced (depth + 1) (header ++ rest)

def ClosingHeader (tagNumber : Nat) (header : Bytes) : Prop :=
  ∃ tag, TagHeader header tag ∧ tag.isClosing = true ∧ tag.number = tagNumber

/-- The encoded sequences of values are balanced, at any depth that leaves room for them, by
induction on them.
-/
theorem TaggedValues.WellFormed.balanced {values : TaggedValues} (wellFormed : values.WellFormed)
    {octets behind : Bytes} (encoded : values.encode = .ok octets) {depth : Nat}
    (shallow : depth + values.levels < maxNestingDepth) (rest : Balanced depth behind)
    : Balanced depth (octets ++ behind) := by
  induction values generalizing octets behind depth with
  | nil =>
    cases encoded
    exact rest
  | primitive cls number content later ih =>
    obtain ⟨inRange, sane, notBoolean, others⟩ := wellFormed
    obtain ⟨header, first, encoded⟩ := bind_eq_ok.mp encoded
    obtain ⟨octets, second, encoded⟩ := bind_eq_ok.mp encoded
    cases encoded
    rw [List.append_assoc, List.append_assoc]
    exact .value (encodeTag_header first sane) rfl rfl (if_neg notBoolean).symm
      (ih others second shallow rest)
  | boolean value later ih =>
    obtain ⟨header, first, encoded⟩ := bind_eq_ok.mp encoded
    obtain ⟨octets, second, encoded⟩ := bind_eq_ok.mp encoded
    cases encoded
    have noContent : ([] : Bytes).length
        = ({ number := 1, cls := .application, length := if value then 1 else 0 } : Tag).contentLength :=
      rfl
    rw [List.append_assoc, ← List.nil_append (octets ++ behind)]
    exact .value (encodeTag_header first (by split <;> omega)) rfl rfl noContent
      (ih wellFormed second shallow rest)
  | constructed number values later ihValues ihLater =>
    obtain ⟨inRange, inner, others⟩ := wellFormed
    obtain ⟨within, first, encoded⟩ := bind_eq_ok.mp encoded
    obtain ⟨octets, second, encoded⟩ := bind_eq_ok.mp encoded
    cases encoded
    simp only [TaggedValues.levels] at shallow
    simp only [List.append_assoc]
    exact .opening (encodeOpeningTag_header inRange) rfl (by omega)
      (ihValues inner first (by omega)
        (.closing (encodeClosingTag_header inRange) rfl (ihLater others second (by omega) rest)))

-- One round

section Rounds

variable {data header rest : Bytes} {tag : Tag} {valueStart tagNumber offset depth : Nat}

theorem extractRound_opening (reads : TagHeader header tag) (opens : tag.isOpening = true)
    (here : data.drop offset = header ++ rest)
    : extractRound data valueStart tagNumber offset depth
      = if maxNestingDepth < depth + 1 then
          .error (.valueError
            (s!"Context tag nesting depth exceeds maximum ({maxNestingDepth}): "
              ++ "possible malformed packet"))
        else .ok (.next (offset + header.length) (depth + 1)) := by
  simp only [extractRound, reads.decoded here, bind, Except.bind, opens, if_true]
  rfl

theorem extractRound_closing (reads : TagHeader header tag) (closes : tag.isClosing = true)
    (here : data.drop offset = header ++ rest)
    : extractRound data valueStart tagNumber offset depth
      = if depth = 1 then
          if tag.number ≠ tagNumber then
            .error (.valueError
              s!"Closing tag {tag.number} does not match opening tag {tagNumber}")
          else .ok (.stop (slice data valueStart offset, offset + header.length))
        else .ok (.next (offset + header.length) (depth - 1)) := by
  have notOpening : tag.isOpening = false := by
    by_contra opens
    rw [Bool.not_eq_false] at opens
    rw [(decodeTag_marked (reads.decoded here)).1 opens] at closes
    cases closes
  simp only [extractRound, reads.decoded here, bind, Except.bind, notOpening, closes,
    Bool.false_eq_true, if_false, if_true]

theorem extractRound_value (reads : TagHeader header tag) (notOpening : tag.isOpening = false)
    (notClosing : tag.isClosing = false) (here : data.drop offset = header ++ rest)
    : extractRound data valueStart tagNumber offset depth
      = if data.length < offset + header.length + tag.contentLength then
          .error (.valueError
            s!"Tag data overflows buffer: need {tag.length} bytes at offset {offset + header.length}")
        else .ok (.next (offset + header.length + tag.contentLength) depth) := by
  have inside : offset + header.length ≤ data.length := by
    have moved := reads.length_pos
    have whole := congrArg List.length here
    rw [List.length_drop, List.length_append] at whole
    omega
  simp only [extractRound, reads.decoded here, bind, Except.bind, notOpening, notClosing,
    Bool.false_eq_true, if_false]
  unfold Tag.contentLength
  by_cases boolean : tag.cls = .application ∧ tag.number = 1
  · rw [if_pos boolean, if_pos boolean, Nat.add_zero, if_neg (Nat.not_lt.mpr inside)]
  · rw [if_neg boolean, if_neg boolean]

/-- All that a round can do that does not fail. -/
theorem extractRound_cases {outcome}
    (went : extractRound data valueStart tagNumber offset depth = .ok outcome)
    : ∃ header tag, TagHeader header tag
        ∧ data.drop offset = header ++ data.drop (offset + header.length)
        ∧ ((tag.isOpening = true ∧ depth + 1 ≤ maxNestingDepth
            ∧ outcome = .next (offset + header.length) (depth + 1))
          ∨ (tag.isClosing = true ∧ depth = 1 ∧ tag.number = tagNumber
            ∧ outcome = .stop (slice data valueStart offset, offset + header.length))
          ∨ (tag.isClosing = true ∧ depth ≠ 1
            ∧ outcome = .next (offset + header.length) (depth - 1))
          ∨ (tag.isOpening = false ∧ tag.isClosing = false
            ∧ offset + header.length + tag.contentLength ≤ data.length
            ∧ outcome = .next (offset + header.length + tag.contentLength) depth)) := by
  obtain ⟨⟨tag, newOffset⟩, read, _⟩ := bind_eq_ok.mp went
  obtain ⟨header, reads, rfl, _, here⟩ := decodeTag_read read
  refine ⟨header, tag, reads, here, ?_⟩
  cases opens : tag.isOpening with
  | true =>
    rw [extractRound_opening reads opens here] at went
    split at went
    · cases went
    · next shallow => exact .inl ⟨rfl, Nat.not_lt.mp shallow, (Except.ok.inj went).symm⟩
  | false =>
    cases closes : tag.isClosing with
    | true =>
      rw [extractRound_closing reads closes here] at went
      split at went
      · next innermost =>
          split at went
          · cases went
          · next matching =>
              exact .inr (.inl ⟨rfl, innermost, not_not.mp matching, (Except.ok.inj went).symm⟩)
      · next nested => exact .inr (.inr (.inl ⟨rfl, nested, (Except.ok.inj went).symm⟩))
    | false =>
      rw [extractRound_value reads opens closes here] at went
      split at went
      · cases went
      · next inside =>
          exact .inr (.inr (.inr ⟨rfl, rfl, Nat.not_lt.mp inside, (Except.ok.inj went).symm⟩))

/-- A round raises nothing but a ValueError. -/
theorem onlyValueErrors_extractRound
    : OnlyValueErrors (extractRound data valueStart tagNumber offset depth) := by
  unfold extractRound
  refine (onlyValueErrors_decodeTag data offset).bind fun (tag, newOffset) => ?_
  dsimp only
  repeat' split
  all_goals first
    | exact .ok _
    | exact .valueError _

end Rounds

-- Whole extractions

section Extractions

variable {data octets rest : Bytes} {valueStart tagNumber offset depth : Nat}

/-- The loop goes through balanced octets, by induction on them. -/
theorem extract_balanced (nested : Balanced depth octets) (here : data.drop offset = octets ++ rest)
    {finish}
    : scan data.length (extractRound data valueStart tagNumber) finish offset (depth + 1)
      = scan data.length (extractRound data valueStart tagNumber) finish (offset + octets.length) 1 := by
  induction nested generalizing offset with
  | done => rfl
  | @value depth header content later tag reads notOpening notClosing size _ ih =>
    simp only [List.append_assoc] at here
    have behind := drop_behind here
    have inside := reads.inside here
    have fits : ¬ data.length < offset + header.length + tag.contentLength := by
      have whole := congrArg List.length here
      simp only [List.length_drop, List.length_append] at whole
      omega
    have went : extractRound data valueStart tagNumber offset (depth + 1) = _ :=
      extractRound_value reads notOpening notClosing here
    rw [if_neg fits] at went
    rw [scan_next (extractRound_advances _ _ _) inside went, ← size, ih (drop_behind behind)]
    simp only [List.length_append, Nat.add_assoc]
  | @opening depth header later tag reads opens shallow _ ih =>
    rw [List.append_assoc] at here
    have went : extractRound data valueStart tagNumber offset (depth + 1) = _ :=
      extractRound_opening reads opens here
    rw [if_neg (by omega)] at went
    rw [scan_next (extractRound_advances _ _ _) (reads.inside here) went, ih (drop_behind here)]
    simp only [List.length_append, Nat.add_assoc]
  | @closing depth header later tag reads closes _ ih =>
    rw [List.append_assoc] at here
    have went : extractRound data valueStart tagNumber offset (depth + 1 + 1) = _ :=
      extractRound_closing reads closes here
    rw [if_neg (by omega), Nat.add_sub_cancel] at went
    rw [scan_next (extractRound_advances _ _ _) (reads.inside here) went, ih (drop_behind here)]
    simp only [List.length_append, Nat.add_assoc]

/-- What a successful loop has gone through: balanced octets, from the offset to the closing tag. -/
def Extracted (data : Bytes) (valueStart tagNumber offset depth : Nat) (result : Bytes × Nat) : Prop :=
  ∃ position closing, offset ≤ position ∧ result.1 = slice data valueStart position
    ∧ (1 ≤ depth → Balanced (depth - 1) (slice data offset position))
    ∧ ClosingHeader tagNumber closing ∧ data.drop position = closing ++ data.drop result.2
    ∧ result.2 = position + closing.length

theorem extracted_of_scan {result}
    (scanned : scan data.length (extractRound data valueStart tagNumber)
      (fun _ _ => .error (.valueError s!"Missing closing tag {tagNumber}")) offset depth = .ok result)
    : Extracted data valueStart tagNumber offset depth result := by
  refine scan_induction (Extracted data valueStart tagNumber)
    (extractRound_advances data valueStart tagNumber) ?past ?stop ?next scanned
  case past =>
    intro offset depth result _ ended
    cases ended
  case stop =>
    intro offset depth result _ went
    obtain ⟨header, tag, reads, here, ⟨_, _, other⟩ | ⟨closes, rfl, matching, stopped⟩
      | ⟨_, _, other⟩ | ⟨_, _, _, other⟩⟩ := extractRound_cases went
    · cases other
    · obtain rfl := Round.stop.inj stopped
      have empty : slice data offset offset = [] := by simp [slice]
      refine ⟨offset, header, Nat.le_refl _, rfl, fun _ => ?_, ⟨tag, reads, closes, matching⟩, here, rfl⟩
      rw [empty]
      exact .done
    · cases other
    · cases other
  case next =>
    intro offset depth later changed result _ went found
    obtain ⟨position, closing, behind, value, nested, matched⟩ := found
    obtain ⟨header, tag, reads, here, ⟨opens, shallow, same⟩ | ⟨_, _, _, other⟩
      | ⟨down, deep, same⟩ | ⟨notOpening, notClosing, inside, same⟩⟩ := extractRound_cases went
    · obtain ⟨rfl, rfl⟩ := Round.next.inj same
      refine ⟨position, closing, by omega, value, fun outside => ?_, matched⟩
      rw [slice_behind here rfl behind]
      refine .opening reads opens (by omega) ?_
      have inner := nested (by omega)
      rwa [show depth + 1 - 1 = depth - 1 + 1 by omega] at inner
    · cases other
    · obtain ⟨rfl, rfl⟩ := Round.next.inj same
      refine ⟨position, closing, by omega, value, fun outside => ?_, matched⟩
      rw [slice_behind here rfl behind, show depth - 1 = depth - 1 - 1 + 1 by omega]
      exact .closing reads down (nested (by omega))
    · obtain ⟨rfl, rfl⟩ := Round.next.inj same
      refine ⟨position, closing, by omega, value, fun outside => ?_, matched⟩
      have content := @drop_eq_slice_append data _ _
        (Nat.le_add_right (offset + header.length) tag.contentLength)
      have size := @length_slice data _ _ inside
      rw [slice_behind here rfl (by omega), slice_behind content (by rw [size]) behind]
      exact .value reads notOpening notClosing size (nested outside)

def Encloses (data : Bytes) (offset tagNumber : Nat) (value : Bytes) (next : Nat) : Prop :=
  ∃ closing rest, Balanced 0 value ∧ ClosingHeader tagNumber closing
    ∧ data.drop offset = value ++ (closing ++ rest) ∧ next = offset + value.length + closing.length

/-- What is extracted is what stands in front of the closing tag that matches. -/
theorem extractContextValue_eq_ok_iff {value next}
    : extractContextValue data offset tagNumber = .ok (value, next)
      ↔ Encloses data offset tagNumber value next := by
  constructor
  · intro extracted
    obtain ⟨position, closing, behind, same, nested, matched, here, ended⟩ :=
      extracted_of_scan extracted
    have whole := @drop_eq_slice_append data _ _ behind
    have size : (slice data offset position).length = position - offset := by
      obtain ⟨tag, reads, _⟩ := matched
      have inside := reads.inside here
      have sized := @length_slice data offset (position - offset) (by omega)
      rwa [Nat.add_sub_cancel' behind] at sized
    dsimp only at same here ended
    subst same
    refine ⟨closing, data.drop next, nested (Nat.le_refl 1), matched, ?_, by omega⟩
    rw [whole, here]
  · rintro ⟨closing, rest, nested, ⟨tag, reads, closes, matching⟩, here, rfl⟩
    have end_ := drop_behind here
    have found : extractRound data offset tagNumber (offset + value.length) 1 = _ :=
      extractRound_closing reads closes end_
    rw [if_pos rfl, if_neg (not_not.mpr matching), slice_here here] at found
    rw [extractContextValue, extract_balanced nested here, scan_stop (reads.inside end_) found]

/-- `extract_context_value` returns the octets of a sequence nested fewer than 32 levels. -/
theorem extractContextValue_encode {values : TaggedValues} (wellFormed : values.WellFormed)
    (encoded : values.encode = .ok octets) (shallow : values.levels < maxNestingDepth)
    (inRange : tagNumber ≤ 254)
    (here : data.drop offset = octets ++ (encodeClosingTag tagNumber ++ rest))
    : extractContextValue data offset tagNumber
      = .ok (octets, offset + octets.length + (encodeClosingTag tagNumber).length) := by
  have nested := wellFormed.balanced encoded (by rwa [Nat.zero_add]) .done
  rw [List.append_nil] at nested
  exact extractContextValue_eq_ok_iff.mpr ⟨_, rest, nested,
    ⟨_, encodeClosingTag_header inRange, rfl, rfl⟩, here, rfl⟩

theorem onlyValueErrors_extractContextValue (data : Bytes) (offset tagNumber : Nat)
    : OnlyValueErrors (extractContextValue data offset tagNumber) := by
  intro raised failed
  refine scanFor_failure (fun raised => raised.isValueError = true) ?_ ?_ failed
  · intro _ _ raised refused
    exact onlyValueErrors_extractRound raised refused
  · intro _ _ raised missing
    cases missing
    rfl

-- Reads inside of the buffer

/-- A round of `extract_context_value`, with a slice that does not leave the buffer. -/
def Within.extractRound (data : Bytes) (valueStart tagNumber : Nat) (offset depth : Nat)
    : Except PyException (Round Nat (Bytes × Nat)) := do
  let (tag, newOffset) ← Within.decodeTag data offset
  if tag.isOpening then
    if maxNestingDepth < depth + 1 then
      .error (.valueError
        s!"Context tag nesting depth exceeds maximum ({maxNestingDepth}): possible malformed packet")
    else .ok (.next newOffset (depth + 1))
  else if tag.isClosing then
    if depth = 1 then
      if tag.number ≠ tagNumber then
        .error (.valueError
          s!"Closing tag {tag.number} does not match opening tag {tagNumber}")
      else do
        let value ← Within.slice data valueStart offset
        .ok (.stop (value, newOffset))
    else .ok (.next newOffset (depth - 1))
  else if tag.cls = .application ∧ tag.number = 1 then .ok (.next newOffset depth)
  else if data.length < newOffset + tag.length then
    .error (.valueError
      s!"Tag data overflows buffer: need {tag.length} bytes at offset {newOffset}")
  else .ok (.next (newOffset + tag.length) depth)

def Within.extractContextValue (data : Bytes) (offset tagNumber : Nat)
    : Except PyException (Bytes × Nat) :=
  scan data.length (Within.extractRound data offset tagNumber)
    (fun _ _ => .error (.valueError s!"Missing closing tag {tagNumber}")) offset 1

theorem Within.extractRound_eq (behind : valueStart ≤ offset) (inside : offset < data.length)
    : Within.extractRound data valueStart tagNumber offset depth
      = BacPy.extractRound data valueStart tagNumber offset depth := by
  have here : Within.slice data valueStart offset = .ok (BacPy.slice data valueStart offset) :=
    if_pos ⟨behind, Nat.le_of_lt inside⟩
  unfold Within.extractRound BacPy.extractRound
  rw [Within.decodeTag_eq, here]
  rfl

theorem Within.extractContextValue_eq (data : Bytes) (offset tagNumber : Nat)
    : Within.extractContextValue data offset tagNumber
      = BacPy.extractContextValue data offset tagNumber :=
  scanFor_congr (extractRound_advances data offset tagNumber)
    (fun _ _ behind inside => Within.extractRound_eq behind inside) _ (Nat.le_refl offset)

-- The whole function

/-- Encoded values in front of the closing tag are returned; altogether what is returned is what the
closing tag that matches encloses. The loop needs no more rounds than there are octets, no read
leaves the buffer, and without a closing tag that matches a ValueError is raised.
-/
theorem extraction_exact (data : Bytes) (offset tagNumber : Nat)
    : (∀ (values : TaggedValues) octets rest, values.WellFormed → values.levels < maxNestingDepth
        → values.encode = .ok octets → tagNumber ≤ 254
        → data.drop offset = octets ++ (encodeClosingTag tagNumber ++ rest)
        → extractContextValue data offset tagNumber
          = .ok (octets, offset + octets.length + (encodeClosingTag tagNumber).length))
      ∧ (∀ value next, extractContextValue data offset tagNumber = .ok (value, next)
        ↔ Encloses data offset tagNumber value next)
      ∧ (∀ fuel, data.length - offset ≤ fuel
        → scanFor data.length (extractRound data offset tagNumber)
            (fun _ _ => .error (.valueError s!"Missing closing tag {tagNumber}")) fuel offset 1
          = extractContextValue data offset tagNumber)
      ∧ Within.extractContextValue data offset tagNumber = extractContextValue data offset tagNumber
      ∧ ((¬ ∃ value next, Encloses data offset tagNumber value next)
        → ∃ message, extractContextValue data offset tagNumber = .error (.valueError message)) := by
  refine ⟨?_, fun value next => extractContextValue_eq_ok_iff, fun fuel enough => ?_,
    Within.extractContextValue_eq data offset tagNumber, fun missing => ?_⟩
  · intro values octets rest wellFormed shallow encoded inRange here
    exact extractContextValue_encode wellFormed encoded shallow inRange here
  · exact scanFor_fuel (extractRound_advances data offset tagNumber) enough (Nat.le_refl _)
  · cases extracted : extractContextValue data offset tagNumber with
    | ok result => exact absurd ⟨_, _, extractContextValue_eq_ok_iff.mp extracted⟩ missing
    | error raised =>
      have kind := onlyValueErrors_extractContextValue data offset tagNumber raised extracted
      cases raised with
      | valueError message => exact ⟨message, rfl⟩
      | _ => cases kind

end Extractions

/-- A constructed value with a Boolean in it, in front of closing tag 3. -/
example : extractContextValue [0x2E, 0x11, 0x2F, 0x3F, 0x00] 0 3 = .ok ([0x2E, 0x11, 0x2F], 4) := by
  decide

end BacPy
