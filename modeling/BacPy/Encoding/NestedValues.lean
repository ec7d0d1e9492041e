import BacPy.Encoding.TagHeaders

/-! Values between an opening and a closing tag: the scanner that the codecs share, which knows that
an application Boolean has no content, and the loop that several decoders have written out instead,
which takes the value of every Boolean for the length of its content.
-/

namespace BacPy

open Library

-- The scanners

/-- `_MAX_CONTEXT_NESTING_DEPTH` and the `_MAX_NESTING_DEPTH` of the services. -/
def maxNestingDepth : Nat := 32

/-- A round of `extract_context_value`, inside `depth` opening tags. -/
def extractRound (data : Bytes) (valueStart tagNumber : Nat) (offset depth : Nat)
    : Except PyException (Round Nat (Bytes × Nat)) := do
  let (tag, newOffset) ← decodeTag data offset
  if tag.isOpening then
    if maxNestingDepth < depth + 1 then
      .error (.valueError
        s!"Context tag nesting depth exceeds maximum ({maxNestingDepth}): possible malformed packet")
    else .ok (.next newOffset (depth + 1))
  else if tag.isClosing then
    if depth = 1 then
      if tag.number ≠ tagNumber then
        .error (.valueError
          s!"Closing tag {tag.number} does not match opening tag {tagNumber}")
      else .ok (.stop (slice data valueStart offset, newOffset))
    else .ok (.next newOffset (depth - 1))
  else if tag.cls = .application ∧ tag.number = 1 then
    -- an application Boolean has its value in the tag
    .ok (.next newOffset depth)
  else if data.length < newOffset + tag.length then
    .error (.valueError
      s!"Tag data overflows buffer: need {tag.length} bytes at offset {newOffset}")
  else .ok (.next (newOffset + tag.length) depth)

def extractContextValue (data : Bytes) (offset tagNumber : Nat)
    : Except PyException (Bytes × Nat) :=
  scan data.length (extractRound data offset tagNumber)
    (fun _ _ => .error (.valueError s!"Missing closing tag {tagNumber}")) offset 1

/-- A round of the loop that the decoders have written out. It skips as many octets as the length
field of a tag says, whatever the tag is.
-/
def scanRound (limit : Option Nat) (data : Bytes) (offset depth : Nat)
    : Except PyException (Round Nat (Option Nat × Nat)) := do
  let (tag, newOffset) ← decodeTag data offset
  if tag.isOpening then
    if ∃ most ∈ limit, most < depth + 1 then
      .error (.valueError s!"Nesting depth exceeds {limit.getD 0}")
    else .ok (.next newOffset (depth + 1))
  else if tag.isClosing then
    if depth = 1 then .ok (.stop (some offset, newOffset))
    else .ok (.next newOffset (depth - 1))
  else .ok (.next (newOffset + tag.length) depth)

/-- The written out loop, from behind an opening tag: where the closing tag stands, if the data does
not end first, and the offset it has come to. Some decoders limit the depth.
-/
def scanToClosing (limit : Option Nat) (data : Bytes) (offset : Nat)
    : Except PyException (Option Nat × Nat) :=
  scan data.length (scanRound limit data) (fun offset _ => .ok (none, offset)) offset 1

theorem extractRound_advances (data : Bytes) (valueStart tagNumber : Nat)
    : Advances (extractRound data valueStart tagNumber) := by
  intro offset depth later changed went
  obtain ⟨⟨tag, newOffset⟩, read, went⟩ := bind_eq_ok.mp went
  obtain ⟨header, reads, rfl, _, _⟩ := decodeTag_read read
  have moved := reads.length_pos
  dsimp only at went
  repeat' split at went
  all_goals first
    | (obtain ⟨rfl, _⟩ := Round.next.inj (Except.ok.inj went); omega)
    | cases went

theorem scanRound_advances (limit : Option Nat) (data : Bytes) : Advances (scanRound limit data) := by
  intro offset depth later changed went
  obtain ⟨⟨tag, newOffset⟩, read, went⟩ := bind_eq_ok.mp went
  obtain ⟨header, reads, rfl, _, _⟩ := decodeTag_read read
  have moved := reads.length_pos
  dsimp only at went
  repeat' split at went
  all_goals first
    | (obtain ⟨rfl, _⟩ := Round.next.inj (Except.ok.inj went); omega)
    | cases went

-- Sequences of tagged values

/-- A sequence of application- and context-tagged values. What a constructed value holds is such a
sequence again.
-/
inductive TaggedValues where
  | nil
  | primitive (cls : TagClass) (number : Nat) (content : Bytes) (rest : TaggedValues)
  | boolean (value : Bool) (rest : TaggedValues)
  | constructed (number : Nat) (values rest : TaggedValues)

namespace TaggedValues

def encode : TaggedValues → Except PyException Bytes
  | nil => .ok []
  | primitive cls number content rest => do
      let header ← encodeTag number cls content.length
      let later ← rest.encode
      .ok (header ++ (content ++ later))
  | boolean value rest => do
      let header ← encodeTag 1 .application (if value then 1 else 0)
      let later ← rest.encode
      .ok (header ++ later)
  | constructed number values rest => do
      let inner ← values.encode
      let later ← rest.encode
      .ok (encodeOpeningTag number ++ (inner ++ (encodeClosingTag number ++ later)))

/-- The tag numbers are encodable, no content is so long that the decoder refuses it, and a Boolean
among the application-tagged values is a Boolean.
-/
def WellFormed : TaggedValues → Prop
  | nil => True
  | primitive cls number content rest =>
    number ≤ 254 ∧ content.length ≤ 1048576 ∧ ¬ (cls = .application ∧ number = 1)
      ∧ rest.WellFormed
  | boolean _ rest => rest.WellFormed
  | constructed number values rest => number ≤ 254 ∧ values.WellFormed ∧ rest.WellFormed

def levels : TaggedValues → Nat
  | nil => 0
  | primitive _ _ _ rest => rest.levels
  | boolean _ rest => rest.levels
  | constructed _ values rest => max (values.levels + 1) rest.levels

/-- No application Boolean in the sequence is `True`. -/
def NoTrue : TaggedValues → Prop
  | nil => True
  | primitive _ _ _ rest => rest.NoTrue
  | boolean value rest => value = false ∧ rest.NoTrue
  | constructed _ values rest => values.NoTrue ∧ rest.NoTrue

end TaggedValues

-- What stands at an offset

/-- What stands behind the first part of the rest of a buffer. -/
theorem drop_behind {data first rest : Bytes} {offset : Nat}
    (here : data.drop offset = first ++ rest)
    : data.drop (offset + first.length) = rest := by
  rw [← List.drop_drop, here, List.drop_left]

/-- The slice of the length of a part that stands at an offset is that part. -/
theorem slice_here {data first rest offset} (here : data.drop offset = first ++ rest)
    : slice data offset (offset + first.length) = first := by
  rw [slice, here, Nat.add_sub_cancel_left, List.take_left]

/-- The slice from a first part on is that part and what follows it. -/
theorem slice_behind {data first rest : Bytes} {offset later position : Nat}
    (here : data.drop offset = first ++ rest) (ended : later = offset + first.length)
    (ordered : later ≤ position)
    : slice data offset position = first ++ slice data later position := by
  have behind := drop_behind here
  rw [← ended] at behind
  rw [slice, slice, here, behind, show position - offset = first.length + (position - later) by omega,
    List.take_length_add_append]

theorem TagHeader.decoded {header rest data tag offset} (reads : TagHeader header tag)
    (here : data.drop offset = header ++ rest)
    : decodeTag data offset = .ok (tag, offset + header.length) := by
  have moved := reads.length_pos
  have remaining := congrArg List.length here
  rw [List.length_drop, List.length_append] at remaining
  exact reads.at_offset (by omega) here

theorem TagHeader.inside {header rest data : Bytes} {tag : Tag} {offset : Nat}
    (reads : TagHeader header tag) (here : data.drop offset = header ++ rest)
    : offset < data.length :=
  decodeTag_inside (reads.decoded here)

end BacPy
