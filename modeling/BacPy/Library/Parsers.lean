import BacPy.Library.Cursor

/-! Readers take a value from a buffer at an offset and say where it ended. A chunk reads as a
value when it does so in front of and behind anything else; a reader is self-delimiting when all it
ever reads are such chunks.
-/

namespace BacPy.Library

variable {Symbol Failure Value Other : Type}

/-- What is read at an offset of a buffer: the value and the offset after it. -/
abbrev Reader (Symbol Failure Value : Type) :=
  List Symbol → Nat → Except Failure (Value × Nat)

/-- The chunk is read as the value wherever it stands, and nothing besides it is read. -/
def Reads (reader : Reader Symbol Failure Value) (chunk : List Symbol) (value : Value) : Prop :=
  ∀ before after, reader (before ++ (chunk ++ after)) before.length
    = .ok (value, before.length + chunk.length)

/-- Whatever the reader reads is a chunk of the buffer that reads so everywhere. -/
def SelfDelimiting (reader : Reader Symbol Failure Value) : Prop :=
  ∀ data offset value next, offset ≤ data.length → reader data offset = .ok (value, next) →
    ∃ chunk, Reads reader chunk value ∧ next = offset + chunk.length ∧ next ≤ data.length
      ∧ data.drop offset = chunk ++ data.drop next

section Chunks

variable {reader : Reader Symbol Failure Value} {chunk : List Symbol} {value : Value}

theorem Reads.at_offset (reads : Reads reader chunk value) {data rest offset}
    (inside : offset ≤ data.length) (here : data.drop offset = chunk ++ rest)
    : reader data offset = .ok (value, offset + chunk.length) := by
  have found := reads (data.take offset) rest
  rwa [← here, List.take_append_drop, List.length_take, Nat.min_eq_left inside] at found

/-- Two chunks that both read and start the same symbols are one chunk with one value. -/
theorem Reads.unique (reads : Reads reader chunk value) {chunk' rest rest' value'}
    (reads' : Reads reader chunk' value') (same : chunk ++ rest = chunk' ++ rest')
    : value = value' ∧ chunk = chunk' ∧ rest = rest' := by
  have first := reads [] rest
  have second := reads' [] rest'
  rw [same, second] at first
  obtain ⟨values, lengths⟩ := Prod.mk.inj (Except.ok.inj first)
  have parts := List.append_inj same (by omega)
  exact ⟨values.symm, parts.1, parts.2⟩

theorem Reads.andThen (reads : Reads reader chunk value)
    (second : Value → Reader Symbol Failure Other) {chunk' other}
    (reads' : Reads (second value) chunk' other)
    : Reads (fun data offset => reader data offset >>= fun read => second read.1 data read.2)
        (chunk ++ chunk') other := by
  intro before after
  have here := reads before (chunk' ++ after)
  have there := reads' (before ++ chunk) after
  rw [List.append_assoc, List.length_append] at there
  simp only [List.append_assoc, here, bind, Except.bind, there, List.length_append, Nat.add_assoc]

/-- Two self-delimiting readers in a row are one. -/
theorem SelfDelimiting.andThen (delimits : SelfDelimiting reader)
    {second : Value → Reader Symbol Failure Other} (delimits' : ∀ value, SelfDelimiting (second value))
    : SelfDelimiting fun data offset =>
        reader data offset >>= fun read => second read.1 data read.2 := by
  intro data offset other next starts read
  cases first : reader data offset with
  | error failure =>
    simp only [first] at read
    cases read
  | ok found =>
    simp only [first] at read
    obtain ⟨chunk, reads, ended, inside, here⟩ := delimits _ _ _ _ starts first
    obtain ⟨chunk', reads', ended', inside', there⟩ := delimits' _ _ _ _ _ inside read
    refine ⟨chunk ++ chunk', reads.andThen second reads', ?_, inside', ?_⟩
    · rw [ended', ended, List.length_append, Nat.add_assoc]
    · rw [here, there, List.append_assoc]

end Chunks

end BacPy.Library

/-! Parsers move a cursor through a buffer, and encoders put parts one after the other. A part carries
a value to a parser when the parser gets it out of the octets of the part, in front of every tail that
it must not take for more of it. Carried parts are put together in the order in which the parser
reads.
-/

namespace BacPy.Library

variable {Symbol Failure Value Other : Type}

/-- A step that reads at a cursor: what it has read, and where the cursor is then. -/
def Parser (Symbol Failure Value : Type) : Type :=
  List Symbol → Nat → Except Failure (Value × Nat)

namespace Parser

/-- Two steps are made in a row, the second at the cursor of the first. -/
protected def bind (parser : Parser Symbol Failure Value)
    (next : Value → Parser Symbol Failure Other)
    : Parser Symbol Failure Other := fun data offset =>
  match parser data offset with
  | .error failure => .error failure
  | .ok (value, later) => next value data later

instance : Monad (Parser Symbol Failure) where
  pure value := fun _ offset => .ok (value, offset)
  bind := Parser.bind

/-- What does not look at the buffer leaves the cursor where it is. -/
def lift (outcome : Except Failure Value) : Parser Symbol Failure Value := fun _ offset =>
  match outcome with
  | .error failure => .error failure
  | .ok value => .ok (value, offset)

instance : MonadLift (Except Failure) (Parser Symbol Failure) where
  monadLift := lift

def fail (failure : Failure) : Parser Symbol Failure Value := fun _ _ => .error failure

variable {parser : Parser Symbol Failure Value} {next : Value → Parser Symbol Failure Other}
  {data : List Symbol} {offset later : Nat} {value : Value}

theorem pure_run (value : Value)
    : (pure value : Parser Symbol Failure Value) data offset = .ok (value, offset) :=
  rfl

theorem bind_run (read : parser data offset = .ok (value, later))
    : (parser >>= next) data offset = next value data later := by
  change Parser.bind parser next data offset = _
  rw [Parser.bind, read]

theorem bind_error {failure} (failed : parser data offset = .error failure)
    : (parser >>= next) data offset = .error failure := by
  change Parser.bind parser next data offset = _
  rw [Parser.bind, failed]

/-- One step after another, however they are grouped. -/
theorem bind_assoc {Third : Type} (last : Other → Parser Symbol Failure Third)
    : parser >>= next >>= last = parser >>= fun value => next value >>= last := by
  funext data offset
  change Parser.bind (Parser.bind parser next) last data offset
    = Parser.bind parser (fun value => Parser.bind (next value) last) data offset
  unfold Parser.bind
  cases parser data offset with
  | error failure => rfl
  | ok read => rfl

end Parser

/-- The same step some times in a row. -/
def repeated (parser : Parser Symbol Failure Value) : Nat → Parser Symbol Failure (List Value)
  | 0 => pure []
  | count + 1 => do
      let value ← parser
      let values ← repeated parser count
      pure (value :: values)

/-- A round of a loop over items: it stops behind what closes the list, or reads one more item. -/
def itemRound (closes : Parser Symbol Failure Bool) (item : Parser Symbol Failure Value) (limit : Nat)
    (excess : Failure) (data : List Symbol) (offset : Nat) (items : List Value)
    : Except Failure (Round (List Value) (List Value × Nat)) :=
  match closes data offset with
  | .error failure => .error failure
  | .ok (true, later) => .ok (.stop (items, later))
  | .ok (false, _) =>
    match item data offset with
    | .error failure => .error failure
    | .ok (value, later) =>
      if limit ≤ (items ++ [value]).length then .error excess
      else .ok (.next later (items ++ [value]))

/-- The items up to what closes their list or to the end of the buffer, fewer than a limit. -/
def itemsUntil (closes : Parser Symbol Failure Bool) (item : Parser Symbol Failure Value) (limit : Nat)
    (excess : Failure)
    : Parser Symbol Failure (List Value) := fun data offset =>
  scan data.length (itemRound closes item limit excess data) (fun offset items => .ok (items, offset))
    offset []

-- Chunks that are read

/-- The chunk is read as the value in front of the tails that are allowed, wherever it stands. -/
def Parses (allowed : List Symbol → Prop) (parser : Parser Symbol Failure Value)
    (chunk : List Symbol) (value : Value) : Prop :=
  ∀ before after, allowed after → parser (before ++ (chunk ++ after)) before.length
    = .ok (value, before.length + chunk.length)

section Chunks

variable {allowed allowed' : List Symbol → Prop} {parser : Parser Symbol Failure Value}
  {chunk chunk' : List Symbol} {value : Value}

theorem Parses.weaken (parses : Parses allowed parser chunk value)
    (fewer : ∀ tail, allowed' tail → allowed tail)
    : Parses allowed' parser chunk value :=
  fun before after holds => parses before after (fewer after holds)

theorem Parses.pure (value : Value)
    : Parses allowed (pure value : Parser Symbol Failure Value) [] value :=
  fun _ _ _ => rfl

/-- Two chunks in a row are read by two steps in a row, if the first one is not disturbed by the
second.
-/
theorem Parses.bind (parses : Parses allowed parser chunk value)
    {next : Value → Parser Symbol Failure Other} {other : Other}
    (parses' : Parses allowed' (next value) chunk' other)
    (undisturbed : ∀ tail, allowed' tail → allowed (chunk' ++ tail))
    : Parses allowed' (parser >>= next) (chunk ++ chunk') other := by
  intro before after holds
  have here := parses before (chunk' ++ after) (undisturbed after holds)
  have there := parses' (before ++ chunk) after holds
  rw [List.append_assoc, List.length_append] at there
  rw [List.append_assoc, Parser.bind_run here, there, List.length_append, Nat.add_assoc]

/-- A chunk by itself is read to its end. -/
theorem Parses.whole (parses : Parses allowed parser chunk value) (holds : allowed [])
    : parser chunk 0 = .ok (value, chunk.length) := by
  have found := parses [] [] holds
  rwa [List.nil_append, List.append_nil, List.length_nil, Nat.zero_add] at found

end Chunks

-- Encoders in parts

def joined : List (Except Failure (List Symbol)) → Except Failure (List Symbol)
  | [] => .ok []
  | part :: parts =>
    match part with
    | .error failure => .error failure
    | .ok first =>
      match joined parts with
      | .error failure => .error failure
      | .ok later => .ok (first ++ later)

variable {Refusal : Type}

theorem joined_cons_eq_ok {part : Except Refusal (List Symbol)}
    {parts : List (Except Refusal (List Symbol))} {chunk : List Symbol}
    : joined (part :: parts) = .ok chunk
      ↔ ∃ first later, part = .ok first ∧ joined parts = .ok later ∧ chunk = first ++ later := by
  cases part with
  | error refusal => simp [joined]
  | ok first =>
    cases later : joined parts with
    | error refusal => simp [joined, later]
    | ok others => simp [joined, later, eq_comm]

/-- The encoder's outcome is a chunk that the parser reads as the value, and `first` holds of where
the chunk starts.
-/
def Carries (allowed first : List Symbol → Prop) (encoded : Except Refusal (List Symbol))
    (parser : Parser Symbol Failure Value) (value : Value) : Prop :=
  ∃ chunk, encoded = .ok chunk ∧ Parses allowed parser chunk value
    ∧ ∀ tail, allowed tail → first (chunk ++ tail)

section Parts

variable {allowed allowed' first first' : List Symbol → Prop}
  {part : Except Refusal (List Symbol)} {parts : List (Except Refusal (List Symbol))}
  {parser : Parser Symbol Failure Value} {value : Value}

/-- Behind the last part nothing is left to read. -/
theorem Carries.nil (value : Value)
    : Carries allowed allowed (joined ([] : List (Except Refusal (List Symbol))))
        (pure value : Parser Symbol Failure Value) value :=
  ⟨[], rfl, .pure value, fun _ holds => holds⟩

variable {next : Value → Parser Symbol Failure Other} {other : Other}

/-- The next part, in front of parts that do not disturb it. -/
theorem Carries.cons (carries : Carries allowed first part parser value)
    (carries' : Carries allowed' first' (joined parts) (next value) other)
    (undisturbed : ∀ tail, first' tail → allowed tail)
    : Carries allowed' first (joined (part :: parts)) (parser >>= next) other := by
  obtain ⟨chunk, rfl, parses, starts⟩ := carries
  obtain ⟨chunk', encoded, parses', starts'⟩ := carries'
  have behind (tail : List Symbol) (holds : allowed' tail) : allowed (chunk' ++ tail) :=
    undisturbed _ (starts' tail holds)
  refine ⟨chunk ++ chunk', joined_cons_eq_ok.mpr ⟨_, _, rfl, encoded, rfl⟩,
    parses.bind parses' behind, fun tail holds => ?_⟩
  rw [List.append_assoc]
  exact starts _ (behind tail holds)

/-- The same for a part that allows exactly what the parts behind it start with. -/
theorem Carries.before (carries : Carries first' first part parser value)
    (carries' : Carries allowed' first' (joined parts) (next value) other)
    : Carries allowed' first (joined (part :: parts)) (parser >>= next) other :=
  carries.cons carries' fun _ holds => holds

/-- The same in front of any parts, for a part that says itself where it ends. -/
theorem Carries.andThen (carries : Carries (fun _ => True) first part parser value)
    (carries' : Carries allowed' first' (joined parts) (next value) other)
    : Carries allowed' first (joined (part :: parts)) (parser >>= next) other :=
  carries.cons carries' fun _ _ => trivial

/-- A step that reads nothing in front of the parts. -/
theorem Carries.behind (parses : Parses first' parser [] value)
    (carries : Carries allowed' first' part (next value) other)
    : Carries allowed' first' part (parser >>= next) other := by
  obtain ⟨chunk, encoded, parses', starts⟩ := carries
  exact ⟨chunk, encoded,
    parses.bind parses' starts, starts⟩

/-- What is made of the value of a part once it is read. -/
theorem Carries.made (carries : Carries allowed first part parser value)
      (makes : next value = pure other)
    : Carries allowed first part (parser >>= next) other := by
  obtain ⟨chunk, encoded, parses, starts⟩ := carries
  have nothing : Parses allowed (next value) [] other := by
    rw [makes]
    exact .pure other
  have made := parses.bind nothing fun tail holds => holds
  rw [List.append_nil] at made
  exact ⟨chunk, encoded, made, starts⟩

theorem Carries.map (carries : Carries allowed first part parser value) (make : Value → Other)
    : Carries allowed first part (parser >>= fun value => pure (make value)) (make value) :=
  carries.made rfl

theorem Carries.weaken (carries : Carries allowed first part parser value)
    (fewer : ∀ tail, allowed' tail → allowed tail) (more : ∀ tail, first tail → first' tail)
    : Carries allowed' first' part parser value := by
  obtain ⟨chunk, encoded, parses, starts⟩ := carries
  exact ⟨chunk, encoded, parses.weaken fewer, fun tail holds => more _ (starts _ (fewer _ holds))⟩

/-- The same step for every part of a list, by induction on it. -/
theorem Carries.repeated {values : List Value} {encode : Value → Except Refusal (List Symbol)}
    (each : ∀ value ∈ values, Carries (fun _ => True) first (encode value) parser value)
    : Carries (fun _ => True) (fun _ => True) (joined (values.map encode))
        (repeated parser values.length) values := by
  induction values with
  | nil => exact .nil []
  | cons value others ih =>
    rw [List.forall_mem_cons] at each
    exact (each.1.andThen ((ih each.2).map (value :: ·))).weaken (fun _ holds => holds)
      fun _ _ => trivial

/-- What is carried comes back. -/
theorem Carries.roundTrip (carries : Carries allowed first part parser value) (holds : allowed [])
    : ∃ chunk, part = .ok chunk ∧ parser chunk 0 = .ok (value, chunk.length) := by
  obtain ⟨chunk, encoded, parses, _⟩ := carries
  exact ⟨chunk, encoded, parses.whole holds⟩

-- Lists of items

variable {closes : Parser Symbol Failure Bool} {limit : Nat} {excess : Failure}
  {values : List Value} {encode : Value → Except Refusal (List Symbol)}

/-- Items that are carried one by one have an encoding, and what it starts with does not disturb
another item in front of it.
-/
theorem joined_items (each : ∀ value ∈ values, Carries allowed first (encode value) parser value)
    (undisturbed : ∀ tail, first tail → allowed tail)
    : ∃ chunk, joined (values.map encode) = .ok chunk
        ∧ ∀ rest, allowed rest → allowed (chunk ++ rest) := by
  induction values with
  | nil => exact ⟨[], rfl, fun rest ends => ends⟩
  | cons value others ih =>
    rw [List.forall_mem_cons] at each
    obtain ⟨chunk, encoded, parses, starts⟩ := each.1
    obtain ⟨later, others, ends⟩ := ih each.2
    refine ⟨chunk ++ later, joined_cons_eq_ok.mpr ⟨_, _, encoded, others, rfl⟩, fun rest holds => ?_⟩
    rw [List.append_assoc]
    exact undisturbed _ (starts _ (ends rest holds))

/-- In front of a tail that is no item, no item is empty. -/
theorem items_nonempty (each : ∀ value ∈ values, Carries allowed first (encode value) parser value)
    {rest} (ends : allowed rest) (notItem : ¬ first rest)
    : ∀ value ∈ values, encode value ≠ .ok [] := by
  intro value listed empty
  obtain ⟨chunk, encoded, _, starts⟩ := each value listed
  cases empty.symm.trans encoded
  exact notItem (starts rest ends)

/-- The loop comes to the rest with all items, by induction on them. What fuel it has left is enough
for the rest.
-/
theorem scanFor_items (each : ∀ value ∈ values, Carries allowed first (encode value) parser value)
    (opens : ∀ before tail, first tail →
      ∃ later, closes (before ++ tail) before.length = .ok (false, later))
    (undisturbed : ∀ tail, first tail → allowed tail) {rest} (ends : allowed rest)
    (nonempty : ∀ value ∈ values, encode value ≠ .ok []) {chunk data before}
    (encoded : joined (values.map encode) = .ok chunk) (here : data = before ++ (chunk ++ rest))
    {found} (few : found.length + values.length < limit) {fuel}
    (enough : (chunk ++ rest).length ≤ fuel) (finish)
    : ∃ left, rest.length ≤ left
        ∧ scanFor data.length (itemRound closes parser limit excess data) finish fuel before.length
            found
          = scanFor data.length (itemRound closes parser limit excess data) finish left
            (before.length + chunk.length) (found ++ values) := by
  induction values generalizing before chunk found fuel with
  | nil =>
    cases encoded
    refine ⟨fuel, enough, ?_⟩
    rw [List.append_nil, List.length_nil, Nat.add_zero]
  | cons value others ih =>
    obtain ⟨first', later, encoded', others', rfl⟩ := joined_cons_eq_ok.mp encoded
    rw [List.forall_mem_cons] at each
    obtain ⟨_, same, parses, starts⟩ := each.1
    cases encoded'.symm.trans same
    obtain ⟨_, same, behind⟩ := joined_items each.2 undisturbed
    cases others'.symm.trans same
    rw [List.forall_mem_cons] at nonempty
    have positive : 0 < first'.length := by
      rcases first' with _ | ⟨symbol, symbols⟩
      · exact absurd encoded' nonempty.1
      · exact Nat.succ_pos _
    have whole : data = before ++ (first' ++ (later ++ rest)) := by
      rw [here, List.append_assoc]
    have again : data = (before ++ first') ++ (later ++ rest) := by
      rw [whole, List.append_assoc]
    obtain ⟨_, open_⟩ := opens before _ (starts _ (behind rest ends))
    have read := parses before _ (behind rest ends)
    rw [← whole] at open_ read
    have round : itemRound closes parser limit excess data before.length found
        = .ok (.next (before ++ first').length (found ++ [value])) := by
      rw [List.length_cons] at few
      simp only [itemRound, open_, read, List.length_append, List.length_singleton,
        if_neg (show ¬ limit ≤ found.length + 1 by omega)]
    have inside : before.length < data.length := by
      rw [whole, List.length_append, List.length_append]
      omega
    rw [List.length_append, List.length_append] at enough
    obtain ⟨left, rfl⟩ : ∃ left, fuel = left + 1 := ⟨fuel - 1, by omega⟩
    obtain ⟨left', covers, ended⟩ := ih each.2 nonempty.2 others' again
      (show (found ++ [value]).length + others.length < limit by
        rw [List.length_append, List.length_singleton]
        rw [List.length_cons] at few
        omega)
      (show (later ++ rest).length ≤ left by
        rw [List.length_append]
        omega)
    refine ⟨left', covers, ?_⟩
    rw [scanFor, if_pos inside, round]
    dsimp only
    rw [ended, List.length_append, List.length_append, List.append_assoc, Nat.add_assoc,
      List.singleton_append]

/-- The loop over items that stand in front of a rest comes to the rest with all of them. -/
theorem itemsUntil_rest (each : ∀ value ∈ values, Carries allowed first (encode value) parser value)
    (few : values.length < limit)
    (opens : ∀ before tail, first tail →
      ∃ later, closes (before ++ tail) before.length = .ok (false, later))
    (undisturbed : ∀ tail, first tail → allowed tail) {rest} (ends : allowed rest)
    (nonempty : ∀ value ∈ values, encode value ≠ .ok []) {chunk}
    (encoded : joined (values.map encode) = .ok chunk) (before : List Symbol)
    : ∃ left, rest.length ≤ left
        ∧ itemsUntil closes parser limit excess (before ++ (chunk ++ rest)) before.length
          = scanFor (before ++ (chunk ++ rest)).length
              (itemRound closes parser limit excess (before ++ (chunk ++ rest)))
              (fun offset items => .ok (items, offset)) left (before.length + chunk.length)
              values := by
  have fuel : (chunk ++ rest).length = (before ++ (chunk ++ rest)).length - before.length := by
    rw [@List.length_append _ before, Nat.add_sub_cancel_left]
  obtain ⟨left, covers, scanned⟩ := scanFor_items each opens undisturbed ends nonempty encoded rfl
    (show ([] : List Value).length + values.length < limit by simpa using few)
    (Nat.le_of_eq fuel) (fun offset items => .ok (items, offset))
  exact ⟨left, covers, scanned⟩

/-- At the end of the buffer the loop ends with the items it has. -/
theorem itemsUntil_atEnd
    (each : ∀ value ∈ values, Carries allowed first (encode value) parser value)
    (few : values.length < limit)
    (opens : ∀ before tail, first tail →
      ∃ later, closes (before ++ tail) before.length = .ok (false, later))
    (undisturbed : ∀ tail, first tail → allowed tail) (ends : allowed [])
    (nonempty : ∀ value ∈ values, encode value ≠ .ok []) {chunk}
    (encoded : joined (values.map encode) = .ok chunk) (before : List Symbol)
    : itemsUntil closes parser limit excess (before ++ chunk) before.length
      = .ok (values, before.length + chunk.length) := by
  obtain ⟨left, _, scanned⟩ := @itemsUntil_rest _ _ _ _ _ _ _ closes limit excess _ _ each few opens
    undisturbed [] ends nonempty _ encoded before
  rw [List.append_nil] at scanned
  have past : ¬ before.length + chunk.length < (before ++ chunk).length := by
    rw [List.length_append]
    omega
  rw [scanned]
  cases left with
  | zero => rfl
  | succ left => rw [scanFor, if_neg past]

theorem Carries.items (each : ∀ value ∈ values, Carries allowed first (encode value) parser value)
    (few : values.length < limit)
    (opens : ∀ before tail, first tail →
      ∃ later, closes (before ++ tail) before.length = .ok (false, later))
    (undisturbed : ∀ tail, first tail → allowed tail) {closing}
    (closed : Parses (fun _ => True) closes closing true) (nonempty : closing ≠ [])
    (ends : ∀ tail, allowed (closing ++ tail))
    : Carries (fun _ => True) (fun _ => True)
        (joined [joined (values.map encode), (.ok closing : Except Refusal (List Symbol))])
        (itemsUntil closes parser limit excess) values := by
  obtain ⟨chunk, encoded, _⟩ := joined_items each undisturbed
  refine ⟨chunk ++ closing, joined_cons_eq_ok.mpr ⟨_, closing, encoded, ?_, rfl⟩, ?_,
    fun _ _ => trivial⟩
  · exact joined_cons_eq_ok.mpr ⟨closing, [], rfl, rfl, (List.append_nil _).symm⟩
  · intro before after _
    have notItem : ¬ first (closing ++ after) := by
      intro item
      obtain ⟨_, open_⟩ := opens before _ item
      have stop := closed before after trivial
      rw [stop] at open_
      cases open_
    obtain ⟨left, covers, scanned⟩ := @itemsUntil_rest _ _ _ _ _ _ _ closes limit excess _ _ each few
      opens undisturbed (closing ++ after) (ends after)
      (items_nonempty each (ends after) notItem) _ encoded before
    have positive : 0 < closing.length := List.length_pos_iff.mpr nonempty
    have inside : before.length + chunk.length < (before ++ (chunk ++ (closing ++ after))).length := by
      rw [List.length_append, List.length_append, List.length_append]
      omega
    rw [List.length_append] at covers
    obtain ⟨left, rfl⟩ : ∃ left', left = left' + 1 := ⟨left - 1, by omega⟩
    have stop := closed (before ++ chunk) after trivial
    rw [List.append_assoc, List.length_append] at stop
    have round : itemRound closes parser limit excess (before ++ (chunk ++ (closing ++ after)))
        (before.length + chunk.length) values
        = .ok (.stop (values, before.length + chunk.length + closing.length)) := by
      simp only [itemRound, stop]
    rw [List.append_assoc, scanned, scanFor, if_pos inside, round]
    dsimp only
    rw [List.length_append, Nat.add_assoc]

/-- The items of a list that goes to the end of the buffer. -/
theorem Carries.itemsToEnd
    (each : ∀ value ∈ values, Carries allowed first (encode value) parser value)
    (few : values.length < limit) (undisturbed : ∀ tail, first tail → allowed tail)
    (nonempty : ¬ first []) (ends : allowed [])
    : Carries (· = []) (fun _ => True) (joined (values.map encode))
        (itemsUntil (pure false) parser limit excess) values := by
  obtain ⟨chunk, encoded, _⟩ := joined_items each undisturbed
  refine ⟨chunk, encoded, ?_, fun _ _ => trivial⟩
  rintro before _ rfl
  rw [List.append_nil]
  exact itemsUntil_atEnd each few (fun _ _ _ => ⟨_, rfl⟩) undisturbed ends
    (items_nonempty each ends nonempty) encoded before

theorem Carries.consItems {part closing : Except Refusal (List Symbol)}
    {items : Parser Symbol Failure (List Value)}
    (carries : Carries (fun _ => True) (fun _ => True) (joined [part, closing]) items values)
    {next : List Value → Parser Symbol Failure Other}
    (carries' : Carries allowed' first' (joined parts) (next values) other)
    : Carries allowed' (fun _ => True) (joined (part :: closing :: parts)) (items >>= next)
        other := by
  obtain ⟨chunk, encoded, joins, parses⟩ := carries.andThen carries'
  refine ⟨chunk, ?_, joins, parses⟩
  obtain ⟨pair, later, both, rest, rfl⟩ := joined_cons_eq_ok.mp encoded
  obtain ⟨chunk, closing', here, closes, rfl⟩ := joined_cons_eq_ok.mp both
  obtain ⟨closing', nothing, there, none', rfl⟩ := joined_cons_eq_ok.mp closes
  cases none'
  rw [List.append_nil, List.append_assoc]
  exact joined_cons_eq_ok.mpr ⟨_, _, here, joined_cons_eq_ok.mpr ⟨_, _, there, rest, rfl⟩, rfl⟩

end Parts

end BacPy.Library
