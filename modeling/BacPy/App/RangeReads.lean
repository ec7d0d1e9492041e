import BacPy.App.WriteThenRead
import BacPy.Objects.FileReads
import BacPy.Services.ReadRange

/-! ReadRange of the lists of a device: the positions that a request selects, what the flags of the
answer tell of them, and the pages of a client that reads on while more items are announced.
-/

namespace BacPy

open Library

namespace Server

/-- The items of a list that a range qualifier selects, and whether they begin with the first item
and end with the last. Ranges by sequence number or by time are not looked at.
-/
def selectRange {Item : Type} (value : List Item)
    : Option ReadRangeRequest.Range → List Item × Bool × Bool
  | some (.byPosition referenceIndex count) =>
    let total : Int := value.length
    if 0 ≤ count then
      let start := max 0 ((referenceIndex : Int) - 1)
      let stop := min total (start + count)
      (FileObject.slice value start stop, decide (start = 0), decide (total ≤ stop))
    else
      let stop := min total (referenceIndex : Int)
      let start := max 0 (stop + count)
      (FileObject.slice value start stop, decide (start = 0), decide (total ≤ stop))
  | _ => (value, true, true)

/-- What `handle_read_range` answers for a list. -/
def rangeOf (request : ReadRangeRequest) (objectId : ObjectIdentifier) (value : List Value)
    : Except Raised ReadRangeACK := do
  let selected := selectRange value request.range
  let chunks ← selected.1.mapM fun item => encodeProperty item objectId.objectType
  .ok {
    objectIdentifier := objectId
    propertyIdentifier := request.propertyIdentifier
    resultFlags := {
      firstItem := selected.2.1
      lastItem := selected.2.2
      moreItems := !selected.2.2
    }
    itemCount := selected.1.length
    itemData := chunks.flatten
    propertyArrayIndex := request.propertyArrayIndex
  }

/-- `handle_read_range`, up to the encoder of its answer. -/
def readRange (server : Server) (request : ReadRangeRequest) : Except Raised ReadRangeACK :=
  let objectId := server.resolveObjectId request.objectIdentifier
  match server.db.get objectId, server.db.object? objectId with
  | some ref, some obj => do
      let value ← server.readObjectProperty ref obj request.propertyIdentifier
        request.propertyArrayIndex
      match value.asList? with
      | none => .error (.bacnetError .property .propertyIsNotAList)
      | some items => rangeOf request objectId items
  | _, _ => .error (.bacnetError .object .unknownObject)

def handleReadRange (server : Server) (request : ReadRangeRequest) : Except Raised Bytes := do
  let ack ← server.readRange request
  raising ack.encode

/-- A client that reads pages of these sizes from an index on, each behind the one before it, until
no more items are announced. There is no result if this does not come to an end.
-/
def readPages (server : Server) (request : ReadRangeRequest) (sizes : Nat → Nat)
    : (fuel page index : Nat) → Option (Except Raised (List ReadRangeACK))
  | 0, _, _ => none
  | fuel + 1, page, index =>
    match server.readRange { request with range := some (.byPosition index (sizes page)) } with
    | .error raised => some (.error raised)
    | .ok ack =>
      if ack.resultFlags.moreItems = true then
        (readPages server request sizes fuel (page + 1) (index + ack.itemCount)).map
          fun later => later.map (ack :: ·)
      else some (.ok [ack])

-- What is asked for

def ReadsList (server : Server) (request : ReadRangeRequest) (elements : List Value) : Prop :=
  ∃ ref obj,
    server.db.get (server.resolveObjectId request.objectIdentifier) = some ref
    ∧ server.db.object? (server.resolveObjectId request.objectIdentifier) = some obj
    ∧ server.readObjectProperty ref obj request.propertyIdentifier request.propertyArrayIndex
      = .ok (.list elements)

/-- The elements with the indices `index` to `index + count - 1` are at the positions from the first
of these integers to before the second, those with `index + count + 1` to `index` for a negative
count. An index behind the end then stands for the last element.
-/
def positions (length index : Nat) (count : Int) : Int × Int :=
  if 0 < count then ((index : Int) - 1, index - 1 + count)
  else ((min index length : Nat) + count, (min index length : Nat))

/-- The answer has these elements, encoded one by one. -/
structure ReturnsItems (objectType : ObjectType) (elements : List Value) (ack : ReadRangeACK)
    : Prop where
  itemCount : ack.itemCount = elements.length
  itemData : ∃ chunks,
    elements.mapM (fun item => encodeProperty item objectType) = .ok chunks
    ∧ ack.itemData = chunks.flatten

/-- The flags tell whether the first and the last element of a list are between two positions. -/
structure TellsEnds (length : Nat) (start stop : Int) (flags : ResultFlags) : Prop where
  first : flags.firstItem = true ↔ 0 < length ∧ start ≤ 0 ∧ 0 < stop
  last : flags.lastItem = true ↔ 0 < length ∧ start < length ∧ length ≤ stop

/-- The answer has the elements between two positions and tells whether the ends of the list are
among them, if there is any. More items are announced unless the last item is.
-/
structure ReturnsWithin (objectType : ObjectType) (elements : List Value) (start stop : Int)
    (ack : ReadRangeACK)
    : Prop where
  items : ReturnsItems objectType (within elements start stop) ack
  ends : within elements start stop ≠ [] → TellsEnds elements.length start stop ack.resultFlags
  more : ack.resultFlags.moreItems = !ack.resultFlags.lastItem

-- One request

variable {server : Server} {request : ReadRangeRequest} {elements : List Value}

theorem readRange_of_readsList (reads : server.ReadsList request elements)
    : server.readRange request
      = rangeOf request (server.resolveObjectId request.objectIdentifier) elements := by
  obtain ⟨ref, obj, found, stored, read⟩ := reads
  simp only [readRange, found, stored, read, bind, Except.bind, Value.asList?_list]

/-- An answer is one for a list. -/
theorem readsList_of_readRange {ack} (answered : server.readRange request = .ok ack)
    : ∃ elements, server.ReadsList request elements := by
  unfold readRange at answered
  dsimp only at answered
  split at answered
  · next ref obj found stored =>
      obtain ⟨value, read, list⟩ := bind_eq_ok.mp answered
      split at list
      · cases list
      · next items isList =>
          obtain rfl := Value.asList?_eq_some.mp isList
          exact ⟨items, ref, obj, found, stored, read⟩
  · cases answered

/-- The slice that is taken has the elements at the positions asked for, and its ends are compared
with those of the list.
-/
theorem selectRange_byPosition {index count} (least : 1 ≤ index) (counts : count ≠ 0)
    : selectRange elements (some (.byPosition index count))
      = (within elements (positions elements.length index count).1
          (positions elements.length index count).2,
        decide ((positions elements.length index count).1 ≤ 0),
        decide ((elements.length : Int) ≤ (positions elements.length index count).2)) := by
  by_cases forwards : 0 < count
  · rw [selectRange, positions, if_pos forwards]
    dsimp only
    have start : max 0 ((index : Int) - 1) = index - 1 := by omega
    rw [if_pos (Int.le_of_lt forwards), start, Prod.mk.injEq, Prod.mk.injEq]
    refine ⟨?_, decide_eq_decide.mpr (by omega), decide_eq_decide.mpr (by omega)⟩
    rw [FileObject.slice_eq_within (by omega) (by omega), within_eq, within_eq]
    by_cases inside : (index : Int) - 1 + count ≤ elements.length
    · rw [Int.min_eq_right inside]
    · rw [List.take_of_length_le (by omega), List.take_of_length_le (by omega)]
  · rw [selectRange, positions, if_neg forwards]
    dsimp only
    have stop : min (elements.length : Int) index = (min index elements.length : Nat) := by omega
    rw [if_neg (by omega), stop, Prod.mk.injEq, Prod.mk.injEq]
    refine ⟨?_, decide_eq_decide.mpr (by omega), rfl⟩
    rw [FileObject.slice_eq_within (by omega) (by omega), within_eq, within_eq]
    congr 1
    omega

/-- The answer for positions of a list. -/
theorem rangeOf_eq_ok {objectId index count ack}
    (ranged : request.range = some (.byPosition index count)) (least : 1 ≤ index)
    (counts : count ≠ 0) (answered : rangeOf request objectId elements = .ok ack)
    : ReturnsItems objectId.objectType (within elements (positions elements.length index count).1
          (positions elements.length index count).2) ack
        ∧ ack.resultFlags.firstItem = decide ((positions elements.length index count).1 ≤ 0)
        ∧ ack.resultFlags.lastItem
          = decide ((elements.length : Int) ≤ (positions elements.length index count).2)
        ∧ ack.resultFlags.moreItems = !ack.resultFlags.lastItem := by
  rw [rangeOf, ranged, selectRange_byPosition least counts] at answered
  obtain ⟨chunks, encoded, same⟩ := bind_eq_ok.mp answered
  cases same
  exact ⟨⟨rfl, chunks, encoded, rfl⟩, rfl, rfl, rfl⟩

/-- Its flags tell of the items that it has. -/
theorem rangeOf_byPosition {objectId index count ack}
    (ranged : request.range = some (.byPosition index count)) (least : 1 ≤ index)
    (counts : count ≠ 0) (answered : rangeOf request objectId elements = .ok ack)
    : ReturnsWithin objectId.objectType elements (positions elements.length index count).1
        (positions elements.length index count).2 ack := by
  obtain ⟨items, first, last, more⟩ := rangeOf_eq_ok ranged least counts answered
  refine ⟨items, fun found => ?_, more⟩
  have nonempty := List.length_pos_iff.mpr found
  rw [length_within] at nonempty
  constructor
  · rw [first, decide_eq_true_iff]
    omega
  · rw [last, decide_eq_true_iff]
    omega

-- Pages

/-- The pages that a client has read: their elements together are these ones, or one of them cannot be
encoded.
-/
def Covers (objectType : ObjectType) (elements : List Value)
    : Except Raised (List ReadRangeACK) → Prop
  | .ok acks => ∃ parts : List (List Value),
      parts.flatten = elements ∧ List.Forall₂ (ReturnsItems objectType) parts acks
  | .error raised => ∃ element ∈ elements, encodeProperty element objectType = .error raised

/-- A loop of fallible steps is ended by a step that fails, by induction on the items. -/
theorem exists_error_of_mapM {Failure Item Result : Type} {attempt : Item → Except Failure Result}
    {items : List Item} {failure : Failure} (failed : items.mapM attempt = .error failure)
    : ∃ item ∈ items, attempt item = .error failure := by
  induction items with
  | nil => cases failed
  | cons item rest ih =>
    rw [List.mapM_cons] at failed
    cases outcome : attempt item with
    | error raised =>
      rw [outcome] at failed
      exact ⟨item, List.mem_cons_self, outcome.trans (congrArg Except.error (Except.error.inj failed))⟩
    | ok result =>
      rw [outcome] at failed
      cases later : rest.mapM attempt with
      | error raised =>
        obtain ⟨other, member, same⟩ := ih (by rw [later] at failed ⊢; exact failed)
        exact ⟨other, List.mem_cons_of_mem _ member, same⟩
      | ok results =>
        rw [later] at failed
        cases failed

/-- Pages from an index on come to an end with the elements from there on, by induction on the number
of elements that are left.
-/
theorem readPages_covers {sizes : Nat → Nat} (positive : ∀ page, 1 ≤ sizes page)
    (reads : server.ReadsList request elements) {fuel page start : Nat}
    (inside : start < elements.length ∨ start = 0) (enough : elements.length < start + fuel)
    : ∃ outcome, server.readPages request sizes fuel page (start + 1) = some outcome
        ∧ Covers (server.resolveObjectId request.objectIdentifier).objectType
          (within elements start elements.length) outcome := by
  induction fuel generalizing page start with
  | zero => omega
  | succ fuel ih =>
    have counts : (sizes page : Int) ≠ 0 := by
      have := positive page
      omega
    have reads' : server.ReadsList
        { request with range := some (.byPosition (start + 1) (sizes page)) } elements := reads
    have ranged : positions elements.length (start + 1) (sizes page)
        = ((start : Int), (start + sizes page : Int)) := by
      have forwards : 0 < (sizes page : Int) := by omega
      rw [positions, if_pos forwards, Nat.cast_succ, Int.add_sub_cancel]
    have split : within elements start (start + sizes page)
          ++ within elements (start + sizes page) elements.length
        = within elements start elements.length := within_append_length (by omega)
    rw [readPages, readRange_of_readsList reads']
    cases answered : rangeOf { request with
        range := some (.byPosition (start + 1) (sizes page)) }
        (server.resolveObjectId request.objectIdentifier) elements with
    | error raised =>
      rw [rangeOf, selectRange_byPosition (Nat.le_add_left 1 start) counts, ranged] at answered
      refine ⟨_, rfl, ?_⟩
      dsimp only at answered
      cases encoded : (within elements start (start + sizes page)).mapM fun item =>
          encodeProperty item (server.resolveObjectId request.objectIdentifier).objectType with
      | ok chunks =>
        rw [encoded] at answered
        cases answered
      | error failure =>
        rw [encoded] at answered
        obtain rfl := Except.error.inj answered
        obtain ⟨item, member, failed⟩ := exists_error_of_mapM encoded
        exact ⟨item, split ▸ List.mem_append_left _ member, failed⟩
    | ok ack =>
      obtain ⟨items, _, last, announces⟩ :=
        rangeOf_eq_ok rfl (Nat.le_add_left 1 start) counts answered
      rw [ranged] at items last
      rw [last] at announces
      dsimp only at items announces ⊢
      have size := length_within elements start (start + sizes page)
      by_cases ended : (elements.length : Int) ≤ start + sizes page
      · have noMore : ¬ ack.resultFlags.moreItems = true := by
          rw [announces, decide_eq_true ended]
          decide
        have nothing : within elements (start + sizes page) elements.length = [] := by
          rw [← List.length_eq_zero_iff, length_within]
          omega
        rw [if_neg noMore]
        rw [nothing, List.append_nil] at split
        refine ⟨_, rfl, [_], ?_, .cons items .nil⟩
        rw [List.flatten_singleton, split]
      · have count : ack.itemCount = sizes page := by
          rw [items.itemCount, size]
          omega
        have more : ack.resultFlags.moreItems = true := by
          rw [announces, decide_eq_false ended]
          rfl
        rw [if_pos more, count, Nat.add_right_comm]
        have least := positive page
        have left : start + sizes page < elements.length ∨ start + sizes page = 0 := by omega
        have fuelled : elements.length < start + sizes page + fuel := by omega
        obtain ⟨outcome, read, covers⟩ : ∃ outcome,
            server.readPages request sizes fuel (page + 1) (start + sizes page + 1)
              = some outcome
            ∧ Covers (server.resolveObjectId request.objectIdentifier).objectType
              (within elements (start + sizes page : Nat) elements.length) outcome :=
          ih left fuelled
        rw [Int.natCast_add] at covers
        rw [read]
        refine ⟨_, rfl, ?_⟩
        cases outcome with
        | error raised =>
          obtain ⟨item, member, failed⟩ := covers
          exact ⟨item, split ▸ List.mem_append_right _ member, failed⟩
        | ok acks =>
          obtain ⟨parts, whole, each⟩ := covers
          refine ⟨_ :: parts, ?_, .cons items each⟩
          rw [List.flatten_cons, whole, split]

/-- A request by position of a list is answered with the elements that it asks for, or the last ones
before its index if that is behind the end, and with flags that tell which ends of the list are among
them; more items are announced unless the last one is. Pages of any sizes from the first index on come
to an end with all elements, each of them once.
-/
theorem readRange_byPosition (server : Server) (request : ReadRangeRequest)
    : (∀ index count ack, request.range = some (.byPosition index count) → 1 ≤ index → count ≠ 0
        → server.readRange request = .ok ack
        → ∃ elements, server.ReadsList request elements
          ∧ ReturnsWithin (server.resolveObjectId request.objectIdentifier).objectType elements
            (positions elements.length index count).1 (positions elements.length index count).2 ack)
      ∧ ∀ elements, server.ReadsList request elements
        → ∀ sizes : Nat → Nat, (∀ page, 1 ≤ sizes page)
        → ∃ outcome, server.readPages request sizes (elements.length + 1) 0 1 = some outcome
          ∧ Covers (server.resolveObjectId request.objectIdentifier).objectType elements outcome := by
  constructor
  · intro index count ack ranged least counts answered
    obtain ⟨elements, reads⟩ := readsList_of_readRange answered
    rw [readRange_of_readsList reads] at answered
    exact ⟨elements, reads, rangeOf_byPosition ranged least counts answered⟩
  · intro elements reads sizes positive
    have enough : elements.length < 0 + (elements.length + 1) := by omega
    obtain ⟨outcome, read, covers⟩ : ∃ outcome,
        server.readPages request sizes (elements.length + 1) 0 1 = some outcome
        ∧ Covers (server.resolveObjectId request.objectIdentifier).objectType
          (within elements (0 : Nat) elements.length) outcome :=
      readPages_covers positive reads (.inr rfl) enough
    rw [Int.natCast_zero, within_all (Int.le_refl _) (Int.le_refl _)] at covers
    exact ⟨outcome, read, covers⟩

/-- A request for the properties of the only object of a server, of which there are five. -/
def propertyListRequest (index : Nat) (count : Int) : ReadRangeRequest where
  objectIdentifier := ⟨.integerValue, 1⟩
  propertyIdentifier := .propertyList
  range := some (.byPosition index count)

theorem answered_of_flags {outcome : Except Raised ReadRangeACK} {count : Nat} {flags : ResultFlags}
    (same : outcome.toOption.map (fun ack => (ack.itemCount, ack.resultFlags)) = some (count, flags))
    : ∃ ack, outcome = .ok ack ∧ ack.itemCount = count ∧ ack.resultFlags = flags := by
  cases outcome with
  | error raised => cases same
  | ok ack =>
    have both := Option.some.inj same
    exact ⟨ack, rfl, congrArg Prod.fst both, congrArg Prod.snd both⟩

theorem readRange_byPosition_propertyList
    : ∃ ack elements, plainInteger.readRange (propertyListRequest 2 3) = .ok ack
        ∧ plainInteger.ReadsList (propertyListRequest 2 3) elements
        ∧ ReturnsWithin .integerValue elements (positions elements.length 2 3).1
          (positions elements.length 2 3).2 ack
        ∧ ∃ outcome, plainInteger.readPages (propertyListRequest 2 3) (fun _ => 2)
            (elements.length + 1) 0 1 = some outcome
          ∧ Covers .integerValue elements outcome := by
  obtain ⟨ack, answered, _⟩ := answered_of_flags (show
    (plainInteger.readRange (propertyListRequest 2 3)).toOption.map
      (fun ack => (ack.itemCount, ack.resultFlags)) = some (3, ⟨false, false, true⟩) by
    decide +kernel)
  obtain ⟨single, pages⟩ := readRange_byPosition plainInteger (propertyListRequest 2 3)
  obtain ⟨elements, reads, returned⟩ := single 2 3 ack rfl (by decide) (by decide) answered
  exact ⟨ack, elements, answered, reads, returned, pages elements reads (fun _ => 2) fun _ => by decide⟩

theorem readsList_propertyList (index : Nat) (count : Int)
    : ∃ elements, plainInteger.ReadsList (propertyListRequest index count) elements
        ∧ elements.length = 5 := by
  have shape : (plainInteger.db.object? ⟨.integerValue, 1⟩).map (fun obj =>
      (plainInteger.readObjectProperty 0 obj .propertyList none).toOption.map
        (fun value => value.asList?.map List.length)) = some (some (some 5)) := by
    decide +kernel
  have found : plainInteger.db.get ⟨.integerValue, 1⟩ = some 0 := by decide +kernel
  obtain ⟨obj, stored, read⟩ := Option.map_eq_some_iff.mp shape
  obtain ⟨value, read, list⟩ := Option.map_eq_some_iff.mp read
  obtain ⟨elements, list, length⟩ := Option.map_eq_some_iff.mp list
  obtain rfl := Value.asList?_eq_some.mp list
  refine ⟨elements, ⟨0, obj, found, stored, ?_⟩, length⟩
  cases outcome : plainInteger.readObjectProperty 0 obj .propertyList none with
  | error raised =>
    rw [outcome] at read
    cases read
  | ok found =>
    rw [outcome] at read
    exact outcome.trans (congrArg Except.ok (Option.some.inj read))

/-- Behind the end of a list of five items, none is returned as the last one; and more items are
announced behind all that were asked for.
-/
theorem flags_beside_items
    : (∃ ack, plainInteger.readRange (propertyListRequest 6 1) = .ok ack
        ∧ ack.itemCount = 0
        ∧ ¬ TellsEnds 5 (positions 5 6 1).1 (positions 5 6 1).2 ack.resultFlags)
      ∧ (∃ ack, plainInteger.readRange (propertyListRequest 2 3) = .ok ack
        ∧ ack.itemCount = 3 ∧ ack.resultFlags.moreItems = true)
      ∧ ∃ elements, plainInteger.ReadsList (propertyListRequest 6 1) elements
        ∧ elements.length = 5 := by
  refine ⟨?_, ?_, readsList_propertyList 6 1⟩
  · obtain ⟨ack, answered, count, flags⟩ := answered_of_flags (show
      (plainInteger.readRange (propertyListRequest 6 1)).toOption.map
        (fun ack => (ack.itemCount, ack.resultFlags)) = some (0, ⟨false, true, false⟩) by
      decide +kernel)
    refine ⟨ack, answered, count, fun tells => ?_⟩
    rw [flags] at tells
    exact absurd (tells.last.mp rfl).2.1 (by decide)
  · obtain ⟨ack, answered, count, flags⟩ := answered_of_flags (show
      (plainInteger.readRange (propertyListRequest 2 3)).toOption.map
        (fun ack => (ack.itemCount, ack.resultFlags)) = some (3, ⟨false, false, true⟩) by
      decide +kernel)
    exact ⟨ack, answered, count, flags ▸ rfl⟩

end Server

end BacPy
