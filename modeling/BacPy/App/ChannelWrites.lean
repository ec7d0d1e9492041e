import BacPy.App.EventEvaluation
import BacPy.Encoding.ApduSafety
import BacPy.Services.Fields

/-! `handle_write_group` (Clause 15.11): the values that the Channel objects of a group are left with,
and how an exception that the handler does not catch cuts the rest off.
-/

namespace BacPy

open Library
open BACnetObject (Agrees)

-- The request

structure GroupChannelValue where
  channel : Nat
  value : Bytes
  overridingPriority : Option Nat := none

structure WriteGroupRequest where
  groupNumber : Nat
  writePriority : Nat
  changeList : List GroupChannelValue

-- What the values are decoded to

section Values

variable [JapaneseCodec]

/-- Every content that cannot be decoded raises a ValueError, by cases on the tag number. -/
theorem onlyValueErrors_decodeContent (number : Nat) (content : Bytes)
    : OnlyValueErrors (decodeContent number content) := by
  unfold decodeContent
  split
  case h_6 =>
    apply OnlyValueErrors.map
    unfold decodeCharacterString
    split
    · exact .valueError _
    · dsimp only
      split
      · exact .ok _
      · exact .valueError _
  case h_3 | h_4 | h_7 | h_9 | h_10 | h_11 =>
    apply OnlyValueErrors.map
    first
      | unfold decodeReal | unfold decodeDouble | unfold decodeBitString | unfold decodeDate
      | unfold decodeTime | unfold decodeObjectIdentifier
    repeat' split
    all_goals first | exact .ok _ | exact .valueError _
  all_goals first | exact .ok _ | exact .valueError _

theorem onlyValueErrors_decodeApplicationValue (data : Bytes)
    : OnlyValueErrors (decodeApplicationValue data) := by
  unfold decodeApplicationValue
  refine .bind (onlyValueErrors_decodeTag data 0) fun (tag, offset) => ?_
  dsimp only
  repeat' split
  all_goals first | exact .ok _ | exact .valueError _ | exact onlyValueErrors_decodeContent _ _

theorem onlyValueErrors_decodeValuesFrom (data : Bytes) (fuel offset count : Nat)
    : OnlyValueErrors (decodeValuesFrom data fuel offset count) := by
  induction fuel generalizing offset count with
  | zero => exact .ok _
  | succ fuel ih =>
    unfold decodeValuesFrom
    split
    · exact .ok _
    split
    · exact .valueError _
    refine .bind (onlyValueErrors_decodeTag data offset) fun found => ?_
    obtain ⟨tag, tagEnd⟩ := found
    dsimp only
    split
    · exact .valueError _
    refine .bind (onlyValueErrors_decodeApplicationValue _) fun value => ?_
    exact .bind (ih _ _) fun _ => .ok _

theorem onlyValueErrors_decodeAndUnwrap (data : Bytes) : OnlyValueErrors (decodeAndUnwrap data) := by
  unfold decodeAndUnwrap decodeAllApplicationValues
  refine .bind (onlyValueErrors_decodeValuesFrom _ _ _ _) fun values => ?_
  split <;> exact .ok _

end Values

-- The objects

/-- `WriteStatus` -/
def writeStatusEnum : EnumType := { name := "WriteStatus", members := [0, 1, 2, 3] }

def channelObject : ObjectClass where
  objectType := .channel
  propertyDefinitions := standardProperties ++ [
    readWrite .presentValue (.other "object") true
  ] ++ statusProperties ++ [
    readOnly ⟨369⟩ .int true,
    readOnly ⟨370⟩ (.enum writeStatusEnum) true (.enum writeStatusEnum 0),
    readWrite .listOfObjectPropertyReferences .list true (.list []),
    readWrite .channelNumber .int true,
    readWrite .controlGroups .list true (.list []),
    readWrite ⟨368⟩ .list,
    readWrite ⟨365⟩ .bool
  ]
  completion := [.setDefault .channelNumber (.int 0), initStatusFlags]

namespace WriteGroupRequest

section Handler

variable [EngineValues] [JapaneseCodec]

/-- `group_number in control_groups` -/
def isInGroups (groupNumber : Nat) (controlGroups : Value) : Except Raised Bool :=
  match controlGroups with
  | .str _ => .error (.typeError "'in <string>' requires string as left operand, not int")
  | .bytes octets =>
    if groupNumber ≤ 0xFF then .ok (octets.any (·.toNat = groupNumber))
    else .error (.builtin (.valueError "byte must be in range(0, 256)"))
  | controlGroups => controlGroups.iterate.map fun items => (Value.int groupNumber).isIn items

/-- The channel is looked at: it is in the group and has a number. -/
def selects (request : WriteGroupRequest) (obj : BACnetObject) : Except Raised Bool := do
  if ← isInGroups request.groupNumber ((obj.stored .controlGroups).getD (.list [])) then
    .ok (obj.get .channelNumber ≠ .none)
  else .ok false

/-- `gcv.overriding_priority or request.write_priority` -/
def priorityOf (request : WriteGroupRequest) (entry : GroupChannelValue) : Nat :=
  match entry.overridingPriority with
  | some priority => if priority = 0 then request.writePriority else priority
  | none => request.writePriority

/-- `except (ValueError, BACnetError)` -/
def catches : Raised → Bool
  | .bacnetError .. => true
  | .builtin raised => raised.isValueError
  | _ => false

/-- `try: ... except (ValueError, BACnetError): ...` -/
def tolerating (program : ObjectDatabase.Action Unit) : ObjectDatabase.Action Unit := fun db =>
  match program db with
  | (.error raised, after) => if catches raised then (.ok (), after) else (.error raised, after)
  | (.ok (), after) => (.ok (), after)

/-- An entry of the change list, for a channel. -/
def writeEntry (request : WriteGroupRequest) (now : Float) (ref : Nat) (channelNumber : Value)
    (entry : GroupChannelValue)
    : ObjectDatabase.Action Unit := fun db =>
  if (Value.int entry.channel).pyEq channelNumber then
    tolerating (do
      let value ← Stateful.lift (raising (decodeAndUnwrap entry.value))
      ObjectDatabase.writeProperty ref .presentValue value (some (request.priorityOf entry)) none now) db
  else (.ok (), db)

def writeChannel (request : WriteGroupRequest) (now : Float) (ref : Nat)
    : ObjectDatabase.Action Unit := fun db =>
  match db.heap.get ref with
  | none => (.ok (), db)
  | some obj =>
    match request.selects obj with
    | .error raised => (.error raised, db)
    | .ok false => (.ok (), db)
    | .ok true =>
      Stateful.forEach (request.writeEntry now ref (obj.get .channelNumber)) request.changeList db

/-- `handle_write_group`, after the request has been decoded. -/
def handle (request : WriteGroupRequest) (now : Float) : ObjectDatabase.Action Unit := fun db =>
  Stateful.forEach (request.writeChannel now) (db.getObjectsOfType .channel) db

-- What the channels are left with

/-- What the entries of a channel decode to, in their order. -/
def decoded (channelNumber : Value) : List GroupChannelValue → List (Except Raised Value)
  | [] => []
  | entry :: rest =>
    if (Value.int entry.channel).pyEq channelNumber then
      raising (decodeAndUnwrap entry.value) :: decoded channelNumber rest
    else decoded channelNumber rest

def results (request : WriteGroupRequest) (obj : BACnetObject) : List (Except Raised Value) :=
  decoded (obj.get .channelNumber) request.changeList

def last (results : List (Except Raised Value)) : Option Value :=
  (results.filterMap Except.toOption).getLast?

/-- The decoded value of the last entry that is decodable, for a channel of the group. -/
def wanted (request : WriteGroupRequest) (obj : BACnetObject) : Option Value :=
  match request.selects obj with
  | .ok true => last (request.results obj)
  | _ => none

/-- The channel ends the handler: its groups cannot be searched. -/
def fails (request : WriteGroupRequest) (obj : BACnetObject) : Bool :=
  match request.selects obj with
  | .error _ => true
  | .ok _ => false

end Handler

end WriteGroupRequest

namespace ObjectDatabase

/-- What a database is left with: other present values of some objects, and nothing else. -/
structure Leaves (written : Nat → Option Value) (before after : ObjectDatabase) : Prop where
  objects : after.objects = before.objects
  names : after.names = before.names
  typeIndex : after.typeIndex = before.typeIndex
  deviceObj : after.deviceObj = before.deviceObj
  heap : ∀ ref obj, before.heap.get ref = some obj → ∃ other, after.heap.get ref = some other
    ∧ Agrees [.presentValue] obj other
    ∧ other.stored .presentValue = (written ref).or (obj.stored .presentValue)

variable {db before middle after : ObjectDatabase} {written later : Nat → Option Value}

theorem Leaves.refl (db) : Leaves (fun _ => none) db db :=
  ⟨rfl, rfl, rfl, rfl, fun _ obj stored => ⟨obj, stored, .refl obj, rfl⟩⟩

theorem Leaves.congr (leaves : Leaves written before after) (same : ∀ ref, written ref = later ref)
    : Leaves later before after := by
  rwa [← funext same]

theorem Leaves.trans (first : Leaves written before middle) (second : Leaves later middle after)
    : Leaves (fun ref => (later ref).or (written ref)) before after where
  objects := second.objects.trans first.objects
  names := second.names.trans first.names
  typeIndex := second.typeIndex.trans first.typeIndex
  deviceObj := second.deviceObj.trans first.deviceObj
  heap ref obj stored := by
    obtain ⟨other, there, agrees, value⟩ := first.heap ref obj stored
    obtain ⟨another, last, agreesLater, valueLater⟩ := second.heap ref other there
    exact ⟨another, last, agrees.trans agreesLater, by rw [valueLater, value, Option.or_assoc]⟩

/-- Two accounts of what is written are both right if they come to the same values. -/
theorem Leaves.iff_same (leaves : Leaves written before after)
    : Leaves later before after
      ↔ ∀ ref obj, before.heap.get ref = some obj →
          (written ref).or (obj.stored .presentValue) = (later ref).or (obj.stored .presentValue) := by
  constructor
  · intro other ref obj stored
    obtain ⟨one, there, _, value⟩ := leaves.heap ref obj stored
    obtain ⟨another, same, _, valueOther⟩ := other.heap ref obj stored
    cases there.symm.trans same
    exact value.symm.trans valueOther
  · intro same
    refine { leaves with heap := fun ref obj stored => ?_ }
    obtain ⟨other, there, agrees, value⟩ := leaves.heap ref obj stored
    exact ⟨other, there, agrees, value.trans (same ref obj stored)⟩

/-- What a part of the handler does: whether it raises, and what it leaves. -/
structure Does (raises : Bool) (written : Nat → Option Value) (before : ObjectDatabase)
    (outcome : Except Raised Unit × ObjectDatabase) : Prop where
  raised : if raises then ∃ raised, outcome.1 = .error raised else outcome.1 = .ok ()
  leaves : Leaves written before outcome.2

theorem Does.idle (db) : Does false (fun _ => none) db (.ok (), db) := ⟨rfl, .refl db⟩

theorem Does.congr {raises outcome} (does : Does raises written db outcome)
    (same : ∀ ref, written ref = later ref)
    : Does raises later db outcome :=
  ⟨does.raised, does.leaves.congr same⟩

/-- A part that does not raise, and then the next. -/
theorem Does.andThen {raises} {first next : Action Unit} (does : Does false written db (first db))
    (onward : Does raises later (first db).2 (next (first db).2))
    : Does raises (fun ref => (later ref).or (written ref)) db ((first >>= fun _ => next) db) := by
  have finished : first db = (.ok (), (first db).2) := Prod.ext does.raised rfl
  rw [Stateful.bind_apply, finished]
  exact ⟨onward.raised, does.leaves.trans onward.leaves⟩

/-- A part that raises, and nothing behind it. -/
theorem Does.cut {first next : Action Unit} (does : Does true written db (first db))
    : Does true written db ((first >>= fun _ => next) db) := by
  obtain ⟨raised, failed⟩ := does.raised
  have finished : first db = (.error raised, (first db).2) := Prod.ext failed rfl
  rw [Stateful.bind_apply, finished]
  exact ⟨⟨raised, rfl⟩, does.leaves⟩

/-- An object of the class, as far as writes of its present value depend on it. -/
structure IsChannel (obj : BACnetObject) : Prop where
  unchecked : obj.cls.writeCheck = .plain
  declared : obj.cls.definition? .presentValue = channelObject.definition? .presentValue
  plain : obj.commands = none

theorem IsChannel.agrees {touched obj other} (channel : IsChannel obj) (agrees : Agrees touched obj other)
    : IsChannel other where
  unchecked := by rw [agrees.cls, channel.unchecked]
  declared := by rw [agrees.cls, channel.declared]
  plain := by simpa [channel.plain] using agrees.commandable

/-- A Channel takes every value. -/
theorem does_writeProperty {ref obj} (stored : db.heap.get ref = some obj) (channel : IsChannel obj)
    (value : Value) (priority : Nat) (now : Float)
    : Does false (fun other => if other = ref then some value else none) db
        (writeProperty ref .presentValue value (some priority) none now db) := by
  have checked : obj.checkWrite .presentValue value = .ok () := by
    unfold BACnetObject.checkWrite
    rw [channel.unchecked]
  have writable : obj.writable .presentValue = .ok (readWrite .presentValue (.other "object") true) := by
    unfold BACnetObject.writable
    rw [channel.declared]
    rfl
  have written : writeProperty ref .presentValue value (some priority) none now db
      = (.ok (), { db with heap := db.heap.set ref (obj.set .presentValue value) }) := by
    unfold writeProperty writeTo
    rw [stored]
    dsimp only
    rw [checked, writable]
    have kept : BACnetObject.storeValue (readWrite .presentValue (.other "object") true)
        .presentValue value (some priority) none now obj = (.ok (), obj.set .presentValue value) := by
      simp [BACnetObject.storeValue, BACnetObject.commandsOf, channel.plain,
        BACnetObject.coerceValue, readWrite]
    change onObject ref _ db = _
    unfold onObject
    rw [stored]
    dsimp only
    rw [kept]
  rw [written]
  refine ⟨rfl, rfl, rfl, rfl, rfl, fun other another there => ?_⟩
  by_cases same : other = ref
  · subst same
    cases stored.symm.trans there
    exact ⟨_, Dict.get_set_self .., BACnetObject.agrees_set _ (by simp),
      by rw [if_pos rfl]; exact BACnetObject.stored_set_self _ (by decide)⟩
  · exact ⟨another, by rw [Dict.get_set_ne same, there], .refl another, by rw [if_neg same]; rfl⟩

end ObjectDatabase

namespace WriteGroupRequest

open ObjectDatabase

theorem last_cons_ok (value : Value) (results)
    : last (.ok value :: results) = (last results).or (some value) := by
  change (value :: results.filterMap Except.toOption).getLast? = _
  rw [List.getLast?_cons, last]
  cases (results.filterMap Except.toOption).getLast? <;> rfl

theorem tolerating_of_ok {program} {db} (done : (program db).1 = .ok ())
    : tolerating program db = program db := by
  unfold tolerating
  rcases ended : program db with ⟨_ | _, _⟩
  · rw [ended] at done
    cases done
  · rfl

section Outcome

variable [JapaneseCodec] {request : WriteGroupRequest} {now : Float} {db : ObjectDatabase} {ref : Nat}
  {obj other : BACnetObject}

/-- The loop over the change list, by induction on it: what cannot be decoded is passed over. -/
theorem does_entries {number : Value} {entries : List GroupChannelValue}
    (stored : db.heap.get ref = some obj) (channel : IsChannel obj)
    : Does false (fun other => if other = ref then last (decoded number entries) else none) db
        (Stateful.forEach (request.writeEntry now ref number) entries db) := by
  induction entries generalizing db obj with
  | nil => exact (Does.idle db).congr fun other => by simp [last, decoded]
  | cons entry rest ih =>
    unfold decoded
    by_cases matched : (Value.int entry.channel).pyEq number
    · rw [if_pos matched]
      cases value : decodeAndUnwrap entry.value with
      | error raised =>
        have caught : raised.isValueError := onlyValueErrors_decodeAndUnwrap entry.value raised value
        have passed : request.writeEntry now ref number entry db = (.ok (), db) := by
          unfold writeEntry
          rw [if_pos matched, value]
          exact if_pos caught
        refine (Does.andThen (passed ▸ .idle db) ?_).congr fun other => Option.or_none
        rw [passed]
        exact ih stored channel
      | ok written =>
        have done := does_writeProperty stored channel written (request.priorityOf entry) now
        have wrote : request.writeEntry now ref number entry db = writeProperty ref .presentValue
            written (some (request.priorityOf entry)) none now db := by
          unfold writeEntry
          rw [if_pos matched, value]
          exact tolerating_of_ok done.raised
        have later : last (raising (.ok written) :: decoded number rest)
            = (last (decoded number rest)).or (some written) := last_cons_ok _ _
        rw [later]
        rw [← wrote] at done
        obtain ⟨after, there, agrees, _⟩ := done.leaves.heap ref obj stored
        refine (Does.andThen done (ih there (channel.agrees agrees))).congr fun other => ?_
        by_cases same : other = ref <;> simp [same]
    · have skipped : request.writeEntry now ref number entry db = (.ok (), db) := by
        simp [writeEntry, matched]
      rw [if_neg matched]
      refine (Does.andThen (skipped ▸ .idle db) ?_).congr fun other => Option.or_none
      rw [skipped]
      exact ih stored channel

variable [EngineValues]

theorem does_writeChannel (stored : db.heap.get ref = some obj) (channel : IsChannel obj)
    : Does (request.fails obj) (fun other => if other = ref then request.wanted obj else none) db
        (request.writeChannel now ref db) := by
  unfold writeChannel fails wanted
  rw [stored]
  dsimp only
  cases request.selects obj with
  | error raised => exact ⟨⟨raised, rfl⟩, (Leaves.refl db).congr fun other => by simp⟩
  | ok selected =>
    cases selected
    · exact (Does.idle db).congr fun other => by simp
    · exact does_entries stored channel

/-- What decides about a channel is not its present value. -/
theorem wanted_congr (agrees : Agrees [.presentValue] obj other)
    : request.fails other = request.fails obj ∧ request.wanted other = request.wanted obj := by
  have number : other.get .channelNumber = obj.get .channelNumber := agrees.get (by decide)
  unfold fails wanted selects results
  rw [agrees.stored .controlGroups (by decide), number]
  exact ⟨rfl, rfl⟩

/-- What the loop over the channels leaves, in terms of the database before it. -/
def done (request : WriteGroupRequest) (db : ObjectDatabase) : List Nat → Nat → Option Value
  | [], _ => none
  | first :: rest, ref =>
    if ref = first then (db.heap.get first).bind request.wanted
    else if (db.heap.get first).any request.fails then none
    else done request db rest ref

theorem done_of_not_mem {channels} (absent : ref ∉ channels)
    : request.done db channels ref = none := by
  induction channels with
  | nil => rfl
  | cons first rest ih =>
    rw [List.mem_cons, not_or] at absent
    rw [done, if_neg absent.1, ih absent.2, ite_self]

/-- The loop over the channels, by induction on them: none of them decides about another. -/
theorem does_channels {channels : List Nat} (apart : channels.Nodup) {origin db : ObjectDatabase}
    {written} (leaves : Leaves written origin db)
    (made : ∀ ref ∈ channels, ∃ obj, origin.heap.get ref = some obj ∧ IsChannel obj)
    : Does (channels.any fun ref => (origin.heap.get ref).any request.fails) (request.done origin channels) db
        (Stateful.forEach (request.writeChannel now) channels db) := by
  induction channels generalizing db written with
  | nil => exact Does.idle db
  | cons first rest ih =>
    obtain ⟨absent, apart⟩ := List.nodup_cons.mp apart
    obtain ⟨obj, stored, channel⟩ := made first List.mem_cons_self
    obtain ⟨other, there, agrees, _⟩ := leaves.heap first obj stored
    have step : Does _ _ db (request.writeChannel now first db) :=
      does_writeChannel there (channel.agrees agrees)
    rw [(wanted_congr agrees).1, (wanted_congr agrees).2] at step
    have failing : (origin.heap.get first).any request.fails = request.fails obj := by rw [stored]; rfl
    rw [List.any_cons, failing]
    cases fails : request.fails obj with
    | true =>
      rw [fails] at step
      refine step.cut.congr fun ref => ?_
      simp [done, stored, fails]
    | false =>
      rw [fails] at step
      have onward := ih apart (leaves.trans step.leaves) fun ref later =>
        made ref (List.mem_cons_of_mem _ later)
      refine (Does.andThen step onward).congr fun ref => ?_
      by_cases same : ref = first
      · simp [done, same, stored, done_of_not_mem absent]
      · simp [done, same, stored, fails]

/-- Every Channel object of the group is left with the decoded value of its last decodable entry, if it
has one, and nothing else changes.
-/
def Complete (request : WriteGroupRequest) (now : Float) (db : ObjectDatabase) : Prop :=
  Leaves (fun ref => if ref ∈ db.getObjectsOfType .channel then (db.heap.get ref).bind request.wanted
    else none) db (request.handle now db).2

/-- Two outcomes for an object come to the same value. -/
def Same (obj : BACnetObject) (one another : Option Value) : Prop :=
  one.or (obj.stored .presentValue) = another.or (obj.stored .presentValue)

/-- Behind the first channel that fails, the channels have nothing to be written, or have it already. -/
def Harmless (request : WriteGroupRequest) (db : ObjectDatabase) : List Nat → Prop
  | [] => True
  | first :: rest =>
    if (db.heap.get first).any request.fails then
      ∀ later ∈ rest, ∀ obj ∈ db.heap.get later, Same obj none (request.wanted obj)
    else Harmless request db rest

theorem harmless_iff {channels} (apart : channels.Nodup)
    : (∀ ref obj, db.heap.get ref = some obj → Same obj (request.done db channels ref)
        (if ref ∈ channels then (db.heap.get ref).bind request.wanted else none))
      ↔ Harmless request db channels := by
  induction channels with
  | nil => simp [Harmless, done, Same]
  | cons first rest ih =>
    obtain ⟨absent, apart⟩ := List.nodup_cons.mp apart
    by_cases fails : (db.heap.get first).any request.fails
    · rw [Harmless, if_pos fails]
      constructor
      · intro same later listed obj stored
        have behind : later ≠ first := ne_of_mem_of_not_mem listed absent
        simpa [done, behind, fails, listed, Option.mem_def.mp stored] using same later obj stored
      · intro behind ref obj stored
        by_cases first_ : ref = first
        · subst first_
          simp [done, Same]
        · by_cases listed : ref ∈ rest
          · simpa [done, first_, fails, listed, stored] using behind ref listed obj stored
          · simp [done, first_, fails, listed, Same]
    · rw [Harmless, if_neg fails, ← ih apart]
      refine forall₃_congr fun ref obj stored => ?_
      by_cases first_ : ref = first
      · subst first_
        simp [done, absent, done_of_not_mem absent, Same]
      · simp [done, first_, fails]

end Outcome

/-- A database as the application makes it: its Channel objects are of their class. -/
structure Channels (db : ObjectDatabase) : Prop where
  filed : db.Filed
  made : ∀ ref ∈ db.getObjectsOfType .channel, ∃ obj, db.heap.get ref = some obj ∧ IsChannel obj

/-- It stays so under every write, whatever is written to the channels. -/
theorem Channels.writeProperty {db} (channels : Channels db) (ref : Nat) (now : Float)
    (prop : PropertyIdentifier) (value : Value) (priority arrayIndex : Option Nat)
    : Channels (ObjectDatabase.writeProperty ref prop value priority arrayIndex now db).2 where
  filed := by
    have moved : step [] db (.writeProperty ref prop value priority arrayIndex now)
        = some (ObjectDatabase.writeProperty ref prop value priority arrayIndex now db).2 := rfl
    exact channels.filed.step moved
  made other listed := by
    have untouched : Untouched _ db (ObjectDatabase.writeProperty ref prop value priority arrayIndex now db).2 :=
      untouched_writeProperty
    rw [untouched.getObjectsOfType] at listed
    obtain ⟨obj, stored, channel⟩ := channels.made other listed
    obtain ⟨another, there, agrees⟩ := untouched.heap other obj stored
    exact ⟨another, there, channel.agrees agrees⟩

/-- For every database with its channels and every request, the handler is complete if and only if the
first failure is harmless.
-/
theorem complete_iff_harmless [EngineValues] [JapaneseCodec] {db : ObjectDatabase} (channels : Channels db)
    (request : WriteGroupRequest) (now : Float)
    : Complete request now db ↔ Harmless request db (db.getObjectsOfType .channel) := by
  have apart := channels.filed.nodup .channel
  have does : Does _ (request.done db (db.getObjectsOfType .channel)) db (request.handle now db) :=
    does_channels apart (.refl db) channels.made
  exact does.leaves.iff_same.trans (harmless_iff apart)

/-- Two channels of group 5; then the first one's groups are written as the number 5. -/
def misconfigured : List Event :=
  [.constructed channelObject 1
     [(.objectName, .str "CH-1"), (.channelNumber, .int 1), (.controlGroups, .list [.int 5])],
   .add 0,
   .constructed channelObject 2
     [(.objectName, .str "CH-2"), (.channelNumber, .int 2), (.controlGroups, .list [.int 5])],
   .add 1,
   .writeProperty 0 .controlGroups (.int 5) none none 0]

/-- Channel 2 is to get the value 7. -/
def toSecond : WriteGroupRequest where
  groupNumber := 5
  writePriority := 8
  changeList := [{ channel := 2, value := [0x21, 7] }]

theorem complete_iff_misconfigured
    : ∃ (_ : EngineValues) (_ : JapaneseCodec) (db : ObjectDatabase),
        run (step []) {} misconfigured = some db
        ∧ (Complete toSecond 0 db ↔ Harmless toSecond db (db.getObjectsOfType .channel)) := by
  let engine : EngineValues := plainEngineValues
  let codec : JapaneseCodec := ⟨fun _ => none⟩
  have classes : (run (step []) {} misconfigured).map (fun db => (db.getObjectsOfType .channel).all
      fun ref => (db.heap.get ref).any fun obj => obj.cls.writeCheck = .plain ∧ obj.commands.isNone
        ∧ obj.cls.definition? .presentValue = channelObject.definition? .presentValue)
      = some true := by
    decide +kernel
  cases ran : run (step []) {} misconfigured with
  | none => simp [ran] at classes
  | some db =>
    have filed : db.Filed :=
      invariant_run (fun {_ _ _} filed _ moved => Filed.step filed moved) filed_empty
        (meets_of_forall fun _ _ => trivial) ran
    have made : ∀ ref ∈ db.getObjectsOfType .channel,
        ∃ obj, db.heap.get ref = some obj ∧ IsChannel obj := by
      intro ref listed
      rw [ran, Option.map_some, Option.some.injEq, List.all_eq_true] at classes
      obtain ⟨obj, stored, channel⟩ := (Option.any_eq_true _ _).mp (classes ref listed)
      obtain ⟨unchecked, plain, declared⟩ := of_decide_eq_true channel
      exact ⟨obj, stored, unchecked, declared, Option.isNone_iff_eq_none.mp plain⟩
    exact ⟨engine, codec, db, rfl, complete_iff_harmless ⟨filed, made⟩ toSecond 0⟩

/-- The first channel raises a TypeError, and the second one gets nothing. -/
theorem second_dropped
    : ∃ (_ : EngineValues) (_ : JapaneseCodec) (db : ObjectDatabase),
        run (step []) {} misconfigured = some db ∧ ¬ Complete toSecond 0 db := by
  let engine : EngineValues := plainEngineValues
  let codec : JapaneseCodec := ⟨fun _ => none⟩
  have values : (run (step []) {} misconfigured).map (fun db =>
      (decide (1 ∈ db.getObjectsOfType .channel), (db.heap.get 1).bind toSecond.wanted,
        ((toSecond.handle 0 db).2.heap.get 1).bind (·.stored .presentValue)))
      = some (true, some (.int 7), none) := by
    decide +kernel
  cases ran : run (step []) {} misconfigured with
  | none => simp [ran] at values
  | some db =>
    simp only [ran, Option.map_some, Option.some.injEq, Prod.mk.injEq, decide_eq_true_eq] at values
    obtain ⟨listed, wanted, left⟩ := values
    refine ⟨engine, codec, db, rfl, fun complete => ?_⟩
    obtain ⟨obj, stored, _⟩ := Option.bind_eq_some_iff.mp wanted
    obtain ⟨other, there, _, value⟩ := complete.heap 1 obj stored
    rw [if_pos listed, wanted] at value
    rw [there, Option.bind_some, value] at left
    cases left

end WriteGroupRequest

end BacPy
